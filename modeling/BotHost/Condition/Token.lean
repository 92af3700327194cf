/-
The tokens of condition expressions, and reading them from text.

One step reads one token and leaves a rest that is no longer than what followed its first character,
so reading all tokens ends. A fault keeps the text that was left where no token could be read; the
offset in its message is counted from there.
-/

import BotHost.Condition.Expression
import BotHost.Text.Blank
import BotHost.Text.Search

namespace BotHost.Condition

inductive Token where
  | identifier (name : String)
  | integer (value : Nat)
  | string (value : String)
  | openParenthesis
  | closeParenthesis
  | dot
  | bang
  | and
  | or
  | comparison (kind : Comparison)
deriving DecidableEq, Repr

/-- The token as messages show it. -/
def Token.display : Token → String
  | .identifier name => "'" ++ name ++ "'"
  | .integer value => "'" ++ toString value ++ "'"
  | .string value => Text.quoted value
  | .openParenthesis => "'('"
  | .closeParenthesis => "')'"
  | .dot => "'.'"
  | .bang => "'!'"
  | .and => "'&&'"
  | .or => "'||'"
  | .comparison kind => "'" ++ kind.symbol ++ "'"

/-- Why no token could be read. -/
inductive TokenFault where
  | unexpectedCharacter (character : Char)
  | unterminatedString
  | integerOutOfRange (digits : String)
deriving DecidableEq, Repr

/-! ### One token -/

/-- The rest of the text without one equals sign at its front, if there is one. -/
def skipEquals : List Char → List Char
  | '=' :: rest => rest
  | rest => rest

/-- The character that an escaped character stands for. -/
def unescape (character : Char) : Char :=
  if character = 'n' then '\n' else if character = 't' then '\t' else character

/-- Reads a string up to its closing quote; nothing when the text ends before. -/
def readString? (quote : Char) : List Char → Option (List Char × List Char)
  | [] => none
  | '\\' :: [] => none
  | '\\' :: escaped :: rest =>
    (readString? quote rest).map fun (value, rest) => (unescape escaped :: value, rest)
  | character :: rest =>
    if character = quote then some ([], rest)
    else (readString? quote rest).map fun (value, rest) => (character :: value, rest)

/-- Whole numbers of the language are less than this. -/
def integerBound : Nat := 0x8000000000000000

/-- The value of a row of decimal digits. -/
def digitsValue (digits : List Char) : Nat :=
  digits.foldl (fun total digit => total * 10 + (digit.toNat - '0'.toNat)) 0

/-- Reads the token that begins with a character that is not blank. -/
def readToken (first : Char) (rest : List Char) : Except TokenFault (Token × List Char) :=
  if first = '(' then .ok (.openParenthesis, rest)
  else if first = ')' then .ok (.closeParenthesis, rest)
  else if first = '.' then .ok (.dot, rest)
  else if first = '!' then
    match rest with
    | '=' :: rest => .ok (.comparison .unequal, skipEquals rest)
    | rest => .ok (.bang, rest)
  else if first = '=' then
    match rest with
    | '=' :: rest => .ok (.comparison .equal, skipEquals rest)
    | _ => .error (.unexpectedCharacter first)
  else if first = '<' then
    match rest with
    | '=' :: rest => .ok (.comparison .atMost, rest)
    | rest => .ok (.comparison .less, rest)
  else if first = '>' then
    match rest with
    | '=' :: rest => .ok (.comparison .atLeast, rest)
    | rest => .ok (.comparison .greater, rest)
  else if first = '&' then
    match rest with
    | '&' :: rest => .ok (.and, rest)
    | _ => .error (.unexpectedCharacter first)
  else if first = '|' then
    match rest with
    | '|' :: rest => .ok (.or, rest)
    | _ => .error (.unexpectedCharacter first)
  else if first = '"' ∨ first = '\'' then
    match readString? first rest with
    | some (value, rest) => .ok (.string (String.ofList value), rest)
    | none => .error .unterminatedString
  else if first.isDigit then
    let digits := first :: rest.takeWhile Char.isDigit
    let value := digitsValue digits
    if value < integerBound then .ok (.integer value, rest.dropWhile Char.isDigit)
    else .error (.integerOutOfRange (String.ofList digits))
  else if beginsName first then
    .ok (.identifier (String.ofList (first :: rest.takeWhile continuesName)),
      rest.dropWhile continuesName)
  else .error (.unexpectedCharacter first)

theorem skipEquals_length (text : List Char) : (skipEquals text).length ≤ text.length := by
  unfold skipEquals
  split <;> simp

theorem readString?_length (quote : Char) (text value rest : List Char)
    (read : readString? quote text = some (value, rest)) : rest.length < text.length := by
  fun_induction readString? quote text generalizing value rest with
  | case1 | case2 => simp at read
  | case3 escaped tail inductionHypothesis =>
    simp only [Option.map_eq_some_iff, Prod.mk.injEq, Prod.exists] at read
    obtain ⟨inner, remaining, found, _, rfl⟩ := read
    have := inductionHypothesis _ _ found
    simp only [List.length_cons]
    omega
  | case4 =>
    simp only [Option.some.injEq, Prod.mk.injEq] at read
    simp [← read.2]
  | case5 _ _ _ _ _ inductionHypothesis =>
    simp only [Option.map_eq_some_iff, Prod.mk.injEq, Prod.exists] at read
    obtain ⟨inner, remaining, found, _, rfl⟩ := read
    have := inductionHypothesis _ _ found
    simp only [List.length_cons]
    omega

theorem length_dropWhile_le (keep : Char → Bool) (text : List Char) :
    (text.dropWhile keep).length ≤ text.length :=
  (List.dropWhile_suffix keep).length_le

/-- What is left after a token is no longer than what followed its first character. -/
theorem readToken_length (first : Char) (rest : List Char) (token : Token) (remaining : List Char)
    (read : readToken first rest = .ok (token, remaining)) : remaining.length ≤ rest.length := by
  revert read
  unfold readToken
  dsimp only
  -- One test at a time: split would simplify all the tests that follow at each of them.
  repeat' refine @iteInduction _ _ _ (fun result => result = Except.ok (token, remaining) →
    remaining.length ≤ rest.length) _ _ (fun _ => ?_) fun _ => ?_
  all_goals try split
  all_goals
    intro read
    cases read
  all_goals
    first
    | exact Nat.le_refl _
    | exact length_dropWhile_le _ _
    | (simp only [List.length_cons]; omega)
    | (rename_i tail; have := skipEquals_length tail; simp only [List.length_cons]; omega)
    | (rename_i found; have := readString?_length _ _ _ _ found; omega)

/-! ### All tokens -/

/-- Reads all tokens. A fault comes with the text that was left where it arose. -/
def readTokens : List Char → Except (TokenFault × List Char) (List Token)
  | [] => .ok []
  | first :: rest =>
    if Text.isBlank first then readTokens rest
    else
      match _read : readToken first rest with
      | .error fault => .error (fault, first :: rest)
      | .ok (token, remaining) =>
        match readTokens remaining with
        | .error fault => .error fault
        | .ok tokens => .ok (token :: tokens)
termination_by text => text.length
decreasing_by
  · simp
  · have := readToken_length _ _ _ _ _read
    simp only [List.length_cons]
    omega

end BotHost.Condition
