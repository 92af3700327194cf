/-
How written tokens are read.

Each token is read back from its text in front of anything that cannot lengthen it. Names and numbers go
on as long as they can, so what stands behind them has to be a delimiter; the other tokens end by
themselves. What is read of a text and of its rest put together is what is read of the whole.
-/

import BotHost.Condition.Parser
import BotHost.Proofs.Text.Pieces

namespace BotHost.Condition

/-- In front of the rest the text is read as the tokens, and reading goes on with the rest. -/
def Lexes (text : List Char) (tokens : List Token) (rest : List Char) : Prop :=
  ∀ more, readTokens rest = .ok more → readTokens (text ++ rest) = .ok (tokens ++ more)

variable {text rest : List Char} {tokens : List Token}

/-- Texts that are read one after the other give their tokens one after the other. -/
theorem Lexes.append {after : List Char} {others : List Token}
    (lexes : Lexes text tokens (after ++ rest)) (lexesAfter : Lexes after others rest) :
    Lexes (text ++ after) (tokens ++ others) rest := by
  intro more read
  rw [List.append_assoc, List.append_assoc]
  exact lexes _ (lexesAfter _ read)

/-- A source is read into tokens exactly when its characters are. -/
theorem tokenize_eq_ok_iff {source : String} :
    tokenize source = .ok tokens ↔ readTokens source.toList = .ok tokens := by
  unfold tokenize
  split
  · rename_i read
    rw [read]
    simp
  · rename_i failed
    rw [failed]
    split <;> simp

theorem Lexes.tokenize_eq {source : String} (lexes : Lexes source.toList tokens []) :
    tokenize source = .ok tokens := by
  have read := lexes [] (by unfold readTokens; rfl)
  rw [List.append_nil, List.append_nil] at read
  exact tokenize_eq_ok_iff.mpr read

/-! ### Tokens that end by themselves -/

theorem lexes_blank {blank : Char} (isBlank : Text.isBlank blank = true) :
    Lexes [blank] [] rest := by
  intro more read
  rw [List.singleton_append, List.nil_append]
  unfold readTokens
  simpa only [isBlank, if_true] using read

/-- Behind the first token the text goes on being read. -/
theorem readTokens_cons {first : Char} {remaining : List Char} {token : Token}
    (visible : Text.isBlank first = false)
    (found : readToken first rest = .ok (token, remaining))
    (readMore : readTokens remaining = .ok tokens) :
    readTokens (first :: rest) = .ok (token :: tokens) := by
  unfold readTokens
  simp only [visible, Bool.false_eq_true, if_false]
  split
  · rename_i failed
    cases failed.symm.trans found
  · rename_i again
    cases again.symm.trans found
    rw [readMore]

/-- A text that is read as one token gives that token. -/
theorem lexes_token {first : Char} {body : List Char} {token : Token}
    (visible : Text.isBlank first = false)
    (reads : readToken first (body ++ rest) = .ok (token, rest)) :
    Lexes (first :: body) [token] rest :=
  fun _ read => readTokens_cons visible reads read

theorem lexes_openParenthesis : Lexes ['('] [.openParenthesis] rest := lexes_token (by decide) rfl

theorem lexes_closeParenthesis : Lexes [')'] [.closeParenthesis] rest := lexes_token (by decide) rfl

theorem lexes_dot : Lexes ['.'] [.dot] rest := lexes_token (by decide) rfl

/-- An exclamation mark is a negation unless an equals sign follows. -/
theorem lexes_bang {first : Char} (different : first ≠ '=') :
    Lexes ['!'] [.bang] (first :: rest) := by
  refine lexes_token (by decide) ?_
  rw [List.nil_append]
  simp [readToken, different]

/-! ### Operators between blanks -/

/-- A token between blanks gives the token. -/
theorem lexes_spaced {first : Char} {body : List Char} {token : Token}
    (visible : Text.isBlank first = false)
    (reads : readToken first (body ++ ' ' :: rest) = .ok (token, ' ' :: rest)) :
    Lexes (' ' :: first :: body ++ [' ']) [token] rest :=
  (lexes_blank (by decide)).append ((lexes_token visible reads).append (lexes_blank (by decide)))

theorem lexes_and : Lexes " && ".toList [.and] rest :=
  @lexes_spaced rest '&' ['&'] .and (by decide) rfl

theorem lexes_or : Lexes " || ".toList [.or] rest :=
  @lexes_spaced rest '|' ['|'] .or (by decide) rfl

theorem lexes_comparison (kind : Comparison) :
    Lexes (" " ++ kind.symbol ++ " ").toList [.comparison kind] rest := by
  cases kind with
  | equal => exact @lexes_spaced rest '=' ['='] _ (by decide) rfl
  | unequal => exact @lexes_spaced rest '!' ['='] _ (by decide) rfl
  | less => exact @lexes_spaced rest '<' [] _ (by decide) rfl
  | atMost => exact @lexes_spaced rest '<' ['='] _ (by decide) rfl
  | greater => exact @lexes_spaced rest '>' [] _ (by decide) rfl
  | atLeast => exact @lexes_spaced rest '>' ['='] _ (by decide) rfl

/-! ### Names and numbers -/

/-- The rest goes on with neither a name nor a number. -/
def Delimits (rest : List Char) : Prop :=
  ∀ character ∈ rest.head?, continuesName character = false ∧ character.isDigit = false

theorem delimits_nil : Delimits [] := nofun

theorem delimits_cons {first : Char} (delimiter : first ∈ [' ', '.', '(', ')']) :
    Delimits (first :: rest) := by
  intro character head
  cases head
  simp only [List.mem_cons, List.not_mem_nil, or_false] at delimiter
  rcases delimiter with rfl | rfl | rfl | rfl <;> decide +kernel

/-- The characters that tokens other than names and numbers begin with. -/
def marks : List Char := ['(', ')', '.', '!', '=', '<', '>', '&', '|', '"', '\'']

/-- A character that is none of the marks begins a number, a name or nothing. -/
theorem readToken_of_not_mem_marks {first : Char} (plain : first ∉ marks) (after : List Char) :
    readToken first after =
      if first.isDigit then
        let digits := first :: after.takeWhile Char.isDigit
        if digitsValue digits < integerBound then
          .ok (.integer (digitsValue digits), after.dropWhile Char.isDigit)
        else .error (.integerOutOfRange (String.ofList digits))
      else if beginsName first then
        .ok (.identifier (String.ofList (first :: after.takeWhile continuesName)),
          after.dropWhile continuesName)
      else .error (.unexpectedCharacter first) := by
  simp only [marks, List.mem_cons, List.not_mem_nil, or_false, not_or] at plain
  unfold readToken
  simp only [plain, if_false, or_self]

/-- The words that the language is written with. -/
def words : List String :=
  ["msg", "text", "true", "false", "length", "includes", "startsWith", "endsWith"]

/-- The letters of the words. -/
def letters : List Char :=
  ['a', 'c', 'd', 'e', 'f', 'g', 'h', 'i', 'l', 'm', 'n', 'r', 's', 't', 'u', 'x', 'W']

theorem beginsName_of_mem_letters {letter : Char} (among : letter ∈ letters) :
    beginsName letter = true :=
  have every : letters.all beginsName = true := by decide +kernel
  List.all_eq_true.mp every letter among

theorem continuesName_of_beginsName {character : Char} (begins : beginsName character = true) :
    continuesName character = true := by
  simp only [beginsName, continuesName, Bool.or_eq_true] at begins ⊢
  rcases begins with (alphabetic | low) | dollar
  · exact .inl (.inl (.inl alphabetic))
  · exact .inl (.inr low)
  · exact .inr dollar

/-- The code points of the blank characters and of the decimal digits. -/
def gapCodes : List Nat :=
  List.range' 0x9 5 ++ List.range' 0x30 10 ++ List.range' 0x2000 11 ++
    [0x20, 0x85, 0xa0, 0x1680, 0x2028, 0x2029, 0x202f, 0x205f, 0x3000]

theorem toNat_mem_gapCodes {character : Char}
    (gap : Text.isBlank character = true ∨ character.isDigit = true) :
    character.toNat ∈ gapCodes := by
  simp only [gapCodes, List.mem_append, List.mem_range'_1, List.mem_cons, List.not_mem_nil, or_false]
  cases gap with
  | inl blank =>
    simp only [Text.isBlank, Bool.or_eq_true, Bool.and_eq_true, decide_eq_true_eq,
      beq_iff_eq] at blank
    omega
  | inr digit =>
    have bounds := Text.toNat_of_isDigit digit
    omega

/-- Nothing else begins with a character that names begin with. -/
theorem plain_of_beginsName {first : Char} (begins : beginsName first = true) :
    first ∉ marks ∧ Text.isBlank first = false ∧ first.isDigit = false := by
  have mark : (marks.all fun character => !beginsName character) = true := by decide +kernel
  have gap : (gapCodes.all fun code => !beginsName (Char.ofNat code)) = true := by decide +kernel
  have apart (between : Text.isBlank first = true ∨ first.isDigit = true) : False := by
    have refused := List.all_eq_true.mp gap _ (toNat_mem_gapCodes between)
    rw [Char.ofNat_toNat, begins] at refused
    cases refused
  refine ⟨fun among => ?_, ?_, ?_⟩
  · have refused := List.all_eq_true.mp mark first among
    rw [begins] at refused
    cases refused
  · exact Bool.eq_false_iff.mpr fun blank => apart (.inl blank)
  · exact Bool.eq_false_iff.mpr fun digit => apart (.inr digit)

/-- What begins like a name is one, as far as names go on. -/
theorem readToken_of_beginsName {first : Char} (begins : beginsName first = true)
    (after : List Char) :
    readToken first after =
      .ok (.identifier (String.ofList (first :: after.takeWhile continuesName)),
        after.dropWhile continuesName) := by
  obtain ⟨plain, -, noDigit⟩ := plain_of_beginsName begins
  rw [readToken_of_not_mem_marks plain, if_neg (by simp [noDigit]), if_pos begins]

/-- A name is read as a whole, as long as what follows does not go on with it. -/
theorem lexes_identifier {first : Char} {body : List Char} (begins : beginsName first = true)
    (continues : ∀ character ∈ body, continuesName character = true)
    (stops : ∀ character ∈ rest.head?, continuesName character = false) :
    Lexes (first :: body) [.identifier (String.ofList (first :: body))] rest := by
  refine lexes_token (plain_of_beginsName begins).2.1 ?_
  rw [readToken_of_beginsName begins, Text.takeWhile_append_stop continues stops,
    Text.dropWhile_append_stop continues stops]

theorem lexes_letters {first : Char} {body : List Char}
    (spelled : (first :: body).all letters.contains = true) (delimits : Delimits rest) :
    Lexes (first :: body) [.identifier (String.ofList (first :: body))] rest := by
  have begin character (among : character ∈ first :: body) : beginsName character = true :=
    beginsName_of_mem_letters (by simpa using List.all_eq_true.mp spelled character among)
  exact lexes_identifier (begin first (.head _))
    (fun character among => continuesName_of_beginsName (begin character (.tail _ among)))
    fun character head => (delimits character head).1

theorem lexes_word (word : String) (among : word ∈ words) (delimits : Delimits rest) :
    Lexes word.toList [.identifier word] rest := by
  simp only [words, List.mem_cons, List.not_mem_nil, or_false] at among
  rcases among with rfl | rfl | rfl | rfl | rfl | rfl | rfl | rfl <;>
    exact lexes_letters (by decide) delimits

/-- The digits of a number have its value. -/
theorem digitsValue_toString (value : Nat) : digitsValue (toString value).toList = value := by
  rw [Nat.toString_eq_ofList_toDigits, String.toList_ofList, digitsValue]
  simp only [Nat.mul_comm _ 10]
  rw [← Nat.ofDigitChars_eq_foldl, Nat.ofDigitChars_ten_toDigits]

/-- Digits are read as the number they spell, if it fits a word. -/
theorem lexes_digits {digits : List Char} (nonempty : digits ≠ [])
    (all : ∀ character ∈ digits, character.isDigit = true)
    (fits : digitsValue digits < integerBound) (delimits : Delimits rest) :
    Lexes digits [.integer (digitsValue digits)] rest := by
  cases digits with
  | nil => exact absurd rfl nonempty
  | cons first body =>
    have digit := all first (.head _)
    have plain : first ∉ marks := fun among => by
      have : ∀ mark ∈ marks, mark.isDigit = false := by simp [marks]
      cases digit.symm.trans (this first among)
    have stops character (head : character ∈ rest.head?) := (delimits character head).2
    have more character (among : character ∈ body) := all character (.tail _ among)
    refine lexes_token (Text.isBlank_of_isDigit digit) ?_
    rw [readToken_of_not_mem_marks plain, if_pos digit, Text.takeWhile_append_stop more stops,
      Text.dropWhile_append_stop more stops]
    simp only [if_pos fits]

theorem toString_digits (value : Nat) :
    (toString value).toList ≠ [] ∧ ∀ character ∈ (toString value).toList, character.isDigit = true := by
  rw [Nat.toString_eq_ofList_toDigits, String.toList_ofList]
  exact ⟨Nat.toDigits_ne_nil, fun _ => Nat.isDigit_of_mem_toDigits (by decide) (by decide)⟩

theorem lexes_integer {value : Nat} (fits : value < integerBound) (delimits : Delimits rest) :
    Lexes (toString value).toList [.integer value] rest := by
  have read := digitsValue_toString value
  obtain ⟨nonempty, all⟩ := toString_digits value
  have lexes := lexes_digits nonempty all (read.symm ▸ fits) delimits
  rwa [read] at lexes

/-! ### Quoted strings -/

/-- Inside quotes the character is written as itself or behind a backslash, as a reader expects it. -/
def PlainlyQuoted (character : Char) : Prop :=
  Text.quoteCharacter character = [character] ∨
    ∃ mark ∈ ['"', '\\', 'n', 't'], Text.quoteCharacter character = ['\\', mark]

/-- A character that is escaped by a mark is what the mark stands for. -/
theorem unescape_of_quoteCharacter {character mark : Char} (among : mark ∈ ['"', '\\', 'n', 't'])
    (escaped : Text.quoteCharacter character = ['\\', mark]) : unescape mark = character := by
  unfold Text.quoteCharacter at escaped
  split at escaped
  · rename_i quote
    cases escaped
    exact quote.symm
  split at escaped
  · rename_i backslash
    cases escaped
    exact backslash.symm
  split at escaped
  · rename_i lineFeed
    cases escaped
    exact lineFeed.symm
  split at escaped
  · cases escaped
    simp at among
  split at escaped
  · rename_i tab
    cases escaped
    exact tab.symm
  split at escaped
  · cases escaped
    simp at among
  split at escaped
  · simp [Text.escapeCode] at escaped
  · simp at escaped

/-- Between quotes a text is read back as it was before quoting. -/
theorem readString?_quoted {value : List Char}
    (plain : ∀ character ∈ value, PlainlyQuoted character) :
    readString? '"' (value.flatMap Text.quoteCharacter ++ '"' :: rest) = some (value, rest) := by
  induction value with
  | nil => rfl
  | cons character value inductionHypothesis =>
    have read := inductionHypothesis fun other among => plain other (.tail _ among)
    rw [List.flatMap_cons, List.append_assoc]
    rcases plain character (.head _) with itself | ⟨mark, among, escaped⟩
    · have quote : character ≠ '"' := by rintro rfl; cases itself
      have backslash : character ≠ '\\' := by rintro rfl; cases itself
      rw [itself, List.singleton_append, readString?, if_neg quote, read]
      · rfl
      · exact fun same _ => backslash same
      · exact fun _ _ same _ => backslash same
    · rw [escaped, List.cons_append, List.singleton_append, readString?, read,
        ← unescape_of_quoteCharacter among escaped]
      rfl

/-- A quoted text gives the text as one token. -/
theorem lexes_quoted {value : String}
    (plain : ∀ character ∈ value.toList, PlainlyQuoted character) :
    Lexes (Text.quoted value).toList [.string value] rest := by
  rw [Text.quoted, String.toList_ofList, List.cons_append]
  refine lexes_token (by decide) ?_
  rw [List.append_assoc, List.singleton_append]
  simp [readToken, readString?_quoted plain]

/-! ### What tokens there are -/

/-- What holds of every token that is read from the front of a text holds of all tokens of a text. -/
theorem forall_of_readTokens {holds : Token → Prop}
    (each : ∀ {first rest token remaining},
      readToken first rest = .ok (token, remaining) → holds token)
    (read : readTokens text = .ok tokens) : ∀ token ∈ tokens, holds token := by
  fun_induction readTokens text generalizing tokens with
  | case1 =>
    cases read
    nofun
  | case2 first rest blank more => exact more read
  | case3 => cases read
  | case4 => cases read
  | case5 first rest visible token remaining found others readMore more =>
    cases read
    exact List.forall_mem_cons.mpr ⟨each found, more readMore⟩

/-- A number that is a token has 63 bits. -/
def Token.FitsWord : Token → Prop
  | .integer value => value < integerBound
  | _ => True

/-- Only numbers that fit a word are read. -/
theorem fitsWord_of_readToken {first : Char} {remaining : List Char} {token : Token}
    (read : readToken first rest = .ok (token, remaining)) : token.FitsWord := by
  revert read
  unfold readToken
  dsimp only
  repeat' refine @iteInduction _ _ _ (fun result => result = Except.ok (token, remaining) →
    token.FitsWord) _ _ (fun _ => ?_) fun _ => ?_
  all_goals try split
  all_goals intro read
  all_goals cases read
  all_goals trivial

theorem fitsWord_of_tokenize {source : String} (lexed : tokenize source = .ok tokens) :
    ∀ token ∈ tokens, token.FitsWord :=
  forall_of_readTokens fitsWord_of_readToken (tokenize_eq_ok_iff.mp lexed)

end BotHost.Condition
