/-
Reading a condition: from tokens to a well-typed expression.

  or      := and ( "||" and )*
  and     := unary ( "&&" unary )*
  unary   := "!" unary | compare
  compare := term ( comparison term )?
  term    := primary ( "." member )*
  member  := "length" | ("includes" | "contains" | "startsWith" | "endsWith") "(" or ")"
  primary := "msg" "." "text" | INTEGER | STRING | "true" | "false" | NAME | "(" or ")"

Every function returns the tokens it left, fewer than it was given, which is why reading ends. The
argument `room` says how many more parentheses, arguments and negations may be nested; it is handed
down, so what stands beside an expression never takes room from it.
-/

import BotHost.Condition.Fault

namespace BotHost.Condition

/-- An expression read from the front of the tokens, and the tokens behind it. -/
structure Parsed (tokens : List Token) where
  expression : Expression
  rest : List Token
  shorter : rest.length < tokens.length

/-- Checks the type of an operand. -/
def require (expression : Expression) (expected : ValueType) (place : OperandPlace) :
    Except Fault Expression :=
  if expression.type = expected then .ok expression
  else .error (.operandType place expected expression.type)

/-- Orders compare integers only; equality compares equal types, and integers with strings. -/
def comparable (comparison : Comparison) (left right : ValueType) : Bool :=
  if comparison.isOrdering then left == .integer && right == .integer
  else left == right || (left != .boolean && right != .boolean)

/-- The test that a member name calls for. -/
def TextTest.ofMember? : String → Option TextTest
  | "includes" | "contains" => some .contains
  | "startsWith" => some .startsWith
  | "endsWith" => some .endsWith
  | _ => none

/-- The tokens behind one that must come next. -/
def expect (token : Token) (expectation : Expectation) (tokens : List Token) :
    Except Fault { rest : List Token // rest.length < tokens.length } :=
  match tokens with
  | [] => .error (.unexpected expectation none)
  | found :: rest =>
    if found = token then .ok ⟨rest, by simp⟩ else .error (.unexpected expectation (some found))

mutual

def parseOr (scope : Scope) (room : Nat) (tokens : List Token) : Except Fault (Parsed tokens) := do
  let first ← parseAnd scope room tokens
  continueOr scope room tokens first.expression first.rest first.shorter
termination_by (tokens.length, 6)
decreasing_by
  · exact .right _ (by omega)
  · exact .left _ _ first.shorter

def continueOr (scope : Scope) (room : Nat) (tokens : List Token) (left : Expression)
    (rest : List Token) (shorter : rest.length < tokens.length) : Except Fault (Parsed tokens) :=
  match rest with
  | .or :: rest => do
    let right ← parseAnd scope room rest
    let left ← require left .boolean .disjunction
    let operand ← require right.expression .boolean .disjunction
    continueOr scope room tokens (.or left operand) right.rest
      (by have := right.shorter; simp only [List.length_cons] at shorter; omega)
  | rest => .ok ⟨left, rest, shorter⟩
termination_by (rest.length, 6)
decreasing_by
  · simp only [List.length_cons]; exact .left _ _ (by omega)
  · simp only [List.length_cons]; exact .left _ _ (by have := right.shorter; omega)

def parseAnd (scope : Scope) (room : Nat) (tokens : List Token) : Except Fault (Parsed tokens) := do
  let first ← parseUnary scope room tokens
  continueAnd scope room tokens first.expression first.rest first.shorter
termination_by (tokens.length, 5)
decreasing_by
  · exact .right _ (by omega)
  · exact .left _ _ first.shorter

def continueAnd (scope : Scope) (room : Nat) (tokens : List Token) (left : Expression)
    (rest : List Token) (shorter : rest.length < tokens.length) : Except Fault (Parsed tokens) :=
  match rest with
  | .and :: rest => do
    let right ← parseUnary scope room rest
    let left ← require left .boolean .conjunction
    let operand ← require right.expression .boolean .conjunction
    continueAnd scope room tokens (.and left operand) right.rest
      (by have := right.shorter; simp only [List.length_cons] at shorter; omega)
  | rest => .ok ⟨left, rest, shorter⟩
termination_by (rest.length, 6)
decreasing_by
  · simp only [List.length_cons]; exact .left _ _ (by omega)
  · simp only [List.length_cons]; exact .left _ _ (by have := right.shorter; omega)

def parseUnary (scope : Scope) (room : Nat) (tokens : List Token) :
    Except Fault (Parsed tokens) :=
  match tokens with
  | .bang :: rest =>
    match room with
    | 0 => .error .tooDeep
    | room + 1 => do
      let inner ← parseUnary scope room rest
      let operand ← require inner.expression .boolean .negation
      .ok ⟨.not operand, inner.rest, by have := inner.shorter; simp only [List.length_cons]; omega⟩
  | tokens => parseCompare scope room tokens
termination_by (tokens.length, 4)
decreasing_by
  · simp only [List.length_cons]; exact .left _ _ (by omega)
  · exact .right _ (by omega)

def parseCompare (scope : Scope) (room : Nat) (tokens : List Token) :
    Except Fault (Parsed tokens) := do
  let left ← parseTerm scope room tokens
  match remaining : left.rest with
  | .comparison comparison :: rest =>
    let right ← parseTerm scope room rest
    if comparable comparison left.expression.type right.expression.type then
      .ok ⟨.compare comparison left.expression right.expression, right.rest, by
        have := left.shorter
        have := right.shorter
        have := congrArg List.length remaining
        simp only [List.length_cons] at this
        omega⟩
    else .error (.comparedTypes comparison left.expression.type right.expression.type)
  | _ => .ok left
termination_by (tokens.length, 3)
decreasing_by
  · exact .right _ (by omega)
  · have := left.shorter
    have := congrArg List.length remaining
    simp only [List.length_cons] at this
    exact .left _ _ (by omega)

def parseTerm (scope : Scope) (room : Nat) (tokens : List Token) :
    Except Fault (Parsed tokens) := do
  let first ← parsePrimary scope room tokens
  continueTerm scope room tokens first.expression first.rest first.shorter
termination_by (tokens.length, 2)
decreasing_by
  · exact .right _ (by omega)
  · exact .left _ _ first.shorter

def continueTerm (scope : Scope) (room : Nat) (tokens : List Token) (subject : Expression)
    (rest : List Token) (shorter : rest.length < tokens.length) : Except Fault (Parsed tokens) :=
  match rest with
  | .dot :: .identifier member :: rest =>
    if member = "length" then do
      let operand ← require subject .string .length
      continueTerm scope room tokens (.length operand) rest
        (by simp only [List.length_cons] at shorter; omega)
    else
      match TextTest.ofMember? member with
      | none => .error (.unknownMember member)
      | some kind => do
        let opened ← expect .openParenthesis .openParenthesis rest
        let argument ← parseNested scope room opened.1
        let closed ← expect .closeParenthesis .closeParenthesis argument.rest
        let subject ← require subject .string (.test kind)
        let operand ← require argument.expression .string (.test kind)
        continueTerm scope room tokens (.test kind subject operand) closed.1 (by
          have := opened.2
          have := argument.shorter
          have := closed.2
          simp only [List.length_cons] at shorter
          omega)
  | .dot :: rest => .error (.unexpected .memberName rest.head?)
  | rest => .ok ⟨subject, rest, shorter⟩
termination_by (rest.length, 6)
decreasing_by
  · simp only [List.length_cons]; exact .left _ _ (by omega)
  · have := opened.2
    simp only [List.length_cons]
    exact .left _ _ (by omega)
  · have := opened.2
    have := argument.shorter
    have := closed.2
    simp only [List.length_cons]
    exact .left _ _ (by omega)

/-- What stands between parentheses, if there is room for it. -/
def parseNested (scope : Scope) (room : Nat) (tokens : List Token) :
    Except Fault (Parsed tokens) :=
  match room with
  | 0 => .error .tooDeep
  | room + 1 => parseOr scope room tokens
termination_by (tokens.length, 7)

def parsePrimary (scope : Scope) (room : Nat) (tokens : List Token) :
    Except Fault (Parsed tokens) :=
  match tokens with
  | .integer value :: rest => .ok ⟨.literal (.integer value), rest, by simp⟩
  | .string value :: rest => .ok ⟨.literal (.string value), rest, by simp⟩
  | .openParenthesis :: rest => do
    let inner ← parseNested scope room rest
    let closed ← expect .closeParenthesis .closeParenthesis inner.rest
    .ok ⟨inner.expression, closed.1, by
      have := inner.shorter
      have := closed.2
      simp only [List.length_cons]
      omega⟩
  | .identifier name :: rest =>
    if name = "true" then .ok ⟨.literal (.boolean true), rest, by simp⟩
    else if name = "false" then .ok ⟨.literal (.boolean false), rest, by simp⟩
    else if name = "msg" then
      match rest with
      | .dot :: .identifier field :: rest =>
        if field = "text" then
          .ok ⟨.messageText, rest, by simp only [List.length_cons]; omega⟩
        else .error (.unknownMember field)
      | .dot :: rest => .error (.unexpected .textOfMessage rest.head?)
      | rest => .error (.unexpected .memberOfMessage rest.head?)
    else
      match scope.find? name with
      | some value => .ok ⟨.literal value, rest, by simp⟩
      | none => .error (.unknownVariable name)
  | tokens => .error (.unexpected .value tokens.head?)
termination_by (tokens.length, 1)
decreasing_by
  simp only [List.length_cons]
  exact .left _ _ (by omega)

end

/-! ### The whole text -/

/-- Reads the tokens of a source; a fault points to the byte where it arose. -/
def tokenize (source : String) : Except Fault (List Token) :=
  match readTokens source.toList with
  | .ok tokens => .ok tokens
  | .error (fault, unread) =>
    let offset := Text.byteLength source.toList - Text.byteLength unread
    match fault with
    | .unexpectedCharacter character => .error (.unexpectedCharacter character offset)
    | .unterminatedString => .error (.unterminatedString offset)
    | .integerOutOfRange digits => .error (.integerOutOfRange digits)

/-- Reads a condition. Variables stand for the values they are bound to in the scope. -/
def parse (source : String) (scope : Scope) : Except Fault Expression := do
  if source.toList.all Text.isBlank then throw .empty
  if greatestLength < source.toList.length then throw .tooLong
  let tokens ← tokenize source
  let parsed ← parseOr scope greatestDepth tokens
  if let found :: _ := parsed.rest then throw (.unexpected .endOfExpression (some found))
  if greatestDepth < parsed.expression.height then throw .tooDeep
  require parsed.expression .boolean .condition

end BotHost.Condition
