/-
Conditions are read back from how they are written.

The written form of an expression is read as a phrase that means it: a negation is written as one, and
everything else as a term, since conjunctions, disjunctions and comparisons stand in parentheses. A
comparison takes terms only, so a negation must not be its operand. The parentheses are no more than the
tree is high, and the tree is within the limits because the condition was read. What may go wrong is a
number with a sign, which no token has, an escape that strings do not know, and the length of the form.
-/

import BotHost.Proofs.Condition.Lexing
import BotHost.Proofs.Condition.Parsing
import Mathlib

namespace BotHost.Condition

variable {scope : Scope} {expression : Expression} {type : ValueType} {tokens : List Token}
  {nesting : Nat}

/-! ### Members -/

theorem TextTest.member_mem_words (kind : TextTest) : kind.member ∈ words := by
  cases kind <;> decide

theorem TextTest.member_mem_spellings (kind : TextTest) : kind.member ∈ kind.spellings := by
  cases kind <;> decide

namespace Expression

/-! ### What can be read back -/

def IsNegation (expression : Expression) : Prop := ∃ operand, expression = .not operand

/-- What is written so that a reader makes the same of it: no sign before a number, no escape that
reading does not know, and no negation as an operand of a comparison. -/
structure Legible (expression : Expression) : Prop where
  unsigned : ∀ number, .literal (.integer number) ∈ expression.parts → 0 ≤ number
  plain : ∀ text, .literal (.string text) ∈ expression.parts →
    ∀ character ∈ text.toList, PlainlyQuoted character
  unnegated : ∀ comparison left right, .compare comparison left right ∈ expression.parts →
    ¬left.IsNegation ∧ ¬right.IsNegation

/-- The whole numbers in the expression have 64 bits. -/
def FitsWords (expression : Expression) : Prop :=
  ∀ number, .literal (.integer number) ∈ expression.parts → Value.fitsInteger number = true

structure Readable (expression : Expression) : Prop extends Legible expression where
  fits : expression.FitsWords

/-- What stands in a readable expression is readable. -/
theorem Readable.within {part : Expression} (readable : expression.Readable)
    (within : part.parts ⊆ expression.parts) : part.Readable where
  unsigned number among := readable.unsigned number (within among)
  plain text among := readable.plain text (within among)
  unnegated comparison left right among := readable.unnegated comparison left right (within among)
  fits number among := readable.fits number (within among)

/-! ### How expressions are written -/

/-- The category of the written form. -/
def category : Expression → Category
  | .not _ => .negation
  | _ => .term

/-- What is not a negation is written as a term. -/
theorem category_of_not_isNegation (unnegated : ¬expression.IsNegation) :
    expression.category = .term := by
  cases expression with
  | not operand => exact absurd ⟨operand, rfl⟩ unnegated
  | _ => rfl

/-- The written form is read as the tokens in front of a delimiter, and they are a phrase that means
the expression. -/
structure Written (expression : Expression) (tokens : List Token) (nesting : Nat) : Prop where
  lexes : ∀ rest, Delimits rest → Lexes expression.display.toList tokens rest
  derived : Derives .empty expression.category tokens nesting expression

/-- A written form may stand where a negation may. -/
theorem Written.toNegation (written : expression.Written tokens nesting) :
    Derives .empty .negation tokens nesting expression := by
  have derived := written.derived
  cases expression with
  | not operand => exact derived
  | _ => exact derived.toNegation

theorem Written.toDisjunction (written : expression.Written tokens nesting) :
    Derives .empty .disjunction tokens nesting expression :=
  written.toNegation.toConjunction.toDisjunction

/-! ### Atoms -/

/-- Constants and the message text. -/
def IsAtom : Expression → Prop
  | .literal _ | .messageText => True
  | _ => False

/-- No operation gives a text. -/
theorem HasType.isAtom (typed : expression.HasType .string) : expression.IsAtom := by
  cases expression with
  | literal | messageText => trivial
  | _ => cases typed.type_eq

/-- A constant that can be read is written as tokens that mean it. -/
theorem lexes_literal {value : Value} (readable : (literal value).Readable) :
    ∃ tokens, (∀ rest, Delimits rest → Lexes value.display.toList tokens rest) ∧
      Atom .empty tokens (literal value) := by
  cases value with
  | integer number =>
    obtain ⟨number, rfl⟩ := Int.eq_ofNat_of_zero_le (readable.unsigned number (mem_parts_self _))
    have small := readable.fits number (mem_parts_self _)
    simp only [Value.fitsInteger, Bool.and_eq_true, decide_eq_true_eq] at small
    have bounded : number < integerBound := by
      rw [integerBound]
      omega
    exact ⟨_, fun rest => lexes_integer bounded, .integer number⟩
  | string text =>
    exact ⟨_, fun rest _ => lexes_quoted (readable.plain text (mem_parts_self _)), .string text⟩
  | boolean truth =>
    cases truth with
    | true => exact ⟨_, fun rest => lexes_word "true" (by decide), .truth⟩
    | false => exact ⟨_, fun rest => lexes_word "false" (by decide), .falsehood⟩

theorem lexes_messageText {rest : List Char} (delimits : Delimits rest) :
    Lexes messageText.display.toList [.identifier "msg", .dot, .identifier "text"] rest :=
  (lexes_word "msg" (by decide) (delimits_cons (by decide))).append
    (lexes_dot.append (lexes_word "text" (by decide) delimits))

/-- An atom is written as tokens that mean it. -/
theorem lexes_atom (atomic : expression.IsAtom) (readable : expression.Readable) :
    ∃ tokens, (∀ rest, Delimits rest → Lexes expression.display.toList tokens rest) ∧
      Atom .empty tokens expression := by
  cases expression with
  | literal value => exact lexes_literal readable
  | messageText => exact ⟨_, fun rest => lexes_messageText, .messageText⟩
  | _ => cases atomic

theorem written_atom (atomic : expression.IsAtom) (readable : expression.Readable) :
    ∃ tokens, expression.Written tokens 0 := by
  obtain ⟨tokens, lexes, atom⟩ := lexes_atom atomic readable
  refine ⟨tokens, lexes, ?_⟩
  cases expression with
  | literal | messageText => exact (Derives.atom atom).toTerm
  | _ => cases atomic

/-! ### Operations -/

theorem Written.length {operand : Expression} (atomic : operand.IsAtom)
    (readable : operand.Readable) : ∃ tokens, (length operand).Written tokens 0 := by
  obtain ⟨tokens, lexes, atom⟩ := lexes_atom atomic readable
  refine ⟨_, fun rest delimits => ?_, .term (.atom atom) (.length .lastMember)⟩
  rw [display, String.toList_append]
  exact (lexes _ (delimits_cons (by decide))).append
    (lexes_dot.append (lexes_word "length" (by decide) delimits))

/-- A text test opens one guard, that of its argument. -/
theorem Written.test {subject argument : Expression} (kind : TextTest)
    (subjectAtomic : subject.IsAtom) (argumentAtomic : argument.IsAtom)
    (subjectReadable : subject.Readable) (argumentReadable : argument.Readable) :
    ∃ tokens, (test kind subject argument).Written tokens 1 := by
  obtain ⟨first, lexesSubject, subjectAtom⟩ := lexes_atom subjectAtomic subjectReadable
  obtain ⟨second, writtenArgument⟩ := written_atom argumentAtomic argumentReadable
  have derived := writtenArgument.toDisjunction
  refine ⟨_, fun rest delimits => ?_,
    .term (.atom subjectAtom) (.test kind.member_mem_spellings derived .lastMember)⟩
  have closed := (writtenArgument.lexes ([')'] ++ rest) (delimits_cons (by decide))).append
    lexes_closeParenthesis
  have called := (lexes_word kind.member kind.member_mem_words (delimits_cons (by decide))).append
    (lexes_openParenthesis.append closed)
  rw [display]
  simp only [String.toList_append, List.append_assoc]
  exact (lexesSubject _ (delimits_cons (by decide))).append (lexes_dot.append called)

/-- Booleans and texts are written with neither an equals sign nor a blank in front. -/
theorem HasType.display_head (typed : expression.HasType type) (other : type ≠ .integer) :
    ∃ first more, expression.display.toList = first :: more ∧
      first ≠ '=' ∧ Text.isBlank first = false := by
  induction typed with
  | literal value =>
    match value with
    | .integer _ => exact absurd rfl other
    | .string text => exact ⟨'"', _, String.toList_ofList, by decide, by decide⟩
    | .boolean true | .boolean false => exact ⟨_, _, rfl, by decide, by decide⟩
  | messageText => exact ⟨_, _, rfl, by decide, by decide⟩
  | length => exact absurd rfl other
  | not | and | or | ordering | equality =>
    simp only [display, String.toList_append]
    exact ⟨_, _, rfl, by decide, by decide⟩
  | test _ _ _ subject _ =>
    obtain ⟨first, more, head, marks⟩ := subject nofun
    simp only [display, String.toList_append, head]
    exact ⟨_, _, rfl, marks⟩

/-- A negation opens one guard more than what it negates. -/
theorem Written.not {operand : Expression} (written : operand.Written tokens nesting)
    (typed : operand.HasType .boolean) :
    (not operand).Written (.bang :: tokens) (nesting + 1) where
  lexes rest delimits := by
    have lexes := written.lexes rest delimits
    obtain ⟨first, more, head, different, -⟩ := typed.display_head nofun
    rw [display, String.toList_append]
    rw [head] at lexes ⊢
    exact (lexes_bang different).append lexes
  derived := .negation written.toNegation

section Operation

variable {left right : Expression} {first second : List Token} {m n : Nat}

/-- Two operands with an operator between blanks, in parentheses. -/
theorem Written.operation {token : Token} {operator : String} (writtenLeft : left.Written first m)
    (writtenRight : right.Written second n) (category : expression.category = .term)
    (displays : expression.display = "(" ++ left.display ++ operator ++ right.display ++ ")")
    (delimits : ∀ rest, Delimits (operator.toList ++ rest))
    (lexes : ∀ rest, Lexes operator.toList [token] rest)
    (derived : Derives .empty .disjunction (first ++ token :: second) (max m n) expression) :
    ∃ tokens, expression.Written tokens (max m n + 1) := by
  refine ⟨_, fun rest _ => ?_, category ▸ (Derives.parenthesized derived).toTerm⟩
  have closed := (writtenRight.lexes ([')'] ++ rest) (delimits_cons (by decide))).append
    lexes_closeParenthesis
  have spaced := (lexes _).append closed
  have opened := (writtenLeft.lexes _ (by
    simpa only [List.append_assoc] using delimits (right.display.toList ++ ([')'] ++ rest)))).append
      spaced
  rw [displays]
  simpa [String.toList_append] using lexes_openParenthesis.append opened

/-- A conjunction opens one guard more than the deeper of its sides. -/
theorem Written.and (writtenLeft : left.Written first m) (writtenRight : right.Written second n) :
    ∃ tokens, (and left right).Written tokens (max m n + 1) := by
  have conjunction :=
    writtenLeft.toNegation.conjunction (.nextConjunct writtenRight.toNegation .lastConjunct)
  exact writtenLeft.operation writtenRight rfl rfl (fun _ => delimits_cons (by decide))
    (fun _ => lexes_and) (by simpa using conjunction.toDisjunction)

theorem Written.or (writtenLeft : left.Written first m) (writtenRight : right.Written second n) :
    ∃ tokens, (or left right).Written tokens (max m n + 1) := by
  have disjunction := writtenLeft.toNegation.toConjunction.disjunction
    (.nextDisjunct writtenRight.toNegation.toConjunction .lastDisjunct)
  exact writtenLeft.operation writtenRight rfl rfl (fun _ => delimits_cons (by decide))
    (fun _ => lexes_or) (by simpa using disjunction)

/-- A comparison opens one guard more than the deeper of its sides, neither of which is a
negation. -/
theorem Written.compare (comparison : Comparison) (writtenLeft : left.Written first m)
    (writtenRight : right.Written second n) (unnegated : ¬left.IsNegation ∧ ¬right.IsNegation) :
    ∃ tokens, (compare comparison left right).Written tokens (max m n + 1) := by
  have leftTerm := writtenLeft.derived
  have rightTerm := writtenRight.derived
  rw [category_of_not_isNegation unnegated.1] at leftTerm
  rw [category_of_not_isNegation unnegated.2] at rightTerm
  have compared := leftTerm.comparison comparison rightTerm
  refine writtenLeft.operation writtenRight rfl ?_ (fun _ => ?_)
    (fun _ => lexes_comparison comparison) compared.unnegated.toConjunction.toDisjunction
  · simp only [display, String.append_assoc]
  · simp only [String.toList_append, List.append_assoc]
    exact delimits_cons (by decide)

end Operation

theorem height_pos (expression : Expression) : 0 < expression.height := by
  cases expression <;> simp only [height] <;> omega

/-- Every typed expression that can be read is written as a phrase that means it, with fewer
guards than it is high. -/
theorem written (typed : expression.HasType type) (readable : expression.Readable) :
    ∃ tokens nesting, expression.Written tokens nesting ∧ nesting < expression.height := by
  induction typed with
  | literal value =>
    obtain ⟨tokens, written⟩ := written_atom (show (literal value).IsAtom from trivial) readable
    exact ⟨tokens, 0, written, height_pos _⟩
  | messageText =>
    obtain ⟨tokens, written⟩ := written_atom (show messageText.IsAtom from trivial) readable
    exact ⟨tokens, 0, written, height_pos _⟩
  | length typed _ =>
    obtain ⟨tokens, written⟩ := Written.length typed.isAtom (readable.within (by simp [parts]))
    exact ⟨tokens, 0, written, height_pos _⟩
  | not typed operand =>
    obtain ⟨tokens, nesting, written, low⟩ := operand (readable.within (by simp [parts]))
    exact ⟨_, _, written.not typed, by simp only [height]; omega⟩
  | and _ _ left right =>
    obtain ⟨first, m, writtenLeft, lowLeft⟩ := left (readable.within (by simp [parts]))
    obtain ⟨second, n, writtenRight, lowRight⟩ := right (readable.within (by simp [parts]))
    obtain ⟨tokens, written⟩ := writtenLeft.and writtenRight
    exact ⟨tokens, _, written, by simp only [height]; omega⟩
  | or _ _ left right =>
    obtain ⟨first, m, writtenLeft, lowLeft⟩ := left (readable.within (by simp [parts]))
    obtain ⟨second, n, writtenRight, lowRight⟩ := right (readable.within (by simp [parts]))
    obtain ⟨tokens, written⟩ := writtenLeft.or writtenRight
    exact ⟨tokens, _, written, by simp only [height]; omega⟩
  | ordering _ _ _ left right | equality _ _ _ _ left right =>
    obtain ⟨first, m, writtenLeft, lowLeft⟩ := left (readable.within (by simp [parts]))
    obtain ⟨second, n, writtenRight, lowRight⟩ := right (readable.within (by simp [parts]))
    have unnegated := readable.unnegated _ _ _ (mem_parts_self _)
    obtain ⟨tokens, written⟩ := writtenLeft.compare _ writtenRight unnegated
    exact ⟨tokens, _, written, by simp only [height]; omega⟩
  | @test subject argument kind subjectTyped argumentTyped =>
    obtain ⟨tokens, written⟩ := Written.test kind subjectTyped.isAtom argumentTyped.isAtom
      (readable.within (by simp [parts])) (readable.within (by simp [parts]))
    have := height_pos subject
    exact ⟨tokens, 1, written, by simp only [height]; omega⟩

/-! ### Whole numbers have 64 bits -/

section Words

variable {left right : Expression}

theorem fitsWords_length : (length left).FitsWords ↔ left.FitsWords := by
  simp [FitsWords, parts]

theorem fitsWords_not : (not left).FitsWords ↔ left.FitsWords := by
  simp [FitsWords, parts]

theorem fitsWords_and : (and left right).FitsWords ↔ left.FitsWords ∧ right.FitsWords := by
  simp [FitsWords, parts, or_imp, forall_and]

theorem fitsWords_or : (or left right).FitsWords ↔ left.FitsWords ∧ right.FitsWords := by
  simp [FitsWords, parts, or_imp, forall_and]

theorem fitsWords_compare {comparison : Comparison} :
    (compare comparison left right).FitsWords ↔ left.FitsWords ∧ right.FitsWords := by
  simp [FitsWords, parts, or_imp, forall_and]

theorem fitsWords_test {kind : TextTest} :
    (test kind left right).FitsWords ↔ left.FitsWords ∧ right.FitsWords := by
  simp [FitsWords, parts, or_imp, forall_and]

end Words

end Expression

namespace Scope

/-- The whole numbers bound in the scope have 64 bits. -/
def FitsWords (scope : Scope) : Prop :=
  ∀ name number, scope.find? name = some (.integer number) → Value.fitsInteger number = true

theorem fitsWords_empty : empty.FitsWords := nofun

/-- Binding a value that fits a word leaves a scope of such values. -/
theorem FitsWords.bind (words : scope.FitsWords) (name : String) {value : Value}
    (fits : ∀ number, value = .integer number → Value.fitsInteger number = true) :
    (scope.bind name value).FitsWords := by
  intro other number found
  by_cases same : other = name
  · rw [same, find?_bind_self] at found
    exact fits number (Option.some.inj found)
  · rw [find?_bind_other _ _ _ _ same] at found
    exact words other number found

end Scope

open Expression in
/-- Numbers come from tokens and from the scope. -/
theorem Derives.fitsWords {category : Category} (words : scope.FitsWords)
    (derived : Derives scope category tokens nesting expression)
    (bounded : ∀ token ∈ tokens, token.FitsWord)
    (before : ∀ left, category.left? = some left → left.FitsWords) : expression.FitsWords := by
  induction derived with
  | disjunction _ _ first others | conjunction _ _ first others | term _ _ first others =>
    obtain ⟨boundedFirst, boundedMore⟩ := List.forall_mem_append.mp bounded
    have fits := first boundedFirst nofun
    exact others boundedMore fun left same => Option.some.inj same ▸ fits
  | lastDisjunct | lastConjunct | lastMember => exact before _ rfl
  | nextDisjunct _ _ next others =>
    obtain ⟨-, bounded⟩ := List.forall_mem_cons.mp bounded
    obtain ⟨boundedNext, boundedMore⟩ := List.forall_mem_append.mp bounded
    have fits := fitsWords_or.mpr ⟨before _ rfl, next boundedNext nofun⟩
    exact others boundedMore fun left same => Option.some.inj same ▸ fits
  | nextConjunct _ _ next others =>
    obtain ⟨-, bounded⟩ := List.forall_mem_cons.mp bounded
    obtain ⟨boundedNext, boundedMore⟩ := List.forall_mem_append.mp bounded
    have fits := fitsWords_and.mpr ⟨before _ rfl, next boundedNext nofun⟩
    exact others boundedMore fun left same => Option.some.inj same ▸ fits
  | negation _ operand =>
    exact fitsWords_not.mpr (operand (List.forall_mem_cons.mp bounded).2 nofun)
  | unnegated _ whole | uncompared _ whole => exact whole bounded nofun
  | comparison kind _ _ left right =>
    obtain ⟨boundedLeft, boundedRight⟩ := List.forall_mem_append.mp bounded
    exact fitsWords_compare.mpr
      ⟨left boundedLeft nofun, right (List.forall_mem_cons.mp boundedRight).2 nofun⟩
  | length _ others =>
    simp only [List.forall_mem_cons] at bounded
    have fits := fitsWords_length.mpr (before _ rfl)
    exact others bounded.2.2 fun left same => Option.some.inj same ▸ fits
  | test _ _ _ inner others =>
    simp only [List.forall_mem_cons, List.forall_mem_append] at bounded
    obtain ⟨-, -, -, boundedInner, -, boundedMore⟩ := bounded
    have fits := inner boundedInner nofun
    exact others boundedMore fun left same =>
      Option.some.inj same ▸ fitsWords_test.mpr ⟨before _ rfl, fits⟩
  | atom atom =>
    intro number among
    cases atom with
    | integer value =>
      obtain ⟨rfl⟩ : number = value := by simpa [parts] using among
      have small : value < integerBound := bounded _ (.head _)
      rw [integerBound] at small
      simp only [Value.fitsInteger, Bool.and_eq_true, decide_eq_true_eq]
      omega
    | bound free found =>
      obtain rfl : Value.integer number = _ := by simpa [parts] using among
      exact words _ _ found
    | _ => simp [parts] at among
  | parenthesized _ inner =>
    simp only [List.forall_mem_cons, List.forall_mem_append] at bounded
    exact inner bounded.2.1 nofun

/-! ### Reading back -/

/-- A legible condition is written as a phrase that means it, nested no deeper than the condition is
high. So if it is not too long when written, reading it gives the condition back. -/
theorem parse_display {source : String} (words : scope.FitsWords)
    (read : parse source scope = .ok expression) (legible : expression.Legible) :
    (∃ tokens nesting, tokenize expression.display = .ok tokens ∧
      Derives .empty .disjunction tokens nesting expression ∧
        nesting < expression.height ∧ expression.height ≤ 64) ∧
      (expression.display.toList.length ≤ 1024 →
        parse expression.display .empty = .ok expression) := by
  obtain ⟨-, -, _, lexed, _, derived, typed, -, flat⟩ := parse_eq_ok_iff_derives.mp read
  have fits := derived.fitsWords words (fitsWord_of_tokenize lexed) nofun
  obtain ⟨tokens, nesting, written, low⟩ := Expression.written typed ⟨legible, fits⟩
  have lexes := (written.lexes [] delimits_nil).tokenize_eq
  have phrase := written.toDisjunction
  refine ⟨⟨tokens, nesting, lexes, phrase, low, flat⟩, fun short => ?_⟩
  obtain ⟨first, more, head, -, visible⟩ := typed.display_head nofun
  have shallow := Nat.le_of_lt (Nat.lt_of_lt_of_le low flat)
  exact parse_eq_ok_iff_derives.mpr ⟨⟨first, head ▸ .head _, visible⟩, short, tokens, lexes,
    nesting, phrase, typed, shallow, flat⟩

theorem parse_display_briefQuote :
    limitScope.FitsWords ∧
      parse "!(msg.text.length > limit) && msg.text.startsWith('\"')" limitScope = .ok briefQuote ∧
        briefQuote.Legible ∧
          parse "(!(msg.text.length > 3) && msg.text.startsWith(\"\\\"\"))" .empty =
            .ok briefQuote := by
  have words : limitScope.FitsWords := Scope.fitsWords_empty.bind "limit" fun _ same => by
    cases same
    decide
  have legible : briefQuote.Legible := by
    constructor
    · simp [briefQuote, Expression.parts]
    · have quote : PlainlyQuoted '"' := .inr ⟨'"', by decide, rfl⟩
      simpa [briefQuote, Expression.parts] using quote
    · intro comparison left right among
      obtain ⟨-, rfl, rfl⟩ : comparison = .greater ∧ left = .length .messageText ∧
          right = .literal (.integer 3) := by simpa [briefQuote, Expression.parts] using among
      exact ⟨by rintro ⟨_, ⟨⟩⟩, by rintro ⟨_, ⟨⟩⟩⟩
  have shown : briefQuote.display =
      "(!(msg.text.length > 3) && msg.text.startsWith(\"\\\"\"))" := by
    decide +kernel
  have again := (parse_display words parse_briefQuote legible).2 (by rw [shown]; decide)
  rw [shown] at again
  exact ⟨words, parse_briefQuote, legible, again⟩

end BotHost.Condition
