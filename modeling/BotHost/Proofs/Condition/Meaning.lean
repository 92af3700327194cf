/-
What conditions mean.

The meaning of an expression is given by rules of its own. A rule only speaks of operands that have
values of the types its operation computes with, so it says nothing where evaluation falls back on a
default. A well-typed expression evaluates to a value of its type, hence so do its operands, hence no
default is ever used, and evaluation and meaning agree.
-/

import BotHost.Condition.Evaluation
import BotHost.Proofs.Condition.Parsing

namespace BotHost.Condition

/-! ### The meaning of the operations -/

/-- Values that count as equal. A number and a text do if the text is how the number is written. -/
inductive Alike : Value → Value → Prop
  | same (value : Value) : Alike value value
  | written (number : Int) : Alike (.integer number) (.string (toString number))
  | read (number : Int) : Alike (.string (toString number)) (.integer number)

/-- The numbers stand in the order that the comparison asks for. -/
def Comparison.Orders : Comparison → Int → Int → Prop
  | .less, left, right => left < right
  | .atMost, left, right => left ≤ right
  | .greater, left, right => right < left
  | .atLeast, left, right => right ≤ left
  | .equal, _, _ | .unequal, _, _ => False

/-- The characters of the text split around the argument as the test asks for. -/
def TextTest.Splits : TextTest → List Char → List Char → Prop
  | .contains, subject, argument => ∃ before after, subject = before ++ argument ++ after
  | .startsWith, subject, argument => ∃ after, subject = argument ++ after
  | .endsWith, subject, argument => ∃ before, subject = before ++ argument

/-- One unit for each character, and a second one for those beyond the first plane. -/
def clientLength (text : String) : Nat :=
  text.toList.length + text.toList.countP fun character => 0xFFFF < character.toNat

/-- What an expression means on a message text. -/
inductive Means (text : String) : Expression → Value → Prop
  | literal (value : Value) : Means text (.literal value) value
  | messageText : Means text .messageText (.string text)
  | length {operand : Expression} {subject : String} :
    Means text operand (.string subject) →
      Means text (.length operand) (.integer (clientLength subject))
  | not {operand : Expression} {value : Bool} :
    Means text operand (.boolean value) → Means text (.not operand) (.boolean !value)
  | and {left right : Expression} {first second : Bool} :
    Means text left (.boolean first) → Means text right (.boolean second) →
      Means text (.and left right) (.boolean (first && second))
  | or {left right : Expression} {first second : Bool} :
    Means text left (.boolean first) → Means text right (.boolean second) →
      Means text (.or left right) (.boolean (first || second))
  | equal {left right : Expression} {first second : Value} {verdict : Bool} :
    Means text left first → Means text right second → (verdict = true ↔ Alike first second) →
      Means text (.compare .equal left right) (.boolean verdict)
  | unequal {left right : Expression} {first second : Value} {verdict : Bool} :
    Means text left first → Means text right second → (verdict = true ↔ ¬Alike first second) →
      Means text (.compare .unequal left right) (.boolean verdict)
  | ordering {comparison : Comparison} {left right : Expression} {first second : Int}
      {verdict : Bool} (ordering : comparison.isOrdering = true) :
    Means text left (.integer first) → Means text right (.integer second) →
      (verdict = true ↔ comparison.Orders first second) →
        Means text (.compare comparison left right) (.boolean verdict)
  | test {kind : TextTest} {subject argument : Expression} {first second : String}
      {verdict : Bool} :
    Means text subject (.string first) → Means text argument (.string second) →
      (verdict = true ↔ kind.Splits first.toList second.toList) →
        Means text (.test kind subject argument) (.boolean verdict)

theorem looseEqual_iff (left right : Value) : looseEqual left right = true ↔ Alike left right := by
  constructor
  · intro equal
    cases left <;> cases right <;> simp only [looseEqual, beq_iff_eq, reduceCtorEq] at equal
    all_goals
      cases equal
      constructor
  · rintro (_ | _ | _) <;> simp [looseEqual]

theorem not_looseEqual_iff (left right : Value) :
    (!looseEqual left right) = true ↔ ¬Alike left right := by
  rw [← looseEqual_iff, Bool.not_eq_true', Bool.not_eq_true]

theorem Comparison.holdsInOrder_iff {comparison : Comparison} (left right : Int) :
    comparison.holdsInOrder left right = true ↔ comparison.Orders left right := by
  cases comparison <;> simp [holdsInOrder, Orders]

theorem TextTest.holds_iff (kind : TextTest) (subject argument : String) :
    kind.holds subject argument = true ↔ kind.Splits subject.toList argument.toList := by
  cases kind with
  | contains => exact Text.occursIn_iff _ _
  | startsWith =>
    rw [holds, List.isPrefixOf_iff_prefix]
    exact exists_congr fun after => eq_comm
  | endsWith =>
    rw [holds, List.isSuffixOf_iff_suffix]
    exact exists_congr fun before => eq_comm

theorem units16_eq_clientLength (text : String) : Text.units16 text = clientLength text := by
  rw [Text.units16, clientLength]
  induction text.toList with
  | nil => rfl
  | cons character rest inductionHypothesis =>
    rw [List.map_cons, List.foldr_cons, inductionHypothesis, List.length_cons, List.countP_cons]
    by_cases beyond : 0xFFFF < character.toNat
    · have : Text.characterUnits16 character = 2 := if_neg (by omega)
      simp only [beyond, decide_true, if_true]
      omega
    · have : Text.characterUnits16 character = 1 := if_pos (by omega)
      simp only [beyond, decide_false, Bool.false_eq_true, if_false]
      omega

/-! ### Values have the types of their expressions -/

variable {scope : Scope} {expression : Expression} {type : ValueType} {text : String}

theorem Value.exists_of_integer {value : Value} (integer : value.type = .integer) :
    ∃ number, value = .integer number := by
  cases value <;> first | exact ⟨_, rfl⟩ | cases integer

theorem Value.exists_of_string {value : Value} (string : value.type = .string) :
    ∃ text, value = .string text := by
  cases value <;> first | exact ⟨_, rfl⟩ | cases string

theorem Value.exists_of_boolean {value : Value} (boolean : value.type = .boolean) :
    ∃ truth, value = .boolean truth := by
  cases value <;> first | exact ⟨_, rfl⟩ | cases boolean

namespace Expression

/-- A typed expression evaluates to a value of its type. -/
theorem HasType.type_value (typed : expression.HasType type) (text : String) :
    (expression.value text).type = type := by
  induction typed with
  | literal | messageText | not | and | or | ordering | equality => rfl
  | length _ operand =>
    obtain ⟨subject, evaluates⟩ := Value.exists_of_string operand
    rw [value, evaluates]
    rfl
  | test kind _ _ subject argument =>
    obtain ⟨first, evaluatesFirst⟩ := Value.exists_of_string subject
    obtain ⟨second, evaluatesSecond⟩ := Value.exists_of_string argument
    rw [value, evaluatesFirst, evaluatesSecond]
    rfl

/-- The operands of the outermost operation evaluate to values of the types that the operation
computes with, which keeps its evaluation out of the branches that fall back on a default. -/
def OperandsFit (text : String) : Expression → Prop
  | .literal _ | .messageText => True
  | .length operand => ∃ subject, operand.value text = .string subject
  | .not operand => ∃ truth, operand.value text = .boolean truth
  | .and left right | .or left right =>
    (∃ truth, left.value text = .boolean truth) ∧ ∃ truth, right.value text = .boolean truth
  | .compare comparison left right =>
    if comparison.isOrdering then
      (∃ number, left.value text = .integer number) ∧ ∃ number, right.value text = .integer number
    else Equatable (left.value text).type (right.value text).type
  | .test _ subject argument =>
    (∃ first, subject.value text = .string first) ∧ ∃ second, argument.value text = .string second

theorem HasType.operandsFit (typed : expression.HasType type) (text : String) :
    expression.OperandsFit text := by
  cases typed with
  | literal | messageText => trivial
  | length operand => exact Value.exists_of_string (operand.type_value text)
  | not operand => exact Value.exists_of_boolean (operand.type_value text)
  | and left right | or left right =>
    exact ⟨Value.exists_of_boolean (left.type_value text),
      Value.exists_of_boolean (right.type_value text)⟩
  | ordering ordering left right =>
    rw [OperandsFit, if_pos ordering]
    exact ⟨Value.exists_of_integer (left.type_value text),
      Value.exists_of_integer (right.type_value text)⟩
  | equality equality equatable left right =>
    rw [OperandsFit, if_neg (by simp [equality]), left.type_value, right.type_value]
    exact equatable
  | test _ subject argument =>
    exact ⟨Value.exists_of_string (subject.type_value text),
      Value.exists_of_string (argument.type_value text)⟩

end Expression

/-! ### Evaluation gives the meaning -/

theorem Comparison.holds_ordering {comparison : Comparison}
    (ordering : comparison.isOrdering = true) (left right : Int) :
    comparison.holds (.integer left) (.integer right) = comparison.holdsInOrder left right := by
  cases comparison <;> simp_all [isOrdering, holds]

/-- What an expression means is what it evaluates to. -/
theorem Means.value_eq {value : Value} (means : Means text expression value) :
    expression.value text = value := by
  induction means with
  | literal | messageText => rfl
  | length _ operand => simp only [Expression.value, operand, units16_eq_clientLength]
  | not _ operand => simp only [Expression.value, operand, Value.holds]
  | and _ _ left right | or _ _ left right =>
    simp only [Expression.value, left, right, Value.holds]
  | equal _ _ verdict left right =>
    simp only [Expression.value, left, right, Comparison.holds, Value.boolean.injEq]
    exact Bool.eq_iff_iff.mpr ((looseEqual_iff _ _).trans verdict.symm)
  | unequal _ _ verdict left right =>
    simp only [Expression.value, left, right, Comparison.holds, Value.boolean.injEq]
    exact Bool.eq_iff_iff.mpr ((not_looseEqual_iff _ _).trans verdict.symm)
  | ordering ordering _ _ verdict left right =>
    simp only [Expression.value, left, right, Comparison.holds_ordering ordering,
      Value.boolean.injEq]
    exact Bool.eq_iff_iff.mpr ((Comparison.holdsInOrder_iff _ _).trans verdict.symm)
  | test _ _ verdict left right =>
    simp only [Expression.value, left, right, Value.boolean.injEq]
    exact Bool.eq_iff_iff.mpr ((TextTest.holds_iff _ _ _).trans verdict.symm)

/-- A typed expression means what it evaluates to. -/
theorem Expression.HasType.means_value (typed : expression.HasType type) (text : String) :
    Means text expression (expression.value text) := by
  induction typed with
  | literal value => exact .literal value
  | messageText => exact .messageText
  | length typed operand =>
    obtain ⟨subject, evaluates⟩ := Value.exists_of_string (typed.type_value text)
    rw [evaluates] at operand
    simp only [Expression.value, evaluates, units16_eq_clientLength]
    exact .length operand
  | not typed operand =>
    obtain ⟨truth, evaluates⟩ := Value.exists_of_boolean (typed.type_value text)
    rw [evaluates] at operand
    rw [Expression.value, evaluates]
    exact .not operand
  | and leftTyped rightTyped left right | or leftTyped rightTyped left right =>
    obtain ⟨first, evaluatesLeft⟩ := Value.exists_of_boolean (leftTyped.type_value text)
    obtain ⟨second, evaluatesRight⟩ := Value.exists_of_boolean (rightTyped.type_value text)
    rw [evaluatesLeft] at left
    rw [evaluatesRight] at right
    rw [Expression.value, evaluatesLeft, evaluatesRight]
    first | exact .and left right | exact .or left right
  | ordering ordering leftTyped rightTyped left right =>
    obtain ⟨first, evaluatesLeft⟩ := Value.exists_of_integer (leftTyped.type_value text)
    obtain ⟨second, evaluatesRight⟩ := Value.exists_of_integer (rightTyped.type_value text)
    rw [evaluatesLeft] at left
    rw [evaluatesRight] at right
    rw [Expression.value, evaluatesLeft, evaluatesRight, Comparison.holds_ordering ordering]
    exact .ordering ordering left right (Comparison.holdsInOrder_iff _ _)
  | @equality comparison _ _ _ _ equality _ _ _ left right =>
    rw [Expression.value]
    cases comparison with
    | equal => exact .equal left right (looseEqual_iff _ _)
    | unequal => exact .unequal left right (not_looseEqual_iff _ _)
    | _ => cases equality
  | test kind subjectTyped argumentTyped subject argument =>
    obtain ⟨first, evaluatesSubject⟩ := Value.exists_of_string (subjectTyped.type_value text)
    obtain ⟨second, evaluatesArgument⟩ := Value.exists_of_string (argumentTyped.type_value text)
    rw [evaluatesSubject] at subject
    rw [evaluatesArgument] at argument
    rw [Expression.value, evaluatesSubject, evaluatesArgument]
    exact .test subject argument (kind.holds_iff _ _)

/-! ### Conditions -/

/-- Every part of a condition evaluates to a value of its type and never by a default, and whether the
condition holds is the one thing that it means. -/
theorem evaluates_as_meant {source : String} (read : parse source scope = .ok expression)
    (text : String) :
    (∀ part ∈ expression.parts,
      (part.value text).type = part.type ∧ part.OperandsFit text) ∧
      ∀ value, Means text expression value ↔ value = .boolean (expression.holds text) := by
  have typed := hasType_of_parse read
  constructor
  · intro part among
    have partTyped := typed.part among
    exact ⟨partTyped.type_value text, partTyped.operandsFit text⟩
  · intro value
    obtain ⟨truth, evaluates⟩ := Value.exists_of_boolean (typed.type_value text)
    rw [Expression.holds, evaluates, Value.holds, ← evaluates]
    constructor
    · exact fun means => means.value_eq.symm
    · rintro rfl
      exact typed.means_value text

theorem evaluates_as_meant_briefQuote :
    parse "!(msg.text.length > limit) && msg.text.startsWith('\"')" limitScope = .ok briefQuote ∧
      (∀ part ∈ briefQuote.parts,
        (part.value "\"😀").type = part.type ∧ part.OperandsFit "\"😀") ∧
          ∀ value, Means "\"😀" briefQuote value ↔ value = .boolean true := by
  have evaluates := evaluates_as_meant parse_briefQuote "\"😀"
  have holds : briefQuote.holds "\"😀" = true := by decide +kernel
  rw [holds] at evaluates
  exact ⟨parse_briefQuote, evaluates⟩

end BotHost.Condition
