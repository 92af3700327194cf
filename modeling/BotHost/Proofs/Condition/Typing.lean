/-
The types of expressions.

The rules are given on their own, apart from the checks that are made while a condition is read, and
they look at every operand and not only at the outermost operation. An expression has one type at
most, the one that its outermost operation gives, and whatever stands in a typed expression is typed.
-/

import BotHost.Condition.Parser

namespace BotHost.Condition

/-! ### Typing rules -/

/-- Texts and integers can be equal to one another; a boolean only to a boolean. -/
def Equatable (left right : ValueType) : Prop :=
  left = right ∨ left ≠ .boolean ∧ right ≠ .boolean

namespace Expression

inductive HasType : Expression → ValueType → Prop
  | literal (value : Value) : HasType (.literal value) value.type
  | messageText : HasType .messageText .string
  | length {operand : Expression} : HasType operand .string → HasType (.length operand) .integer
  | not {operand : Expression} : HasType operand .boolean → HasType (.not operand) .boolean
  | and {left right : Expression} :
    HasType left .boolean → HasType right .boolean → HasType (.and left right) .boolean
  | or {left right : Expression} :
    HasType left .boolean → HasType right .boolean → HasType (.or left right) .boolean
  | ordering {comparison : Comparison} {left right : Expression}
      (ordering : comparison.isOrdering = true) :
    HasType left .integer → HasType right .integer → HasType (.compare comparison left right) .boolean
  | equality {comparison : Comparison} {left right : Expression} {leftType rightType : ValueType}
      (equality : comparison.isOrdering = false) (equatable : Equatable leftType rightType) :
    HasType left leftType → HasType right rightType →
      HasType (.compare comparison left right) .boolean
  | test {subject argument : Expression} (kind : TextTest) :
    HasType subject .string → HasType argument .string →
      HasType (.test kind subject argument) .boolean

variable {expression : Expression} {type : ValueType}

/-- An expression has one type at most. -/
theorem HasType.type_eq (typed : expression.HasType type) : expression.type = type := by
  cases typed <;> rfl

theorem HasType.self (typed : expression.HasType type) : expression.HasType expression.type := by
  rw [typed.type_eq]
  exact typed

theorem comparable_ordering {comparison : Comparison} (ordering : comparison.isOrdering = true)
    (left right : ValueType) :
    comparable comparison left right = true ↔ left = .integer ∧ right = .integer := by
  simp [comparable, ordering]

theorem comparable_equality {comparison : Comparison} (equality : comparison.isOrdering = false)
    (left right : ValueType) : comparable comparison left right = true ↔ Equatable left right := by
  simp [comparable, equality, Equatable]

/-- The check of a comparison is the typing rule. -/
theorem hasType_compare_iff {comparison : Comparison} {left right : Expression} :
    (compare comparison left right).HasType .boolean ↔
      left.HasType left.type ∧ right.HasType right.type ∧
        comparable comparison left.type right.type = true := by
  cases kind : comparison.isOrdering with
  | true =>
    rw [comparable_ordering kind]
    constructor
    · intro typed
      cases typed with
      | ordering _ left right => exact ⟨left.self, right.self, left.type_eq, right.type_eq⟩
      | equality equality => cases kind.symm.trans equality
    · rintro ⟨left, right, leftType, rightType⟩
      exact .ordering kind (leftType ▸ left) (rightType ▸ right)
  | false =>
    rw [comparable_equality kind]
    constructor
    · intro typed
      cases typed with
      | ordering ordering => cases kind.symm.trans ordering
      | equality _ equatable left right =>
        exact ⟨left.self, right.self, left.type_eq ▸ right.type_eq ▸ equatable⟩
    · rintro ⟨left, right, equatable⟩
      exact .equality kind equatable left right

/-! ### Parts -/

/-- The expressions that stand in an expression, itself included. -/
def parts : Expression → List Expression
  | .literal value => [.literal value]
  | .messageText => [.messageText]
  | .length operand => .length operand :: operand.parts
  | .not operand => .not operand :: operand.parts
  | .and left right => .and left right :: (left.parts ++ right.parts)
  | .or left right => .or left right :: (left.parts ++ right.parts)
  | .compare comparison left right =>
    .compare comparison left right :: (left.parts ++ right.parts)
  | .test kind subject argument => .test kind subject argument :: (subject.parts ++ argument.parts)

theorem mem_parts_self (expression : Expression) : expression ∈ expression.parts := by
  cases expression <;> simp [parts]

theorem HasType.part (typed : expression.HasType type) {part : Expression}
    (among : part ∈ expression.parts) : part.HasType part.type := by
  have whole := typed.self
  induction typed with
  | literal | messageText =>
    obtain rfl := List.mem_singleton.mp among
    exact whole
  | length typed operand | not typed operand =>
    rcases List.mem_cons.mp among with rfl | among
    · exact whole
    · exact operand among typed.self
  | and leftTyped rightTyped left right | or leftTyped rightTyped left right
  | ordering _ leftTyped rightTyped left right | equality _ _ leftTyped rightTyped left right
  | test _ leftTyped rightTyped left right =>
    rcases List.mem_cons.mp among with rfl | among
    · exact whole
    · rcases List.mem_append.mp among with among | among
      · exact left among leftTyped.self
      · exact right among rightTyped.self

end Expression

end BotHost.Condition
