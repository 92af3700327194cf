/-
Conditions that are written alike are the same.

Not every condition is read back from how it is written: a sign has no token, and not every escape is
known to strings. But each written form can be told from every other one. Its first character tells
what kind of expression it is, since members have texts in front of their dots and texts are constants
or the message text; what is in parentheses names its operator behind the left operand; and an operand
ends where it seems to, because what stands behind it is a blank or a closing parenthesis. Only the types
make it so: a boolean with a member behind it could not be told from its negation.
-/

import BotHost.Handler.Action
import BotHost.Proofs.Condition.Parsing
import BotHost.Proofs.Text.Quoting

namespace BotHost.Condition

variable {rest rest' : List Char}

/-- Neither a member nor a digit follows, but the end of an operand. -/
def Closes (rest : List Char) : Prop :=
  ∀ character ∈ rest.head?, character = ' ' ∨ character = ')'

theorem closes_nil : Closes [] := nofun

theorem closes_blank : Closes (' ' :: rest) := by simp [Closes]

theorem closes_parenthesis : Closes (')' :: rest) := by simp [Closes]

/-! ### Operators -/

/-- The operations that are written with parentheses around them. -/
inductive Operator where
  | and
  | or
  | comparison (kind : Comparison)
deriving DecidableEq

namespace Operator

def symbol : Operator → String
  | .and => "&&"
  | .or => "||"
  | .comparison kind => kind.symbol

def apply : Operator → (left right : Expression) → Expression
  | .and => .and
  | .or => .or
  | .comparison kind => .compare kind

/-- An operator is written between its sides, in parentheses. -/
theorem display_apply (operator : Operator) (left right : Expression) :
    (operator.apply left right).display.toList ++ rest =
      '(' :: (left.display.toList ++
        ' ' :: (operator.symbol.toList ++ ' ' :: (right.display.toList ++ ')' :: rest))) := by
  cases operator <;> simp [apply, symbol, Expression.display, String.toList_append]

/-- Operators are told apart by their symbols. -/
theorem symbol_injective {operator operator' : Operator}
    (same : operator.symbol = operator'.symbol) : operator = operator' := by
  rcases operator with _ | _ | ⟨_ | _ | _ | _ | _ | _⟩ <;>
    rcases operator' with _ | _ | ⟨_ | _ | _ | _ | _ | _⟩ <;>
      simp_all [symbol, Comparison.symbol]

theorem unspaced_symbol (operator : Operator) : operator.symbol.toList.all (· != ' ') = true := by
  rcases operator with _ | _ | kind
  · rfl
  · rfl
  · cases kind <;> rfl

/-- An operator ends at the blank behind it. -/
theorem symbol_append_inj {operator operator' : Operator}
    (same : operator.symbol.toList ++ ' ' :: rest = operator'.symbol.toList ++ ' ' :: rest') :
    operator = operator' ∧ rest = rest' := by
  obtain ⟨symbols, behind⟩ := Text.append_inj_of_stop
    (List.all_eq_true.mp operator.unspaced_symbol) (List.all_eq_true.mp operator'.unspaced_symbol)
    (by simp) (by simp) same
  exact ⟨symbol_injective (String.toList_inj.mp symbols), (List.cons.inj behind).2⟩

end Operator

/-! ### Members -/

theorem TextTest.unopened_member (kind : TextTest) : kind.member.toList.all (· != '(') = true := by
  cases kind <;> rfl

/-- A test ends at the parenthesis that opens its argument. -/
theorem TextTest.member_append_inj {kind kind' : TextTest}
    (same : kind.member.toList ++ '(' :: rest = kind'.member.toList ++ '(' :: rest') :
    kind = kind' ∧ rest = rest' := by
  obtain ⟨members, behind⟩ := Text.append_inj_of_stop
    (List.all_eq_true.mp kind.unopened_member) (List.all_eq_true.mp kind'.unopened_member)
    (by simp) (by simp) same
  have member := String.toList_inj.mp members
  refine ⟨?_, (List.cons.inj behind).2⟩
  cases kind <;> cases kind' <;> simp_all [TextTest.member]

/-- The length of a text is not one of its tests. -/
theorem TextTest.member_ne_length (kind : TextTest) :
    "length".toList ++ rest ≠ kind.member.toList ++ rest' := by
  cases kind <;> simp [member]

namespace Expression

/-! ### Beginnings -/

/-- The ways in which written forms begin. -/
inductive Beginning where
  | subject
  | truth
  | falsehood
  | exclamation
  | parenthesis
  | number
deriving DecidableEq

/-- The way that a first character belongs to. -/
def Beginning.ofFirst (first : Char) : Beginning :=
  if first = '"' ∨ first = 'm' then .subject
  else if first = 't' then .truth
  else if first = 'f' then .falsehood
  else if first = '!' then .exclamation
  else if first = '(' then .parenthesis
  else .number

/-- How the written form begins. -/
def beginning : Expression → Beginning
  | .literal (.integer _) => .number
  | .literal (.string _) | .messageText => .subject
  | .literal (.boolean true) => .truth
  | .literal (.boolean false) => .falsehood
  | .length operand => operand.beginning
  | .not _ => .exclamation
  | .and _ _ | .or _ _ | .compare _ _ _ => .parenthesis
  | .test _ subject _ => subject.beginning

/-- A number is written with digits, and with a sign before them. -/
theorem mem_toString {number : Int} {character : Char}
    (among : character ∈ (toString number).toList) :
    (character.isDigit || character == '-') = true := by
  rw [Int.toString_eq_repr, Int.repr_eq_if] at among
  have digit {value : Nat} (member : character ∈ value.repr.toList) : character.isDigit = true := by
    rw [Nat.repr_eq_ofList_toDigits, String.toList_ofList] at member
    exact Nat.isDigit_of_mem_toDigits (by decide) (by decide) member
  split at among
  · rw [digit among, Bool.true_or]
  · rw [String.toList_append, List.mem_append] at among
    rcases among with sign | digits
    · obtain rfl := List.mem_singleton.mp sign
      rfl
    · rw [digit digits, Bool.true_or]

theorem toString_ne_nil (number : Int) : (toString number).toList ≠ [] := by
  rw [Int.toString_eq_repr, Int.repr_eq_if]
  split <;> simp

/-- What begins with a digit or a minus begins like a number. -/
theorem ofFirst_number {first : Char} (numeral : (first.isDigit || first == '-') = true) :
    Beginning.ofFirst first = .number := by
  have others : first ∉ ['"', 'm', 't', 'f', '!', '('] := by
    intro among
    have every : ['"', 'm', 't', 'f', '!', '('].all
        (fun mark => !(mark.isDigit || mark == '-')) = true := by decide
    simpa [numeral] using List.all_eq_true.mp every first among
  simp only [List.mem_cons, List.not_mem_nil, or_false, not_or] at others
  obtain ⟨quote, message, truth, falsehood, exclamation, parenthesis⟩ := others
  simp [Beginning.ofFirst, quote, message, truth, falsehood, exclamation, parenthesis]

/-- The first character of a written form tells how the expression begins. -/
theorem exists_first (expression : Expression) :
    ∃ first more, expression.display.toList = first :: more ∧
      Beginning.ofFirst first = expression.beginning := by
  induction expression with
  | literal value =>
    match value with
    | .integer number =>
      obtain ⟨first, more, written⟩ := List.exists_cons_of_ne_nil (toString_ne_nil number)
      have numeral := mem_toString (written ▸ List.mem_cons_self)
      exact ⟨first, more, written, ofFirst_number numeral⟩
    | .string text => exact ⟨'"', _, String.toList_ofList, rfl⟩
    | .boolean true | .boolean false => exact ⟨_, _, rfl, rfl⟩
  | messageText => exact ⟨_, _, rfl, rfl⟩
  | length operand inductionHypothesis =>
    obtain ⟨first, more, written, begins⟩ := inductionHypothesis
    simp only [display, String.toList_append, written]
    exact ⟨first, _, rfl, begins⟩
  | test kind subject argument inductionHypothesis =>
    obtain ⟨first, more, written, begins⟩ := inductionHypothesis
    simp only [display, String.toList_append, written]
    exact ⟨first, _, rfl, begins⟩
  | not | and | or | compare =>
    simp only [display, String.toList_append]
    exact ⟨_, _, rfl, rfl⟩

/-- Expressions whose written forms begin the same text begin in the same way. -/
theorem beginning_eq {expression expression' : Expression}
    (same : expression.display.toList ++ rest = expression'.display.toList ++ rest') :
    expression.beginning = expression'.beginning := by
  obtain ⟨first, more, written, begins⟩ := exists_first expression
  obtain ⟨first', more', written', begins'⟩ := exists_first expression'
  rw [written, written', List.cons_append, List.cons_append] at same
  rw [← begins, ← begins', (List.cons.inj same).1]

/-! ### One expression for each written form -/

variable {expression expression' : Expression} {type type' : ValueType}

/-- Every text begins with a subject. -/
theorem HasType.beginning_eq_subject (typed : expression.HasType .string) :
    expression.beginning = .subject := by
  cases expression with
  | messageText => rfl
  | literal value =>
    cases value with
    | string => rfl
    | _ => cases typed.type_eq
  | _ => cases typed.type_eq

/-- Texts end by themselves: a constant at its closing quote, and the message text has one form. -/
theorem HasType.text_append_inj (typed : expression.HasType .string)
    (typed' : expression'.HasType .string)
    (same : expression.display.toList ++ rest = expression'.display.toList ++ rest') :
    expression = expression' ∧ rest = rest' := by
  have quote (text : String) (after after' : List Char) :
      (Text.quoted text).toList ++ after ≠ Expression.messageText.display.toList ++ after' := by
    simp [Text.quoted, display]
  cases expression with
  | messageText =>
    cases expression' with
    | messageText => exact ⟨rfl, List.append_cancel_left same⟩
    | literal value =>
      cases value with
      | string text => exact absurd same.symm (quote text rest' rest)
      | _ => cases typed'.type_eq
    | _ => cases typed'.type_eq
  | literal value =>
    cases value with
    | string text =>
      cases expression' with
      | messageText => exact absurd same (quote text rest rest')
      | literal value' =>
        cases value' with
        | string text' =>
          obtain ⟨rfl, rfl⟩ := Text.quoted_append_inj same
          exact ⟨rfl, rfl⟩
        | _ => cases typed'.type_eq
      | _ => cases typed'.type_eq
    | _ => cases typed.type_eq
  | _ => cases typed.type_eq

/-- The forms of typed expressions, by how they begin. -/
inductive Form : Beginning → Expression → Prop
  | text {expression : Expression} : expression.HasType .string → Form .subject expression
  | length {operand : Expression} : operand.HasType .string → Form .subject (.length operand)
  | test {subject argument : Expression} (kind : TextTest) :
    subject.HasType .string → argument.HasType .string →
      Form .subject (.test kind subject argument)
  | truth : Form .truth (.literal (.boolean true))
  | falsehood : Form .falsehood (.literal (.boolean false))
  | not {operand : Expression} : operand.HasType .boolean → Form .exclamation (.not operand)
  | joined {left right : Expression} {leftType rightType : ValueType} (operator : Operator) :
    left.HasType leftType → right.HasType rightType →
      Form .parenthesis (operator.apply left right)
  | number (value : Int) : Form .number (.literal (.integer value))

/-- Every typed expression has one of the forms that begin as it does. -/
theorem HasType.form (typed : expression.HasType type) : Form expression.beginning expression := by
  cases typed with
  | literal value =>
    match value with
    | .integer number => exact .number number
    | .string text => exact .text (.literal _)
    | .boolean true => exact .truth
    | .boolean false => exact .falsehood
  | messageText => exact .text .messageText
  | length operand => exact operand.beginning_eq_subject ▸ .length operand
  | not operand => exact .not operand
  | and left right => exact .joined .and left right
  | or left right => exact .joined .or left right
  | @ordering comparison _ _ _ left right => exact .joined (.comparison comparison) left right
  | @equality comparison _ _ _ _ _ _ left right =>
    exact .joined (.comparison comparison) left right
  | test kind subject argument => exact subject.beginning_eq_subject ▸ .test kind subject argument

/-- A typed expression has the form of whatever begins the same text. -/
theorem HasType.form_of_same (typed' : expression'.HasType type')
    (same : expression.display.toList ++ rest = expression'.display.toList ++ rest') :
    Form expression.beginning expression' := by
  rw [beginning_eq same]
  exact typed'.form

/-- No other typed expression makes the same text together with what may stand behind an operand. -/
def Unambiguous (expression : Expression) : Prop :=
  ∀ ⦃expression' : Expression⦄ ⦃type' : ValueType⦄ ⦃rest rest' : List Char⦄,
    expression'.HasType type' → Closes rest → Closes rest' →
      expression.display.toList ++ rest = expression'.display.toList ++ rest' →
        expression = expression' ∧ rest = rest'

/-- Numbers are told apart by what is written. -/
theorem unambiguous_number (number : Int) : (literal (.integer number)).Unambiguous := by
  intro expression' type' rest rest' typed' closes closes' same
  have form : Form .number expression' := typed'.form_of_same same
  cases form with
  | number number' =>
    have stops {rest : List Char} (closes : Closes rest) :
        ∀ character ∈ rest.head?, (character.isDigit || character == '-') = false := by
      intro character head
      rcases closes character head with rfl | rfl <;> rfl
    obtain ⟨written, rfl⟩ := Text.append_inj_of_stop (fun _ => mem_toString)
      (fun _ => mem_toString) (stops closes) (stops closes') same
    have numerals : toString number = toString number' := String.toList_inj.mp written
    rw [Int.toString_eq_repr, Int.toString_eq_repr, Int.repr_inj] at numerals
    exact ⟨numerals ▸ rfl, rfl⟩

theorem unambiguous_boolean (truth : Bool) : (literal (.boolean truth)).Unambiguous := by
  intro expression' type' rest rest' typed' closes closes' same
  cases truth with
  | true =>
    have form : Form .truth expression' := typed'.form_of_same same
    cases form
    exact ⟨rfl, List.append_cancel_left same⟩
  | false =>
    have form : Form .falsehood expression' := typed'.form_of_same same
    cases form
    exact ⟨rfl, List.append_cancel_left same⟩

/-- A negation is told from all others if what it negates is. -/
theorem Unambiguous.not {operand : Expression} (unambiguous : operand.Unambiguous) :
    (not operand).Unambiguous := by
  intro expression' type' rest rest' typed' closes closes' same
  have form : Form .exclamation expression' := typed'.form_of_same same
  cases form with
  | not typed =>
    simp only [display, String.toList_append, List.append_assoc] at same
    obtain ⟨rfl, rfl⟩ := unambiguous typed closes closes' (List.append_cancel_left same)
    exact ⟨rfl, rfl⟩

/-- Behind the left operand stands a blank, behind it the operator, and the right operand is closed. -/
theorem Unambiguous.joined {left right : Expression} (operator : Operator)
    (unambiguousLeft : left.Unambiguous) (unambiguousRight : right.Unambiguous)
    (begins : (operator.apply left right).beginning = .parenthesis) :
    (operator.apply left right).Unambiguous := by
  intro expression' type' rest rest' typed' closes closes' same
  have form : Form .parenthesis expression' := begins ▸ typed'.form_of_same same
  cases form with
  | joined operator' typedLeft typedRight =>
    rw [Operator.display_apply, Operator.display_apply] at same
    obtain ⟨rfl, behindLeft⟩ :=
      unambiguousLeft typedLeft closes_blank closes_blank (List.cons.inj same).2
    obtain ⟨rfl, behindOperator⟩ := Operator.symbol_append_inj (List.cons.inj behindLeft).2
    obtain ⟨rfl, behindRight⟩ :=
      unambiguousRight typedRight closes_parenthesis closes_parenthesis behindOperator
    exact ⟨rfl, (List.cons.inj behindRight).2⟩

theorem display_length (operand : Expression) :
    (length operand).display.toList ++ rest =
      operand.display.toList ++ '.' :: ("length".toList ++ rest) := by
  simp [display, String.toList_append]

/-- A text test is written behind its subject, its argument in parentheses. -/
theorem display_test (kind : TextTest) (subject argument : Expression) :
    (test kind subject argument).display.toList ++ rest =
      subject.display.toList ++
        '.' :: (kind.member.toList ++ '(' :: (argument.display.toList ++ ')' :: rest)) := by
  simp [display, String.toList_append]

theorem not_closes_dot : ¬Closes ('.' :: rest) := by simp [Closes]

/-- Texts are told apart by what is written. -/
theorem HasType.unambiguous_text (typed : expression.HasType .string) : expression.Unambiguous := by
  intro expression' type' rest rest' typed' closes closes' same
  have form : Form .subject expression' := typed.beginning_eq_subject ▸ typed'.form_of_same same
  cases form with
  | text typed' => exact typed.text_append_inj typed' same
  | length operand =>
    rw [display_length] at same
    obtain ⟨-, rfl⟩ := typed.text_append_inj operand same
    exact absurd closes not_closes_dot
  | test kind subject argument =>
    rw [display_test] at same
    obtain ⟨-, rfl⟩ := typed.text_append_inj subject same
    exact absurd closes not_closes_dot

theorem HasType.unambiguous_length (typed : expression.HasType .string) :
    (Expression.length expression).Unambiguous := by
  intro expression' type' rest rest' typed' closes closes' same
  have begins : (Expression.length expression).beginning = .subject := typed.beginning_eq_subject
  have form : Form .subject expression' := begins ▸ typed'.form_of_same same
  rw [display_length] at same
  cases form with
  | text typed' =>
    obtain ⟨-, rfl⟩ := typed.text_append_inj typed' same
    exact absurd closes' not_closes_dot
  | length operand =>
    rw [display_length] at same
    obtain ⟨rfl, behind⟩ := typed.text_append_inj operand same
    exact ⟨rfl, List.append_cancel_left (List.cons.inj behind).2⟩
  | test kind subject argument =>
    rw [display_test] at same
    obtain ⟨-, behind⟩ := typed.text_append_inj subject same
    exact absurd (List.cons.inj behind).2 kind.member_ne_length

/-- A text test is told from all others if its argument is. -/
theorem HasType.unambiguous_test (kind : TextTest) {argument : Expression}
    (typed : expression.HasType .string) (unambiguous : argument.Unambiguous) :
    (Expression.test kind expression argument).Unambiguous := by
  intro expression' type' rest rest' typed' closes closes' same
  have begins : (Expression.test kind expression argument).beginning = .subject :=
    typed.beginning_eq_subject
  have form : Form .subject expression' := begins ▸ typed'.form_of_same same
  rw [display_test] at same
  cases form with
  | text typed' =>
    obtain ⟨-, rfl⟩ := typed.text_append_inj typed' same
    exact absurd closes' not_closes_dot
  | length operand =>
    rw [display_length] at same
    obtain ⟨-, behind⟩ := typed.text_append_inj operand same
    exact absurd (List.cons.inj behind).2.symm kind.member_ne_length
  | test kind' subject argument' =>
    rw [display_test] at same
    obtain ⟨rfl, behind⟩ := typed.text_append_inj subject same
    obtain ⟨rfl, opened⟩ := TextTest.member_append_inj (List.cons.inj behind).2
    obtain ⟨rfl, closed⟩ := unambiguous argument' closes_parenthesis closes_parenthesis opened
    exact ⟨rfl, (List.cons.inj closed).2⟩

/-- All typed expressions are told apart by what is written. -/
theorem HasType.unambiguous (typed : expression.HasType type) : expression.Unambiguous := by
  induction typed with
  | literal value =>
    cases value with
    | integer number => exact unambiguous_number number
    | string text => exact HasType.unambiguous_text (.literal _)
    | boolean truth => exact unambiguous_boolean truth
  | messageText => exact HasType.unambiguous_text .messageText
  | length typed _ => exact typed.unambiguous_length
  | not _ operand => exact operand.not
  | and _ _ left right => exact left.joined .and right rfl
  | or _ _ left right => exact left.joined .or right rfl
  | @ordering comparison _ _ _ _ _ left right
  | @equality comparison _ _ _ _ _ _ _ _ left right =>
    exact left.joined (.comparison comparison) right rfl
  | test kind typed _ _ argument => exact typed.unambiguous_test kind argument

end Expression

/-! ### Previews -/

variable {source source' : String} {scope scope' : Scope} {condition condition' : Expression}

/-- A branch is described by its condition and its two answers. -/
theorem describe_branch (condition : Expression) (ifTrue ifFalse : String) :
    (Action.branch condition ifTrue ifFalse).describe =
      "if " ++ condition.display ++ " send " ++ Text.quoted ifTrue ++ " else send " ++
        Text.quoted ifFalse := rfl

/-- Conditions that are written alike are the same, whatever texts they were read from and whatever was
bound where they were read; so of two actions that a preview describes alike and that decide by a
condition, both decide by the same one, between the same texts. -/
theorem written_alike (read : parse source scope = .ok condition)
    (read' : parse source' scope' = .ok condition') :
    (condition.display = condition'.display →
      condition = condition' ∧ ∀ text, condition.holds text = condition'.holds text) ∧
    ∀ ifTrue ifFalse ifTrue' ifFalse',
      (Action.branch condition ifTrue ifFalse).describe =
          (Action.branch condition' ifTrue' ifFalse').describe →
        condition = condition' ∧ ifTrue = ifTrue' ∧ ifFalse = ifFalse' := by
  have unambiguous := (hasType_of_parse read).unambiguous
  have typed' := hasType_of_parse read'
  constructor
  · intro same
    have written : condition.display.toList ++ [] = condition'.display.toList ++ [] := by rw [same]
    obtain ⟨rfl, -⟩ := unambiguous typed' closes_nil closes_nil written
    exact ⟨rfl, fun _ => rfl⟩
  · intro ifTrue ifFalse ifTrue' ifFalse' same
    have sends : " send ".toList = ' ' :: "send ".toList := rfl
    have written := congrArg String.toList same
    simp only [describe_branch, String.toList_append, List.append_assoc, sends,
      List.cons_append] at written
    obtain ⟨rfl, behind⟩ :=
      unambiguous typed' closes_blank closes_blank (List.append_cancel_left written)
    have first := List.append_cancel_left (List.cons.inj behind).2
    obtain ⟨rfl, otherwise⟩ := Text.quoted_append_inj first
    have second : (Text.quoted ifFalse).toList ++ [] = (Text.quoted ifFalse').toList ++ [] := by
      rw [List.append_cancel_left otherwise]
    exact ⟨rfl, rfl, (Text.quoted_append_inj second).1⟩

/-- The text is not the value. -/
def unlike (value : Value) : Expression := .not (.compare .equal .messageText (.literal value))

/-- The text of the message may be compared with a name that is bound to no truth value. -/
theorem parse_unlike {value : Value} (found : scope.find? "low" = some value)
    (other : value.type ≠ .boolean) : parse "!(msg.text == low)" scope = .ok (unlike value) := by
  have low : Derives scope .term [.identifier "low"] 0 (.literal value) :=
    (Derives.atom (.bound (by decide) found)).toTerm
  have compared := (Derives.atom Atom.messageText).toTerm.comparison .equal low
  have inside := compared.unnegated.toConjunction.toDisjunction
  have whole := inside.parenthesized.toTerm.toNegation.negation.toConjunction.toDisjunction
  have equatable : Equatable .string value.type := .inr ⟨nofun, other⟩
  have typed : (unlike value).HasType .boolean :=
    .not (.equality rfl equatable .messageText (.literal value))
  have flat : (unlike value).height ≤ greatestDepth := by
    simp [unlike, Expression.height, greatestDepth]
  exact parse_eq_ok_iff_derives.mpr ⟨⟨'!', by decide, by decide⟩, by decide, _,
    eq_ok_of_toOption (by decide +kernel), _, whole, typed, by decide, flat⟩

/-- A number and a text of the same digits are told apart, though the conditions hold alike. -/
theorem written_alike_digits :
    parse "!(msg.text == low)" (Scope.empty.bind "low" (.integer (-7))) =
        .ok (unlike (.integer (-7))) ∧
      parse "!(msg.text == low)" (Scope.empty.bind "low" (.string "-7")) =
        .ok (unlike (.string "-7")) ∧
      (unlike (.integer (-7))).display ≠ (unlike (.string "-7")).display := by
  have number : parse "!(msg.text == low)" (Scope.empty.bind "low" (.integer (-7))) = _ :=
    parse_unlike (Scope.find?_bind_self _ _ _) nofun
  have digits : parse "!(msg.text == low)" (Scope.empty.bind "low" (.string "-7")) = _ :=
    parse_unlike (Scope.find?_bind_self _ _ _) nofun
  refine ⟨number, digits, fun same => ?_⟩
  obtain ⟨alike, -⟩ := (written_alike number digits).1 same
  cases alike

end BotHost.Condition
