/-
What a condition says about a message text. Evaluation is total: the branches for operands of the
wrong type give a value too, and no expression that was read reaches them.
-/

import BotHost.Condition.Expression
import BotHost.Text.Search

namespace BotHost.Condition

/-- Equality of values; a whole number equals a string that is its decimal text. -/
def looseEqual : (left right : Value) → Bool
  | .integer number, .string text | .string text, .integer number => text == toString number
  | left, right => left == right

/-- Whether two numbers stand in the order asked for. -/
def Comparison.holdsInOrder (comparison : Comparison) (left right : Int) : Bool :=
  match comparison with
  | .less => left < right
  | .atMost => left ≤ right
  | .greater => left > right
  | .atLeast => left ≥ right
  | .equal | .unequal => false

def Comparison.holds (comparison : Comparison) (left right : Value) : Bool :=
  match comparison with
  | .equal => looseEqual left right
  | .unequal => !looseEqual left right
  | ordering =>
    match left, right with
    | .integer left, .integer right => ordering.holdsInOrder left right
    | _, _ => false

def TextTest.holds (test : TextTest) (subject argument : String) : Bool :=
  match test with
  | .contains => Text.occursIn argument.toList subject.toList
  | .startsWith => argument.toList.isPrefixOf subject.toList
  | .endsWith => argument.toList.isSuffixOf subject.toList

/-- Only the value true holds. -/
def Value.holds : Value → Bool
  | .boolean value => value
  | _ => false

namespace Expression

/-- The value on a message text. -/
def value (text : String) : Expression → Value
  | .literal value => value
  | .messageText => .string text
  | .length operand =>
    match operand.value text with
    | .string value => .integer (Text.units16 value)
    | _ => .integer 0
  | .not operand => .boolean !(operand.value text).holds
  | .and left right => .boolean ((left.value text).holds && (right.value text).holds)
  | .or left right => .boolean ((left.value text).holds || (right.value text).holds)
  | .compare comparison left right =>
    .boolean (comparison.holds (left.value text) (right.value text))
  | .test kind subject argument =>
    match subject.value text, argument.value text with
    | .string subject, .string argument => .boolean (kind.holds subject argument)
    | _, _ => .boolean false

/-- Whether the condition holds of a message text. -/
def holds (expression : Expression) (text : String) : Bool :=
  (expression.value text).holds

end Expression

end BotHost.Condition
