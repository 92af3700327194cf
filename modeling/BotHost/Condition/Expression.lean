/-
Condition expressions: boolean formulas over one message text. Variables are resolved when a
condition is read, so an expression holds only constants and the message text itself.
-/

import BotHost.Condition.Value

namespace BotHost.Condition

inductive Comparison where
  | equal
  | unequal
  | less
  | atMost
  | greater
  | atLeast
deriving DecidableEq, Repr

namespace Comparison

def symbol : Comparison → String
  | .equal => "=="
  | .unequal => "!="
  | .less => "<"
  | .atMost => "<="
  | .greater => ">"
  | .atLeast => ">="

/-- Whether the comparison asks for an order and not only for equality. -/
def isOrdering : Comparison → Bool
  | .equal | .unequal => false
  | _ => true

end Comparison

/-- A test of one text against another. -/
inductive TextTest where
  | contains
  | startsWith
  | endsWith
deriving DecidableEq, Repr

/-- The member name that the test is written with. -/
def TextTest.member : TextTest → String
  | .contains => "includes"
  | .startsWith => "startsWith"
  | .endsWith => "endsWith"

inductive Expression where
  | literal (value : Value)
  | messageText
  | length (operand : Expression)
  | not (operand : Expression)
  | and (left right : Expression)
  | or (left right : Expression)
  | compare (comparison : Comparison) (left right : Expression)
  | test (kind : TextTest) (subject argument : Expression)
deriving DecidableEq, Repr

namespace Expression

/-- The type that the outermost operation gives. -/
def type : Expression → ValueType
  | .literal value => value.type
  | .messageText => .string
  | .length _ => .integer
  | .not _ | .and _ _ | .or _ _ | .compare _ _ _ | .test _ _ _ => .boolean

/-- The height of the tree. -/
def height : Expression → Nat
  | .literal _ | .messageText => 1
  | .length operand | .not operand => 1 + operand.height
  | .and left right | .or left right | .compare _ left right | .test _ left right =>
    1 + max left.height right.height

/-- The normal written form, with parentheses around every conjunction, disjunction and comparison. -/
def display : Expression → String
  | .literal value => value.display
  | .messageText => "msg.text"
  | .length operand => operand.display ++ ".length"
  | .not operand => "!" ++ operand.display
  | .and left right => "(" ++ left.display ++ " && " ++ right.display ++ ")"
  | .or left right => "(" ++ left.display ++ " || " ++ right.display ++ ")"
  | .compare comparison left right =>
    "(" ++ left.display ++ " " ++ comparison.symbol ++ " " ++ right.display ++ ")"
  | .test kind subject argument =>
    subject.display ++ "." ++ kind.member ++ "(" ++ argument.display ++ ")"

end Expression

end BotHost.Condition
