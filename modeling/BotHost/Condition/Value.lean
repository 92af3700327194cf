/-
The values that conditions compute with, their types, and the variables a condition may name.
-/

import BotHost.Json.Writer
import BotHost.Text.Alphabetic
import BotHost.Text.Numeric
import BotHost.Text.Quoted

namespace BotHost.Condition

inductive ValueType where
  | integer
  | string
  | boolean
deriving DecidableEq, Repr

/-- The name of the type in messages. -/
def ValueType.name : ValueType → String
  | .integer => "integer"
  | .string => "string"
  | .boolean => "boolean"

inductive Value where
  | integer (value : Int)
  | string (value : String)
  | boolean (value : Bool)
deriving DecidableEq, Repr

namespace Value

def type : Value → ValueType
  | .integer _ => .integer
  | .string _ => .string
  | .boolean _ => .boolean

/-- The value as it is written in a condition. -/
def display : Value → String
  | .integer value => toString value
  | .string value => Text.quoted value
  | .boolean true => "true"
  | .boolean false => "false"

/-- Whole numbers of the language have 64 bits with a sign. -/
def fitsInteger (value : Int) : Bool :=
  -0x8000000000000000 ≤ value && value < 0x8000000000000000

/-- The value of a field. Whole numbers that fit and booleans keep their kind, null is the empty
string, and everything else becomes its text. -/
def ofJson : Json → Value
  | .boolean value => .boolean value
  | .number (.integer value) =>
    if fitsInteger value then .integer value else .string (Number.integer value).write
  | .number (.real value) => .string (Number.real value).write
  | .text value => .string value
  | .null => .string ""
  | other => .string other.write

end Value

/-! ### Variables -/

/-- The variables bound so far, each name once. -/
structure Scope where
  bindings : List (String × Value)
deriving Repr

namespace Scope

def empty : Scope := ⟨[]⟩

/-- Binds a name, replacing an earlier binding of it. -/
def bind (scope : Scope) (name : String) (value : Value) : Scope :=
  ⟨(name, value) :: scope.bindings.filter fun binding => binding.1 != name⟩

/-- The value a name is bound to. -/
def find? (scope : Scope) (name : String) : Option Value :=
  (scope.bindings.find? fun binding => binding.1 == name).map Prod.snd

/-- How many names are bound. -/
def size (scope : Scope) : Nat := scope.bindings.length

theorem find?_bind_self (scope : Scope) (name : String) (value : Value) :
    (scope.bind name value).find? name = some value := by
  simp [bind, find?]

theorem find?_bind_other (scope : Scope) (name other : String) (value : Value)
    (different : other ≠ name) : (scope.bind name value).find? other = scope.find? other := by
  have unequal : (name == other) = false := by simp [Ne.symm different]
  simp only [bind, find?, List.find?_cons, unequal, List.find?_filter]
  congr 2
  funext binding
  by_cases same : binding.1 = other
  · simp [same, different]
  · simp [same]

end Scope

/-- Whether a character may begin a name. -/
def beginsName (character : Char) : Bool :=
  Text.isAlphabetic character || character == '_' || character == '$'

/-- Whether a character may go on with a name. -/
def continuesName (character : Char) : Bool :=
  Text.isAlphabetic character || Text.isNumeric character || character == '_' || character == '$'

/-- The names that the language keeps for itself. -/
def reservedNames : List String := ["msg", "true", "false"]

/-- Whether a variable may have this name and be referred to by it. -/
def isVariableName (name : String) : Bool :=
  match name.toList with
  | [] => false
  | first :: rest =>
    beginsName first && rest.all continuesName && !reservedNames.contains name

end BotHost.Condition
