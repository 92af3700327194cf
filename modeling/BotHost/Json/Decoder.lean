/-
Taking structured values apart.

A record is written as an object or as the list of its fields in order. Fields that it does not have
are ignored in an object and refused in a list; a missing field gets its default, if it has one.
-/

import BotHost.Json.Basic

namespace BotHost.Json

def asText? : Json → Option String
  | .text value => some value
  | _ => none

def asBoolean? : Json → Option Bool
  | .boolean value => some value
  | _ => none

def asList? : Json → Option (List Json)
  | .list items => some items
  | _ => none

def asObject? : Json → Option (List (String × Json))
  | .object fields => some fields
  | _ => none

/-- A whole number within bounds; a floating-point number is none, even without a fraction. -/
def asInteger? (least greatest : Int) : Json → Option Int
  | .number (.integer value) => if least ≤ value ∧ value ≤ greatest then some value else none
  | _ => none

/-- A whole number of 64 bits with a sign. -/
def asSigned? : Json → Option Int :=
  asInteger? (-0x8000000000000000) 0x7fffffffffffffff

/-- A whole number of 64 bits without a sign. -/
def asUnsigned? (value : Json) : Option Nat :=
  (asInteger? 0 0xffffffffffffffff value).map Int.toNat

/-- The name of a case without content: a text, or an object whose only field has that name and
holds nothing. -/
def asCaseName? : Json → Option String
  | .text name => some name
  | .object [(name, .null)] => some name
  | _ => none

/-- Null for nothing, or a value. -/
def asNullable? {α : Type} (decode : Json → Option α) : Json → Option (Option α)
  | .null => some none
  | value => (decode value).map some

/-- A list of which every item can be decoded. -/
def asListOf? {α : Type} (decode : Json → Option α) (value : Json) : Option (List α) := do
  (← value.asList?).mapM decode

/-! ### Records -/

/-- The fields of these names, in this order, missing ones as nothing. -/
def asRecord? (names : List String) : Json → Option (List (Option Json))
  | .object fields => some (names.map fun name => lookup name fields)
  | .list items =>
    if items.length ≤ names.length then
      some (items.map some ++ List.replicate (names.length - items.length) none)
    else none
  | _ => none

/-- A field that must be there. -/
def required? {α : Type} (decode : Json → Option α) : Option Json → Option α
  | some value => decode value
  | none => none

/-- A field with a default. -/
def orDefault? {α : Type} (default : α) (decode : Json → Option α) : Option Json → Option α
  | some value => decode value
  | none => some default

end BotHost.Json
