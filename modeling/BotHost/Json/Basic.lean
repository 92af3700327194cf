/-
Structured values: null, booleans, numbers, texts, lists and objects. Objects list their fields in
ascending order of the keys, each key once, so equal objects are equal values.
-/

import BotHost.Number.Binary64

namespace BotHost

/-- A number is a whole number of at most 64 bits or a floating-point number; `1` and `1.0` differ. -/
inductive Number where
  | integer (value : Int)
  | real (value : Binary64)
deriving DecidableEq, Repr, Inhabited

inductive Json where
  | protected null
  | protected boolean (value : Bool)
  | protected number (value : Number)
  | protected text (value : String)
  | protected list (items : List Json)
  | protected object (fields : List (String × Json))
deriving Repr, Inhabited

namespace Json

mutual

/-- Equality of values is decided along their structure. -/
def equal : (first second : Json) → Bool
  | .null, .null => true
  | .boolean first, .boolean second => first == second
  | .number first, .number second => decide (first = second)
  | .text first, .text second => first == second
  | .list first, .list second => equalItems first second
  | .object first, .object second => equalFields first second
  | _, _ => false

def equalItems : (first second : List Json) → Bool
  | [], [] => true
  | first :: firstRest, second :: secondRest =>
    equal first second && equalItems firstRest secondRest
  | _, _ => false

def equalFields : (first second : List (String × Json)) → Bool
  | [], [] => true
  | (firstKey, first) :: firstRest, (secondKey, second) :: secondRest =>
    firstKey == secondKey && equal first second && equalFields firstRest secondRest
  | _, _ => false

end

mutual

theorem equal_iff : ∀ first second : Json, equal first second = true ↔ first = second
  | .null, second => by cases second <;> simp [equal]
  | .boolean _, second => by cases second <;> simp [equal]
  | .number _, second => by cases second <;> simp [equal]
  | .text _, second => by cases second <;> simp [equal]
  | .list first, second => by
    cases second <;> simp [equal, equalItems_iff first]
  | .object first, second => by
    cases second <;> simp [equal, equalFields_iff first]

theorem equalItems_iff : ∀ first second : List Json,
    equalItems first second = true ↔ first = second
  | [], second => by cases second <;> simp [equalItems]
  | first :: firstRest, second => by
    cases second <;> simp [equalItems, equal_iff first, equalItems_iff firstRest]

theorem equalFields_iff : ∀ first second : List (String × Json),
    equalFields first second = true ↔ first = second
  | [], second => by cases second <;> simp [equalFields]
  | (key, first) :: firstRest, second => by
    cases second with
    | nil => simp [equalFields]
    | cons head secondRest =>
      obtain ⟨secondKey, second⟩ := head
      simp [equalFields, equal_iff first, equalFields_iff firstRest, and_assoc]

end

instance : DecidableEq Json := fun first second =>
  decidable_of_iff (equal first second = true) (equal_iff first second)

/-! ### Objects -/

/-- Puts a field at its place in ascending order, replacing the value of a key that is there. -/
def insertField (key : String) (value : Json) : List (String × Json) → List (String × Json)
  | [] => [(key, value)]
  | (other, present) :: rest =>
    if key < other then (key, value) :: (other, present) :: rest
    else if key = other then (key, value) :: rest
    else (other, present) :: insertField key value rest

/-- The value of a key. -/
def lookup (key : String) : List (String × Json) → Option Json
  | [] => none
  | (other, value) :: rest => if key = other then some value else lookup key rest

theorem lookup_insertField_self (key : String) (value : Json) (fields : List (String × Json)) :
    lookup key (insertField key value fields) = some value := by
  induction fields with
  | nil => simp [insertField, lookup]
  | cons head rest inductionHypothesis =>
    obtain ⟨other, present⟩ := head
    unfold insertField
    split
    · simp [lookup]
    · split
      · simp [lookup]
      · rename_i different
        simp [lookup, different, inductionHypothesis]

theorem lookup_insertField_other (key other : String) (value : Json)
    (fields : List (String × Json)) (different : other ≠ key) :
    lookup other (insertField key value fields) = lookup other fields := by
  induction fields with
  | nil => simp [insertField, lookup, different]
  | cons head rest inductionHypothesis =>
    obtain ⟨present, _⟩ := head
    unfold insertField
    split
    · simp [lookup, different]
    · split
      · rename_i same
        subst same
        simp [lookup, different]
      · simp [lookup, inductionHypothesis]

/-- The object with these fields; of a repeated key the last value stays. -/
def ofFields (fields : List (String × Json)) : Json :=
  .object (fields.foldl (fun sorted field => insertField field.1 field.2 sorted) [])

/-- The value of a key of an object; nothing for any other value. -/
def field? (key : String) : Json → Option Json
  | .object fields => lookup key fields
  | _ => none

/-- A whole number. -/
def ofInt (value : Int) : Json := .number (.integer value)

/-- A count. -/
def ofNat (value : Nat) : Json := .number (.integer value)

/-- A text, or null for none. -/
def ofText? : Option String → Json
  | some value => .text value
  | none => .null

mutual

/-- The same value with the fields of every object in ascending order and without repeats. -/
def sorted : Json → Json
  | .list items => .list (sortedItems items)
  | .object fields => .object (sortedFields fields [])
  | other => other

def sortedItems : List Json → List Json
  | [] => []
  | item :: rest => sorted item :: sortedItems rest

/-- Puts the fields, each sorted itself, into those already in order. -/
def sortedFields : List (String × Json) → List (String × Json) → List (String × Json)
  | [], done => done
  | (key, value) :: rest, done => sortedFields rest (insertField key (sorted value) done)

end

end Json

end BotHost
