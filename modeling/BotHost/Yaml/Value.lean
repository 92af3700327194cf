/-
The values of YAML documents. A plain scalar is null, a boolean or a number if it is written like one,
and any other scalar is a text. The standard tags ask for one of these, and other tags are refused.
-/

import BotHost.Yaml.Node

namespace BotHost.Yaml

/-! ### Plain scalars -/

def isNull (text : String) : Bool :=
  ["null", "Null", "NULL", "~"].contains text

def boolean? (text : String) : Option Bool :=
  if ["true", "True", "TRUE"].contains text then some true
  else if ["false", "False", "FALSE"].contains text then some false
  else none

/-- Digits that begin with a zero are no number but a text. -/
def isZeroPadded (text : List Char) : Bool :=
  match (Binary64.splitSign text).2 with
  | '0' :: rest => !rest.isEmpty && rest.all Char.isDigit
  | _ => false

/-- The value of a row of digits that is not empty. -/
def natural? (base : Nat) (digits : List Char) : Option Nat :=
  if !digits.isEmpty && digits.all fun digit => (Json.hexValue? digit).any (· < base) then
    some (digitsValue base digits)
  else none

/-- A whole number: a sign, a base, and digits. -/
def whole? (text : List Char) : Option Int :=
  let (negative, digits) := Binary64.splitSign text
  let magnitude? := match digits with
    | '0' :: 'x' :: rest => natural? 16 rest
    | '0' :: 'o' :: rest => natural? 8 rest
    | '0' :: 'b' :: rest => natural? 2 rest
    | _ => if isZeroPadded text then none else natural? 10 digits
  magnitude?.map fun magnitude => if negative then -magnitude else magnitude

/-- Whole numbers from here to there are numbers of 64 bits. -/
def least : Int := -0x8000000000000000

def greatest : Int := 0xffffffffffffffff

/-- Whole numbers of up to 128 bits are no floating-point numbers. -/
def isWide (value : Int) : Bool :=
  -0x80000000000000000000000000000000 ≤ value && value < 0x100000000000000000000000000000000

def real? (text : String) : Option Binary64 :=
  if [".inf", ".Inf", ".INF", "+.inf", "+.Inf", "+.INF"].contains text then
    some (.ofFloat (1.0 / 0.0))
  else if ["-.inf", "-.Inf", "-.INF"].contains text then some (.ofFloat (-1.0 / 0.0))
  else if [".nan", ".NaN", ".NAN"].contains text then some (.ofFloat (0.0 / 0.0))
  else (Binary64.ofText? text.toList).filter Binary64.isFinite

/-- A whole number, if it has at most 128 bits; one that needs more than 64 has no value. -/
def number? (text : String) : Option (Option Json) :=
  match whole? text.toList with
  | some value =>
    if least ≤ value ∧ value ≤ greatest then some (some (.ofInt value))
    else if isWide value then some none
    else none
  | none => none

/-- The value of a plain scalar. -/
def plain? (text : String) : Option Json :=
  if text.isEmpty || isNull text then some .null
  else
    match boolean? text with
    | some value => some (.boolean value)
    | none =>
      match number? text with
      | some value => value
      | none =>
        if isZeroPadded text.toList then some (.text text)
        else
          match real? text with
          | some value => some (.number (.real value))
          | none => some (.text text)

/-! ### Tags -/

/-- The value of a scalar with a tag. -/
def tagged? (tag text : String) : Option Json :=
  match tag with
  | "tag:yaml.org,2002:bool" => (boolean? text).map .boolean
  | "tag:yaml.org,2002:int" => (number? text).join
  | "tag:yaml.org,2002:float" => (real? text).map fun value => .number (.real value)
  | "tag:yaml.org,2002:null" => if isNull text then some .null else none
  | _ => if tag.startsWith "!" then none else some (.text text)

def scalar? (text : String) (plain : Bool) : Option String → Option Json
  | some tag => tagged? tag text
  | none => if plain then plain? text else some (.text text)

/-- Whether a collection may have this tag. -/
def allows : Option String → Bool
  | some tag => !tag.startsWith "!"
  | none => true

/-! ### Documents -/

/-- The text of a key. -/
def keyText? : Node → Option String
  | .scalar text _ _ => some text
  | _ => none

mutual

def Node.toJson? : Node → Option Json
  | .scalar text plain tag => scalar? text plain tag
  | .sequence items tag =>
    if allows tag then (itemsJson? items).map .list else none
  | .mapping pairs tag =>
    if allows tag then (pairsJson? pairs).map .ofFields else none

def itemsJson? : List Node → Option (List Json)
  | [] => some []
  | item :: rest => do
    let item ← item.toJson?
    let rest ← itemsJson? rest
    some (item :: rest)

def pairsJson? : List (Node × Node) → Option (List (String × Json))
  | [] => some []
  | (key, value) :: rest => do
    let key ← keyText? key
    let value ← value.toJson?
    let rest ← pairsJson? rest
    some ((key, value) :: rest)

end

/-- Reads a stream whose document is a mapping, or in which there is none. -/
def read? (text : String) : Option Json := do
  match ← document? (← tokens? text) with
  | none => some (.object [])
  | some (.mapping pairs _) => (pairsJson? pairs).map .ofFields
  | some (.scalar text plain _) => if text.isEmpty && plain then some (.object []) else none
  | some (.sequence _ _) => none

end BotHost.Yaml
