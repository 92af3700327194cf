/-
Layers of settings. A layer says something about some settings and nothing about the others. Laying
one over another unites tables key by key; of two values that are not both tables, the upper stays.
-/

import BotHost.Settings.Validation

namespace BotHost

namespace Json

/-- Lays a value over another. -/
def overlay (lower upper : Json) : Json :=
  match lower, upper with
  | .object lowerFields, .object upperFields => .object (overlayFields lowerFields upperFields)
  | _, upper => upper
where
  /-- Lays the fields of an object over those of another. -/
  overlayFields (lower : List (String × Json)) : (upper : List (String × Json)) →
      List (String × Json)
    | [] => lower
    | (key, value) :: rest =>
      let below := overlayFields lower rest
      match lookup key lower with
      | some present => insertField key (overlay present value) below
      | none => insertField key value below

/-- The layers laid over each other, the lowest first. -/
def overlayAll (layers : List Json) : Json :=
  layers.foldl overlay (.object [])

/-- Changes a field of an object, if it is there. -/
def changeField (key : String) (change : Json → Json) : Json → Json
  | .object fields =>
    .object (fields.map fun field => (field.1, if field.1 = key then change field.2 else field.2))
  | other => other

/-- Changes every item of a list. -/
def changeItems (change : Json → Json) : Json → Json
  | .list items => .list (items.map change)
  | other => other

mutual

/-- The value with a null for every number that is infinite or none. -/
def finite : Json → Json
  | .number (.real value) => if value.isFinite then .number (.real value) else .null
  | .list items => .list (finiteItems items)
  | .object fields => .object (finiteFields fields)
  | other => other

def finiteItems : List Json → List Json
  | [] => []
  | item :: rest => finite item :: finiteItems rest

def finiteFields : List (String × Json) → List (String × Json)
  | [] => []
  | (key, value) :: rest => (key, finite value) :: finiteFields rest

end

end Json

namespace Settings

/-- The data of a block as a layer may give them: null for none, and no number that is not finite. -/
def blockData : Json → Json
  | .null => .object []
  | data => data.finite

/-- The settings that layers add up to, the lowest first. -/
def ofLayers? (now : Moment) (layers : List Json) : Option Settings :=
  let block := Json.changeField "data" blockData
  let bot := Json.changeField "blocks" (Json.changeItems block)
  ofJson? now ((Json.overlayAll layers).changeField "bots" (Json.changeItems bot))

end Settings

end BotHost
