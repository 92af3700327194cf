/-
Blocks: the units of bot logic, as the visual builder writes them. A block has an identifier, a kind
and free-form fields; a list of blocks is a bot's whole logic, and its order is the order in which
the handlers made from it react.
-/

import BotHost.Json.Decoder
import BotHost.Json.Writer

namespace BotHost

/-- The vocabulary of block kinds. Names outside it are kept, so that a configuration that contains
one can still be read. -/
inductive BlockKind where
  | start
  | command
  | message
  | keyboard
  | button
  | photo
  | condition
  | variable
  | unknown (name : String)
deriving DecidableEq, Repr

namespace BlockKind

/-- The kinds of the vocabulary. -/
def known : List BlockKind :=
  [.start, .command, .message, .keyboard, .button, .photo, .condition, .variable]

def name : BlockKind → String
  | .start => "start"
  | .command => "command"
  | .message => "message"
  | .keyboard => "keyboard"
  | .button => "button"
  | .photo => "photo"
  | .condition => "condition"
  | .variable => "variable"
  | .unknown name => name

/-- The kind that a name stands for. -/
def ofName (name : String) : BlockKind :=
  match known.find? fun kind => kind.name == name with
  | some kind => kind
  | none => .unknown name

def isKnown : BlockKind → Bool
  | .unknown _ => false
  | _ => true

end BlockKind

structure Block where
  id : String
  kind : BlockKind
  data : List (String × Json)
deriving DecidableEq, Repr

namespace Block

def ofJson? (value : Json) : Option Block := do
  let [id, kind, data] ← value.asRecord? ["id", "type", "data"] | none
  let id ← Json.required? Json.asText? id
  let kind ← Json.required? Json.asText? kind
  let data ← Json.orDefault? [] Json.asObject? data
  some ⟨id, .ofName kind, data⟩

def toJson (block : Block) : Json :=
  .object [("data", .object block.data), ("id", .text block.id), ("type", .text block.kind.name)]

/-- The value of a field. -/
def field? (block : Block) (key : String) : Option Json :=
  Json.lookup key block.data

/-- A field as text: strings that are not empty, numbers and booleans. Everything else counts as not
filled in. -/
def text? (block : Block) (key : String) : Option String :=
  match block.field? key with
  | some (.text value) => if value.isEmpty then none else some value
  | some (.number value) => some value.write
  | some (.boolean value) => some (if value then "true" else "false")
  | _ => none

/-- A field as text, or a default where it is not filled in. -/
def textOr (block : Block) (key default : String) : String :=
  (block.text? key).getD default

end Block

end BotHost
