/-
Bots: the records that a store keeps. A record holds the bot's identifier, its display name, the
credential it connects with, its blocks, its status and the time it was made.
-/

import BotHost.Block
import BotHost.Text.Quoted
import BotHost.Time.Moment

namespace BotHost

/-- Where a bot stands: not running; running; or failed to start, or left by its session. -/
inductive BotStatus where
  | stopped
  | running
  | error
deriving DecidableEq, Repr

namespace BotStatus

def name : BotStatus → String
  | .stopped => "stopped"
  | .running => "running"
  | .error => "error"

/-- The name with a capital, as descriptions show it. -/
def title : BotStatus → String
  | .stopped => "Stopped"
  | .running => "Running"
  | .error => "Error"

def ofName? : String → Option BotStatus
  | "stopped" => some .stopped
  | "running" => some .running
  | "error" => some .error
  | _ => none

def toJson (status : BotStatus) : Json := .text status.name

def ofJson? (value : Json) : Option BotStatus := do ofName? (← value.asCaseName?)

end BotStatus

structure Bot where
  id : String
  name : String
  token : String
  blocks : List Block
  status : BotStatus
  createdAt : Moment
deriving DecidableEq, Repr

namespace Bot

/-- Reads a record; `now` is the time of a bot that names none. -/
def ofJson? (now : Moment) (value : Json) : Option Bot := do
  let [id, name, token, blocks, status, createdAt] ←
    value.asRecord? ["id", "name", "token", "blocks", "status", "created_at"] | none
  let id ← Json.required? Json.asText? id
  let name ← Json.required? Json.asText? name
  let token ← Json.required? Json.asText? token
  let blocks ← Json.orDefault? [] (Json.asListOf? Block.ofJson?) blocks
  let status ← Json.orDefault? .stopped BotStatus.ofJson? status
  let createdAt ← Json.orDefault? now (fun value => do Moment.parse? (← value.asText?)) createdAt
  some ⟨id, name, token, blocks, status, createdAt⟩

def toJson (bot : Bot) : Json :=
  .object [
    ("blocks", .list (bot.blocks.map Block.toJson)),
    ("created_at", .text bot.createdAt.write),
    ("id", .text bot.id),
    ("name", .text bot.name),
    ("status", bot.status.toJson),
    ("token", .text bot.token)]

/-- A description without the credential. -/
def describe (bot : Bot) : String :=
  "BotConfig \x7b id: " ++ Text.quoted bot.id ++ ", name: " ++ Text.quoted bot.name ++
    ", blocks: " ++ toString bot.blocks.length ++ ", status: " ++ bot.status.title ++
    ", created_at: " ++ bot.createdAt.write ++ ", .. \x7d"

end Bot

/-! ### Partial updates -/

/-- The fields of a bot that an update replaces. -/
structure BotPatch where
  name : Option String
  token : Option String
  blocks : Option (List Block)
deriving DecidableEq, Repr

namespace BotPatch

def ofJson? (value : Json) : Option BotPatch := do
  let [name, token, blocks] ← value.asRecord? ["name", "token", "blocks"] | none
  let name ← Json.orDefault? none (Json.asNullable? Json.asText?) name
  let token ← Json.orDefault? none (Json.asNullable? Json.asText?) token
  let blocks ←
    Json.orDefault? none (Json.asNullable? (Json.asListOf? Block.ofJson?)) blocks
  some ⟨name, token, blocks⟩

def toJson (patch : BotPatch) : Json :=
  .object [
    ("blocks", match patch.blocks with
      | some blocks => .list (blocks.map Block.toJson)
      | none => .null),
    ("name", .ofText? patch.name),
    ("token", .ofText? patch.token)]

/-- Whether the update changes nothing. -/
def isEmpty (patch : BotPatch) : Bool :=
  patch.name.isNone && patch.token.isNone && patch.blocks.isNone

end BotPatch

/-- The bot with the fields of an update. -/
def Bot.apply (bot : Bot) (patch : BotPatch) : Bot :=
  { bot with
    name := patch.name.getD bot.name
    token := patch.token.getD bot.token
    blocks := patch.blocks.getD bot.blocks }

end BotHost
