/-
What a bot is told: messages posted in a chat and presses of inline buttons.
-/

import BotHost.Json.Decoder

namespace BotHost

/-- A message; without a text if it is made of media only. -/
structure Message where
  chat : Int
  messageId : Option Int
  text : Option String
deriving DecidableEq, Repr

/-- A pressed button, and the data attached to it. -/
structure Callback where
  id : String
  chat : Int
  data : Option String
deriving DecidableEq, Repr

inductive Event where
  | protected message (message : Message)
  | protected callback (callback : Callback)
deriving DecidableEq, Repr

/-- Whether the message text begins with a slash. -/
def Message.isCommand (message : Message) : Bool :=
  match message.text with
  | some text => text.toList.head? == some '/'
  | none => false

namespace Event

/-- A text message. -/
def ofText (chat : Int) (text : String) : Event :=
  .message ⟨chat, none, some text⟩

/-- The chat that replies go to. -/
def chat : Event → Int
  | .message message => message.chat
  | .callback callback => callback.chat

def kindName : Event → String
  | .message _ => "message"
  | .callback _ => "callback"

/-- The text of a message; empty where there is none. -/
def textOrEmpty : Event → String
  | .message message => message.text.getD ""
  | .callback _ => ""

def toJson : Event → Json
  | .message message => .object [
      ("chat_id", .ofInt message.chat),
      ("kind", .text "message"),
      ("message_id", match message.messageId with
        | some id => .ofInt id
        | none => .null),
      ("text", .ofText? message.text)]
  | .callback callback => .object [
      ("chat_id", .ofInt callback.chat),
      ("data", .ofText? callback.data),
      ("id", .text callback.id),
      ("kind", .text "callback")]

def messageOfJson? (value : Json) : Option Message := do
  let [chat, messageId, text] ← value.asRecord? ["chat_id", "message_id", "text"] | none
  let chat ← Json.required? Json.asSigned? chat
  let messageId ← Json.orDefault? none (Json.asNullable? Json.asSigned?) messageId
  let text ← Json.orDefault? none (Json.asNullable? Json.asText?) text
  some ⟨chat, messageId, text⟩

def callbackOfJson? (value : Json) : Option Callback := do
  let [id, chat, data] ← value.asRecord? ["id", "chat_id", "data"] | none
  let id ← Json.required? Json.asText? id
  let chat ← Json.required? Json.asSigned? chat
  let data ← Json.orDefault? none (Json.asNullable? Json.asText?) data
  some ⟨id, chat, data⟩

/-- The event of a kind, from a record without the kind. -/
def ofKind? (kind : String) (value : Json) : Option Event :=
  match kind with
  | "message" => (messageOfJson? value).map .message
  | "callback" => (callbackOfJson? value).map .callback
  | _ => none

/-- The kind stands in a field of its own, or first in a list. -/
def ofJson? : Json → Option Event
  | .object fields => do ofKind? (← (← Json.lookup "kind" fields).asText?) (.object fields)
  | .list (kind :: rest) => do ofKind? (← kind.asText?) (.list rest)
  | _ => none

end Event

end BotHost
