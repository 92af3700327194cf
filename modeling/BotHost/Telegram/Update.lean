/-
Updates: what the Telegram Bot API hands to a bot that asks for news. Only messages and pressed
buttons are told apart; an update of any other kind has no event.
-/

import BotHost.Event
import BotHost.Telegram.Reply

namespace BotHost.Telegram

/-- A user, or the bot itself. -/
structure User where
  id : Int
  username : Option String
deriving DecidableEq, Repr

def User.ofJson? (value : Json) : Option User := do
  let [id, username] ← uniqueRecord? ["id", "username"] value | none
  let id ← Json.required? Json.asSigned? id
  let username ← optional? Json.asText? username
  some ⟨id, username⟩

/-- The identifier of a chat. -/
def chatOfJson? (value : Json) : Option Int := do
  let [id] ← uniqueRecord? ["id"] value | none
  Json.required? Json.asSigned? id

def messageOfJson? (value : Json) : Option Message := do
  let [id, chat, text] ← uniqueRecord? ["message_id", "chat", "text"] value | none
  let id ← Json.required? Json.asSigned? id
  let chat ← Json.required? chatOfJson? chat
  let text ← optional? Json.asText? text
  some ⟨chat, some id, text⟩

/-- A pressed button. If the message that it belongs to is not known, its chat is the private one of
whoever pressed it. -/
def callbackOfJson? (value : Json) : Option Callback := do
  let [id, presser, message, data] ←
    uniqueRecord? ["id", "from", "message", "data"] value | none
  let id ← Json.required? Json.asText? id
  let presser ← Json.required? User.ofJson? presser
  let message ← optional? messageOfJson? message
  let data ← optional? Json.asText? data
  some ⟨id, (message.map Message.chat).getD presser.id, data⟩

structure Update where
  id : Int
  event : Option Event
deriving DecidableEq, Repr

/-- An update with both a message and a pressed button counts as the message. -/
def Update.ofJson? (value : Json) : Option Update := do
  let [id, message, callback] ←
    uniqueRecord? ["update_id", "message", "callback_query"] value | none
  let id ← Json.required? Json.asSigned? id
  let message ← optional? messageOfJson? message
  let callback ← optional? callbackOfJson? callback
  some ⟨id, (message.map Event.message).or (callback.map Event.callback)⟩

/-- A batch of updates. -/
def updatesOfJson? (value : Json) : Option (List Update) :=
  value.asListOf? Update.ofJson?

end BotHost.Telegram
