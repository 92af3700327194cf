/-
Handlers: a matcher with the action it leads to. A bot's handlers are an ordered list; all that
accept an event react to it, in that order.
-/

import BotHost.Handler.Action
import BotHost.Handler.Matcher

namespace BotHost

inductive HandlerKind where
  | command
  | trigger
  | fallback
  | callbackData
deriving DecidableEq, Repr

def HandlerKind.name : HandlerKind → String
  | .command => "command"
  | .trigger => "trigger"
  | .fallback => "fallback"
  | .callbackData => "callback_data"

/-- A handler names the block it was made from; the fallback was made from none. -/
structure Handler where
  kind : HandlerKind
  block : Option String
  matcher : Matcher
  action : Action
deriving DecidableEq, Repr

namespace Handler

/-- What a bot without usable blocks says. -/
def notConfiguredText : String :=
  "The bot is not configured yet. Add blocks in the builder."

/-- The handler of a bot without usable blocks. -/
def fallback : Handler :=
  ⟨.fallback, none, .anyMessage, .sendText notConfiguredText⟩

/-- Whether the handlers are the one fallback. -/
def isFallbackOnly : List Handler → Bool
  | [handler] => handler.kind == .fallback
  | _ => false

/-- A line of a preview: where the handler stands and, in words, what it does. -/
def summary (index : Nat) (handler : Handler) : Json :=
  .ofFields [
    ("index", .ofNat index),
    ("block_id", .ofText? handler.block),
    ("kind", .text handler.kind.name),
    ("matcher", .text handler.matcher.describe),
    ("action", .text handler.action.describe)]

/-- The preview of a list of handlers. -/
def summaries (handlers : List Handler) : List Json :=
  handlers.mapIdx summary

end Handler

end BotHost
