/-
Actions: what a handler does once its matcher accepts an event.

An action is the list of calls it makes. Every call of it is attempted, whatever became of those
before, and it fails with the first failure among them.
-/

import BotHost.Condition.Evaluation
import BotHost.Event
import BotHost.Outbound
import BotHost.Text.Quoted

namespace BotHost

inductive Action where
  | sendText (text : String)
  | sendKeyboard (text : String) (rows : ButtonRows)
  | sendPhoto (url caption : String)
  | answerCallback (text : String)
  | branch (condition : Condition.Expression) (ifTrue ifFalse : String)
deriving DecidableEq, Repr

namespace Action

/-- The calls that the action makes in reply to an event, in order. -/
def calls (event : Event) : Action → List Call
  | .sendText text => [.message event.chat text]
  | .sendKeyboard text rows => [.keyboard event.chat text rows]
  | .sendPhoto url caption => [.photo event.chat url caption]
  | .answerCallback text =>
    match event with
    | .callback callback => [.callbackAnswer callback.id, .message event.chat text]
    | .message _ => [.message event.chat text]
  | .branch condition ifTrue ifFalse =>
    [.message event.chat (if condition.holds event.textOrEmpty then ifTrue else ifFalse)]

/-- The effect in words. -/
def describe : Action → String
  | .sendText text => "send " ++ Text.quoted text
  | .sendKeyboard text rows =>
    "send " ++ Text.quoted text ++ " with keyboard [" ++
      " / ".intercalate (rows.map (" | ".intercalate ·)) ++ "]"
  | .sendPhoto url caption => "send photo " ++ url ++ " captioned " ++ Text.quoted caption
  | .answerCallback text => "answer callback, send " ++ Text.quoted text
  | .branch condition ifTrue ifFalse =>
    "if " ++ condition.display ++ " send " ++ Text.quoted ifTrue ++ " else send " ++
      Text.quoted ifFalse

end Action

end BotHost
