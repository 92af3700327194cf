/-
Outbound calls: what a bot tells a chat through its session, and the ways in which a session or its
transport can fail.
-/

import BotHost.Json.Basic

namespace BotHost

/-- Rows of button labels, from top to bottom and from left to right. -/
abbrev ButtonRows := List (List String)

/-- One call through a session. -/
inductive Call where
  | message (chat : Int) (text : String)
  | photo (chat : Int) (url caption : String)
  | keyboard (chat : Int) (text : String) (rows : ButtonRows)
  | callbackAnswer (id : String)
deriving DecidableEq, Repr

namespace Call

/-- The name of the call's method. -/
def method : Call → String
  | .message _ _ => "message"
  | .photo _ _ _ => "photo"
  | .keyboard _ _ _ => "keyboard"
  | .callbackAnswer _ => "callback_answer"

def rowsJson (rows : ButtonRows) : Json :=
  .list (rows.map fun row => .list (row.map .text))

/-- What the call carries, without its method. -/
def content : Call → List (String × Json)
  | .message chat text => [("chat_id", .ofInt chat), ("text", .text text)]
  | .photo chat url caption =>
    [("caption", .text caption), ("chat_id", .ofInt chat), ("url", .text url)]
  | .keyboard chat text rows =>
    [("chat_id", .ofInt chat), ("rows", rowsJson rows), ("text", .text text)]
  | .callbackAnswer id => [("callback_id", .text id)]

def toJson (call : Call) : Json :=
  .ofFields (("method", .text call.method) :: call.content)

end Call

/-- A failure of a transport or of one of its sessions. -/
inductive TransportFault where
  | connectFailed (reason : String)
  | sessionClosed
  | sendFailed (reason : String)
  | closeFailed (reason : String)
deriving DecidableEq, Repr

/-- The name of the kind of a fault. -/
def TransportFault.kind : TransportFault → String
  | .connectFailed _ => "ConnectFailed"
  | .sessionClosed => "SessionClosed"
  | .sendFailed _ => "SendFailed"
  | .closeFailed _ => "CloseFailed"

def TransportFault.message : TransportFault → String
  | .connectFailed reason => "connect failed: " ++ reason
  | .sessionClosed => "session closed"
  | .sendFailed reason => "failed to send: " ++ reason
  | .closeFailed reason => "failed to close session: " ++ reason

end BotHost
