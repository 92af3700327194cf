/-
Replies of the Telegram Bot API, and what a caller makes of them.

A reply that arrives has a status and a body. The body is an envelope: whether the call succeeded,
and then its result or else a description and an error code. A rejected token is told by the status
401 or by that error code; it is the one failure that no repetition mends.
-/

import BotHost.Json.Reader
import BotHost.Json.Decoder
import BotHost.Outbound

namespace BotHost.Telegram

/-- What comes of a request: nothing, or a status and a body. -/
inductive Reply where
  | lost
  | received (status : Nat) (body : String)
deriving DecidableEq, Repr

/-- The failure of a request. -/
inductive ApiFault where
  | unauthorized (reason : String)
  | unanswered (reason : String)
  | refused (code : Int) (description : String)
deriving DecidableEq, Repr

namespace ApiFault

def message : ApiFault → String
  | .unauthorized reason => "unauthorized: " ++ reason
  | .unanswered reason => "request failed: " ++ reason
  | .refused code description => "api error " ++ toString code ++ ": " ++ description

/-- The failure as one of opening a session. -/
def ofConnecting (fault : ApiFault) : TransportFault := .connectFailed fault.message

/-- The failure as one of a call through a session. -/
def ofSending (fault : ApiFault) : TransportFault := .sendFailed fault.message

end ApiFault

/-! ### Records -/

/-- The fields of these names. A record that is an object may name none of them twice. -/
def uniqueRecord? (names : List String) (value : Json) : Option (List (Option Json)) :=
  match value with
  | .object fields =>
    let known := (fields.map Prod.fst).filter names.contains
    if known.length = known.eraseDups.length then value.asRecord? names else none
  | _ => value.asRecord? names

/-- A field that may be missing or null. -/
def optional? {α : Type} (decode : Json → Option α) : Option Json → Option (Option α) :=
  Json.orDefault? none (Json.asNullable? decode)

/-! ### The envelope -/

structure Envelope (Result : Type) where
  succeeded : Bool
  result : Option Result
  description : Option String
  code : Option Int
deriving Repr

namespace Envelope

/-- In the form of a list the result has to be there, if only as null. -/
def holdsResult : Json → Bool
  | .list items => 2 ≤ items.length
  | _ => true

def ofJson? {Result : Type} (decode : Json → Option Result) (value : Json) :
    Option (Envelope Result) := do
  let [succeeded, result, description, code] ←
    uniqueRecord? ["ok", "result", "description", "error_code"] value | none
  let succeeded ← Json.required? Json.asBoolean? succeeded
  let result ← if holdsResult value then optional? decode result else none
  let description ← optional? Json.asText? description
  let code ← optional? Json.asSigned? code
  some ⟨succeeded, result, description, code⟩

/-- The outcome that an envelope tells, when it came with this status. -/
def outcome {Result : Type} (envelope : Envelope Result) (status : Nat) : Except ApiFault Result :=
  let description := envelope.description.getD ""
  let code := envelope.code.getD status
  if code = 401 ∨ status = 401 then .error (.unauthorized description)
  else
    match envelope.succeeded, envelope.result with
    | true, some result => .ok result
    | true, none => .error (.refused code "response without result")
    | false, _ => .error (.refused code description)

end Envelope

/-- The outcome of a request. The body of a reply with the status 401 is not looked at. -/
def Reply.outcome {Result : Type} (decode : Json → Option Result) :
    Reply → Except ApiFault Result
  | .lost => .error (.unanswered "error sending request")
  | .received status body =>
    if status = 401 then .error (.unauthorized "token rejected")
    else
      match (Json.readAsWritten? body).bind (Envelope.ofJson? decode) with
      | some envelope => envelope.outcome status
      | none =>
        .error (.unanswered ("HTTP " ++ toString status ++ ": error decoding response body"))

end BotHost.Telegram
