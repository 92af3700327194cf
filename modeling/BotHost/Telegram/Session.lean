/-
Sessions of the Telegram transport.

A session polls for updates once it has a listener, and hands over the events of a batch one by one.
It is over when its token is rejected, which drops the listener, or when it is closed. Closing takes
two steps: the session is marked, so that nothing is sent any more and polling stops at its next
request or wait, and then the listener is dropped. The first who closes a session waits in between
until polling has stopped.
-/

import BotHost.Telegram.Polling

namespace BotHost.Telegram

/-- What polling does. -/
inductive PollState where
  | unheard
  | requesting
  | delivering (updates : List Update)
  | pausing (seconds : Nat)
  | finished
deriving DecidableEq, Repr

structure Session (Listener : Type) where
  id : String
  base : String
  pollTimeout : Nat
  listener : Option Listener := none
  notified : Bool := false
  ended : Bool := false
  cancelled : Bool := false
  closed : Bool := false
  joined : Bool := false
  state : PollState := .unheard
  polling : Polling := {}
deriving Repr

namespace Session

variable {Listener : Type}

/-! ### Listening -/

/-- Registers a listener, unless the session is over or being closed. -/
def listen (session : Session Listener) (listener : Listener) : Session Listener :=
  if session.cancelled || session.ended then session
  else { session with listener := some listener, notified := true }

/-- The service has rejected the token. -/
def endBySelf (session : Session Listener) : Session Listener :=
  { session with listener := none, ended := true, state := .finished }

/-! ### Polling -/

/-- The request for updates that polling waits on. -/
def request? (session : Session Listener) : Option Request :=
  match session.state with
  | .requesting =>
    if session.cancelled then none else some (session.polling.request session.pollTimeout)
  | _ => none

/-- A reply to the request for updates has come. -/
def receive (session : Session Listener) (reply : Reply) : Session Listener :=
  match session.state with
  | .requesting =>
    if session.cancelled then { session with state := .finished }
    else
      match session.polling.react reply with
      | (.deliver updates, polling) => { session with polling, state := .delivering updates }
      | (.retry seconds _, polling) => { session with polling, state := .pausing seconds }
      | (.stop, polling) => { session with polling }.endBySelf
  | _ => session

/-- The wait after a failure is over. -/
def wake (session : Session Listener) : Session Listener :=
  match session.state with
  | .pausing _ =>
    { session with state := if session.cancelled then .finished else .requesting }
  | _ => session

/-- A step that polling takes by itself, and the event that is handed over in it. A batch that has
begun is handed over to its end, whatever happens meanwhile. -/
def advance (session : Session Listener) :
    Option (Option (Listener × Event) × Session Listener) :=
  match session.state with
  | .unheard =>
    if session.cancelled then some (none, { session with state := .finished })
    else if session.notified then some (none, { session with state := .requesting })
    else none
  | .requesting | .pausing _ =>
    if session.cancelled then some (none, { session with state := .finished }) else none
  | .delivering [] => some (none, { session with state := .requesting })
  | .delivering (update :: rest) =>
    let taken := { session with polling := session.polling.take update, state := .delivering rest }
    match session.listener, update.event with
    | some listener, some event => some (some (listener, event), taken)
    | _, _ => some (none, taken)
  | .finished => none

/-! ### Sending -/

/-- The request for a call, unless the session has been closed. -/
def requestOf (session : Session Listener) (call : Call) : Except TransportFault Request :=
  if session.closed then .error .sessionClosed else .ok (.ofCall call)

/-- The outcome of a call. Any result will do. -/
def sent (reply : Reply) : Except TransportFault Unit :=
  match reply.outcome some with
  | .ok _ => .ok ()
  | .error fault => .error fault.ofSending

/-! ### Closing -/

/-- Begins to close the session. Says whether the one who closes it has to wait for polling to stop. -/
def beginClose (session : Session Listener) : Bool × Session Listener :=
  (!session.joined, { session with closed := true, cancelled := true, joined := true })

/-- Whether closing can go on. -/
def canEndClose (session : Session Listener) (waits : Bool) : Bool :=
  !waits || session.state == .finished

/-- Ends a close. -/
def endClose (session : Session Listener) : Session Listener :=
  { session with listener := none }

end Session

/-! ### The transport -/

/-- Where the service is, how many seconds it may hold a request for updates, and the number of the
next session. -/
structure Transport where
  apiBase : String
  pollTimeout : Nat := 30
  nextSession : Nat := 1
deriving Repr

namespace Transport

/-- The name of the transport. -/
def name : String := "telegram"

/-- What a request may take on top of the time for which the service holds it, in seconds. -/
def slack : Nat := 10

/-- How long a request may take, in seconds, if 64 bits can hold that. -/
def requestTimeout? (transport : Transport) : Option Nat :=
  if transport.pollTimeout + slack < 0x10000000000000000 then some (transport.pollTimeout + slack) else none

/-- The identifier of a session. -/
def sessionId (user : User) (number : Nat) : String :=
  "telegram-" ++ user.username.getD (toString user.id) ++ "-" ++ toString number

/-- Opens a session with the reply to the question who the bot is. -/
def openSession {Listener : Type} (transport : Transport) (token : String) (reply : Reply) :
    Except TransportFault (Session Listener) × Transport :=
  match reply.outcome User.ofJson? with
  | .error fault => (.error fault.ofConnecting, transport)
  | .ok user =>
    (.ok { id := sessionId user transport.nextSession
           base := methodBase transport.apiBase token
           pollTimeout := transport.pollTimeout },
      { transport with nextSession := transport.nextSession + 1 })

/-- Connects for a session. If it cannot be said how long a request may take, the process comes down before
anything is asked. -/
def connect? {Listener : Type} (transport : Transport) (token : String) (reply : Reply) :
    Option (Except TransportFault (Session Listener) × Transport) :=
  transport.requestTimeout?.map fun _ => transport.openSession token reply

end Transport

end BotHost.Telegram
