/-
The in-memory transport: sessions that never leave the process. Events are injected by token, and
every outbound call is recorded.

A token has one current session, the one opened last for it that has neither been closed nor ended.
Older sessions of the token live on with their listeners but are no longer reached by its events.
What takes time is cut in two: the delay is read when a call begins, and its effect is applied when
the delay has passed, or never if the call was given up.
-/

import BotHost.Event
import BotHost.Outbound

namespace BotHost

/-- A session; `listener` is whom it hands its events to. -/
structure MemorySession (Listener : Type) where
  token : String
  listener : Option Listener
  closed : Bool
  ended : Bool
deriving Repr, DecidableEq

/-- The state of the transport. Sessions are numbered from zero in the order they were opened, and
delays are in milliseconds. -/
structure MemoryTransport (Listener : Type) where
  sessions : List (MemorySession Listener) := []
  current : List (String × Nat) := []
  rejected : List String := []
  recorded : List (String × Call) := []
  openDelay : Nat := 0
  closeDelay : Nat := 0
  sendDelay : Nat := 0
  sendsStarted : Nat := 0
  closedCount : Nat := 0
deriving Repr

namespace MemoryTransport

variable {Listener : Type}

/-- The name of the transport. -/
def name : String := "memory"

/-- The identifier of a session. -/
def sessionId (number : Nat) : String := "memory-" ++ toString number

/-- How many sessions have been opened. -/
def openedCount (transport : MemoryTransport Listener) : Nat := transport.sessions.length

/-- The current session of a token. -/
def current? (transport : MemoryTransport Listener) (token : String) : Option Nat :=
  (transport.current.find? fun entry => entry.1 == token).map Prod.snd

def isOpen (transport : MemoryTransport Listener) (token : String) : Bool :=
  (transport.current? token).isSome

def session? (transport : MemoryTransport Listener) (number : Nat) :
    Option (MemorySession Listener) :=
  transport.sessions[number]?

/-- The listener of a session. -/
def listener? (transport : MemoryTransport Listener) (number : Nat) : Option Listener :=
  (transport.session? number).bind MemorySession.listener

def describe (transport : MemoryTransport Listener) : String :=
  "MemoryTransport \x7b open_sessions: " ++ toString transport.current.length ++ ", opened: " ++
    toString transport.openedCount ++ ", closed: " ++ toString transport.closedCount ++ " \x7d"

/-! ### Tokens -/

def reject (transport : MemoryTransport Listener) (token : String) : MemoryTransport Listener :=
  { transport with rejected := token :: transport.rejected }

def accept (transport : MemoryTransport Listener) (token : String) : MemoryTransport Listener :=
  { transport with rejected := transport.rejected.filter (· != token) }

/-- No session is current for the token any more. -/
def forget (transport : MemoryTransport Listener) (token : String) : MemoryTransport Listener :=
  { transport with current := transport.current.filter fun entry => entry.1 != token }

/-- Changes a session. -/
def change (transport : MemoryTransport Listener) (number : Nat)
    (change : MemorySession Listener → MemorySession Listener) : MemoryTransport Listener :=
  { transport with sessions := transport.sessions.modify number change }

/-! ### The life of a session -/

/-- Opens a session once the delay has passed; it becomes the current one of its token. -/
def openSession (transport : MemoryTransport Listener) (token : String) :
    Except TransportFault Nat × MemoryTransport Listener :=
  if transport.rejected.contains token then (.error (.connectFailed "token rejected"), transport)
  else
    let number := transport.sessions.length
    (.ok number,
      { transport with
        sessions := transport.sessions ++ [⟨token, none, false, false⟩]
        current := (token, number) :: (transport.forget token).current })

/-- Registers a listener, unless the session has been closed or has ended. -/
def listen (transport : MemoryTransport Listener) (number : Nat) (listener : Listener) :
    MemoryTransport Listener :=
  transport.change number fun session =>
    if session.closed || session.ended then session else { session with listener := some listener }

/-- Ends the current session of a token from outside. The listener is dropped, but the session is not
closed. Says whether there was such a session. -/
def endSession (transport : MemoryTransport Listener) (token : String) :
    Bool × MemoryTransport Listener :=
  match transport.current? token with
  | none => (false, transport)
  | some number =>
    (true, (transport.forget token).change number fun session =>
      { session with ended := true, listener := none })

/-- Closes a session once the delay has passed. Closing it again changes nothing, and closing an
older session of a token leaves the current one alone. -/
def closeSession (transport : MemoryTransport Listener) (number : Nat) :
    MemoryTransport Listener :=
  match transport.session? number with
  | none => transport
  | some session =>
    if session.closed then transport
    else
      let closed := transport.change number fun session =>
        { session with closed := true, listener := none }
      let detached :=
        if transport.current? session.token = some number then closed.forget session.token
        else closed
      { detached with closedCount := detached.closedCount + 1 }

/-! ### Outbound calls -/

/-- Counts a call that begins. -/
def beginSend (transport : MemoryTransport Listener) : MemoryTransport Listener :=
  { transport with sendsStarted := transport.sendsStarted + 1 }

/-- Records a call once the delay has passed, unless its session has been closed by then. -/
def record (transport : MemoryTransport Listener) (number : Nat) (call : Call) :
    Except TransportFault Unit × MemoryTransport Listener :=
  match transport.session? number with
  | none => (.error .sessionClosed, transport)
  | some session =>
    if session.closed then (.error .sessionClosed, transport)
    else (.ok (), { transport with recorded := transport.recorded ++ [(session.token, call)] })

/-- The recorded calls of all sessions of a token, in order. -/
def sent (transport : MemoryTransport Listener) (token : String) : List Call :=
  (transport.recorded.filter fun entry => entry.1 == token).map Prod.snd

def clearSent (transport : MemoryTransport Listener) : MemoryTransport Listener :=
  { transport with recorded := [] }

end MemoryTransport

/-! ### Waiting for calls -/

/-- A transport and a clock, for one caller who waits for each call before the next. -/
structure TimedTransport (Listener : Type) where
  transport : MemoryTransport Listener := {}
  now : Nat := 0

namespace TimedTransport

variable {Listener Result : Type}

/-- Waits out a delay and applies the effect. A caller who has less patience than the delay gives up
when it is used up, and the effect is lost. -/
def await (timed : TimedTransport Listener) (delay : Nat) (patience : Option Nat)
    (effect : MemoryTransport Listener → Result × MemoryTransport Listener) :
    Option Result × TimedTransport Listener :=
  match patience with
  | some limit =>
    if limit < delay then (none, { timed with now := timed.now + limit })
    else
      let (result, transport) := effect timed.transport
      (some result, ⟨transport, timed.now + delay⟩)
  | none =>
    let (result, transport) := effect timed.transport
    (some result, ⟨transport, timed.now + delay⟩)

/-- Lets time pass. -/
def pause (timed : TimedTransport Listener) (milliseconds : Nat) : TimedTransport Listener :=
  { timed with now := timed.now + milliseconds }

def openSession (timed : TimedTransport Listener) (token : String) :
    Option (Except TransportFault Nat) × TimedTransport Listener :=
  timed.await timed.transport.openDelay none (·.openSession token)

def closeSession (timed : TimedTransport Listener) (number : Nat) (patience : Option Nat) :
    Option (Except TransportFault Unit) × TimedTransport Listener :=
  timed.await timed.transport.closeDelay patience fun transport =>
    (.ok (), transport.closeSession number)

def send (timed : TimedTransport Listener) (number : Nat) (call : Call) (patience : Option Nat) :
    Option (Except TransportFault Unit) × TimedTransport Listener :=
  let begun := { timed with transport := timed.transport.beginSend }
  begun.await begun.transport.sendDelay patience (·.record number call)

end TimedTransport

end BotHost
