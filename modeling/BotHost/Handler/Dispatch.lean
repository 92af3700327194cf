/-
Dispatching an event: every handler that accepts it acts, in order, and a failed action does not keep
the handlers behind it from acting.

What a call does is given as a function of a state of any kind, so that the same dispatch runs
against every session.
-/

import BotHost.Handler.Basic

namespace BotHost

/-- How many handlers accepted the event, and how many of those failed. -/
structure DispatchReport where
  matched : Nat
  failed : Nat
deriving DecidableEq, Repr

def DispatchReport.anyMatched (report : DispatchReport) : Bool := 0 < report.matched

/-- The effect of a call on the state of the session it goes through. -/
abbrev Send (State : Type) := Call → State → Except TransportFault Unit × State

namespace Dispatch

/-- Makes the calls one after another; the result is the first failure. -/
def perform {State : Type} (send : Send State) :
    List Call → State → Except TransportFault Unit × State
  | [], state => (.ok (), state)
  | call :: rest, state =>
    let (result, state) := send call state
    let (others, state) := perform send rest state
    (match result with
      | .ok () => others
      | .error fault => .error fault, state)

/-- Lets one handler act, if it accepts the event. -/
def actOn {State : Type} (send : Send State) (event : Event) (handler : Handler)
    (report : DispatchReport) (state : State) : DispatchReport × State :=
  if handler.matcher.accepts event then
    match perform send (handler.action.calls event) state with
    | (.ok (), state) => ({ report with matched := report.matched + 1 }, state)
    | (.error _, state) => (⟨report.matched + 1, report.failed + 1⟩, state)
  else (report, state)

def runFrom {State : Type} (send : Send State) (event : Event) :
    List Handler → DispatchReport → State → DispatchReport × State
  | [], report, state => (report, state)
  | handler :: rest, report, state =>
    let (report, state) := actOn send event handler report state
    runFrom send event rest report state

/-- Dispatches an event to the handlers. -/
def run {State : Type} (send : Send State) (handlers : List Handler) (event : Event)
    (state : State) : DispatchReport × State :=
  runFrom send event handlers ⟨0, 0⟩ state

/-- The calls that the handlers make in reply to an event, in order. -/
def calls (handlers : List Handler) (event : Event) : List Call :=
  (handlers.filter fun handler => handler.matcher.accepts event).flatMap
    fun handler => handler.action.calls event

end Dispatch

end BotHost
