/-
Polling for updates. Every request names an offset: the service answers with updates of at least that
number and forgets those below it. An update that is taken moves the offset past its own number.

Failures are repeated after a wait that doubles with each failure in a row, from one second up to a
minute. A rejected token is not repeated.
-/

import BotHost.Telegram.Request
import BotHost.Telegram.Update

namespace BotHost.Telegram

/-- How far polling has come: the offset, the failures since the last success, and the wait after the
next failure in seconds. -/
structure Polling where
  offset : Int := 0
  failures : Nat := 0
  delay : Nat := 1
deriving DecidableEq, Repr

/-- What follows from a reply. -/
inductive PollOutcome where
  | deliver (updates : List Update)
  | retry (seconds : Nat) (fault : ApiFault)
  | stop
deriving Repr

namespace Polling

/-- The longest wait after a failure, in seconds. -/
def longestDelay : Nat := 60

/-- The number behind another one, in 64 bits with a sign: the greatest has the least behind it. -/
def successor (number : Int) : Int := (number + 1).bmod 0x10000000000000000

/-- The next request. -/
def request (polling : Polling) (seconds : Nat) : Request :=
  .getUpdates polling.offset seconds

/-- An update is taken. -/
def take (polling : Polling) (update : Update) : Polling :=
  { polling with offset := max polling.offset (successor update.id) }

def reset (polling : Polling) : Polling :=
  { polling with failures := 0, delay := 1 }

def fail (polling : Polling) : Polling :=
  { polling with failures := polling.failures + 1, delay := min (2 * polling.delay) longestDelay }

/-- Reacts to the reply to a request for updates. -/
def react (polling : Polling) (reply : Reply) : PollOutcome × Polling :=
  match reply.outcome updatesOfJson? with
  | .ok updates => (.deliver updates, polling.reset)
  | .error (.unauthorized _) => (.stop, polling)
  | .error fault => (.retry polling.delay fault, polling.fail)

end Polling

end BotHost.Telegram
