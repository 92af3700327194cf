/-
The ways in which an operation on a bot can fail.
-/

import BotHost.Bot.Store
import BotHost.Outbound
import BotHost.Time.Span

namespace BotHost

/-- Why a bot did not start. -/
inductive StartFailure where
  | connect (fault : TransportFault)
  | timeout (milliseconds : Nat)
deriving DecidableEq, Repr

def StartFailure.message : StartFailure → String
  | .connect fault => fault.message
  | .timeout milliseconds => "connect timed out after " ++ Span.describe milliseconds

inductive ManagerFault where
  | botNotFound (id : String)
  | alreadyRunning (id : String)
  | botRunning (id : String)
  | startFailed (id : String) (failure : StartFailure)
  | closeTimeout (id : String) (milliseconds : Nat)
  | store (fault : StoreFault)
deriving DecidableEq, Repr

namespace ManagerFault

/-- The name of the kind of a fault. -/
def kind : ManagerFault → String
  | .botNotFound _ => "BotNotFound"
  | .alreadyRunning _ => "AlreadyRunning"
  | .botRunning _ => "BotRunning"
  | .startFailed _ (.connect _) => "StartFailed/Connect"
  | .startFailed _ (.timeout _) => "StartFailed/Timeout"
  | .closeTimeout _ _ => "SessionCloseTimeout"
  | .store _ => "Repository"

def message : ManagerFault → String
  | .botNotFound id => "Bot not found: " ++ id
  | .alreadyRunning id => "Bot already running: " ++ id
  | .botRunning id => "Bot is running and cannot be modified: " ++ id
  | .startFailed id failure => "Failed to start bot " ++ id ++ ": " ++ failure.message
  | .closeTimeout id milliseconds =>
    "Session of bot " ++ id ++ " did not close within " ++ Span.describe milliseconds
  | .store fault => "Repository error: " ++ fault.message

/-- The bot that the fault is about, if it is about one. -/
def bot? : ManagerFault → Option String
  | .botNotFound id | .alreadyRunning id | .botRunning id | .startFailed id _
  | .closeTimeout id _ => some id
  | .store _ => none

/-- A missing record is a missing bot; other faults of the store stay what they are. -/
def ofStore : StoreFault → ManagerFault
  | .notFound id => .botNotFound id
  | other => .store other

end ManagerFault

end BotHost
