/-
The host: everything that the manager of running bots works on.

Two kinds of processes change it. A session loop belongs to one running instance of a bot: it takes
the events that wait for the instance one by one and makes the calls of its handlers. A task is one
operation on a bot, such as starting it. A task gives up control only while it waits, for its bot's
lock, for the store, for the transport or for a loop; what it does between two waits is one step.
-/

import BotHost.Handler.Compilation
import BotHost.Handler.Dispatch
import BotHost.Manager.Fault
import BotHost.Manager.Lock
import BotHost.Session.Memory
import BotHost.Settings.Basic

namespace BotHost

/-- A bot that runs: its session, its handlers, and the generation that tells it from earlier and
later runs of the same bot. -/
structure Instance where
  bot : String
  generation : Nat
  session : Nat
  handlers : List Handler
deriving DecidableEq, Repr

/-- An instance as the manager shows it. -/
def Instance.toJson (running : Instance) : Json :=
  .object [
    ("config_id", .text running.bot),
    ("generation", .ofNat running.generation),
    ("handlers", .list (Handler.summaries running.handlers)),
    ("session_id", .text (MemoryTransport.sessionId running.session))]

/-! ### Session loops -/

/-- What a loop does. Calls that have begun are due when their delay has passed. -/
inductive LoopState where
  | idle
  | replying (calls : List Call)
  | sending (call : Call) (rest : List Call) (due : Nat)
  | finished
deriving DecidableEq, Repr

/-- A loop, with the events that wait for it. Loops are numbered by generation. -/
structure SessionLoop where
  bot : String
  session : Nat
  handlers : List Handler
  waiting : List Event
  cancelled : Bool
  aborted : Bool
  state : LoopState
deriving DecidableEq, Repr

/-! ### Tasks -/

inductive Operation where
  | start
  | stop
  | restart (token : Option String)
  | delete
  | update (patch : BotPatch)
  | reap (generation : Nat)
deriving DecidableEq, Repr

/-- What a task that succeeds gives back. -/
inductive Success where
  | done
  | updated (bot : Bot)
deriving DecidableEq, Repr

/-- Why an instance is torn down. -/
inductive Ending where
  | stopping
  | startFailed (fault : ManagerFault)
  | reaping
deriving DecidableEq, Repr

/-- What a task waits for. -/
inductive Wait where
  | lock
  | readToStop
  | join (running : Instance) (ending : Ending) (deadline : Nat)
  | joinAborted (running : Instance) (ending : Ending)
  | close (running : Instance) (ending : Ending) (forced : Bool) (due deadline : Nat)
  | recordStopped (result : Except ManagerFault Unit)
  | recordReaped
  | remove
  | readToStart (token : Option String)
  | connect (handlers : List Handler) (token : String) (due deadline : Nat)
  | recordFailed (failure : StartFailure)
  | recordRunning (running : Instance)
  | update (patch : BotPatch)
deriving Repr

/-- What a task has waited for and has not gone on from. -/
inductive Answer where
  | locked
  | readToStop (found : Except StoreFault (Option Bot))
  | joined (running : Instance) (ending : Ending) (finished : Bool)
  | joinedAborted (running : Instance) (ending : Ending)
  | closed (running : Instance) (ending : Ending) (forced : Bool)
  | recordedStopped (result : Except ManagerFault Unit)
  | recordedReaped
  | removed (present : Except StoreFault Bool)
  | readToStart (token : Option String) (found : Except StoreFault (Option Bot))
  | connected (handlers : List Handler) (session : Except StartFailure Nat)
  | recordedFailed (failure : StartFailure)
  | recordedRunning (running : Instance) (result : Except StoreFault Unit)
  | updated (bot : Except StoreFault Bot)
deriving Repr

inductive TaskState where
  | created
  | waiting (wait : Wait)
  | answered (answer : Answer)
  | finished (result : Except ManagerFault Success)
deriving Repr

/-- A task. From its first step to its end it refers to a lock. -/
structure Task where
  operation : Operation
  bot : String
  lock : Option Nat
  state : TaskState
deriving Repr

/-! ### The host -/

/-- Calls that can be made to fail. -/
inductive FaultPoint where
  | get
  | list
  | insert
  | update
  | setStatus
  | setStatusNotFound
  | remove
  | close
  | sendMessage
  | sendPhoto
  | sendKeyboard
  | answerCallback
deriving DecidableEq, Repr

namespace FaultPoint

def all : List FaultPoint := [
  .get, .list, .insert, .update, .setStatus, .setStatusNotFound, .remove, .close, .sendMessage,
  .sendPhoto, .sendKeyboard, .answerCallback]

def name : FaultPoint → String
  | .get => "get"
  | .list => "list"
  | .insert => "insert"
  | .update => "update"
  | .setStatus => "set_status"
  | .setStatusNotFound => "set_status_not_found"
  | .remove => "remove"
  | .close => "close"
  | .sendMessage => "send_message"
  | .sendPhoto => "send_photo"
  | .sendKeyboard => "send_keyboard"
  | .answerCallback => "answer_callback"

def ofName? (name : String) : Option FaultPoint :=
  all.find? fun point => point.name == name

/-- How the store fails at a point. -/
def unavailable (point : FaultPoint) : StoreFault := .backend (point.name ++ " unavailable")

end FaultPoint

/-- All of it, with what searches texts for the triggers of the bots. -/
structure Host where
  patterns : PatternEngine := by infer_instance
  settings : ManagerSettings := {}
  now : Nat := 0
  store : BotStore := .empty
  transport : MemoryTransport Nat := {}
  faults : List FaultPoint := []
  registry : List Instance := []
  locks : LockTable := {}
  loops : List SessionLoop := []
  tasks : List Task := []
deriving Repr

namespace Host

/-- The generation of the first instance. -/
def firstGeneration : Nat := 1

/-- The generation that the next instance gets. -/
def nextGeneration (host : Host) : Nat := firstGeneration + host.loops.length

def loop? (host : Host) (generation : Nat) : Option SessionLoop :=
  if firstGeneration ≤ generation then host.loops[generation - firstGeneration]? else none

def changeLoop (host : Host) (generation : Nat) (change : SessionLoop → SessionLoop) : Host :=
  { host with loops := host.loops.modify (generation - firstGeneration) change }

def task? (host : Host) (number : TaskNumber) : Option Task := host.tasks[number]?

def changeTask (host : Host) (number : TaskNumber) (change : Task → Task) : Host :=
  { host with tasks := host.tasks.modify number change }

/-- The running instance of a bot. -/
def running? (host : Host) (bot : String) : Option Instance :=
  host.registry.find? fun running => running.bot == bot

def isRunning (host : Host) (bot : String) : Bool := (host.running? bot).isSome

/-- Takes a bot's instance out of the registry. -/
def unregister (host : Host) (bot : String) : Host :=
  { host with registry := host.registry.filter fun running => running.bot != bot }

/-- Puts an instance into the registry in place of an earlier one of the bot. -/
def enroll (host : Host) (running : Instance) : Host :=
  { host with registry := running :: (host.unregister running.bot).registry }

/-- The identifiers of the running bots in ascending order. -/
def runningIds (host : Host) : List String :=
  (host.registry.map Instance.bot).mergeSort (· ≤ ·)

def fails (host : Host) (point : FaultPoint) : Bool := host.faults.contains point

/-- How many refer to a lock: the table of names, and every task that keeps hold of it. -/
def lockReferences (host : Host) (number : Nat) : Nat :=
  (host.locks.names.filter fun entry => entry.2 == number).length +
    (host.tasks.filter fun task => task.lock == some number).length

/-! ### Calls to the store, some of which may be failing -/

def storeFind (host : Host) (bot : String) : Except StoreFault (Option Bot) :=
  if host.fails .get then .error FaultPoint.get.unavailable else .ok (host.store.find? bot)

def storeList (host : Host) : Except StoreFault (List Bot) :=
  if host.fails .list then .error FaultPoint.list.unavailable else .ok host.store.bots

def storeInsert (host : Host) (bot : Bot) : Except StoreFault Unit × Host :=
  if host.fails .insert then (.error FaultPoint.insert.unavailable, host)
  else
    match host.store.insert bot with
    | .ok store => (.ok (), { host with store })
    | .error fault => (.error fault, host)

def storeUpdate (host : Host) (bot : String) (patch : BotPatch) : Except StoreFault Bot × Host :=
  if host.fails .update then (.error FaultPoint.update.unavailable, host)
  else
    match host.store.update bot patch with
    | .ok (updated, store) => (.ok updated, { host with store })
    | .error fault => (.error fault, host)

def storeSetStatus (host : Host) (bot : String) (status : BotStatus) :
    Except StoreFault Unit × Host :=
  if host.fails .setStatus then (.error FaultPoint.setStatus.unavailable, host)
  else if host.fails .setStatusNotFound then (.error (.notFound bot), host)
  else
    match host.store.setStatus bot status with
    | .ok store => (.ok (), { host with store })
    | .error fault => (.error fault, host)

def storeRemove (host : Host) (bot : String) : Except StoreFault Bool × Host :=
  if host.fails .remove then (.error FaultPoint.remove.unavailable, host)
  else
    let (present, store) := host.store.remove bot
    (.ok present, { host with store })

/-! ### Events -/

/-- Hands an event to the listener of a session: it waits for the loop, unless as many wait as may or
the loop is gone. -/
def deliver (host : Host) (generation : Nat) (event : Event) : Host :=
  host.changeLoop generation fun loop =>
    if loop.state = .finished ∨ host.settings.eventBuffer ≤ loop.waiting.length then loop
    else { loop with waiting := loop.waiting ++ [event] }

/-- Injects an event for a token. Says whether a session listened. -/
def inject (host : Host) (token : String) (event : Event) : Bool × Host :=
  match (host.transport.current? token).bind host.transport.listener? with
  | some generation => (true, host.deliver generation event)
  | none => (false, host)

/-- A loop takes its events from a queue. If none can be made, the process comes down in place of the
first loop. -/
def brokenDown (host : Host) : Bool := !host.loops.isEmpty && !host.settings.bufferFits

/-- Whether events can still come to the loop: its session has it as its listener. -/
def hears (host : Host) (generation : Nat) (loop : SessionLoop) : Bool :=
  host.transport.listener? loop.session == some generation

end Host

end BotHost
