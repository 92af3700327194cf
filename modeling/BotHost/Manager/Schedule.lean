/-
The host under a virtual clock, with one client.

The client makes one call after another, and loops and reaping tasks run only while it waits. The
clock stands still as long as anything can take a step. When nothing can, it jumps to the next time
at which something is due. Of what becomes ready at one time the client goes first, and the others
run in the order in which they became ready, each until it has no step to take.
-/

import BotHost.Manager.Step

namespace BotHost

/-- What the client waits for. -/
inductive Errand where
  | task (number : TaskNumber)
  | pause (due : Nat)
deriving DecidableEq, Repr

namespace Host

/-! ### Bounds -/

/-- No task takes more steps than this. -/
def stepsOfTask : Nat := 32

/-- A bound on the steps that a loop can take before other events come. -/
def stepsOfLoop (loop : SessionLoop) : Nat :=
  let calls := match loop.state with
    | .idle | .finished => 0
    | .replying calls => calls.length
    | .sending _ rest _ => rest.length + 1
  let waiting := loop.waiting.map fun event => 2 * (Dispatch.calls loop.handlers event).length + 2
  2 * calls + waiting.foldr (· + ·) 0 + 4

/-- A bound on the steps of everything there is and of everything it can bring about: a task makes at
most one loop, and a loop at most one task. -/
def effort (host : Host) : Nat :=
  (host.loops.map fun loop => stepsOfLoop loop + stepsOfTask).foldr (· + ·) 0 +
    host.tasks.length * (2 * stepsOfTask + 4)

/-! ### Times -/

/-- When a waiting task goes on at the latest, if that is a matter of time. -/
def Wait.times : Wait → List Nat
  | .join _ _ deadline => [deadline]
  | .close _ _ _ due deadline => [due, deadline]
  | .connect _ _ due deadline => [due, deadline]
  | _ => []

def Task.times (task : Task) : List Nat :=
  match task.state with
  | .waiting wait => Wait.times wait
  | _ => []

def SessionLoop.times (loop : SessionLoop) : List Nat :=
  match loop.state with
  | .sending _ _ due => [due]
  | _ => []

/-- The next time at which a task or a loop has something to do. -/
def nextTime? (host : Host) (errands : List Errand) : Option Nat :=
  let pauses := errands.filterMap fun
    | .pause due => some due
    | .task _ => none
  let times := pauses ++ host.tasks.flatMap Task.times ++ host.loops.flatMap SessionLoop.times
  (times.filter (host.now < ·)).min?

end Host

/-! ### The schedule -/

/-- The host, what runs behind the client's back in the order of its turns, and what of it has no
step to take in the order in which it came to rest. -/
structure Schedule where
  host : Host
  queue : List Process := []
  resting : List Process := []
deriving Repr

namespace Schedule

/-- The loops and reaping tasks that one state of the host has beyond an earlier one. -/
def added (earlier later : Host) : List Process :=
  let loops := (List.range later.loops.length).drop earlier.loops.length
  let tasks := (List.range later.tasks.length).drop earlier.tasks.length
  let reaping := tasks.filter fun number =>
    match later.task? number with
    | some task =>
      match task.operation with
      | .reap _ => true
      | _ => false
    | none => false
  loops.map (fun number => .loop (Host.firstGeneration + number)) ++
    reaping.map fun number => .task number

/-- The host has changed: what rested and is ready now gets a turn, and so does what is new. -/
def changed (schedule : Schedule) (host : Host) : Schedule :=
  let (woken, resting) := schedule.resting.partition host.ready
  { host, queue := schedule.queue ++ woken ++ added schedule.host host, resting }

/-- Lets a process take its steps. -/
def runProcess (process : Process) : Nat → Schedule → Schedule
  | 0, schedule => schedule
  | fuel + 1, schedule =>
    match schedule.host.advance process with
    | some host => runProcess process fuel (schedule.changed host)
    | none => schedule

def run (schedule : Schedule) (process : Process) : Schedule :=
  runProcess process (schedule.host.effort + 1) schedule

/-- Gives turns until nobody is left. -/
def drainQueue : Nat → Schedule → Schedule
  | 0, schedule => schedule
  | fuel + 1, schedule =>
    match schedule.queue with
    | [] => schedule
    | process :: rest =>
      let ran := { schedule with queue := rest }.run process
      drainQueue fuel { ran with resting := ran.resting ++ [process] }

def drain (schedule : Schedule) : Schedule :=
  drainQueue (schedule.host.effort + schedule.queue.length + 1) schedule

/-- Sets the clock. -/
def jump (schedule : Schedule) (time : Nat) : Schedule :=
  schedule.changed { schedule.host with now := time }

/-! ### The client -/

def completed (host : Host) : Errand → Bool
  | .pause due => due ≤ host.now
  | .task number =>
    match host.task? number with
    | some task =>
      match task.state with
      | .finished _ => true
      | _ => false
    | none => true

def stirs (host : Host) : Errand → Bool
  | .pause due => due ≤ host.now
  | .task number => host.ready (.task number)

/-- Looks after the errands in order. -/
def poll (schedule : Schedule) (errands : List Errand) : Schedule :=
  errands.foldl (fun schedule errand =>
    match errand with
    | .pause _ => schedule
    | .task number => schedule.run (.task number)) schedule

def awaitAll (errands : List Errand) : Nat → Schedule → Schedule
  | 0, schedule => schedule
  | fuel + 1, schedule =>
    let polled := schedule.poll errands
    if errands.all (completed polled.host) then polled
    else
      let drained := polled.drain
      if errands.any fun errand => !completed polled.host errand && stirs drained.host errand then
        awaitAll errands fuel drained
      else
        match drained.host.nextTime? errands with
        | some time => awaitAll errands fuel (drained.jump time)
        | none => drained

/-- Waits until all errands are done. -/
def await (schedule : Schedule) (errands : List Errand) : Schedule :=
  awaitAll errands (2 * schedule.host.effort + errands.length + 1) schedule

/-- Makes a call that answers at once. -/
def call {Result : Type} (schedule : Schedule) (effect : Host → Result × Host) :
    Result × Schedule :=
  let (result, host) := effect schedule.host
  (result, schedule.changed host)

/-- Begins an operation, which goes as far as it can. -/
def beginTask (schedule : Schedule) (operation : Operation) (bot : String) :
    TaskNumber × Schedule :=
  let (number, schedule) := schedule.call (·.addTask operation bot)
  (number, schedule.run (.task number))

/-- Begins to stop every running bot, in ascending order of the identifiers. -/
def beginShutdown (schedule : Schedule) : List TaskNumber × Schedule :=
  schedule.host.runningIds.foldl (fun (numbers, schedule) bot =>
    let (number, schedule) := schedule.beginTask .stop bot
    (numbers ++ [number], schedule)) ([], schedule)

/-- The result of a task that is done. -/
def result? (schedule : Schedule) (number : TaskNumber) : Option (Except ManagerFault Success) :=
  (schedule.host.task? number).bind fun task =>
    match task.state with
    | .finished result => some result
    | _ => none

end Schedule

end BotHost
