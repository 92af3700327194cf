/-
The steps of tasks and loops.

A task alternates between two kinds of steps. When what it waits for is there, it takes the answer:
that step has the effect of the call, such as a record written to the store or a session closed. Then
it goes on from the answer to its next wait or to its end.

Every task first gets the lock of its bot and has it until its end, so two tasks of one bot are never
both past that point. Ending an instance has three parts: the loop is cancelled and joined, the
session is closed, the new status is recorded. The first two are each given the close timeout. A loop
that overruns it is aborted, and a session that overruns it is left behind; both count as a forced
end, which is reported but ends the instance all the same.
-/

import BotHost.Manager.Host

namespace BotHost

/-- Whatever takes steps. -/
inductive Process where
  | task (number : TaskNumber)
  | loop (generation : Nat)
deriving DecidableEq, Repr

/-- The fault point that a call through a session passes. -/
def FaultPoint.ofCall : Call → FaultPoint
  | .message _ _ => .sendMessage
  | .photo _ _ _ => .sendPhoto
  | .keyboard _ _ _ => .sendKeyboard
  | .callbackAnswer _ => .answerCallback

namespace Host

/-! ### Loops -/

/-- Adds a task, which has not begun. -/
def addTask (host : Host) (operation : Operation) (bot : String) : TaskNumber × Host :=
  (host.tasks.length, { host with tasks := host.tasks ++ [⟨operation, bot, none, .created⟩] })

def setLoopState (host : Host) (generation : Nat) (state : LoopState) : Host :=
  host.changeLoop generation fun loop => { loop with state }

/-- Whether a loop has come to its end. -/
def loopFinished (host : Host) (generation : Nat) : Bool :=
  match host.loop? generation with
  | some loop => loop.state == .finished
  | none => true

/-- One step of a loop that neither has finished nor was aborted. A cancelled loop finishes the event
it is busy with and takes no other. A loop to which no event can come any more reports the end of its
session, once it has taken all that wait. -/
def stepLoop (host : Host) (generation : Nat) (loop : SessionLoop) : Option Host :=
  match loop.state with
  | .finished => none
  | .idle =>
    if loop.cancelled then some (host.setLoopState generation .finished)
    else
      match loop.waiting with
      | event :: rest =>
        some (host.changeLoop generation fun loop =>
          { loop with waiting := rest, state := .replying (Dispatch.calls loop.handlers event) })
      | [] =>
        if host.hears generation loop then none
        else
          some ((host.setLoopState generation .finished).addTask (.reap generation) loop.bot).2
  | .replying [] => some (host.setLoopState generation .idle)
  | .replying (call :: rest) =>
    if host.fails (FaultPoint.ofCall call) then some (host.setLoopState generation (.replying rest))
    else
      let begun := { host with transport := host.transport.beginSend }
      some (begun.setLoopState generation (.sending call rest (host.now + host.transport.sendDelay)))
  | .sending call rest due =>
    if due ≤ host.now then
      let recorded := { host with transport := (host.transport.record loop.session call).2 }
      some (recorded.setLoopState generation (.replying rest))
    else none

def advanceLoop (host : Host) (generation : Nat) (loop : SessionLoop) : Option Host :=
  if loop.state = .finished then none
  else if loop.aborted then some (host.setLoopState generation .finished)
  else host.stepLoop generation loop

/-! ### Answers -/

/-- The answer to a wait, with its effect, as soon as there is one. -/
def answer? (host : Host) (number : TaskNumber) (task : Task) : Wait → Option (Answer × Host)
  | .lock =>
    if task.lock.any fun lock => host.locks.holds lock number then some (.locked, host) else none
  | .readToStop => some (.readToStop (host.storeFind task.bot), host)
  | .join running ending deadline =>
    if host.loopFinished running.generation then some (.joined running ending true, host)
    else if deadline ≤ host.now then some (.joined running ending false, host)
    else none
  | .joinAborted running ending =>
    if host.loopFinished running.generation then some (.joinedAborted running ending, host)
    else none
  | .close running ending forced due deadline =>
    if due ≤ host.now then
      some (.closed running ending forced,
        { host with transport := host.transport.closeSession running.session })
    else if deadline ≤ host.now then some (.closed running ending true, host)
    else none
  | .recordStopped result =>
    some (.recordedStopped result, (host.storeSetStatus task.bot .stopped).2)
  | .recordReaped => some (.recordedReaped, (host.storeSetStatus task.bot .error).2)
  | .remove =>
    let (present, host) := host.storeRemove task.bot
    some (.removed present, host)
  | .readToStart token => some (.readToStart token (host.storeFind task.bot), host)
  | .connect handlers token due deadline =>
    if due ≤ host.now then
      let (session, transport) := host.transport.openSession token
      some (.connected handlers (session.mapError .connect), { host with transport })
    else if deadline ≤ host.now then
      some (.connected handlers (.error (.timeout host.settings.connectTimeout)), host)
    else none
  | .recordFailed failure =>
    some (.recordedFailed failure, (host.storeSetStatus task.bot .error).2)
  | .recordRunning running =>
    let (result, host) := host.storeSetStatus task.bot .running
    some (.recordedRunning running result, host)
  | .update patch =>
    let (bot, host) := host.storeUpdate task.bot patch
    some (.updated bot, host)

/-! ### Going on from an answer -/

def setTaskState (host : Host) (number : TaskNumber) (state : TaskState) : Host :=
  host.changeTask number fun task => { task with state }

def waitFor (host : Host) (number : TaskNumber) (wait : Wait) : Host :=
  host.setTaskState number (.waiting wait)

/-- Gives the lock of a task back. -/
def releaseLock (host : Host) (task : Task) : Host :=
  match task.lock with
  | some lock => { host with locks := host.locks.release lock }
  | none => host

/-- Ends a task. -/
def finish (host : Host) (number : TaskNumber) (task : Task) (result : Except ManagerFault Success) :
    Host :=
  (host.releaseLock task).changeTask number fun task =>
    { task with lock := none, state := .finished result }

/-- Ends a task that has deleted its bot. The bot loses its lock too if besides the table only this
task refers to it. -/
def finishDeleted (host : Host) (number : TaskNumber) (task : Task) : Host :=
  let released := host.releaseLock task
  let cleared :=
    if task.lock.any fun lock => released.lockReferences lock == 2 then
      { released with locks := released.locks.forget task.bot }
    else released
  cleared.changeTask number fun task => { task with lock := none, state := .finished (.ok .done) }

/-- Begins to end an instance that is no longer registered. -/
def tearDown (host : Host) (number : TaskNumber) (running : Instance) (ending : Ending) : Host :=
  (host.changeLoop running.generation fun loop => { loop with cancelled := true }).waitFor number
    (.join running ending (host.now + host.settings.closeTimeout))

def waitForClose (host : Host) (number : TaskNumber) (running : Instance) (ending : Ending)
    (forced : Bool) : Host :=
  host.waitFor number (.close running ending forced (host.now + host.transport.closeDelay)
    (host.now + host.settings.closeTimeout))

/-- What stands between a bot and its being stopped has been done; the operation goes on. An end that
was forced is an end, so only a stop reports it. -/
def afterStop (host : Host) (number : TaskNumber) (task : Task) (result : Except ManagerFault Unit) :
    Host :=
  match task.operation, result with
  | .restart token, .ok () | .restart token, .error (.closeTimeout _ _) =>
    host.waitFor number (.readToStart token)
  | .delete, .ok () | .delete, .error (.closeTimeout _ _) => host.waitFor number .remove
  | _, .ok () => host.finish number task (.ok .done)
  | _, .error fault => host.finish number task (.error fault)

/-- The lock is there. -/
def begin (host : Host) (number : TaskNumber) (task : Task) : Host :=
  match task.operation with
  | .start => host.waitFor number (.readToStart none)
  | .stop | .restart _ | .delete =>
    match host.running? task.bot with
    | some running => (host.unregister task.bot).tearDown number running .stopping
    | none => host.waitFor number .readToStop
  | .update patch =>
    if host.isRunning task.bot then host.finish number task (.error (.botRunning task.bot))
    else host.waitFor number (.update patch)
  | .reap generation =>
    match host.running? task.bot with
    | some running =>
      if running.generation = generation then
        (host.unregister task.bot).tearDown number running .reaping
      else host.finish number task (.ok .done)
    | none => host.finish number task (.ok .done)

/-- What blocks compile to where this host runs. -/
def compilation (host : Host) (blocks : List Block) : Compilation :=
  @compile host.patterns blocks

/-- The bot to start has been looked up. -/
def connect (host : Host) (number : TaskNumber) (task : Task) (token : Option String) :
    Except StoreFault (Option Bot) → Host
  | .error fault => host.finish number task (.error (.store fault))
  | .ok none => host.finish number task (.error (.botNotFound task.bot))
  | .ok (some bot) =>
    if host.isRunning task.bot then host.finish number task (.error (.alreadyRunning task.bot))
    else
      host.waitFor number (.connect (host.compilation bot.blocks).handlers (token.getD bot.token)
        (host.now + host.transport.openDelay) (host.now + host.settings.connectTimeout))

/-- A session has been opened for the bot: its loop begins to listen. -/
def launch (host : Host) (number : TaskNumber) (task : Task) (handlers : List Handler)
    (session : Nat) : Host :=
  let generation := host.nextGeneration
  let loop : SessionLoop := ⟨task.bot, session, handlers, [], false, false, .idle⟩
  let launched : Host := { host with
    loops := host.loops ++ [loop]
    transport := host.transport.listen session generation }
  launched.waitFor number (.recordRunning ⟨task.bot, generation, session, handlers⟩)

/-- Goes on from an answer to the next wait or to the end. -/
def resume (host : Host) (number : TaskNumber) (task : Task) : Answer → Host
  | .locked => host.begin number task
  | .readToStop (.error fault) => host.afterStop number task (.error (.store fault))
  | .readToStop (.ok none) => host.afterStop number task (.error (.botNotFound task.bot))
  | .readToStop (.ok (some _)) => host.afterStop number task (.ok ())
  | .joined running ending true => host.waitForClose number running ending false
  | .joined running ending false =>
    (host.changeLoop running.generation fun loop => { loop with aborted := true }).waitFor number
      (.joinAborted running ending)
  | .joinedAborted running ending => host.waitForClose number running ending true
  | .closed running ending forced =>
    match ending with
    | .stopping =>
      host.waitFor number (.recordStopped (if forced
        then .error (.closeTimeout running.bot host.settings.closeTimeout) else .ok ()))
    | .startFailed fault => host.finish number task (.error fault)
    | .reaping => host.waitFor number .recordReaped
  | .recordedStopped result => host.afterStop number task result
  | .recordedReaped => host.finish number task (.ok .done)
  | .removed (.error fault) => host.finish number task (.error (.store fault))
  | .removed (.ok false) => host.finish number task (.error (.botNotFound task.bot))
  | .removed (.ok true) => host.finishDeleted number task
  | .readToStart token found => host.connect number task token found
  | .connected _ (.error failure) => host.waitFor number (.recordFailed failure)
  | .connected handlers (.ok session) => host.launch number task handlers session
  | .recordedFailed failure =>
    host.finish number task (.error (.startFailed task.bot failure))
  | .recordedRunning running (.ok ()) => (host.enroll running).finish number task (.ok .done)
  | .recordedRunning running (.error fault) =>
    host.tearDown number running (.startFailed (.ofStore fault))
  | .updated (.ok bot) => host.finish number task (.ok (.updated bot))
  | .updated (.error fault) => host.finish number task (.error (.ofStore fault))

/-! ### Steps -/

/-- The first step of a task: it asks for the lock of its bot. -/
def requestLock (host : Host) (number : TaskNumber) (task : Task) : Host :=
  let (lock, locks) := host.locks.obtain task.bot
  { host with locks := locks.request lock number }.changeTask number fun task =>
    { task with lock := some lock, state := .waiting .lock }

def advanceTask (host : Host) (number : TaskNumber) (task : Task) : Option Host :=
  match task.state with
  | .created => some (host.requestLock number task)
  | .waiting wait =>
    (host.answer? number task wait).map fun (answer, host) =>
      host.setTaskState number (.answered answer)
  | .answered answer => some (host.resume number task answer)
  | .finished _ => none

/-- One step of a process, if it has one to take. -/
def advance (host : Host) : Process → Option Host
  | .task number => (host.task? number).bind (host.advanceTask number)
  | .loop generation => (host.loop? generation).bind (host.advanceLoop generation)

/-- Whether a process has a step to take. -/
def ready (host : Host) (process : Process) : Bool := (host.advance process).isSome

/-! ### Calls that answer at once -/

/-- Stores a new bot, as one that is stopped. -/
def register (host : Host) (bot : Bot) : Except ManagerFault String × Host :=
  let (result, host) := host.storeInsert { bot with status := .stopped }
  (match result with
    | .ok () => .ok bot.id
    | .error fault => .error (.store fault), host)

/-- The stored bot with an identifier. -/
def stored (host : Host) (bot : String) : Except ManagerFault Bot :=
  match host.storeFind bot with
  | .ok (some found) => .ok found
  | .ok none => .error (.botNotFound bot)
  | .error fault => .error (.store fault)

def list (host : Host) : Except ManagerFault (List Bot) :=
  host.storeList.mapError .store

def status (host : Host) (bot : String) : Except ManagerFault BotStatus :=
  (host.stored bot).map Bot.status

/-- What a bot's blocks compile to now. -/
def preview (host : Host) (bot : String) : Except ManagerFault Compilation :=
  (host.stored bot).map fun found => host.compilation found.blocks

def describe (host : Host) : String :=
  "InstanceManager \x7b transport: " ++ Text.quoted MemoryTransport.name ++ ", running: [" ++
    ", ".intercalate (host.runningIds.map Text.quoted) ++ "] \x7d"

end Host

end BotHost
