/-
What becomes of a start.

A start finds its bot's record, opens a session, launches a loop with it, records that the bot runs and
registers the instance. It can fail at four places on this way, and at each it takes back what it has done
by then: before a session is open there is nothing to take back, and afterwards there are the loop, which
is told to stop, and the session, which is closed.

Operations on other bots go on meanwhile, so a host is not what it was even if the start has done nothing.
What the start does is therefore read off its own steps, each with the host before and the host after it,
and off the entries of its bot, which nobody else changes as long as no other operation on the bot has the
lock.
-/

import BotHost.Proofs.Manager.Disposal
import BotHost.Proofs.Manager.Mirroring
import BotHost.Proofs.Manager.Separation

namespace BotHost

/-- Whether a start has not read its bot's record. -/
def TaskState.asks : TaskState → Bool
  | .created | .waiting .lock | .answered .locked | .waiting (.readToStart none) => true
  | _ => false

/-- Whether a task is taking back the start of an instance, which has failed. -/
def TaskState.undoes (running : Instance) (fault : ManagerFault) : TaskState → Prop
  | .waiting (.join own ending _) | .answered (.joined own ending _) | .waiting (.joinAborted own ending)
  | .answered (.joinedAborted own ending) | .waiting (.close own ending _ _ _) =>
    own = running ∧ ending = .startFailed fault
  | _ => False

namespace Host

/-! ### What a task does -/

/-- The step of a task that a move is: the host before it and the host after it. -/
def stepOf? (number : TaskNumber) (host : Host) : Move → Option (Host × Host)
  | .step (.task other) => if other = number then (host.advance (.task other)).map (host, ·) else none
  | _ => none

/-- The steps of a task in the course of a run. -/
def stepsOf (number : TaskNumber) (first : Host) (moves : List Move) : List (Host × Host) :=
  along (stepOf? number) first moves

/-- The sessions that are opened by steps. -/
def openedBy (steps : List (Host × Host)) : List Nat :=
  steps.filterMap fun step =>
    if step.1.transport.openedCount < step.2.transport.openedCount then
      some step.1.transport.openedCount
    else none

/-- No more than tasks and locks has changed. -/
def Still (host next : Host) : Prop := next = host.withTasks next.tasks next.locks

/-- No more than tasks, locks and the store has changed. -/
def Writes (host next : Host) : Prop :=
  next = { host.withTasks next.tasks next.locks with store := next.store }

/-- A task has its bot to itself: no other task of the bot is past its lock. And if it waits for a session
to close, it waits long enough. -/
structure Alone (host : Host) (number : TaskNumber) (bot : String) : Prop where
  others : ∀ {other : TaskNumber} {task : Task}, host.task? other = some task → task.bot = bot →
    task.state.inside = true → other = number
  patient : ∀ {task : Task}, host.task? number = some task → task.state.patient = true

instance (host : Host) (number : TaskNumber) (bot : String) : Decidable (host.Alone number bot) :=
  decidable_of_iff ((∀ other < host.tasks.length, ∀ task ∈ host.task? other, task.bot = bot →
      task.state.inside = true → other = number) ∧
        ∀ task ∈ host.task? number, task.state.patient = true)
    ⟨fun both => ⟨fun found => both.1 _ (host.task?_lt found) _ found, fun found => both.2 _ found⟩,
      fun alone => ⟨fun _ _ _ found => alone.others found, fun _ found => alone.patient found⟩⟩

/-! ### What a start comes to -/

/-- A bot is stored with this record and does not run. -/
structure Idle (host : Host) (bot : String) (stored : Bot) : Prop where
  stored : host.store.find? bot = some stored
  gone : host.running? bot = none

/-- A bot runs as this instance and as no other, and the instance's session is open. -/
structure Up (host : Host) (bot : String) (running : Instance) : Prop where
  registered : host.running? bot = some running
  sole : ∀ other ∈ host.registry, other.bot = bot → other = running
  unclosed : ∃ session, host.transport.session? running.session = some session ∧ session.closed = false

/-- A session has been closed. -/
def Shut (host : Host) (opened : Nat) : Prop :=
  ∃ session, host.transport.session? opened = some session ∧ session.closed = true

section

variable (first : Host) (steps : List (Host × Host)) (host : Host) (bot : String)

/-- A start has had no effect, and its bot is as it was. -/
structure Unnoticed : Prop where
  still : ∀ step ∈ steps, step.1.Still step.2
  stored : host.store.find? bot = first.store.find? bot
  registered : host.running? bot = first.running? bot

/-- Why a start has no effect. -/
inductive Declines : ManagerFault → Prop
  | missing (missing : first.store.find? bot = none) : Declines (.botNotFound bot)
  | running (runs : first.running? bot ≠ none) : Declines (.alreadyRunning bot)
  | unread {step : Host × Host} {fault : StoreFault} (member : step ∈ steps)
      (unread : step.1.storeFind bot = .error fault) : Declines (.store fault)

/-- Why no session has been opened for a stored bot: its token is rejected, or the time to connect has
passed before the delay of the transport. -/
inductive Refuses (stored : Bot) : StartFailure → Prop
  | rejected {step : Host × Host} {fault : TransportFault} (member : step ∈ steps)
      (rejected : (step.1.transport.openSession stored.token).1 = .error fault) :
      Refuses stored (.connect fault)
  | late {asked step : Host × Host} (asks : asked ∈ steps) (member : step ∈ steps)
      (slow : step.1.now < asked.1.now + asked.1.transport.openDelay)
      (passed : asked.1.now + asked.1.settings.connectTimeout ≤ step.1.now) :
      Refuses stored (.timeout step.1.settings.connectTimeout)

/-- A start has been refused a session and has had no effect but on the status of its bot. This says so,
unless it could not be written. -/
structure Blamed (stored : Bot) (failure : StartFailure) : Prop where
  idle : first.Idle bot stored
  refused : Refuses steps stored failure
  writes : ∀ step ∈ steps, step.1.Writes step.2
  marked : host.Idle bot { stored with status := .error } ∨ host.Idle bot stored ∧
    ∃ step ∈ steps, ∃ fault, (step.1.storeSetStatus bot .error).1 = .error fault

/-- A start has opened one session and has launched an instance with it, the newest of all. -/
structure Launched (stored : Bot) (running : Instance) : Prop where
  idle : first.Idle bot stored
  opened : openedBy steps = [running.session]
  launched : ∃ step ∈ steps, running.generation = step.1.nextGeneration
  newest : ∀ {generation : Nat} {loop : SessionLoop}, first.loop? generation = some loop →
    generation < running.generation

/-- A start could not record that its bot runs, and the bot is as it was. -/
structure Unrecorded (stored : Bot) (running : Instance) (fault : StoreFault) : Prop where
  launched : Launched first steps bot stored running
  unwritten : ∃ step ∈ steps, (step.1.storeSetStatus bot .running).1 = .error fault
  idle : host.Idle bot stored

/-- What a start has come to when it returns, by what it returns. -/
inductive Attempt : Except ManagerFault Success → Prop
  | started {stored : Bot} {running : Instance} (launched : Launched first steps bot stored running)
      (up : host.Up bot running)
      (recorded : host.store.find? bot = some { stored with status := .running }) : Attempt (.ok .done)
  | declined {fault : ManagerFault} (declines : Declines first steps bot fault)
      (unnoticed : Unnoticed first steps host bot) : Attempt (.error fault)
  | refused {stored : Bot} {failure : StartFailure} (blamed : Blamed first steps host bot stored failure) :
      Attempt (.error (.startFailed bot failure))
  | unrecorded {stored : Bot} {running : Instance} {fault : StoreFault}
      (unrecorded : Unrecorded first steps host bot stored running fault)
      (shut : host.Shut running.session) : Attempt (.error (.ofStore fault))

/-- What a start has come to, by where it is. -/
inductive Phase : TaskState → Prop
  | asks {state : TaskState} (asks : state.asks = true) (unnoticed : Unnoticed first steps host bot) :
      Phase state
  | misses {fault : StoreFault} (unnoticed : Unnoticed first steps host bot)
      (unread : ∃ step ∈ steps, step.1.storeFind bot = .error fault) :
      Phase (.answered (.readToStart none (.error fault)))
  | reads (unnoticed : Unnoticed first steps host bot) :
      Phase (.answered (.readToStart none (.ok (first.store.find? bot))))
  | connects {stored : Bot} {asked : Host × Host} {handlers : List Handler}
      (unnoticed : Unnoticed first steps host bot) (idle : first.Idle bot stored) (asks : asked ∈ steps) :
      Phase (.waiting (.connect handlers stored.token (asked.1.now + asked.1.transport.openDelay)
        (asked.1.now + asked.1.settings.connectTimeout)))
  | refused {stored : Bot} {failure : StartFailure} {handlers : List Handler}
      (unnoticed : Unnoticed first steps host bot) (idle : first.Idle bot stored)
      (refused : Refuses steps stored failure) : Phase (.answered (.connected handlers (.error failure)))
  | blames {stored : Bot} {failure : StartFailure} (unnoticed : Unnoticed first steps host bot)
      (idle : first.Idle bot stored) (refused : Refuses steps stored failure) :
      Phase (.waiting (.recordFailed failure))
  | blamed {stored : Bot} {failure : StartFailure} (blamed : Blamed first steps host bot stored failure) :
      Phase (.answered (.recordedFailed failure))
  | opened {stored : Bot} {handlers : List Handler} {session : Nat} (idle : first.Idle bot stored)
      (still : host.Idle bot stored) (opened : openedBy steps = [session]) :
      Phase (.answered (.connected handlers (.ok session)))
  | launched {stored : Bot} {running : Instance} (launched : Launched first steps bot stored running)
      (still : host.Idle bot stored) : Phase (.waiting (.recordRunning running))
  | recorded {stored : Bot} {running : Instance} (launched : Launched first steps bot stored running)
      (recorded : host.Idle bot { stored with status := .running }) :
      Phase (.answered (.recordedRunning running (.ok ())))
  | unrecorded {stored : Bot} {running : Instance} {fault : StoreFault}
      (unrecorded : Unrecorded first steps host bot stored running fault) :
      Phase (.answered (.recordedRunning running (.error fault)))
  | undoes {state : TaskState} {stored : Bot} {running : Instance} {fault : StoreFault}
      (undoes : state.undoes running (.ofStore fault))
      (unrecorded : Unrecorded first steps host bot stored running fault) : Phase state
  | undone {stored : Bot} {running : Instance} {fault : StoreFault} {forced : Bool}
      (unrecorded : Unrecorded first steps host bot stored running fault)
      (shut : host.Shut running.session) :
      Phase (.answered (.closed running (.startFailed (.ofStore fault)) forced))
  | ended {result : Except ManagerFault Success} (attempt : Attempt first steps host bot result) :
      Phase (.finished result)

end

variable {first host next last : Host} {steps : List (Host × Host)} {number : TaskNumber}
  {task record : Task} {bot : String}

/-! ### What other moves leave alone -/

/-- A call from outside that registers no bot of the name leaves the bot's entry in the registry
and its record alone. -/
theorem aside_of_after {move : Move} (made : host.after? move = some next)
    (other : ∀ process, move ≠ .step process)
    (unregistered : ∀ stored, move = .register stored → stored.id ≠ bot) :
    next.running? bot = host.running? bot ∧ next.store.find? bot = host.store.find? bot := by
  cases move with
  | step process => exact absurd rfl (other process)
  | begin operation bot =>
    simp only [after?] at made
    split at made <;> cases made
    exact ⟨rfl, rfl⟩
  | shutdown =>
    cases made
    exact @stopAll_kept (fun next => next.running? bot = host.running? bot ∧
      next.store.find? bot = host.store.find? bot) (fun _ same => same) host ⟨rfl, rfl⟩
  | register stored =>
    cases made
    constructor
    · rw [register_eq]
      rfl
    · unfold register storeInsert
      dsimp only
      split
      · rfl
      · split
        next store done =>
          exact (host.store.find?_insert done bot).trans (if_neg (unregistered stored rfl).symm)
        · rfl
  | inject token event =>
    cases made
    rw [inject_eq]
    exact ⟨rfl, rfl⟩
  | endSession | reject | accept | clearSent | setDelays | setFaults | pass =>
    cases made
    exact ⟨rfl, rfl⟩

/-- Unless it is a step of its own, no move concerns the bot that a task has to itself. -/
theorem Alone.aside (alone : host.Alone number bot) (reachable : host.Reachable) {move : Move}
    (made : host.after? move = some next) (other : move ≠ .step (.task number))
    (unregistered : ∀ stored, move = .register stored → stored.id ≠ bot) :
    next.running? bot = host.running? bot ∧ next.store.find? bot = host.store.find? bot := by
  cases move with
  | step process =>
    cases process with
    | loop generation =>
      obtain ⟨registry, store, _⟩ := advance_loop_frame made
      rw [running?, registry, store]
      exact ⟨rfl, rfl⟩
    | task another =>
      obtain ⟨task, found, stepped⟩ := advance_task_cases made
      by_cases ofBot : task.bot = bot
      · have outside : task.state.inside = false := by
          by_contra inside
          exact other (by rw [alone.others found ofBot (by simpa using inside)])
        rcases stepped with ⟨_, rfl⟩ | ⟨wait, answer, answered, waiting, taken, rfl⟩ |
          ⟨answer, answered, rfl⟩
        · exact ⟨rfl, rfl⟩
        · rw [waiting] at outside
          cases answers_of_answer? taken with
          | locked => exact ⟨rfl, rfl⟩
          | _ => cases outside
        · rw [answered] at outside
          cases outside
      · exact ⟨(spares_of_advance reachable.custody found made).running (Ne.symm ofBot),
          find?_of_advance found made (Ne.symm ofBot)⟩
  | _ => exact aside_of_after made (fun _ same => by cases same) unregistered

/-- A bot that runs runs once, and its session is open. -/
theorem Reachable.up (reachable : host.Reachable) {running : Instance}
    (registered : host.running? bot = some running) : host.Up bot running := by
  refine ⟨registered, fun other member ofBot => ?_, ?_⟩
  · have found := reachable.distinct.running?_of_mem member
    rw [ofBot, registered] at found
    exact (Option.some.inj found).symm
  · obtain ⟨loop, there, _, session, _⟩ := reachable.custody.registered registered
    have bound : running.session < host.transport.sessions.length :=
      session ▸ reachable.paired.opened there
    have exists' := List.getElem?_eq_getElem bound
    obtain ⟨patterns, settings, bots, moves, run⟩ := reachable
    exact ⟨_, exists', (run.accounted.open_iff exists').mpr (.inl (.inl ⟨bot, running, registered, rfl⟩))⟩

/-! ### The effect of a step -/

theorem Still.running? (still : host.Still next) (bot : String) :
    next.running? bot = host.running? bot := by
  rw [still]
  rfl

theorem Still.find? (still : host.Still next) (bot : String) :
    next.store.find? bot = host.store.find? bot := by
  rw [still]
  rfl

theorem Still.transport (still : host.Still next) : next.transport = host.transport := by
  rw [still]
  rfl

theorem Still.writes (still : host.Still next) : host.Writes next := by
  have store : next.store = host.store := by
    rw [still]
    rfl
  rw [Writes, store]
  exact still

/-- Noting a task's result leaves registry, records and transport as they are. -/
theorem still_finish (host : Host) (number : TaskNumber) (task : Task)
    (result : Except ManagerFault Success) : host.Still (host.finish number task result) := by
  rw [finish_eq]
  rfl

/-- A status has been written to the record, or there was a fault and nothing has. -/
theorem storeSetStatus_result (host : Host) (bot : String) (status : BotStatus) :
    ((host.storeSetStatus bot status).1 = .ok () ∧ ∀ {stored : Bot},
        host.store.find? bot = some stored →
          (host.storeSetStatus bot status).2.store.find? bot = some { stored with status }) ∨
      ∃ fault, (host.storeSetStatus bot status).1 = .error fault ∧
        (host.storeSetStatus bot status).2 = host := by
  unfold storeSetStatus
  split
  · exact .inr ⟨_, rfl, rfl⟩
  split
  · exact .inr ⟨_, rfl, rfl⟩
  split
  next store done =>
    refine .inl ⟨rfl, fun found => ?_⟩
    exact (host.store.find?_setStatus done bot).trans (by rw [if_pos rfl, found, Option.map_some])
  next fault _ => exact .inr ⟨fault, rfl, rfl⟩

theorem openedBy_concat_of_eq (same : next.transport.openedCount = host.transport.openedCount) :
    openedBy (steps ++ [(host, next)]) = openedBy steps := by
  simp [openedBy, same]

theorem openedBy_concat_of_lt (more : host.transport.openedCount < next.transport.openedCount) :
    openedBy (steps ++ [(host, next)]) = openedBy steps ++ [host.transport.openedCount] := by
  simp [openedBy, more]

/-- Steps that leave the transport alone open no session. -/
theorem openedBy_of_still (still : ∀ step ∈ steps, step.1.Still step.2) : openedBy steps = [] := by
  refine List.filterMap_eq_nil_iff.mpr fun step member => if_neg ?_
  rw [still step member]
  exact Nat.lt_irrefl _

theorem Idle.congr {stored : Bot} (idle : host.Idle bot stored)
    (registered : next.running? bot = host.running? bot)
    (same : next.store.find? bot = host.store.find? bot) : next.Idle bot stored :=
  ⟨same.trans idle.stored, registered.trans idle.gone⟩

theorem Unnoticed.idle (unnoticed : Unnoticed first steps host bot) {stored : Bot}
    (idle : first.Idle bot stored) : host.Idle bot stored :=
  idle.congr unnoticed.registered unnoticed.stored

/-- A step without effect leaves an attempt unnoticed. -/
theorem Unnoticed.concat (unnoticed : Unnoticed first steps host bot) (still : host.Still next) :
    Unnoticed first (steps ++ [(host, next)]) next bot where
  still := List.forall_mem_append.mpr ⟨unnoticed.still, List.forall_mem_singleton.mpr still⟩
  stored := (still.find? bot).trans unnoticed.stored
  registered := (still.running? bot).trans unnoticed.registered

/-- A refusal met on the way was met on the longer way too. -/
theorem Refuses.concat {stored : Bot} {failure : StartFailure} (refused : Refuses steps stored failure)
    (step : Host × Host) : Refuses (steps ++ [step]) stored failure := by
  cases refused with
  | rejected member rejected => exact .rejected (List.mem_append_left _ member) rejected
  | late asks member slow passed =>
    exact .late (List.mem_append_left _ asks) (List.mem_append_left _ member) slow passed

theorem Launched.concat {stored : Bot} {running : Instance}
    (launched : Launched first steps bot stored running)
    (count : next.transport.openedCount = host.transport.openedCount) :
    Launched first (steps ++ [(host, next)]) bot stored running where
  idle := launched.idle
  opened := (openedBy_concat_of_eq count).trans launched.opened
  launched := launched.launched.imp fun _ => And.imp_left (List.mem_append_left _)
  newest := launched.newest

theorem Unrecorded.concat {stored : Bot} {running : Instance} {fault : StoreFault}
    (unrecorded : Unrecorded first steps host bot stored running fault)
    (count : next.transport.openedCount = host.transport.openedCount)
    (registered : next.running? bot = host.running? bot)
    (same : next.store.find? bot = host.store.find? bot) :
    Unrecorded first (steps ++ [(host, next)]) next bot stored running fault where
  launched := unrecorded.launched.concat count
  unwritten := unrecorded.unwritten.imp fun _ => And.imp_left (List.mem_append_left _)
  idle := unrecorded.idle.congr registered same

theorem Blamed.concat {stored : Bot} {failure : StartFailure}
    (blamed : Blamed first steps host bot stored failure) (still : host.Still next) :
    Blamed first (steps ++ [(host, next)]) next bot stored failure where
  idle := blamed.idle
  refused := blamed.refused.concat _
  writes := List.forall_mem_append.mpr ⟨blamed.writes, List.forall_mem_singleton.mpr still.writes⟩
  marked := blamed.marked.imp (·.congr (still.running? bot) (still.find? bot)) fun both =>
    ⟨both.1.congr (still.running? bot) (still.find? bot),
      both.2.imp fun _ => And.imp_left (List.mem_append_left _)⟩

/-! ### While others go on -/

/-- A session that is shut stays shut, since no session is opened again. -/
theorem Shut.after {opened : Nat} (shut : host.Shut opened)
    (changes : host.transport.Changes next.transport) : next.Shut opened := by
  obtain ⟨session, there, closed⟩ := shut
  obtain ⟨later, there', _, kept, _⟩ := changes.session? there
  exact ⟨later, there', kept closed⟩

/-- Closing a session that was opened shuts it. -/
theorem shut_closeSession {opened : Nat} (there : opened < host.transport.openedCount) :
    { host with transport := host.transport.closeSession opened }.Shut opened := by
  have closed := host.transport.session?_closeSession opened opened
  rw [if_pos rfl, show host.transport.session? opened = _ from List.getElem?_eq_getElem there,
    Option.map_some] at closed
  refine ⟨_, closed, ?_⟩
  split
  next already => exact already
  next => rfl

section

variable (registered : next.running? bot = host.running? bot)
  (same : next.store.find? bot = host.store.find? bot)

include registered same

theorem Unnoticed.aside (unnoticed : Unnoticed first steps host bot) : Unnoticed first steps next bot :=
  ⟨unnoticed.still, same.trans unnoticed.stored, registered.trans unnoticed.registered⟩

theorem Blamed.aside {stored : Bot} {failure : StartFailure}
    (blamed : Blamed first steps host bot stored failure) :
    Blamed first steps next bot stored failure :=
  { blamed with
    marked := blamed.marked.imp (·.congr registered same) (And.imp_left (·.congr registered same)) }

theorem Unrecorded.aside {stored : Bot} {running : Instance} {fault : StoreFault}
    (unrecorded : Unrecorded first steps host bot stored running fault) :
    Unrecorded first steps next bot stored running fault :=
  { unrecorded with idle := unrecorded.idle.congr registered same }

variable (reachable : next.Reachable) (changes : host.transport.Changes next.transport)

include reachable changes

/-- What a start has come to stays so while its bot is left alone. -/
theorem Attempt.aside {result : Except ManagerFault Success}
    (attempt : Attempt first steps host bot result) : Attempt first steps next bot result := by
  cases attempt with
  | started launched up recorded =>
    exact .started launched (reachable.up (registered.trans up.registered)) (same.trans recorded)
  | declined declines unnoticed => exact .declined declines (unnoticed.aside registered same)
  | refused blamed => exact .refused (blamed.aside registered same)
  | unrecorded unrecorded shut =>
    exact .unrecorded (unrecorded.aside registered same) (shut.after changes)

/-- What others do in between leaves the phase of the attempt as it is. -/
theorem Phase.aside {state : TaskState} (phase : Phase first steps host bot state) :
    Phase first steps next bot state := by
  cases phase with
  | asks asks unnoticed => exact .asks asks (unnoticed.aside registered same)
  | misses unnoticed unread => exact .misses (unnoticed.aside registered same) unread
  | reads unnoticed => exact .reads (unnoticed.aside registered same)
  | connects unnoticed idle asks => exact .connects (unnoticed.aside registered same) idle asks
  | refused unnoticed idle refused => exact .refused (unnoticed.aside registered same) idle refused
  | blames unnoticed idle refused => exact .blames (unnoticed.aside registered same) idle refused
  | blamed blamed => exact .blamed (blamed.aside registered same)
  | opened idle still opened => exact .opened idle (still.congr registered same) opened
  | launched launched still => exact .launched launched (still.congr registered same)
  | recorded launched recorded => exact .recorded launched (recorded.congr registered same)
  | unrecorded unrecorded => exact .unrecorded (unrecorded.aside registered same)
  | undoes undoes unrecorded => exact .undoes undoes (unrecorded.aside registered same)
  | undone unrecorded shut => exact .undone (unrecorded.aside registered same) (shut.after changes)
  | ended attempt => exact .ended (attempt.aside registered same reachable changes)

end

/-! ### Answers to a start -/

section

variable {answer : Answer} {answered : Host} {stored : Bot} {running : Instance}

/-- A start reads the record of its bot, or a fault. -/
theorem Phase.read (unnoticed : Unnoticed first steps host task.bot)
    (taken : host.answer? number task (.readToStart none) = some (answer, answered)) :
    Phase first (steps ++ [(host, answered.setTaskState number (.answered answer))])
      (answered.setTaskState number (.answered answer)) task.bot (.answered answer) := by
  cases answers_of_answer? taken
  cases read : host.storeFind task.bot with
  | error fault =>
    exact .misses (unnoticed.concat rfl) ⟨_, List.mem_append_right _ List.mem_cons_self, read⟩
  | ok found =>
    have same : found = first.store.find? task.bot := by
      unfold storeFind at read
      split at read
      · cases read
      · exact (Except.ok.inj read).symm.trans unnoticed.stored
    rw [same]
    exact .reads (unnoticed.concat rfl)

/-- Opening a session opens the next one, or is refused and opens none. -/
theorem Phase.connected {asked : Host × Host} {handlers : List Handler}
    (unnoticed : Unnoticed first steps host bot)
    (idle : first.Idle bot stored) (asks : asked ∈ steps)
    (taken : host.answer? number task (.connect handlers stored.token
      (asked.1.now + asked.1.transport.openDelay) (asked.1.now + asked.1.settings.connectTimeout)) =
        some (answer, answered)) :
    Phase first (steps ++ [(host, answered.setTaskState number (.answered answer))])
      (answered.setTaskState number (.answered answer)) bot (.answered answer) := by
  cases answers_of_answer? taken with
  | rejected _ _ _ rejects =>
    exact .refused (unnoticed.concat rfl) idle
      (.rejected (List.mem_append_right _ List.mem_cons_self) rejects)
  | @opened _ _ _ _ _ transport _ opens =>
    obtain ⟨rfl, sessions, _⟩ := MemoryTransport.openSession_ok opens
    have still := unnoticed.idle idle
    refine .opened idle ⟨still.stored, still.gone⟩ ((openedBy_concat_of_lt ?_).trans ?_)
    · show host.transport.sessions.length < transport.sessions.length
      rw [sessions, List.length_append]
      exact Nat.lt_add_one _
    · rw [openedBy_of_still unnoticed.still]
      rfl
  | unopened _ _ early passed =>
    exact .refused (unnoticed.concat rfl) idle (.late (List.mem_append_left _ asks)
      (List.mem_append_right _ List.mem_cons_self) early passed)

/-- When the status for a refused start has been written, or could not be, the attempt is blamed. -/
theorem Phase.written {failure : StartFailure} (unnoticed : Unnoticed first steps host task.bot)
    (idle : first.Idle task.bot stored) (refused : Refuses steps stored failure)
    (taken : host.answer? number task (.recordFailed failure) = some (answer, answered)) :
    Phase first (steps ++ [(host, answered.setTaskState number (.answered answer))])
      (answered.setTaskState number (.answered answer)) task.bot (.answered answer) := by
  cases answers_of_answer? taken
  have still := unnoticed.idle idle
  have result := host.storeSetStatus_result task.bot .error
  refine .blamed ⟨idle, refused.concat _, List.forall_mem_append.mpr
    ⟨fun step member => (unnoticed.still step member).writes, List.forall_mem_singleton.mpr ?_⟩, ?_⟩
  · show host.Writes _
    rw [storeSetStatus_eq]
    rfl
  · rcases result with ⟨_, written⟩ | ⟨fault, failed, same⟩
    · refine .inl ⟨written still.stored, ?_⟩
      rw [storeSetStatus_eq]
      exact still.gone
    · refine .inr ⟨?_, _, List.mem_append_right _ List.mem_cons_self, fault, failed⟩
      rw [same]
      exact ⟨still.stored, still.gone⟩

/-- When the running status has been written, or could not be, that is recorded of the launch. -/
theorem Phase.confirmed (launched : Launched first steps task.bot stored running)
    (still : host.Idle task.bot stored)
    (taken : host.answer? number task (.recordRunning running) = some (answer, answered)) :
    Phase first (steps ++ [(host, answered.setTaskState number (.answered answer))])
      (answered.setTaskState number (.answered answer)) task.bot (.answered answer) := by
  cases answers_of_answer? taken
  have count : ((host.storeSetStatus task.bot .running).2.setTaskState number
      (.answered (.recordedRunning running (host.storeSetStatus task.bot .running).1))).transport.openedCount
        = host.transport.openedCount := by
    rw [storeSetStatus_eq]
    rfl
  have launched := launched.concat count
  rcases host.storeSetStatus_result task.bot .running with ⟨result, written⟩ | ⟨fault, failed, same⟩
  · rw [result] at launched ⊢
    refine .recorded launched ⟨written still.stored, ?_⟩
    rw [storeSetStatus_eq]
    exact still.gone
  · rw [failed] at launched ⊢
    refine .unrecorded ⟨launched, ⟨_, List.mem_append_right _ List.mem_cons_self, failed⟩, ?_⟩
    rw [same]
    exact ⟨still.stored, still.gone⟩

/-- While a start is taken back its session is not given up, and so it is closed. -/
theorem Phase.undoing (custody : host.Custody) (paired : host.Paired)
    (found : host.task? number = some task) {wait : Wait} (waiting : task.state = .waiting wait)
    (patient : task.state.patient = true) {fault : StoreFault}
    (undoes : task.state.undoes running (.ofStore fault))
    (unrecorded : Unrecorded first steps host task.bot stored running fault)
    (taken : host.answer? number task wait = some (answer, answered)) :
    Phase first (steps ++ [(host, answered.setTaskState number (.answered answer))])
      (answered.setTaskState number (.answered answer)) task.bot (.answered answer) := by
  rw [waiting] at undoes patient
  cases answers_of_answer? taken with
  | joined | unjoined | joinedAborted => exact .undoes undoes (unrecorded.concat rfl rfl rfl)
  | closed own =>
    obtain ⟨loop, there, _, session, _⟩ :=
      (custody.charged found (show task.state.charge? = some (.ended, own) by rw [waiting]; rfl)).2
    obtain ⟨rfl, rfl⟩ := undoes
    refine .undone (unrecorded.concat (host.transport.length_closeSession own.session) rfl rfl) ?_
    exact shut_closeSession (session ▸ paired.opened there)
  | @unclosed _ _ _ due deadline early passed =>
    have enough : due ≤ deadline := of_decide_eq_true patient
    exact absurd (Nat.le_trans enough passed) (Nat.not_le_of_lt early)
  | _ => cases undoes

/-- An answer that is taken leads from one phase to the next. -/
theorem Phase.answers (phase : Phase first steps host task.bot task.state) (custody : host.Custody)
    (paired : host.Paired) (found : host.task? number = some task) {wait : Wait}
    (waiting : task.state = .waiting wait) (patient : task.state.patient = true)
    (taken : host.answer? number task wait = some (answer, answered)) :
    Phase first (steps ++ [(host, answered.setTaskState number (.answered answer))])
      (answered.setTaskState number (.answered answer)) task.bot (.answered answer) := by
  generalize same : task.state = state at phase
  cases phase with
  | asks asks unnoticed =>
    rw [← same, waiting] at asks
    cases wait with
    | lock =>
      cases answers_of_answer? taken
      exact .asks rfl (unnoticed.concat rfl)
    | readToStart token =>
      cases token with
      | none => exact .read unnoticed taken
      | some => cases asks
    | _ => cases asks
  | connects unnoticed idle asks =>
    cases waiting.symm.trans same
    exact .connected unnoticed idle asks taken
  | blames unnoticed idle refused =>
    cases waiting.symm.trans same
    exact .written unnoticed idle refused taken
  | launched launched still =>
    cases waiting.symm.trans same
    exact .confirmed launched still taken
  | undoes undoes unrecorded =>
    exact .undoing custody paired found waiting patient (same ▸ undoes) unrecorded taken
  | _ => cases waiting.symm.trans same

end

/-! ### A start goes on -/

/-- A step has led a start from one phase to another. -/
def Proceeds (first : Host) (steps : List (Host × Host)) (host : Host) (number : TaskNumber) (task : Task)
    (next : Host) : Prop :=
  ∃ lock state, next.task? number = some { task with lock, state } ∧
    Phase first (steps ++ [(host, next)]) next task.bot state

section

variable {answer : Answer} {stored : Bot} {running : Instance} (found : host.task? number = some task)

include found

theorem Proceeds.finish {result : Except ManagerFault Success}
    (attempt : Attempt first (steps ++ [(host, host.finish number task result)])
      (host.finish number task result) task.bot result) :
    Proceeds first steps host number task (host.finish number task result) :=
  ⟨none, _, task?_finish_self found result, .ended attempt⟩

theorem Proceeds.waitFor {wait : Wait} (phase : Phase first (steps ++ [(host, host.waitFor number wait)])
      (host.waitFor number wait) task.bot (.waiting wait)) :
    Proceeds first steps host number task (host.waitFor number wait) :=
  ⟨task.lock, _, waitFor_found found, phase⟩

/-- A task that begins a start proceeds, with nothing noticed of it yet. -/
theorem Proceeds.begin (starts : task.operation = .start)
    (unnoticed : Unnoticed first steps host task.bot) :
    Proceeds first steps host number task (host.begin number task) := by
  have begins : host.begin number task = host.waitFor number (.readToStart none) := by
    unfold Host.begin
    rw [starts]
  rw [begins]
  exact .waitFor found (.asks rfl (unnoticed.concat rfl))

/-- A task that has read its bot's record proceeds: it declines to start the bot, or asks for a
session. -/
theorem Proceeds.connect (unnoticed : Unnoticed first steps host task.bot) :
    Proceeds first steps host number task
      (host.connect number task none (.ok (first.store.find? task.bot))) := by
  cases read : first.store.find? task.bot with
  | none => exact .finish found (.declined (.missing read) (unnoticed.concat (still_finish ..)))
  | some stored =>
    unfold Host.connect
    dsimp only
    split
    next runs =>
      refine .finish found (.declined (.running ?_) (unnoticed.concat (still_finish ..)))
      rw [← unnoticed.registered]
      exact Option.isSome_iff_ne_none.mp runs
    next idle =>
      have gone : first.running? task.bot = none := by
        rw [← unnoticed.registered]
        simpa [isRunning] using idle
      exact .waitFor found (.connects (unnoticed.concat (by exact rfl)) ⟨read, gone⟩
        (List.mem_append_right steps (List.mem_singleton_self (host, _))))

/-- The instance that is launched gets the next generation. -/
theorem Proceeds.launch {handlers : List Handler} {session : Nat} (idle : first.Idle task.bot stored)
    (still : host.Idle task.bot stored) (opened : openedBy steps = [session])
    (later : first.nextGeneration ≤ host.nextGeneration) :
    Proceeds first steps host number task (host.launch number task handlers session) := by
  have launched : Launched first (steps ++ [(host, host.launch number task handlers session)]) task.bot
      stored ⟨task.bot, host.nextGeneration, session, handlers⟩ := by
    refine ⟨idle, (openedBy_concat_of_eq ?_).trans opened, ?_, fun there => ?_⟩
    · exact MemoryTransport.length_change ..
    · exact ⟨_, List.mem_append_right _ List.mem_cons_self, rfl⟩
    · exact Nat.lt_of_lt_of_le (first.loop?_lt there) later
  exact ⟨task.lock, _, waitFor_found found, .launched launched (still.congr rfl rfl)⟩

/-- A task that enrolls what it has launched proceeds to its end: the bot runs. -/
theorem Proceeds.enroll (custody : host.Custody) {result : Except StoreFault Unit}
    (answered : task.state = .answered (.recordedRunning running result))
    (reachable : ((host.enroll running).finish number task (.ok .done)).Reachable)
    (launched : Launched first steps task.bot stored running)
    (recorded : host.Idle task.bot { stored with status := .running }) :
    Proceeds first steps host number task ((host.enroll running).finish number task (.ok .done)) := by
  have ofBot : running.bot = task.bot :=
    (custody.charged found (show task.state.charge? = some (.launched, running) by rw [answered]; rfl)).1
  have still := still_finish (host.enroll running) number task (.ok .done)
  have registered : ((host.enroll running).finish number task (.ok .done)).running? task.bot =
      some running := by
    rw [still.running?, running?_enroll, if_pos ofBot.symm]
  have ended := @task?_finish_self (host.enroll running) number task found (.ok .done)
  exact ⟨none, _, ended, .ended (.started (launched.concat (congrArg _ still.transport))
    (reachable.up registered) ((still.find? task.bot).trans recorded.stored))⟩

/-- The start of an instance is taken back: its loop is to come to its end, and its session is to close. -/
theorem Proceeds.undo {fault : StoreFault} (undoes : task.state.undoes running (.ofStore fault))
    (answered : task.state = .answered answer)
    (unrecorded : Unrecorded first steps host task.bot stored running fault) :
    Proceeds first steps host number task (host.resume number task answer) := by
  rw [answered] at undoes
  cases answer with
  | joined own ending finished =>
    cases finished with
    | true => exact .waitFor found (.undoes undoes (unrecorded.concat rfl rfl rfl))
    | false => exact ⟨task.lock, _, waitFor_found found, .undoes undoes (unrecorded.concat rfl rfl rfl)⟩
  | joinedAborted own ending => exact .waitFor found (.undoes undoes (unrecorded.concat rfl rfl rfl))
  | _ => cases undoes

/-- A task that goes on with its answer proceeds. -/
theorem Phase.resumes (phase : Phase first steps host task.bot task.state) (custody : host.Custody)
    (starts : task.operation = .start) (answered : task.state = .answered answer)
    (reachable : (host.resume number task answer).Reachable)
    (later : first.nextGeneration ≤ host.nextGeneration) :
    Proceeds first steps host number task (host.resume number task answer) := by
  generalize same : task.state = state at phase
  cases phase with
  | asks asks unnoticed =>
    rw [← same, answered] at asks
    cases answer with
    | locked => exact .begin found starts unnoticed
    | _ => cases asks
  | undoes undoes unrecorded => exact .undo found (same ▸ undoes) answered unrecorded
  | misses unnoticed unread =>
    cases answered.symm.trans same
    obtain ⟨step, member, unread⟩ := unread
    exact .finish found (.declined (.unread (List.mem_append_left _ member) unread)
      (unnoticed.concat (still_finish ..)))
  | reads unnoticed =>
    cases answered.symm.trans same
    exact .connect found unnoticed
  | refused unnoticed idle refused =>
    cases answered.symm.trans same
    exact .waitFor found (.blames (unnoticed.concat rfl) idle (refused.concat _))
  | blamed blamed =>
    cases answered.symm.trans same
    exact .finish found (.refused (blamed.concat (still_finish ..)))
  | opened idle still opened =>
    cases answered.symm.trans same
    exact .launch found idle still opened later
  | recorded launched recorded =>
    cases answered.symm.trans same
    exact .enroll found custody answered reachable launched recorded
  | unrecorded unrecorded =>
    cases answered.symm.trans same
    exact ⟨task.lock, _, waitFor_found found, .undoes ⟨rfl, rfl⟩ (unrecorded.concat rfl rfl rfl)⟩
  | @undone _ _ fault _ unrecorded shut =>
    cases answered.symm.trans same
    have still := still_finish host number task (.error (.ofStore fault))
    refine .finish found (.unrecorded (unrecorded.concat (congrArg _ still.transport)
      (still.running? _) (still.find? _)) ?_)
    rwa [Shut, still.transport]
  | connects | blames | launched | ended => cases answered.symm.trans same

end

/-! ### A start from its beginning to its end -/

/-- Whatever step a start takes, it proceeds. -/
theorem Phase.proceeds (phase : Phase first steps host task.bot task.state) (reachable : host.Reachable)
    (found : host.task? number = some task) (starts : task.operation = .start)
    (patient : task.state.patient = true) (later : first.nextGeneration ≤ host.nextGeneration)
    (stepped : host.advance (.task number) = some next) :
    Proceeds first steps host number task next := by
  have reachable' : next.Reachable :=
    reachable.run (.move (show host.after? (.step (.task number)) = some next from stepped) (.rest next))
  obtain ⟨created, rfl⟩ | ⟨wait, answer, answered, waiting, taken, rfl⟩ | ⟨answer, answered, rfl⟩ :=
    advance_found_cases found stepped
  · rw [created] at phase
    refine ⟨_, _, task?_changeTask_self found _, ?_⟩
    cases phase with
    | asks asks unnoticed => exact .asks rfl (unnoticed.concat rfl)
    | undoes undoes => cases undoes
  · exact ⟨task.lock, _, task?_answered found taken,
      phase.answers reachable.custody reachable.paired found waiting patient taken⟩
  · exact phase.resumes found reachable.custody starts answered reachable' later

/-- A task that takes a step has not ended. -/
theorem unended_of_advance (found : host.task? number = some task)
    (stepped : host.advance (.task number) = some next) : task.state.ended = false := by
  cases state : task.state with
  | finished => exact absurd ((advance_of_finished found state).symm.trans stepped) nofun
  | created | waiting | answered => rfl

/-- A move of anything else is no step of the task. -/
theorem stepOf?_of_ne {move : Move} (other : move ≠ .step (.task number)) :
    stepOf? number host move = none := by
  unfold stepOf?
  split
  next another => exact if_neg fun same => other (by rw [same])
  next => rfl

theorem stepOf?_self (stepped : host.advance (.task number) = some next) :
    stepOf? number host (.step (.task number)) = some (host, next) := by
  rw [stepOf?, if_pos rfl, stepped, Option.map_some]

/-- Moves of anything else add no step of the task. -/
theorem Run.stepsOf_of_ne {moves : List Move} {move : Move} (run : Run first moves host)
    (made : host.after? move = some next) (other : move ≠ .step (.task number)) :
    first.stepsOf number (moves ++ [move]) = first.stepsOf number moves := by
  rw [stepsOf, run.along_concat made, stepOf?_of_ne other]
  exact List.append_nil _

theorem Run.stepsOf_self {moves : List Move} (run : Run first moves host)
    (stepped : host.advance (.task number) = some next) :
    first.stepsOf number (moves ++ [.step (.task number)]) =
      first.stepsOf number moves ++ [(host, next)] := by
  rw [stepsOf, run.along_concat (show host.after? (.step (.task number)) = some next from stepped),
    stepOf?_self stepped]
  rfl

theorem stepsOf_cons_self (stepped : host.advance (.task number) = some next) (moves : List Move) :
    host.stepsOf number (.step (.task number) :: moves) =
      (host, next) :: next.stepsOf number moves := by
  rw [stepsOf, along_cons (show host.after? (.step (.task number)) = some next from stepped),
    stepOf?_self stepped]
  rfl

/-- How far a start has come in the course of a run. -/
structure Underway (first : Host) (moves : List Move) (host : Host) (number : TaskNumber)
    (bot : String) : Prop where
  phase : ∃ lock state, host.task? number = some ⟨.start, bot, lock, state⟩ ∧
    Phase first (first.stepsOf number moves) host bot state
  spares : ∀ step ∈ first.stepsOf number moves, ∀ other ≠ bot,
    step.2.running? other = step.1.running? other ∧ step.2.store.find? other = step.1.store.find? other

/-- A start is underway, or has ended, whatever moves next. -/
theorem Underway.concat {moves : List Move} {move : Move} (underway : Underway first moves host number bot)
    (reachable : first.Reachable) (run : Run first moves host) (alone : host.Alone number bot)
    (unregistered : ∀ stored, move = .register stored → stored.id ≠ bot)
    (made : host.after? move = some next) : Underway first (moves ++ [move]) next number bot := by
  obtain ⟨⟨lock, state, found, phase⟩, spares⟩ := underway
  have reachable' := reachable.run run
  by_cases own : move = .step (.task number)
  · subst own
    have later : first.nextGeneration ≤ host.nextGeneration :=
      run.keeps (fun before made => Nat.le_trans before (nextGeneration_le made)) (Nat.le_refl _)
    constructor
    · rw [run.stepsOf_self made]
      exact phase.proceeds reachable' found rfl (alone.patient found) later made
    · rw [run.stepsOf_self made]
      refine List.forall_mem_append.mpr ⟨spares, List.forall_mem_singleton.mpr fun other different => ?_⟩
      exact ⟨(spares_of_advance reachable'.custody found made).running different,
        find?_of_advance found made different⟩
  · obtain ⟨registered, same⟩ := alone.aside reachable' made own unregistered
    constructor
    · rw [run.stepsOf_of_ne made own]
      exact ⟨lock, state, task?_after_of_ne made own found, phase.aside registered same
        (reachable'.run (.move made (.rest next))) (changes_of_after made)⟩
    · rw [run.stepsOf_of_ne made own]
      exact spares

/-- A start that returns has either had its effect as a whole or none but what it reports, whatever
operations on other bots do meanwhile, and at no step does it concern another bot. -/
theorem Run.attempts {moves : List Move} {result : Except ManagerFault Success}
    (reachable : first.Reachable) (begun : first.task? number = some ⟨.start, bot, none, .created⟩)
    (run : Run first moves last) (alone : Throughout (·.Alone number bot) first moves)
    (unregistered : ∀ stored, .register stored ∈ moves → stored.id ≠ bot)
    (found : last.task? number = some record) (ended : record.state = .finished result) :
    Attempt first (first.stepsOf number moves) last bot result ∧
      ∀ step ∈ first.stepsOf number moves, ∀ other ≠ bot,
        step.2.running? other = step.1.running? other ∧
          step.2.store.find? other = step.1.store.find? other := by
  have underway : Underway first moves last number bot := by
    refine @keeps_history _ _ _ (fun moves host => Throughout (·.Alone number bot) first moves →
      (∀ stored, .register stored ∈ moves → stored.id ≠ bot) → Underway first moves host number bot)
      ?_ ?_ run alone unregistered
    · exact fun _ _ => ⟨⟨none, .created, begun, .asks rfl ⟨nofun, rfl, rfl⟩⟩, nofun⟩
    · intro moves host next move run earlier made alone unregistered
      have before := earlier (fun split before => alone (by rw [split, List.append_assoc]) before)
        fun stored member => unregistered stored (List.mem_append_left _ member)
      refine before.concat reachable run (alone rfl run) ?_ made
      rintro stored rfl
      exact unregistered stored (List.mem_append_right _ List.mem_cons_self)
  obtain ⟨⟨lock, state, there, phase⟩, spares⟩ := underway
  cases Option.some.inj (there.symm.trans found)
  rw [show state = _ from ended] at phase
  refine ⟨?_, spares⟩
  cases phase with
  | ended attempt => exact attempt
  | asks asks => cases asks
  | undoes undoes => cases undoes

/-- A bot is started while another one is, and the store fails when the start has opened its session. -/
def startUnrecorded : List Move :=
  .replicate 7 (.step (.task 0)) ++ .replicate 9 (.step (.task 1)) ++
    [.setFaults [.setStatus], .step (.task 0), .step (.task 0), .step (.loop 1)] ++
      .replicate 4 (.step (.task 0))

theorem attempts_startUnrecorded : ∃ first last record,
    Run (seeded .unlimited {} [.plain "bot" "token", .plain "other" "second"])
        [.begin .start "bot", .begin .start "other"] first ∧
      first.task? 0 = some ⟨.start, "bot", none, .created⟩ ∧ Run first startUnrecorded last ∧
      last.task? 0 = some record ∧ last.isRunning "other" = true ∧
      record.state = .finished (.error (.store (FaultPoint.setStatus.unavailable))) ∧
      Attempt first (first.stepsOf 0 startUnrecorded) last "bot"
        (.error (.store (FaultPoint.setStatus.unavailable))) := by
  have played : ((seeded .unlimited {} [.plain "bot" "token", .plain "other" "second"]).play
      [.begin .start "bot", .begin .start "other"]).bind (fun first =>
        (first.play startUnrecorded).bind fun last => (last.task? 0).map fun record =>
          (first.task? 0, last.isRunning "other", record.state,
            decide (Throughout (·.Alone 0 "bot") first startUnrecorded))) =
      some (some ⟨.start, "bot", none, .created⟩, true,
        .finished (.error (.store (FaultPoint.setStatus.unavailable))), true) := by rfl
  simp only [Option.bind_eq_some_iff, Option.map_eq_some_iff, Prod.mk.injEq, decide_eq_true_eq]
    at played
  obtain ⟨first, begins, last, rest, record, found, begun, other, ended, alone⟩ := played
  have reachable : first.Reachable := ⟨_, _, _, _, run_iff.mpr begins⟩
  have run := run_iff.mpr rest
  have unregistered (stored : Bot) (member : .register stored ∈ startUnrecorded) : stored.id ≠ "bot" := by
    simp [startUnrecorded] at member
  have attempts := Run.attempts reachable begun run alone unregistered found ended
  exact ⟨first, last, record, run_iff.mpr begins, begun, run, found, other, ended, attempts.1⟩

end Host

end BotHost
