/-
The registry and the stored statuses.

As long as no call to the store fails, a registered bot is stored as running; and a bot that is stored
as running is registered, unless a task has taken its instance out and is about to write another
status, or has just written this one and is about to register the instance.
-/

import BotHost.Proofs.Manager.Registry

namespace BotHost

/-- Where calls to the store can fail. -/
def FaultPoint.ofStore : List FaultPoint :=
  [.get, .list, .insert, .update, .setStatus, .setStatusNotFound, .remove]

/-- Whether a task has written that its bot runs, and has not registered the instance yet. -/
def TaskState.confirms : TaskState → Bool
  | .answered (.recordedRunning _ (.ok _)) => true
  | _ => false

namespace Host

/-- The status that a bot is stored with. -/
def statusOf? (host : Host) (bot : String) : Option BotStatus :=
  (host.store.find? bot).map Bot.status

/-- No call to the store is failing. -/
def Reliable (host : Host) : Prop := ∀ point ∈ FaultPoint.ofStore, host.fails point = false

instance (host : Host) : Decidable host.Reliable :=
  inferInstanceAs (Decidable (∀ point ∈ FaultPoint.ofStore, host.fails point = false))

/-- The registry and the stored statuses agree, but for what tasks are about to do. -/
structure Ledger (host : Host) : Prop where
  recorded : ∀ {bot : String} {running : Instance}, host.running? bot = some running →
    host.statusOf? bot = some .running
  explained : ∀ {bot : String}, host.statusOf? bot = some .running →
    (∃ running, host.running? bot = some running) ∨ ∃ number task,
      host.task? number = some task ∧ task.bot = bot ∧ task.state.owes = true
  confirmed : ∀ {number : TaskNumber} {task : Task}, host.task? number = some task →
    task.state.confirms = true → host.statusOf? task.bot = some .running

variable {host next : Host} {number : TaskNumber} {task : Task}

theorem inside_of_owes {state : TaskState} (owes : state.owes = true) : state.inside = true := by
  cases state with
  | waiting wait => cases wait <;> first | rfl | cases owes
  | answered answer => rfl
  | created | finished => cases owes

theorem owes_of_confirms {state : TaskState} (confirms : state.confirms = true) :
    state.owes = true := by
  cases state with
  | answered answer =>
    cases answer with
    | recordedRunning running result =>
      cases result with
      | ok => rfl
      | error => cases confirms
    | _ => cases confirms
  | created | finished | waiting => cases confirms

/-! ### What calls to the store do to statuses -/

theorem statusOf?_storeSetStatus (reliable : host.Reliable) (bot : String) (status : BotStatus)
    (id : String) : (host.storeSetStatus bot status).2.statusOf? id =
      if id = bot then (host.statusOf? id).map fun _ => status else host.statusOf? id := by
  have clear := reliable .setStatus (by decide)
  have clear' := reliable .setStatusNotFound (by decide)
  simp only [storeSetStatus, clear, clear', Bool.false_eq_true, if_false]
  split
  next store done =>
    show (store.find? id).map Bot.status = _
    rw [host.store.find?_setStatus done id]
    split
    · rw [statusOf?, Option.map_map, Option.map_map]
      rfl
    · rfl
  next fault failed =>
    split
    next same =>
      subst same
      unfold BotStore.setStatus at failed
      split at failed
      · cases failed
      next missing =>
        have absent : host.store.find? id = none := by simpa [BotStore.contains] using missing
        rw [statusOf?, absent]
        rfl
    · rfl

/-- A status is written only to a bot that is stored. -/
theorem stored_of_storeSetStatus {bot : String} {status : BotStatus} {done : Unit}
    (written : (host.storeSetStatus bot status).1 = .ok done) :
    ∃ found, host.store.find? bot = some found := by
  unfold storeSetStatus at written
  split at written
  · cases written
  · split at written
    · cases written
    · split at written
      next store done =>
        unfold BotStore.setStatus at done
        split at done
        next stored => exact Option.isSome_iff_exists.mp stored
        · cases done
      · cases written

/-- To a bot that is stored a status is written. -/
theorem statusOf?_of_storeSetStatus_error (reliable : host.Reliable) {bot : String}
    {status : BotStatus} {fault : StoreFault}
    (failed : (host.storeSetStatus bot status).1 = .error fault) : host.statusOf? bot = none := by
  have clear := reliable .setStatus (by decide)
  have clear' := reliable .setStatusNotFound (by decide)
  simp only [storeSetStatus, clear, clear', Bool.false_eq_true, if_false] at failed
  split at failed
  · cases failed
  next fault' missing =>
    unfold BotStore.setStatus at missing
    split at missing
    · cases missing
    next absent =>
      have absent : host.store.find? bot = none := by simpa [BotStore.contains] using absent
      rw [statusOf?, absent]
      rfl

theorem statusOf?_storeUpdate (bot : String) (patch : BotPatch) (id : String) :
    (host.storeUpdate bot patch).2.statusOf? id = host.statusOf? id := by
  unfold storeUpdate
  split
  · rfl
  · split
    next updated store done =>
      show (store.find? id).map Bot.status = _
      rw [host.store.find?_update done id]
      split
      · rw [Option.map_map]
        rfl
      · rfl
    · rfl

theorem statusOf?_storeRemove (reliable : host.Reliable) (bot id : String) :
    (host.storeRemove bot).2.statusOf? id = if id = bot then none else host.statusOf? id := by
  have clear := reliable .remove (by decide)
  simp only [storeRemove, clear, Bool.false_eq_true, if_false]
  show (Option.map Bot.status ((host.store.remove bot).2.find? id)) = _
  rw [BotStore.find?_remove]
  split <;> rfl

/-- Storing a bot leaves those that were stored alone, and stores it as one that does not run. -/
theorem statusOf?_register (bot : Bot) (id : String) :
    (host.register bot).2.statusOf? id = some .running ↔ host.statusOf? id = some .running := by
  unfold register storeInsert
  dsimp only
  split
  · rfl
  · split
    next store done =>
      show (store.find? id).map Bot.status = _ ↔ _
      rw [host.store.find?_insert done id]
      split
      next same =>
        subst same
        unfold BotStore.insert at done
        split at done
        · cases done
        next missing =>
          have absent : host.store.find? bot.id = none := by
            simpa [BotStore.contains] using missing
          simp [statusOf?, absent]
      · rfl
    · rfl

/-! ### What steps do -/

namespace Ledger

theorem congr (ledger : host.Ledger) (tasks : next.tasks = host.tasks)
    (registry : next.registry = host.registry)
    (statuses : ∀ bot, next.statusOf? bot = some .running ↔ host.statusOf? bot = some .running) :
    next.Ledger := by
  have task? (number : TaskNumber) : next.task? number = host.task? number := by
    rw [Host.task?, tasks, Host.task?]
  have running? (bot : String) : next.running? bot = host.running? bot := by
    rw [Host.running?, registry, Host.running?]
  constructor
  · intro bot running there
    rw [running?] at there
    exact (statuses bot).mpr (ledger.recorded there)
  · intro bot stored
    simp only [running?, task?]
    exact ledger.explained ((statuses bot).mp stored)
  · intro number task there confirms
    rw [task?] at there
    exact (statuses task.bot).mpr (ledger.confirmed there confirms)

/-- A task that owes the store nothing, before and after, concerns nobody. -/
theorem changeTask_aside (ledger : host.Ledger) (found : host.task? number = some task)
    {change : Task → Task} (before : task.state.owes = false)
    (after : (change task).state.owes = false) : (host.changeTask number change).Ledger := by
  constructor
  · exact ledger.recorded
  · intro bot stored
    rcases ledger.explained stored with registered | ⟨other, record, there, ofBot, owes⟩
    · exact .inl registered
    · refine .inr ⟨other, record, ?_, ofBot, owes⟩
      rw [task?_changeTask, if_neg]
      · exact there
      · rintro rfl
        rw [found] at there
        obtain rfl := Option.some.inj there
        rw [before] at owes
        cases owes
  · intro other record there confirms
    obtain ⟨rfl, rfl⟩ | ⟨_, there⟩ := task?_changeTask_cases found there
    · rw [owes_of_confirms confirms] at after
      cases after
    · exact ledger.confirmed there confirms

theorem addTask (ledger : host.Ledger) (operation : Operation) (bot : String) :
    (host.addTask operation bot).2.Ledger := by
  constructor
  · exact ledger.recorded
  · intro bot' stored
    rcases ledger.explained stored with registered | ⟨other, record, there, ofBot, owes⟩
    · exact .inl registered
    · exact .inr ⟨other, record, task?_addTask_of_some there _ _, ofBot, owes⟩
  · intro other record there confirms
    obtain ⟨rfl, rfl⟩ | there := task?_addTask_cases there
    · cases confirms
    · exact ledger.confirmed there confirms

/-- The only task that can explain the status of its bot is the one that is past the lock. -/
theorem explained_at (ledger : host.Ledger) (orderly : host.Orderly)
    (found : host.task? number = some task) (inside : task.state.inside = true)
    (stored : host.statusOf? task.bot = some .running) :
    (∃ running, host.running? task.bot = some running) ∨ task.state.owes = true := by
  rcases ledger.explained stored with registered | ⟨other, record, there, ofBot, owes⟩
  · exact .inl registered
  · have same := orderly.alone found there inside (inside_of_owes owes) ofBot
    subst same
    rw [found] at there
    obtain rfl := Option.some.inj there
    exact .inr owes

/-- A step that concerns one bot keeps the ledger if it keeps the bot's account. -/
theorem exchange (ledger : host.Ledger) (orderly : host.Orderly)
    (found : host.task? number = some task) (inside : task.state.inside = true)
    (others : ∀ {other : TaskNumber}, other ≠ number → next.task? other = host.task? other)
    (running : ∀ {bot : String}, bot ≠ task.bot → next.running? bot = host.running? bot)
    (statuses : ∀ {bot : String}, bot ≠ task.bot → next.statusOf? bot = host.statusOf? bot)
    {record : Task} (found' : next.task? number = some record) (sameBot : record.bot = task.bot)
    (recorded : ∀ {running : Instance}, next.running? task.bot = some running →
      next.statusOf? task.bot = some .running)
    (explained : next.statusOf? task.bot = some .running →
      (∃ running, next.running? task.bot = some running) ∨ record.state.owes = true)
    (confirmed : record.state.confirms = true → next.statusOf? task.bot = some .running) :
    next.Ledger where
  recorded := by
    intro bot instance' there
    by_cases own : bot = task.bot
    · subst own
      exact recorded there
    · rw [running own] at there
      rw [statuses own]
      exact ledger.recorded there
  explained := by
    intro bot stored
    by_cases own : bot = task.bot
    · subst own
      rcases explained stored with registered | owes
      · exact .inl registered
      · exact .inr ⟨number, record, found', sameBot, owes⟩
    · rw [statuses own] at stored
      rw [running own]
      rcases ledger.explained stored with registered | ⟨other, record', there, ofBot, owes⟩
      · exact .inl registered
      · refine .inr ⟨other, record', (others ?_).trans there, ofBot, owes⟩
        rintro rfl
        rw [found] at there
        obtain rfl := Option.some.inj there
        exact own ofBot.symm
  confirmed := by
    intro other record' there confirms
    by_cases own : other = number
    · subst own
      rw [found'] at there
      obtain rfl := Option.some.inj there
      rw [sameBot]
      exact confirmed confirms
    · rw [others own] at there
      have different : record'.bot ≠ task.bot := fun same =>
        own (orderly.alone found there inside (inside_of_owes (owes_of_confirms confirms)) same)
      rw [statuses different]
      exact ledger.confirmed there confirms

section

variable (ledger : host.Ledger) (orderly : host.Orderly) (found : host.task? number = some task)
  (inside : task.state.inside = true)

include ledger orderly found inside

/-- A task takes an answer that has its effect on the status of its own bot. -/
theorem writes {store : BotStore} {transport : MemoryTransport Nat} {state : TaskState}
    (statuses : ∀ {bot : String}, bot ≠ task.bot →
      { host with store, transport }.statusOf? bot = host.statusOf? bot)
    (recorded : ∀ {running : Instance}, host.running? task.bot = some running →
      { host with store, transport }.statusOf? task.bot = some .running)
    (explained : { host with store, transport }.statusOf? task.bot = some .running →
      (∃ running, host.running? task.bot = some running) ∨ state.owes = true)
    (confirmed : state.confirms = true →
      { host with store, transport }.statusOf? task.bot = some .running) :
    ({ host with store, transport }.setTaskState number state).Ledger := by
  have found' : ({ host with store, transport }.setTaskState number state).task? number =
      some { task with state } := task?_changeTask_self found _
  refine ledger.exchange orderly found inside ?_ (fun _ => rfl) statuses found' rfl recorded
    explained confirmed
  intro other different
  exact (task?_setTaskState ..).trans (if_neg different)

/-- An answer without an effect on the store. -/
theorem reads {transport : MemoryTransport Nat} {state : TaskState}
    (owes : task.state.owes = true → state.owes = true) (silent : state.confirms = false) :
    ({ host with transport }.setTaskState number state).Ledger := by
  refine ledger.writes orderly found inside (fun _ => rfl) (fun there => ledger.recorded there) ?_ ?_
  · intro stored
    exact (ledger.explained_at orderly found inside stored).imp id owes
  · rw [silent]
    exact nofun

/-- The record of a bot that does not run is changed, and does not say that it runs. -/
theorem corrects (gone : host.running? task.bot = none) {store : BotStore} {state : TaskState}
    (statuses : ∀ {bot : String}, bot ≠ task.bot →
      { host with store }.statusOf? bot = host.statusOf? bot)
    (other : { host with store }.statusOf? task.bot ≠ some .running)
    (silent : state.confirms = false) : ({ host with store }.setTaskState number state).Ledger := by
  refine ledger.writes orderly found inside statuses ?_ (fun stored => absurd stored other) ?_
  · intro running registered
    exact absurd (gone.symm.trans registered) nofun
  · rw [silent]
    exact nofun

/-- The status of a bot that does not run is written, and it is not that it runs. -/
theorem marks (reliable : host.Reliable) (gone : host.running? task.bot = none) {status : BotStatus}
    (other : status ≠ .running) {state : TaskState} (silent : state.confirms = false) :
    ((host.storeSetStatus task.bot status).2.setTaskState number state).Ledger := by
  have statuses := statusOf?_storeSetStatus reliable task.bot status
  rw [storeSetStatus_eq] at statuses ⊢
  refine ledger.corrects orderly found inside gone ?_ ?_ silent
  · intro bot different
    exact (statuses bot).trans (if_neg different)
  · rw [statuses, if_pos rfl]
    cases host.statusOf? task.bot with
    | none => rintro ⟨⟩
    | some before => exact fun same => other (Option.some.inj same)

/-- The record of a bot that does not run is removed. -/
theorem removes (reliable : host.Reliable) (gone : host.running? task.bot = none) {state : TaskState}
    (silent : state.confirms = false) :
    ((host.storeRemove task.bot).2.setTaskState number state).Ledger := by
  have statuses := statusOf?_storeRemove reliable task.bot
  rw [storeRemove_eq] at statuses ⊢
  refine ledger.corrects orderly found inside gone ?_ ?_ silent
  · intro bot different
    exact (statuses bot).trans (if_neg different)
  · rw [statuses, if_pos rfl]
    rintro ⟨⟩

/-- An update leaves the status as it is. -/
theorem updates (owes : task.state.owes = false) (patch : BotPatch) {state : TaskState}
    (silent : state.confirms = false) :
    ((host.storeUpdate task.bot patch).2.setTaskState number state).Ledger := by
  have statuses := host.statusOf?_storeUpdate task.bot patch
  rw [storeUpdate_eq] at statuses ⊢
  refine ledger.writes orderly found inside (fun _ => statuses _) ?_ ?_ ?_
  · intro running registered
    rw [statuses]
    exact ledger.recorded registered
  · intro stored
    rw [statuses] at stored
    refine (ledger.explained_at orderly found inside stored).imp id fun owed => ?_
    rw [owes] at owed
    cases owed
  · rw [silent]
    exact nofun

/-- It is written that a bot runs, unless the bot is not stored. -/
theorem records (reliable : host.Reliable) (gone : host.running? task.bot = none)
    (running : Instance) :
    ((host.storeSetStatus task.bot .running).2.setTaskState number
      (.answered (.recordedRunning running (host.storeSetStatus task.bot .running).1))).Ledger := by
  have statuses := statusOf?_storeSetStatus reliable task.bot .running
  have failed := @statusOf?_of_storeSetStatus_error host reliable task.bot .running
  have stored := @stored_of_storeSetStatus host task.bot .running
  rcases written : (host.storeSetStatus task.bot .running).1 with fault | done
  · have missing := failed written
    rw [storeSetStatus_eq] at statuses ⊢
    refine ledger.corrects orderly found inside gone ?_ ?_ rfl
    · intro bot different
      exact (statuses bot).trans (if_neg different)
    · rw [statuses, if_pos rfl, missing]
      rintro ⟨⟩
  · obtain ⟨before, there⟩ := stored written
    rw [storeSetStatus_eq] at statuses ⊢
    have own : statusOf? { host with
        store := (host.storeSetStatus task.bot .running).2.store } task.bot = some .running := by
      rw [statuses, if_pos rfl, statusOf?, there]
      rfl
    refine ledger.writes orderly found inside ?_ (fun _ => own) (fun _ => .inr rfl) fun _ => own
    intro bot different
    exact (statuses bot).trans (if_neg different)

end

theorem answer (ledger : host.Ledger) (orderly : host.Orderly) (custody : host.Custody)
    (reliable : host.Reliable) (found : host.task? number = some task) {wait : Wait}
    (waiting : task.state = .waiting wait) {answer : Answer} {answered : Host}
    (taken : host.answer? number task wait = some (answer, answered)) :
    (answered.setTaskState number (.answered answer)).Ledger := by
  by_cases atLock : wait = .lock
  · subst atLock
    cases answers_of_answer? taken
    exact ledger.changeTask_aside found (by rw [waiting]; rfl) rfl
  have inside : task.state.inside = true := by
    rw [waiting]
    exact TaskState.inside_waiting atLock
  have gone (vacant : Task.vacant { task with state := .waiting wait } = true) :
      host.running? task.bot = none := by
    refine custody.vacant found ?_
    obtain ⟨operation, bot, lock, state⟩ := task
    subst waiting
    exact vacant
  have reads {transport : MemoryTransport Nat} {answer : Answer}
      (owes : (TaskState.waiting wait).owes = true → (TaskState.answered answer).owes = true)
      (silent : (TaskState.answered answer).confirms = false) :
      ({ host with transport }.setTaskState number (.answered answer)).Ledger :=
    ledger.reads orderly found inside (by rw [waiting]; exact owes) silent
  cases answers_of_answer? taken with
  | locked => exact absurd rfl atLock
  | readToStop | readToStart | opened | rejected | unopened => exact reads (by rintro ⟨⟩) rfl
  | joined | unjoined | joinedAborted | closed | unclosed => exact reads id rfl
  | recordedStopped | recordedReaped | recordedFailed =>
    exact ledger.marks orderly found inside reliable (gone rfl) (by rintro ⟨⟩) rfl
  | removed => exact ledger.removes orderly found inside reliable (gone rfl) rfl
  | updated patch => exact ledger.updates orderly found inside (by rw [waiting]; rfl) patch rfl
  | recordedRunning running =>
    exact ledger.records orderly found inside reliable (gone rfl) running

theorem resume (ledger : host.Ledger) (orderly : host.Orderly) (custody : host.Custody)
    (found : host.task? number = some task) {answer : Answer}
    (answered : task.state = .answered answer) : (host.resume number task answer).Ledger := by
  have inside : task.state.inside = true := by
    rw [answered]
    rfl
  obtain ⟨store, others⟩ := host.resume_frame number task answer
  have statuses (bot : String) :
      (host.resume number task answer).statusOf? bot = host.statusOf? bot := by
    rw [statusOf?, store, statusOf?]
  have registers := resume_registers found answer
  generalize host.resume number task answer = next at registers others statuses
  cases registers with
  | keeps _ lock state registry found' goes owes holds =>
    have running? (bot : String) : next.running? bot = host.running? bot := by
      rw [Host.running?, registry, Host.running?]
    refine ledger.exchange orderly found inside others (fun _ => running? _) (fun _ => statuses _)
      found' rfl ?_ ?_ ?_
    · intro running registered
      rw [running?] at registered
      rw [statuses]
      exact ledger.recorded registered
    · intro stored
      rw [statuses] at stored
      rw [running?]
      refine (ledger.explained_at orderly found inside stored).imp id fun owed => owes ?_
      rw [← answered]
      exact owed
    · cases state with
      | answered other => exact absurd rfl (goes other)
      | created | waiting | finished => rintro ⟨⟩
  | takes running ending locked registered unrecords =>
    have gone : ((host.unregister task.bot).tearDown number running ending).running? task.bot =
        none :=
      (running?_unregister host task.bot task.bot).trans (if_pos rfl)
    refine ledger.exchange orderly found inside others ?_ (fun _ => statuses _)
      (waitFor_found found) rfl ?_ (fun _ => .inr unrecords) (by rintro ⟨⟩)
    · intro bot different
      exact (running?_unregister host task.bot bot).trans (if_neg different)
    · intro other registered'
      cases gone.symm.trans registered'
  | enrolls running recorded =>
    have charge : task.state.charge? = some (.launched, running) := by
      rw [answered, recorded]
      rfl
    have ofBot := (custody.charged found charge).1
    have confirms : task.state.confirms = true := by
      rw [answered, recorded]
      rfl
    have running? (bot : String) :
        ((host.enroll running).finish number task (.ok .done)).running? bot =
          if bot = task.bot then some running else host.running? bot := by
      rw [finish_eq, ← ofBot]
      exact running?_enroll host running bot
    have found' := (host.task?_enroll running number).trans found
    refine ledger.exchange orderly found inside others ?_ (fun _ => statuses _)
      (task?_finish_self found' (.ok .done)) rfl ?_ ?_ (by rintro ⟨⟩)
    · intro bot different
      rw [running?, if_neg different]
    · intro other _
      rw [statuses]
      exact ledger.confirmed found confirms
    · intro _
      exact .inl ⟨running, by rw [running?, if_pos rfl]⟩

theorem step (ledger : host.Ledger) (orderly : host.Orderly) (custody : host.Custody)
    (reliable : host.Reliable) {process : Process} (stepped : host.advance process = some next) :
    next.Ledger := by
  cases process with
  | loop generation =>
    obtain ⟨loop, found, _, waiting, state, recorded, sendsStarted, ⟨rfl, _⟩ | ⟨rfl, _⟩⟩ :=
      advance_loop_cases stepped
    · exact ledger.congr rfl rfl fun _ => Iff.rfl
    · have moved : (host.moveLoop generation waiting state recorded sendsStarted).Ledger :=
        ledger.congr rfl rfl fun _ => Iff.rfl
      exact moved.addTask _ _
  | task number =>
    obtain ⟨task, found, ⟨created, rfl⟩ | ⟨wait, answer, answered, waiting, taken, rfl⟩ |
      ⟨answer, answered, rfl⟩⟩ := advance_task_cases stepped
    · obtain ⟨locks, lock, asks⟩ := host.requestLock_eq number task
      rw [asks]
      have asked : { host with locks }.Ledger := ledger.congr rfl rfl fun _ => Iff.rfl
      exact asked.changeTask_aside found (by rw [created]; rfl) rfl
    · exact ledger.answer orderly custody reliable found waiting taken
    · exact ledger.resume orderly custody found answered

theorem move (ledger : host.Ledger) (reachable : host.Reachable) (reliable : host.Reliable)
    {move : Move} (made : host.after? move = some next) : next.Ledger := by
  cases move with
  | step process => exact ledger.step reachable.orderly reachable.custody reliable made
  | begin operation bot =>
    simp only [after?] at made
    split at made
    · cases made
      exact ledger.addTask operation bot
    · cases made
  | shutdown =>
    cases made
    exact stopAll_kept (fun bot ledger => ledger.addTask .stop bot) ledger
  | register bot =>
    cases made
    have statuses := host.statusOf?_register bot
    rw [register_eq] at statuses ⊢
    exact ledger.congr rfl rfl statuses
  | inject token event =>
    cases made
    rw [inject_eq]
    exact ledger.congr rfl rfl fun _ => Iff.rfl
  | endSession | reject | accept | clearSent | setDelays | setFaults | pass =>
    cases made
    exact ledger.congr rfl rfl fun _ => Iff.rfl

theorem seeded (patterns : PatternEngine) (settings : ManagerSettings) {bots : List Bot}
    (stopped : ∀ bot ∈ bots, bot.status ≠ .running) : (Host.seeded patterns settings bots).Ledger where
  recorded := nofun
  explained stored := by
    obtain ⟨bot, there, running⟩ := Option.map_eq_some_iff.mp stored
    have member := BotStore.mem_of_mem_ofList (List.mem_of_find?_eq_some there)
    exact absurd running (stopped bot member)
  confirmed := nofun

end Ledger

end Host

end BotHost
