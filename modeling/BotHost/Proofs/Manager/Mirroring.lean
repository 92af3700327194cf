/-
Tasks that ask late.

What a task does past its lock depends on the registry, the loops, the store and the transport, and
on no other task. So a host may have its tasks copied in another order, with a copy that does not ask
for its lock before the original gets it: as long as the originals go on one by one, the copies can
take the same steps, and everything but tasks and locks stays the same. The lock that a copy asks for
is free, because the original is alone past its lock and no copy waits in front of this one. A copy
that has asked from the beginning waits as its original does.
-/

import BotHost.Proofs.Manager.Locking

namespace BotHost

namespace Host

/-- The host with other tasks and locks. -/
def withTasks (host : Host) (tasks : List Task) (locks : LockTable) : Host :=
  { host with tasks, locks }

/-! ### What steps do whatever the tasks are -/

section

variable (host : Host) (tasks : List Task) (locks : LockTable)

theorem hears_withTasks (generation : Nat) (loop : SessionLoop) :
    (host.withTasks tasks locks).hears generation loop = host.hears generation loop := rfl

theorem fails_withTasks (point : FaultPoint) :
    (host.withTasks tasks locks).fails point = host.fails point := rfl

/-- A loop takes the same step, and adds the same task. -/
theorem advanceLoop_withTasks (generation : Nat) (loop : SessionLoop) :
    (host.withTasks tasks locks).advanceLoop generation loop =
      (host.advanceLoop generation loop).map fun next =>
        next.withTasks (tasks ++ next.tasks.drop host.tasks.length) locks := by
  have same {other : Host} (untouched : other.tasks = host.tasks) :
      some (other.withTasks tasks locks) =
        some (other.withTasks (tasks ++ other.tasks.drop host.tasks.length) locks) := by
    rw [untouched, List.drop_length, List.append_nil]
  have added {other : Host} (untouched : other.tasks = host.tasks) (operation : Operation)
      (bot : String) : ((other.withTasks tasks locks).addTask operation bot).2 =
        (other.addTask operation bot).2.withTasks
          (tasks ++ (other.addTask operation bot).2.tasks.drop host.tasks.length) locks := by
    unfold addTask
    rw [untouched, List.drop_left]
    rfl
  unfold advanceLoop
  split
  · rfl
  split
  · exact @same (host.setLoopState generation .finished) rfl
  unfold stepLoop
  cases loop.state with
  | finished => rfl
  | idle =>
    dsimp only
    rw [hears_withTasks]
    split
    · exact @same (host.setLoopState generation .finished) rfl
    · cases loop.waiting with
      | nil =>
        dsimp only
        split
        · rfl
        · exact congrArg some (@added (host.setLoopState generation .finished) rfl _ _)
      | cons event rest => exact @same (host.changeLoop generation _) rfl
  | replying calls =>
    cases calls with
    | nil => exact @same (host.setLoopState generation .idle) rfl
    | cons call rest =>
      dsimp only
      rw [fails_withTasks]
      split
      · exact @same (host.setLoopState generation _) rfl
      · exact @same (setLoopState { host with transport := _ } generation _) rfl
  | sending call rest due =>
    by_cases passed : due ≤ host.now
    · dsimp only
      rw [if_pos passed, if_pos (show due ≤ (host.withTasks tasks locks).now from passed)]
      exact @same (setLoopState { host with transport := _ } generation _) rfl
    · dsimp only
      rw [if_neg passed, if_neg (show ¬ due ≤ (host.withTasks tasks locks).now from passed)]
      rfl

/-- Setting a status does the same whatever the tasks are. -/
theorem storeSetStatus_withTasks (bot : String) (status : BotStatus) :
    (host.withTasks tasks locks).storeSetStatus bot status =
      ((host.storeSetStatus bot status).1,
        (host.storeSetStatus bot status).2.withTasks tasks locks) := by
  unfold storeSetStatus withTasks fails
  dsimp only
  split
  · rfl
  split
  · rfl
  split <;> rfl

theorem storeInsert_withTasks (bot : Bot) :
    (host.withTasks tasks locks).storeInsert bot =
      ((host.storeInsert bot).1, (host.storeInsert bot).2.withTasks tasks locks) := by
  unfold storeInsert withTasks fails
  dsimp only
  split
  · rfl
  split <;> rfl

theorem storeRemove_withTasks (bot : String) :
    (host.withTasks tasks locks).storeRemove bot =
      ((host.storeRemove bot).1, (host.storeRemove bot).2.withTasks tasks locks) := by
  unfold storeRemove withTasks fails
  dsimp only
  split <;> rfl

theorem storeUpdate_withTasks (bot : String) (patch : BotPatch) :
    (host.withTasks tasks locks).storeUpdate bot patch =
      ((host.storeUpdate bot patch).1, (host.storeUpdate bot patch).2.withTasks tasks locks) := by
  unfold storeUpdate withTasks fails
  dsimp only
  split
  · rfl
  split <;> rfl

/-- Unless it waits for a lock, a task gets the answer its copy among other tasks gets. -/
theorem answer?_withTasks {number place : TaskNumber} {task copy : Task} {wait : Wait}
    (other : wait ≠ .lock) (bot : copy.bot = task.bot) :
    (host.withTasks tasks locks).answer? place copy wait =
      (host.answer? number task wait).map fun (answer, answered) =>
        (answer, answered.withTasks tasks locks) := by
  cases wait <;> simp only [answer?, bot]
  case lock => exact absurd rfl other
  case recordStopped | recordReaped | recordFailed | recordRunning =>
    rw [storeSetStatus_withTasks]
    rfl
  case remove => rw [storeRemove_withTasks]; rfl
  case update => rw [storeUpdate_withTasks]; rfl
  case readToStop | readToStart => rfl
  case join running ending deadline =>
    change (if host.loopFinished _ then _ else if deadline ≤ host.now then _ else _) = _
    split
    · rfl
    split <;> rfl
  case joinAborted =>
    change (if host.loopFinished _ then _ else _) = _
    split <;> rfl
  case close running ending forced due deadline =>
    change (if due ≤ host.now then _ else if deadline ≤ host.now then _ else _) = _
    split
    · rfl
    split <;> rfl
  case connect handlers token due deadline =>
    change (if due ≤ host.now then _ else if deadline ≤ host.now then _ else _) = _
    split
    · rfl
    split <;> rfl

end

/-! ### Going on alike -/

/-- A task goes on, and its copy does the same beside other tasks. -/
inductive GoAlike (host : Host) (number place : TaskNumber) (task copy : Task) (tasks : List Task)
    (locks : LockTable) : Host → Host → Prop
  | waits (base : Host) (wait : Wait) (other : wait ≠ .lock) (untouched : base.tasks = host.tasks)
      (unlocked : base.locks = host.locks) :
      GoAlike host number place task copy tasks locks (base.waitFor number wait)
        ((base.withTasks tasks locks).waitFor place wait)
  | ends (base : Host) (result : Except ManagerFault Success) (untouched : base.tasks = host.tasks)
      (unlocked : base.locks = host.locks) :
      GoAlike host number place task copy tasks locks (base.finish number task result)
        ((base.withTasks tasks locks).finish place copy result)
  | deletes : GoAlike host number place task copy tasks locks (host.finishDeleted number task)
        ((host.withTasks tasks locks).finishDeleted place copy)

namespace GoAlike
variable {host : Host} {number place : TaskNumber} {task copy : Task} {tasks : List Task}
    {locks : LockTable}

/-- Behind a stop a task and its copy go on alike. -/
theorem afterStop (operation : copy.operation = task.operation) (result : Except ManagerFault Unit) :
    GoAlike host number place task copy tasks locks (host.afterStop number task result)
      ((host.withTasks tasks locks).afterStop place copy result) := by
  unfold Host.afterStop
  rw [operation]
  split
  iterate 4
    · exact .waits host _ nofun rfl rfl
  iterate 2
    · exact .ends host _ rfl rfl

theorem begin (operation : copy.operation = task.operation) (bot : copy.bot = task.bot) :
    GoAlike host number place task copy tasks locks (host.begin number task)
      ((host.withTasks tasks locks).begin place copy) := by
  have same : (host.withTasks tasks locks).running? = host.running? := rfl
  have same' : (host.withTasks tasks locks).isRunning = host.isRunning := rfl
  unfold Host.begin
  rw [operation, bot, same, same']
  split
  · exact .waits host _ nofun rfl rfl
  iterate 3
    split
    · exact .waits ((host.unregister _).changeLoop _ _) _ nofun rfl rfl
    · exact .waits host _ nofun rfl rfl
  · split
    · exact .ends host _ rfl rfl
    · exact .waits host _ nofun rfl rfl
  · split
    · split
      · exact .waits ((host.unregister _).changeLoop _ _) _ nofun rfl rfl
      · exact .ends host _ rfl rfl
    · exact .ends host _ rfl rfl

/-- Connecting, a task and its copy go on alike. -/
theorem connect (bot : copy.bot = task.bot) (token : Option String)
    (found : Except StoreFault (Option Bot)) :
    GoAlike host number place task copy tasks locks (host.connect number task token found)
      ((host.withTasks tasks locks).connect place copy token found) := by
  have same : (host.withTasks tasks locks).isRunning = host.isRunning := rfl
  unfold Host.connect
  rw [bot, same]
  split
  · exact .ends host _ rfl rfl
  · exact .ends host _ rfl rfl
  · split
    · exact .ends host _ rfl rfl
    · exact .waits host _ nofun rfl rfl
end GoAlike

/-- Given the same answer, a task and its copy go on alike. -/
theorem resume_alike (host : Host) (number place : TaskNumber) {task copy : Task}
    (tasks : List Task) (locks : LockTable) (operation : copy.operation = task.operation)
    (bot : copy.bot = task.bot) (answer : Answer) : GoAlike host number place task copy tasks locks
      (host.resume number task answer) ((host.withTasks tasks locks).resume place copy answer) := by
  cases answer with
  | locked => exact .begin operation bot
  | readToStop found =>
    rcases found with fault | _ | found
    · exact .afterStop operation _
    · simp only [resume, bot]
      exact .afterStop operation _
    · exact .afterStop operation _
  | joined running ending finished =>
    cases finished with
    | false => exact .waits (host.changeLoop _ _) _ nofun rfl rfl
    | true => exact .waits host _ nofun rfl rfl
  | joinedAborted running ending => exact .waits host _ nofun rfl rfl
  | closed running ending forced =>
    cases ending with
    | stopping => exact .waits host _ nofun rfl rfl
    | startFailed fault => exact .ends host _ rfl rfl
    | reaping => exact .waits host _ nofun rfl rfl
  | recordedStopped result => exact .afterStop operation result
  | recordedReaped => exact .ends host _ rfl rfl
  | removed present =>
    rcases present with fault | _ | _
    · exact .ends host _ rfl rfl
    · simp only [resume, bot]
      exact .ends host _ rfl rfl
    · exact .deletes
  | readToStart token found => exact .connect bot token found
  | connected handlers session =>
    cases session with
    | error failure => exact .waits host _ nofun rfl rfl
    | ok session =>
      simp only [resume, launch, bot]
      exact .waits { host with loops := _, transport := _ } _ nofun rfl rfl
  | recordedFailed failure =>
    simp only [resume, bot]
    exact .ends host _ rfl rfl
  | recordedRunning running result =>
    cases result with
    | error fault => exact .waits (host.changeLoop _ _) _ nofun rfl rfl
    | ok done => exact .ends (host.enroll running) _ rfl rfl
  | updated result =>
    cases result with
    | error fault => exact .ends host _ rfl rfl
    | ok bot => exact .ends host _ rfl rfl

end Host

/-! ### Copies of tasks -/

/-- Whether a task waits for its lock. -/
def TaskState.queues : TaskState → Bool
  | .waiting .lock => true
  | _ => false

/-- What the copy of a task does while the task waits for its lock: nothing yet. -/
def TaskState.deferred : TaskState → TaskState
  | .waiting .lock => .created
  | state => state

/-- The copy of a task does what the task does. It asks for its lock late, unless it was the same as
the task when both had asked. -/
structure Task.Copies (copy task : Task) : Prop where
  operation : copy.operation = task.operation
  bot : copy.bot = task.bot
  state : copy.state = task.state.deferred ∨ task.state.queues = true ∧ copy = task

/-- A copy that is not past its lock has not asked for it. -/
theorem TaskState.outside_deferred {state : TaskState} (before : state.inside = false) :
    state.deferred.outside = true := by
  cases state with
  | created | finished => rfl
  | answered => cases before
  | waiting wait =>
    cases wait with
    | lock => rfl
    | _ => cases before

/-- The state of a task that has got its lock is that of its copy. -/
theorem TaskState.deferred_eq {state : TaskState} (past : state.inside = true ∨ state.ended = true) :
    state.deferred = state ∧ state ≠ .created := by
  cases state with
  | created => simp [inside, ended] at past
  | waiting wait =>
    cases wait with
    | lock => simp [inside, ended] at past
    | _ => exact ⟨rfl, nofun⟩
  | answered | finished => exact ⟨rfl, nofun⟩

/-- A task that does not queue has nothing to put off. -/
theorem TaskState.deferred_eq_self {state : TaskState} (unqueued : state.queues = false) :
    state.deferred = state := by
  cases state with
  | waiting wait => cases wait <;> first | rfl | cases unqueued
  | _ => rfl

/-- A task that puts off asking for its lock does not queue. -/
theorem TaskState.deferred_queues (state : TaskState) : state.deferred.queues = false := by
  cases state with
  | waiting wait => cases wait <;> rfl
  | _ => rfl

/-- Past the lock, a copy has come as far as its task. -/
theorem Task.Copies.state_eq {copy task : Task} (copies : copy.Copies task)
    (past : task.state.inside = true ∨ task.state.ended = true) : copy.state = task.state := by
  rcases copies.state with deferred | ⟨_, rfl⟩
  · exact deferred.trans (TaskState.deferred_eq past).1
  · rfl

/-- A copy that waits for its lock is the same as its task. -/
theorem Task.Copies.eq_of_queues {copy task : Task} (copies : copy.Copies task)
    (queues : copy.state.queues = true) : copy = task := by
  rcases copies.state with deferred | ⟨_, same⟩
  · rw [deferred, TaskState.deferred_queues] at queues
    cases queues
  · exact same

theorem TaskState.outside_of_queues {state : TaskState} (queues : state.queues = true) :
    state.outside = false := by
  cases state <;> first | rfl | cases queues

theorem TaskState.not_queues {state : TaskState} (entered : state.inside = true) :
    state.queues = false := by
  cases state with
  | waiting wait => cases wait <;> first | rfl | cases entered
  | _ => rfl

/-- The copies stand in the places of the tasks they copy. A task that has no copy is a call that has
not got its lock. -/
structure Twins (placed : List TaskNumber) (tasks copies : List Task) : Prop where
  length : placed.length = copies.length
  nodup : placed.Nodup
  copied : ∀ {place : Nat} {number : TaskNumber}, placed[place]? = some number →
    ∃ task copy, tasks[number]? = some task ∧ copies[place]? = some copy ∧ copy.Copies task
  away : ∀ {number : TaskNumber} {task : Task}, tasks[number]? = some task → number ∉ placed →
    task.operation.isCall = true ∧ task.state.deferred = .created

namespace Twins

variable {placed : List TaskNumber} {tasks copies : List Task}

/-- No task has two copies. -/
theorem place_unique (twins : Twins placed tasks copies) {place other : Nat} {number : TaskNumber}
    (here : placed[place]? = some number) (there : placed[other]? = some number) : place = other :=
  (List.getElem?_inj (List.getElem?_eq_some_iff.mp here).1 twins.nodup).mp (here.trans there.symm)

/-- A task without a copy may get one, which has not asked for its lock. -/
theorem begin (twins : Twins placed tasks copies) {number : TaskNumber} {task : Task}
    (found : tasks[number]? = some task) (absent : number ∉ placed) :
    Twins (placed ++ [number]) tasks (copies ++ [⟨task.operation, task.bot, none, .created⟩]) where
  length := by simp [twins.length]
  nodup := by
    refine List.nodup_append.mpr ⟨twins.nodup, List.nodup_singleton _, ?_⟩
    rintro one member other last rfl
    exact absent (List.mem_singleton.mp last ▸ member)
  copied := by
    intro place other at'
    rw [List.getElem?_append] at at' ⊢
    rw [← twins.length]
    split at at'
    next early => rw [if_pos early]; exact twins.copied at'
    next late =>
      rw [if_neg late]
      rw [List.getElem?_singleton] at at' ⊢
      split at at'
      next first =>
        rw [if_pos first]
        obtain rfl := Option.some.inj at'
        exact ⟨task, _, found, rfl, rfl, rfl, .inl (twins.away found absent).2.symm⟩
      · cases at'
  away := by
    intro other record there fresh
    exact twins.away there fun member => fresh (List.mem_append_left _ member)

/-- A call that is made has no copy yet. -/
theorem call (twins : Twins placed tasks copies) {operation : Operation}
    (isCall : operation.isCall = true) (bot : String) :
    Twins placed (tasks ++ [⟨operation, bot, none, .created⟩]) copies where
  length := twins.length
  nodup := twins.nodup
  copied := by
    intro place number at'
    obtain ⟨task, copy, found, there, copies⟩ := twins.copied at'
    refine ⟨task, copy, ?_, there, copies⟩
    rw [List.getElem?_append_left (List.getElem?_eq_some_iff.mp found).1, found]
  away := by
    intro number task found absent
    rw [List.getElem?_append] at found
    split at found
    · exact twins.away found absent
    · obtain ⟨_, rfl⟩ := List.getElem?_eq_some_iff.mp found
      simpa [TaskState.deferred] using isCall

/-- A task that would be its own copy may be added on both sides. -/
theorem both (twins : Twins placed tasks copies) (task : Task)
    (kept : task.state.deferred = task.state) :
    Twins (placed ++ [tasks.length]) (tasks ++ [task]) (copies ++ [task]) where
  length := by simp [twins.length]
  nodup := by
    refine List.nodup_append.mpr ⟨twins.nodup, List.nodup_singleton _, ?_⟩
    rintro one member other last rfl
    obtain ⟨place, at'⟩ := List.mem_iff_getElem?.mp member
    obtain ⟨record, _, found, _⟩ := twins.copied at'
    have bound := (List.getElem?_eq_some_iff.mp found).1
    rw [List.mem_singleton.mp last] at bound
    exact Nat.lt_irrefl _ bound
  copied := by
    intro place number at'
    rw [List.getElem?_append] at at'
    split at at'
    next early =>
      obtain ⟨record, copy, found, there, copies⟩ := twins.copied at'
      refine ⟨record, copy, ?_, ?_, copies⟩
      · rw [List.getElem?_append_left (List.getElem?_eq_some_iff.mp found).1, found]
      · rw [List.getElem?_append_left (List.getElem?_eq_some_iff.mp there).1, there]
    next late =>
      obtain ⟨bound, rfl⟩ := List.getElem?_eq_some_iff.mp at'
      have here : place = copies.length := by
        have := twins.length
        simp at bound
        omega
      refine ⟨task, task, ?_, ?_, rfl, rfl, .inl kept.symm⟩
      · simp
      · simp [here]
  away := by
    intro number record found absent
    rw [List.getElem?_append] at found
    split at found
    · exact twins.away found fun member => absent (List.mem_append_left _ member)
    · have bound := (List.getElem?_eq_some_iff.mp found).1
      rw [List.length_singleton] at bound
      have last : tasks.length = number := by omega
      exact absurd (List.mem_append_right _ (List.mem_singleton.mpr last.symm)) absent

/-- Changing a task and its copy alike keeps them copies. -/
theorem update (twins : Twins placed tasks copies) {place : Nat} {number : TaskNumber}
    (here : placed[place]? = some number) {change alter : Task → Task}
    (alike : ∀ {task copy : Task}, copy.Copies task → (alter copy).Copies (change task)) :
    Twins placed (tasks.modify number change) (copies.modify place alter) where
  length := by rw [List.length_modify, twins.length]
  nodup := twins.nodup
  copied := by
    intro other moved there
    obtain ⟨task, copy, found, found', copies⟩ := twins.copied there
    by_cases same : place = other
    · subst same
      obtain rfl := Option.some.inj (here.symm.trans there)
      refine ⟨change task, alter copy, ?_, ?_, alike copies⟩
      · rw [List.getElem?_modify_eq, found]
        rfl
      · rw [List.getElem?_modify_eq, found']
        rfl
    · have different : number ≠ moved := by
        rintro rfl
        exact same (twins.place_unique here there)
      refine ⟨task, copy, ?_, ?_, copies⟩
      · rw [List.getElem?_modify_ne _ _ different, found]
      · rw [List.getElem?_modify_ne _ _ same, found']
  away := by
    intro other record found absent
    have different : number ≠ other := by
      rintro rfl
      exact absent (List.mem_of_getElem? here)
    rw [List.getElem?_modify_ne _ _ different] at found
    exact twins.away found absent

/-- Who asks for a lock has not asked in its copy. -/
theorem ask (twins : Twins placed tasks copies) {number : TaskNumber} {task : Task}
    (found : tasks[number]? = some task) (created : task.state = .created) (lock : Option Nat) :
    Twins placed (tasks.modify number fun task => { task with lock, state := .waiting .lock })
      copies where
  length := twins.length
  nodup := twins.nodup
  copied := by
    intro place other there
    obtain ⟨record, copy, found', there', copies⟩ := twins.copied there
    rw [List.getElem?_modify, found']
    split
    next same =>
      subst same
      rw [found] at found'
      obtain rfl := Option.some.inj found'
      have waits : copy.state = .created := by
        rcases copies.state with deferred | ⟨queues, _⟩
        · rw [deferred, created]
          rfl
        · rw [created] at queues
          cases queues
      exact ⟨_, copy, rfl, there', copies.operation, copies.bot, .inl waits⟩
    next => exact ⟨_, copy, rfl, there', copies⟩
  away := by
    intro other record found' absent
    rw [List.getElem?_modify] at found'
    split at found'
    next same =>
      subst same
      rw [found] at found'
      obtain rfl := Option.some.inj found'
      exact ⟨(twins.away found absent).1, rfl⟩
    next =>
      rw [id_map'] at found'
      exact twins.away found' absent

end Twins

/-- The copies are such that calls have got their locks. -/
structure Mirrors (placed : List TaskNumber) (tasks copies : List Task) : Prop extends
    Twins placed tasks copies where
  called : ∀ {number : TaskNumber} {task : Task}, number ∈ placed → tasks[number]? = some task →
    task.operation.isCall = true → task.state.deferred ≠ .created

namespace Mirrors

variable {placed : List TaskNumber} {tasks copies : List Task}

/-- Every task with a copy is there. -/
theorem exists_of_mem (mirrors : Mirrors placed tasks copies) {number : TaskNumber}
    (member : number ∈ placed) : ∃ task, tasks[number]? = some task := by
  obtain ⟨place, here⟩ := List.mem_iff_getElem?.mp member
  obtain ⟨task, _, found, _⟩ := mirrors.copied here
  exact ⟨task, found⟩

theorem call (mirrors : Mirrors placed tasks copies) {operation : Operation}
    (isCall : operation.isCall = true) (bot : String) :
    Mirrors placed (tasks ++ [⟨operation, bot, none, .created⟩]) copies where
  toTwins := mirrors.toTwins.call isCall bot
  called := by
    intro number task member found
    obtain ⟨record, found'⟩ := mirrors.exists_of_mem member
    rw [List.getElem?_append_left (List.getElem?_eq_some_iff.mp found').1] at found
    exact mirrors.called member found

/-- A reap is entered on both sides. -/
theorem reap (mirrors : Mirrors placed tasks copies) (generation : Nat) (bot : String) :
    Mirrors (placed ++ [tasks.length]) (tasks ++ [⟨.reap generation, bot, none, .created⟩])
      (copies ++ [⟨.reap generation, bot, none, .created⟩]) where
  toTwins := mirrors.toTwins.both _ rfl
  called := by
    intro number task member found isCall
    rw [List.getElem?_append] at found
    split at found
    next early =>
      refine mirrors.called ?_ found isCall
      refine (List.mem_append.mp member).resolve_right fun last => ?_
      exact absurd (List.mem_singleton.mp last) (Nat.ne_of_lt early)
    · obtain ⟨_, rfl⟩ := List.getElem?_eq_some_iff.mp found
      simp at isCall
      cases isCall

/-- A task may ask for its lock while its copy does not. -/
theorem ask (mirrors : Mirrors placed tasks copies) {number : TaskNumber} {task : Task}
    (found : tasks[number]? = some task) (created : task.state = .created) (lock : Option Nat) :
    Mirrors placed (tasks.modify number fun task => { task with lock, state := .waiting .lock })
      copies where
  toTwins := mirrors.toTwins.ask found created lock
  called := by
    intro other record member found' isCall
    by_cases same : number = other
    · subst same
      rw [List.getElem?_modify_eq, found] at found'
      obtain rfl := Option.some.inj found'
      exact absurd (by rw [created]; rfl) (mirrors.called member found isCall)
    · rw [List.getElem?_modify_ne _ _ same] at found'
      exact mirrors.called member found' isCall

end Mirrors

/-- A task with a copy goes on past its lock. -/
theorem Twins.advance {placed : List TaskNumber} {tasks copies : List Task}
    (twins : Twins placed tasks copies) {place : Nat} {number : TaskNumber}
    (here : placed[place]? = some number)
    (called : ∀ {other : TaskNumber} {task : Task}, other ∈ placed → other ≠ number →
      tasks[other]? = some task → task.operation.isCall = true → task.state.deferred ≠ .created)
    {change alter : Task → Task} {state : TaskState}
    (past : state.inside = true ∨ state.ended = true)
    (changed : ∀ task, (change task).operation = task.operation ∧ (change task).bot = task.bot ∧
      (change task).state = state)
    (altered : ∀ task, (alter task).operation = task.operation ∧ (alter task).bot = task.bot ∧
      (alter task).state = state) :
    Mirrors placed (tasks.modify number change) (copies.modify place alter) where
  toTwins := by
    refine twins.update here fun {task copy} copies => ?_
    obtain ⟨operation, bot, reached⟩ := changed task
    obtain ⟨operation', bot', reached'⟩ := altered copy
    refine ⟨?_, ?_, ?_⟩
    · rw [operation, operation', copies.operation]
    · rw [bot, bot', copies.bot]
    · exact .inl (by rw [reached, reached', (TaskState.deferred_eq past).1])
  called := by
    intro other record member found isCall
    by_cases same : number = other
    · subst same
      rw [List.getElem?_modify_eq] at found
      obtain ⟨task, _, rfl⟩ := Option.map_eq_some_iff.mp found
      rw [(changed task).2.2, (TaskState.deferred_eq past).1]
      exact (TaskState.deferred_eq past).2
    · rw [List.getElem?_modify_ne _ _ same] at found
      exact called member (Ne.symm same) found isCall

end BotHost
