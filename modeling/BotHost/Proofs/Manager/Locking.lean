/-
Control locks exclude.

A lock is made when it is first asked for and is forgotten when its bot is deleted, so one bot may
have had several locks in the course of a run. What keeps two tasks of one bot from being past their
locks at the same time is that a lock is never forgotten under a task: whoever refers to a lock, be
it the holder or one who waits, refers to the lock that the table still names for the bot, because
deletion counts references before it forgets. All tasks of one bot that have begun therefore stand in
the queue of one lock, and its holder is the head of that queue.
-/

import BotHost.Proofs.Manager.Steps

namespace BotHost

/-! ### Locks and their table -/

namespace Lock

/-- The holder of a lock and those who wait, in the order in which they have it. -/
def queue (lock : Lock) : List TaskNumber := lock.holder.toList ++ lock.waiting

/-- The lock with one more task that asked for it. -/
def join (lock : Lock) (task : TaskNumber) : Lock :=
  match lock.holder with
  | none => { lock with holder := some task }
  | some _ => { lock with waiting := lock.waiting ++ [task] }

/-- The lock given back. -/
def pass (lock : Lock) : Lock :=
  match lock.waiting with
  | [] => { lock with holder := none }
  | next :: rest => ⟨some next, rest⟩

/-- Nobody waits for a lock that is free. -/
def Shaped (lock : Lock) : Prop := lock.holder = lock.queue.head?

variable {lock : Lock}

/-- Who joins a lock comes last in its queue. -/
theorem queue_join (shaped : lock.Shaped) (task : TaskNumber) :
    (lock.join task).queue = lock.queue ++ [task] := by
  obtain ⟨_ | holder, waiting⟩ := lock
  · have empty : waiting = [] := by
      cases waiting with
      | nil => rfl
      | cons next rest => cases shaped
    subst empty
    rfl
  · rfl

/-- When a task has joined a lock, nobody waits for it while it is free. -/
theorem shaped_join (shaped : lock.Shaped) (task : TaskNumber) : (lock.join task).Shaped := by
  unfold Shaped
  rw [queue_join shaped]
  obtain ⟨_ | holder, waiting⟩ := lock
  · cases waiting with
    | nil => rfl
    | cons next rest => cases shaped
  · rfl

theorem queue_pass (shaped : lock.Shaped) : lock.pass.queue = lock.queue.tail := by
  obtain ⟨_ | holder, _ | ⟨next, rest⟩⟩ := lock
  · rfl
  · cases shaped
  · rfl
  · rfl

theorem shaped_pass (lock : Lock) : lock.pass.Shaped := by
  obtain ⟨holder, _ | ⟨next, rest⟩⟩ := lock <;> rfl

end Lock

namespace LockTable

variable (table : LockTable)

/-- Forgetting the entry of a bot forgets no other. -/
theorem number?_forget (gone bot : String) :
    (table.forget gone).number? bot = if bot = gone then none else table.number? bot := by
  unfold number? forget
  rw [List.find?_filter]
  split
  next same =>
    subst same
    simp
  next other =>
    congr 2
    grind

/-- A bot that has a lock gets it again. -/
theorem obtain_known {bot : String} {number : Nat} (known : table.number? bot = some number) :
    table.obtain bot = (number, table) := by
  unfold obtain
  rw [known]

/-- The lock that is made for a bot is free, and comes behind all others. -/
theorem obtain_new {bot : String} (new : table.number? bot = none) :
    table.obtain bot = (table.locks.length,
      { locks := table.locks ++ [⟨none, []⟩]
        names := (bot, table.locks.length) :: table.names }) := by
  unfold obtain
  rw [new]

/-- Obtaining the lock of a bot gives it an entry and leaves the others theirs. -/
theorem number?_obtain (bot other : String) :
    (table.obtain bot).2.number? other =
      if other = bot then some (table.obtain bot).1 else table.number? other := by
  cases known : table.number? bot with
  | some number =>
    rw [obtain_known table known]
    split
    next same => exact same ▸ known
    next => rfl
  | none =>
    rw [obtain_new table known]
    simp only [number?, List.find?_cons]
    grind

/-- A lock that is made for a bot is free, and the others are as before. -/
theorem lock?_obtain (bot : String) (number : Nat) :
    (table.obtain bot).2.locks[number]? =
      if table.number? bot = none ∧ number = table.locks.length then some ⟨none, []⟩
      else table.locks[number]? := by
  cases known : table.number? bot with
  | some number =>
    rw [obtain_known table known]
    simp
  | none =>
    rw [obtain_new table known]
    simp only [List.getElem?_append, List.getElem?_singleton]
    grind

/-- A request joins the lock it is made to and no other. -/
theorem lock?_request (number : Nat) (task : TaskNumber) (other : Nat) :
    (table.request number task).locks[other]? =
      if other = number then (table.locks[other]?).map (·.join task) else table.locks[other]? := by
  have same : (table.request number task).locks = table.locks.modify number (·.join task) := rfl
  rw [same, List.getElem?_modify]
  grind

theorem lock?_release (number other : Nat) :
    (table.release number).locks[other]? =
      if other = number then (table.locks[other]?).map (·.pass) else table.locks[other]? := by
  have same : (table.release number).locks = table.locks.modify number (·.pass) := rfl
  rw [same, List.getElem?_modify]
  grind

/-- A task holds a lock exactly when it is its holder. -/
theorem holds_iff {number : Nat} {task : TaskNumber} :
    table.holds number task = true ↔
      ∃ lock, table.locks[number]? = some lock ∧ lock.holder = some task := by
  unfold holds
  split <;> grind

end LockTable

/-! ### Tasks beyond their locks -/

/-- Whether a task has not begun or has ended. -/
def TaskState.outside : TaskState → Bool
  | .created | .finished _ => true
  | _ => false

/-- Whether a task is past its lock and has not ended. -/
def TaskState.inside : TaskState → Bool
  | .created | .waiting .lock | .finished _ => false
  | _ => true

/-- Whether a task has ended. -/
def TaskState.ended : TaskState → Bool
  | .finished _ => true
  | _ => false

/-- Who waits for anything but the lock is past it. -/
theorem TaskState.inside_waiting {wait : Wait} (other : wait ≠ .lock) :
    (TaskState.waiting wait).inside = true := by
  cases wait <;> first | rfl | exact absurd rfl other

theorem TaskState.outside_of_inside {state : TaskState} (entered : state.inside = true) :
    state.outside = false := by
  cases state <;> first | rfl | cases entered

namespace Host

/-- Every task that has begun stands in the queue of the lock that its bot has now, and nobody else
does; past the lock is only the head of the queue. -/
structure Orderly (host : Host) : Prop where
  refers : ∀ {number : TaskNumber} {task : Task}, host.task? number = some task →
    (task.lock = none ↔ task.state.outside = true)
  named : ∀ {number : TaskNumber} {task : Task} {lock : Nat}, host.task? number = some task →
    task.lock = some lock → host.locks.number? task.bot = some lock
  made : ∀ {bot : String} {lock : Nat}, host.locks.number? bot = some lock →
    lock < host.locks.locks.length
  single : ∀ {bot other : String} {lock : Nat}, host.locks.number? bot = some lock →
    host.locks.number? other = some lock → bot = other
  shaped : ∀ {lock : Nat} {record : Lock}, host.locks.locks[lock]? = some record →
    record.queue.Nodup ∧ record.Shaped
  queued : ∀ {lock : Nat} {record : Lock} {number : TaskNumber},
    host.locks.locks[lock]? = some record → number ∈ record.queue →
      ∃ task, host.task? number = some task ∧ task.lock = some lock
  present : ∀ {number : TaskNumber} {task : Task} {lock : Nat}, host.task? number = some task →
    task.lock = some lock →
      ∃ record, host.locks.locks[lock]? = some record ∧ number ∈ record.queue
  held : ∀ {number : TaskNumber} {task : Task}, host.task? number = some task →
    task.state.inside = true → ∃ lock record, task.lock = some lock ∧
      host.locks.locks[lock]? = some record ∧ record.holder = some number

namespace Orderly

variable {host : Host}

theorem seeded (patterns : PatternEngine) (settings : ManagerSettings) (bots : List Bot) :
    (Host.seeded patterns settings bots).Orderly where
  refers found := by simp [Host.seeded, task?] at found
  named found := by simp [Host.seeded, task?] at found
  made found := by simp [Host.seeded, LockTable.number?] at found
  single found := by simp [Host.seeded, LockTable.number?] at found
  shaped found := by simp [Host.seeded] at found
  queued found := by simp [Host.seeded] at found
  present found := by simp [Host.seeded, task?] at found
  held found := by simp [Host.seeded, task?] at found

/-- Only tasks and locks matter. -/
theorem congr {next : Host} (orderly : host.Orderly) (tasks : next.tasks = host.tasks)
    (locks : next.locks = host.locks) : next.Orderly := by
  have same (number : TaskNumber) : next.task? number = host.task? number := by
    unfold task?
    rw [tasks]
  constructor
  · intro number task found
    exact orderly.refers (same number ▸ found)
  · intro number task lock found
    exact locks ▸ orderly.named (same number ▸ found)
  · exact locks ▸ orderly.made
  · exact locks ▸ orderly.single
  · exact locks ▸ orderly.shaped
  · intro number lock task found member
    rw [same]
    exact orderly.queued (locks ▸ found) member
  · intro number task lock found
    exact locks ▸ orderly.present (same number ▸ found)
  · intro number task found
    exact locks ▸ orderly.held (same number ▸ found)

/-- A task that is added has asked for no lock yet. -/
theorem addTask (orderly : host.Orderly) (operation : Operation) (bot : String) :
    (host.addTask operation bot).2.Orderly := by
  constructor
  · intro number task found
    obtain ⟨rfl, rfl⟩ | old := task?_addTask_cases found
    · simp [TaskState.outside]
    · exact orderly.refers old
  · intro number task lock found refers
    obtain ⟨rfl, rfl⟩ | old := task?_addTask_cases found
    · cases refers
    · exact orderly.named old refers
  · exact orderly.made
  · exact orderly.single
  · exact orderly.shaped
  · intro number lock task found member
    obtain ⟨record, old, refers⟩ := orderly.queued found member
    exact ⟨record, task?_addTask_of_some old _ _, refers⟩
  · intro number task lock found refers
    obtain ⟨rfl, rfl⟩ | old := task?_addTask_cases found
    · cases refers
    · exact orderly.present old refers
  · intro number task found inside
    obtain ⟨rfl, rfl⟩ | old := task?_addTask_cases found
    · cases inside
    · exact orderly.held old inside

/-- How a task and the lock that it asks for, has or gives back may change together: where the task
stands in the queue is its own affair, and where the others stand is left as it is. -/
structure Reseats (number : TaskNumber) (lock : Nat) (held after : Lock) (task next : Task) :
    Prop where
  sameBot : next.bot = task.bot
  shaped : after.queue.Nodup ∧ after.Shaped
  others : ∀ other ≠ number, other ∈ after.queue ↔ other ∈ held.queue
  keeps : ∀ other ≠ number, held.holder = some other → after.holder = some other
  refers : next.lock = none ↔ next.state.outside = true
  seat : (next.lock = some lock ∧ number ∈ after.queue) ∨
    (next.lock = none ∧ number ∉ after.queue)
  holds : next.state.inside = true → after.holder = some number

/-- One lock is changed, and with it a task of the bot that the lock is for. In the queue of another lock the
task does not stand, since the lock that it refers to is its bot's. -/
theorem reseat (orderly : host.Orderly) {number : TaskNumber} {task : Task} {lock : Nat}
    {held after : Lock} {locks : LockTable} {change : Task → Task}
    (found : host.task? number = some task) (named : host.locks.number? task.bot = some lock)
    (there : host.locks.locks[lock]? = some held)
    (names : ∀ bot, locks.number? bot = host.locks.number? bot)
    (records : ∀ other, locks.locks[other]? =
      if other = lock then some after else host.locks.locks[other]?)
    (reseats : Reseats number lock held after task (change task)) :
    ({ host with locks }.changeTask number change).Orderly := by
  have foundThere : { host with locks }.task? number = some task := found
  have atLock : locks.locks[lock]? = some after := (records lock).trans (if_pos rfl)
  have elsewhere {other : Nat} (different : other ≠ lock) :
      locks.locks[other]? = host.locks.locks[other]? := (records other).trans (if_neg different)
  have recordOf {other : Nat} {record : Lock} (now : locks.locks[other]? = some record) :
      (other = lock ∧ record = after) ∨
        (other ≠ lock ∧ host.locks.locks[other]? = some record) := by
    by_cases same : other = lock
    · subst same
      exact .inl ⟨rfl, Option.some.inj (now.symm.trans atLock)⟩
    · exact .inr ⟨same, (elsewhere same).symm.trans now⟩
  exact {
    refers := by
      intro other record now
      obtain ⟨rfl, rfl⟩ | ⟨_, before⟩ := task?_changeTask_cases foundThere now
      · exact reseats.refers
      · exact orderly.refers before
    named := by
      intro other record lock' now refers
      refine (names _).trans ?_
      obtain ⟨rfl, rfl⟩ | ⟨_, before⟩ := task?_changeTask_cases foundThere now
      · obtain ⟨seat, _⟩ | ⟨none, _⟩ := reseats.seat
        · rw [reseats.sameBot, named, ← seat, refers]
        · cases none.symm.trans refers
      · exact orderly.named before refers
    made := by
      intro bot lock' namedNow
      have made := orderly.made ((names bot).symm.trans namedNow)
      by_contra beyond
      have absent := (records lock').symm.trans (List.getElem?_eq_none (Nat.le_of_not_lt beyond))
      split at absent
      · cases absent
      · exact Nat.not_le_of_lt made (List.getElem?_eq_none_iff.mp absent)
    single := fun one other =>
      orderly.single ((names _).symm.trans one) ((names _).symm.trans other)
    shaped := by
      intro other record now
      obtain ⟨rfl, rfl⟩ | ⟨_, before⟩ := recordOf now
      · exact reseats.shaped
      · exact orderly.shaped before
    queued := by
      intro lock' record other now member
      by_cases own : other = number
      · subst own
        refine ⟨_, task?_changeTask_self foundThere change, ?_⟩
        obtain ⟨rfl, rfl⟩ | ⟨different, before⟩ := recordOf now
        · exact (reseats.seat.resolve_right fun away => away.2 member).1
        · obtain ⟨same, found', refers⟩ := orderly.queued before member
          obtain rfl := Option.some.inj (found.symm.trans found')
          exact absurd (Option.some.inj ((orderly.named found refers).symm.trans named)) different
      · obtain ⟨old, before, member⟩ :
            ∃ old, host.locks.locks[lock']? = some old ∧ other ∈ old.queue := by
          obtain ⟨rfl, rfl⟩ | ⟨_, before⟩ := recordOf now
          · exact ⟨held, there, (reseats.others other own).mp member⟩
          · exact ⟨record, before, member⟩
        obtain ⟨queuer, found', refers⟩ := orderly.queued before member
        refine ⟨queuer, ?_, refers⟩
        rw [task?_changeTask, if_neg own]
        exact found'
    present := by
      intro other record lock' now refers
      obtain ⟨rfl, rfl⟩ | ⟨different, before⟩ := task?_changeTask_cases foundThere now
      · obtain ⟨seat, member⟩ | ⟨none, _⟩ := reseats.seat
        · obtain rfl : lock = lock' := Option.some.inj (seat.symm.trans refers)
          exact ⟨after, atLock, member⟩
        · cases none.symm.trans refers
      · obtain ⟨old, old', member⟩ := orderly.present before refers
        by_cases same : lock' = lock
        · subst same
          obtain rfl := Option.some.inj (there.symm.trans old')
          exact ⟨after, atLock, (reseats.others other different).mpr member⟩
        · exact ⟨old, (elsewhere same).trans old', member⟩
    held := by
      intro other record now inside
      obtain ⟨rfl, rfl⟩ | ⟨different, before⟩ := task?_changeTask_cases foundThere now
      · obtain ⟨seat, _⟩ | ⟨none, _⟩ := reseats.seat
        · exact ⟨lock, after, seat, atLock, reseats.holds inside⟩
        · cases (TaskState.outside_of_inside inside).symm.trans (reseats.refers.mp none)
      · obtain ⟨lock', old, refers, old', holder⟩ := orderly.held before inside
        by_cases same : lock' = lock
        · subst same
          obtain rfl := Option.some.inj (there.symm.trans old')
          exact ⟨lock', after, refers, atLock, reseats.keeps other different holder⟩
        · exact ⟨lock', old, refers, (elsewhere same).trans old', holder⟩ }

/-- A task that refers to a lock goes on, and is past it only if it has it. -/
theorem setTaskState (orderly : host.Orderly) {number : TaskNumber} {task : Task}
    (found : host.task? number = some task) (begun : task.state.outside = false)
    {state : TaskState} (unfinished : state.outside = false)
    (holds : state.inside = true → ∃ lock record, task.lock = some lock ∧
      host.locks.locks[lock]? = some record ∧ record.holder = some number) :
    (host.setTaskState number state).Orderly := by
  have referring : task.lock ≠ none := by simp [orderly.refers found, begun]
  obtain ⟨lock, refers⟩ := Option.ne_none_iff_exists'.mp referring
  obtain ⟨held, there, member⟩ := orderly.present found refers
  have reseats : Reseats number lock held held task { task with state } :=
    { sameBot := rfl
      shaped := orderly.shaped there
      others := fun _ _ => Iff.rfl
      keeps := fun _ _ holder => holder
      refers := by simp [refers, unfinished]
      seat := .inl ⟨refers, member⟩
      holds := fun inside => by
        obtain ⟨lock', record, refers', there', holder⟩ := holds inside
        obtain rfl := Option.some.inj (refers.symm.trans refers')
        obtain rfl := Option.some.inj (there.symm.trans there')
        exact holder }
  refine orderly.reseat found (orderly.named found refers) there (fun _ => rfl) (fun other => ?_) reseats
  split
  next same => rw [same, there]
  next => rfl

/-- Making a lock for a bot concerns nobody. -/
theorem obtain (orderly : host.Orderly) (bot : String) :
    { host with locks := (host.locks.obtain bot).2 }.Orderly := by
  have records (lock : Nat) (record : Lock) :
      (host.locks.obtain bot).2.locks[lock]? = some record →
        host.locks.locks[lock]? = some record ∨ record = ⟨none, []⟩ := by
    rw [LockTable.lock?_obtain]
    grind
  have kept (lock : Nat) (record : Lock) (found : host.locks.locks[lock]? = some record) :
      (host.locks.obtain bot).2.locks[lock]? = some record := by
    have bound := (List.getElem?_eq_some_iff.mp found).1
    rw [LockTable.lock?_obtain, if_neg (by omega), found]
  have known {other : String} {lock : Nat} :
      (host.locks.obtain bot).2.number? other = some lock →
        host.locks.number? other = some lock ∨
          (other = bot ∧ host.locks.number? bot = none ∧ lock = host.locks.locks.length) := by
    rw [LockTable.number?_obtain]
    split
    next same =>
      subst same
      cases before : host.locks.number? other with
      | some number =>
        rw [LockTable.obtain_known _ before]
        exact .inl
      | none =>
        rw [LockTable.obtain_new _ before]
        intro now
        exact .inr ⟨rfl, rfl, (Option.some.inj now).symm⟩
    next => exact .inl
  constructor
  · exact orderly.refers
  · intro number task lock found refers
    have before := orderly.named found refers
    show (host.locks.obtain bot).2.number? task.bot = some lock
    rw [LockTable.number?_obtain]
    split
    next same =>
      subst same
      rw [LockTable.obtain_known _ before]
    next => exact before
  · intro other lock now
    rcases known now with before | ⟨rfl, new, rfl⟩
    · obtain ⟨record, there⟩ : ∃ record, host.locks.locks[lock]? = some record :=
        ⟨_, List.getElem?_eq_getElem (orderly.made before)⟩
      exact (List.getElem?_eq_some_iff.mp (kept lock record there)).1
    · refine (List.getElem?_eq_some_iff (a := ⟨none, []⟩)).mp ?_ |>.1
      rw [LockTable.lock?_obtain, if_pos ⟨new, rfl⟩]
  · intro first second lock one other
    rcases known one with one | ⟨first', _, last⟩ <;>
      rcases known other with other | ⟨second', _, last'⟩
    · exact orderly.single one other
    · exact absurd (orderly.made one) (by omega)
    · exact absurd (orderly.made other) (by omega)
    · rw [first', second']
  · intro lock record there
    rcases records lock record there with before | rfl
    · exact orderly.shaped before
    · exact ⟨List.nodup_nil, rfl⟩
  · intro lock record number there member
    rcases records lock record there with before | rfl
    · exact orderly.queued before member
    · exact absurd member List.not_mem_nil
  · intro number task lock found refers
    obtain ⟨record, there, member⟩ := orderly.present found refers
    exact ⟨record, kept lock record there, member⟩
  · intro number task found inside
    obtain ⟨lock, record, refers, there, holder⟩ := orderly.held found inside
    exact ⟨lock, record, refers, kept lock record there, holder⟩

/-- A task that has not begun joins the queue of its bot's lock. -/
theorem request (orderly : host.Orderly) {number : TaskNumber} {task : Task} {lock : Nat}
    (found : host.task? number = some task) (created : task.state = .created)
    (named : host.locks.number? task.bot = some lock) :
    ({ host with locks := host.locks.request lock number }.changeTask number fun task =>
      { task with lock := some lock, state := .waiting .lock }).Orderly := by
  obtain ⟨held, there⟩ : ∃ held, host.locks.locks[lock]? = some held :=
    ⟨_, List.getElem?_eq_getElem (orderly.made named)⟩
  obtain ⟨distinct, shaped⟩ := orderly.shaped there
  have absent : number ∉ held.queue := by
    intro member
    obtain ⟨same, found', refers⟩ := orderly.queued there member
    obtain rfl := Option.some.inj (found.symm.trans found')
    have free : task.lock = none := (orderly.refers found).mpr (by rw [created]; rfl)
    cases free.symm.trans refers
  have joined := Lock.queue_join shaped number
  have reseats : Reseats number lock held (held.join number) task
      { task with lock := some lock, state := .waiting .lock } :=
    { sameBot := rfl
      shaped := by
        refine ⟨?_, Lock.shaped_join shaped number⟩
        rw [joined]
        exact List.nodup_append_comm.mp (List.nodup_cons.mpr ⟨absent, distinct⟩)
      others := fun other different => by simp [joined, different]
      keeps := fun other _ holder => by simp [Lock.join, holder]
      refers := by simp [TaskState.outside]
      seat := .inl ⟨rfl, by simp [joined]⟩
      holds := nofun }
  refine orderly.reseat found named there (fun _ => rfl) (fun other => ?_) reseats
  rw [LockTable.lock?_request]
  split
  next same => rw [same, there, Option.map_some]
  next => rfl

/-- A task that asks for the lock of its bot joins its queue and no other. -/
theorem requestLock (orderly : host.Orderly) {number : TaskNumber} {task : Task}
    (found : host.task? number = some task) (created : task.state = .created) :
    (host.requestLock number task).Orderly := by
  have named := host.locks.number?_obtain task.bot task.bot
  rw [if_pos rfl] at named
  exact (orderly.obtain task.bot).request found created named

/-- The holder ends: the lock goes to whoever is next in its queue. -/
theorem leave (orderly : host.Orderly) {number : TaskNumber} {task : Task} {lock : Nat}
    (found : host.task? number = some task) (inside : task.state.inside = true)
    (refers : task.lock = some lock) (result : Except ManagerFault Success) :
    ({ host with locks := host.locks.release lock }.changeTask number fun task =>
      { task with lock := none, state := .finished result }).Orderly := by
  obtain ⟨lock', held, refers', there, holder⟩ := orderly.held found inside
  obtain rfl : lock' = lock := Option.some.inj (refers'.symm.trans refers)
  obtain ⟨distinct, shaped⟩ := orderly.shaped there
  have queue : held.queue = number :: held.pass.queue := by
    rw [Lock.queue_pass shaped]
    exact (List.cons_head?_tail (shaped.symm.trans holder)).symm
  rw [queue, List.nodup_cons] at distinct
  have reseats : Reseats number lock' held held.pass task
      { task with lock := none, state := .finished result } :=
    { sameBot := rfl
      shaped := ⟨distinct.2, Lock.shaped_pass held⟩
      others := fun other different => by simp [queue, different]
      keeps := fun other different holds =>
        absurd (Option.some.inj (holds.symm.trans holder)) different
      refers := by simp [TaskState.outside]
      seat := .inr ⟨rfl, distinct.1⟩
      holds := nofun }
  refine orderly.reseat found (orderly.named found refers) there (fun _ => rfl) (fun other => ?_) reseats
  rw [LockTable.lock?_release]
  split
  next same => rw [same, there, Option.map_some]
  next => rfl

/-- A lock that no task of its bot refers to can be forgotten. -/
theorem forget (orderly : host.Orderly) {bot : String}
    (unused : ∀ {number : TaskNumber} {task : Task}, host.task? number = some task →
      task.bot = bot → task.lock = none) :
    { host with locks := host.locks.forget bot }.Orderly := by
  have known {other : String} {lock : Nat} :
      (host.locks.forget bot).number? other = some lock → host.locks.number? other = some lock := by
    rw [LockTable.number?_forget]
    grind
  constructor
  · exact orderly.refers
  · intro number task lock found refers
    show (host.locks.forget bot).number? task.bot = some lock
    have different : task.bot ≠ bot := by
      intro same
      rw [unused found same] at refers
      cases refers
    rw [LockTable.number?_forget, if_neg different]
    exact orderly.named found refers
  · exact fun now => orderly.made (known now)
  · exact fun one other => orderly.single (known one) (known other)
  · exact orderly.shaped
  · exact orderly.queued
  · exact orderly.present
  · exact orderly.held

/-- A task that finishes passes its lock on to the next of the queue. -/
theorem finish (orderly : host.Orderly) {number : TaskNumber} {task : Task}
    (found : host.task? number = some task) (inside : task.state.inside = true)
    (result : Except ManagerFault Success) : (host.finish number task result).Orderly := by
  obtain ⟨lock, _, refers, _⟩ := orderly.held found inside
  have left := orderly.leave found inside refers result
  unfold Host.finish releaseLock
  rw [refers]
  exact left

end Orderly

/-! ### Counting references -/

theorem one_le_length_filter {Item : Type} {items : List Item} {accepts : Item → Bool} {item : Item}
    (member : item ∈ items) (accepted : accepts item = true) :
    1 ≤ (items.filter accepts).length :=
  List.length_pos_of_mem (List.mem_filter.mpr ⟨member, accepted⟩)

/-- Two places of a list that pass a test count twice. -/
theorem two_le_length_filter {Item : Type} {items : List Item} {accepts : Item → Bool}
    {first second : Nat} {one other : Item} (before : first < second)
    (atFirst : items[first]? = some one) (atSecond : items[second]? = some other)
    (oneAccepted : accepts one = true) (otherAccepted : accepts other = true) :
    2 ≤ (items.filter accepts).length := by
  have early : one ∈ items.take second := by
    refine List.mem_of_getElem? (i := first) ?_
    rw [List.getElem?_take_of_lt before, atFirst]
  have late : other ∈ items.drop second := by
    refine List.mem_of_getElem? (i := 0) ?_
    rw [List.getElem?_drop, Nat.add_zero, atSecond]
  rw [← List.take_append_drop second items, List.filter_append, List.length_append]
  have := one_le_length_filter early oneAccepted
  have := one_le_length_filter late otherAccepted
  omega

/-- While two tasks of a bot refer to its lock, more than two references to it are counted. -/
theorem Orderly.two_lt_lockReferences {host : Host} (orderly : host.Orderly)
    {number other : TaskNumber} {task record : Task} {lock : Nat} (different : other ≠ number)
    (found : host.task? number = some task) (found' : host.task? other = some record)
    (refers : task.lock = some lock) (refers' : record.lock = some lock) :
    2 < host.lockReferences lock := by
  have names : 1 ≤ (host.locks.names.filter fun entry => entry.2 == lock).length := by
    have named := orderly.named found refers
    unfold LockTable.number? at named
    obtain ⟨entry, entryFound, same⟩ := Option.map_eq_some_iff.mp named
    exact one_le_length_filter (List.mem_of_find?_eq_some entryFound) (by simpa using same)
  have tasks : 2 ≤ (host.tasks.filter fun task => task.lock == some lock).length := by
    rcases Nat.lt_or_gt_of_ne different with before | before
    · exact two_le_length_filter before found' found (by simpa using refers') (by simpa using refers)
    · exact two_le_length_filter before found found' (by simpa using refers) (by simpa using refers')
  unfold lockReferences
  omega

namespace Orderly

variable {host : Host}

/-- Deletion forgets a lock only when no other task refers to it. -/
theorem finishDeleted (orderly : host.Orderly) {number : TaskNumber} {task : Task}
    (found : host.task? number = some task) (inside : task.state.inside = true) :
    (host.finishDeleted number task).Orderly := by
  obtain ⟨lock, _, refers, _⟩ := orderly.held found inside
  have left := orderly.leave found inside refers (.ok .done)
  unfold Host.finishDeleted releaseLock
  rw [refers]
  simp only [Option.any_some, beq_iff_eq]
  split
  next two =>
    refine left.forget fun {other record} now sameBot => ?_
    have foundThere : { host with locks := host.locks.release lock }.task? number = some task := found
    obtain ⟨rfl, rfl⟩ | ⟨different, now⟩ := task?_changeTask_cases foundThere now
    · rfl
    · by_contra referring
      obtain ⟨lock', refers'⟩ := Option.ne_none_iff_exists'.mp referring
      have named := orderly.named now refers'
      rw [sameBot, orderly.named found refers] at named
      obtain rfl : lock = lock' := Option.some.inj named
      have many := orderly.two_lt_lockReferences different found now refers refers'
      exact absurd two (Nat.ne_of_gt many)
  next => exact left

/-- A task that goes on from an answer leaves the locks in order. -/
theorem of_goesOn (orderly : host.Orderly) {number : TaskNumber} {task : Task} {next : Host}
    (found : host.task? number = some task) (inside : task.state.inside = true)
    {answer : Answer} (goes : GoesOn host number task answer next) : next.Orderly := by
  have waits {other : Host} (same : other.Orderly) (tasks : other.tasks = host.tasks)
      (locks : other.locks = host.locks) (wait : Wait) : (other.waitFor number wait).Orderly := by
    refine same.setTaskState (by rw [task?, tasks]; exact found)
      (TaskState.outside_of_inside inside) rfl fun _ => ?_
    rw [locks]
    exact orderly.held found inside
  cases goes with
  | waits _ registry loops wait =>
    have same : (host.withInstances registry loops).Orderly := orderly.congr rfl rfl
    exact waits same rfl rfl wait
  | launches handlers session =>
    have same (loop : SessionLoop) : { host with
        loops := host.loops ++ [loop]
        transport := host.transport.listen session host.nextGeneration }.Orderly :=
      orderly.congr rfl rfl
    exact waits (same _) rfl rfl _
  | ends _ registry result =>
    have same : (host.withInstances registry host.loops).Orderly := orderly.congr rfl rfl
    exact same.finish found inside result
  | deletes => exact orderly.finishDeleted found inside

/-- Whatever makes a step, the locks stay in order. -/
theorem step (orderly : host.Orderly) {process : Process} {next : Host}
    (stepped : host.advance process = some next) : next.Orderly := by
  cases process with
  | task number =>
    obtain ⟨task, found, cases⟩ := advance_task_cases stepped
    rcases cases with ⟨created, rfl⟩ | ⟨wait, answer, answered, waiting, taken, rfl⟩ |
      ⟨answer, answered, rfl⟩
    · exact orderly.requestLock found created
    · have answers := answers_of_answer? taken
      obtain ⟨store, transport, rfl⟩ := answer?_eq taken
      have same : { host with store, transport }.Orderly := orderly.congr rfl rfl
      refine same.setTaskState found (by rw [waiting]; rfl) rfl fun _ => ?_
      by_cases atLock : wait = .lock
      · subst atLock
        obtain ⟨lock, refers, holds⟩ := answers.holds
        obtain ⟨record, there, holder⟩ := host.locks.holds_iff.mp holds
        exact ⟨lock, record, refers, there, holder⟩
      · exact orderly.held found (by rw [waiting]; exact TaskState.inside_waiting atLock)
    · exact orderly.of_goesOn found (by rw [answered]; rfl) (goesOn_resume host number task answer)
  | loop generation =>
    obtain ⟨loop, found, _, waiting, state, recorded, sendsStarted, moved | moved⟩ :=
      advance_loop_cases stepped
    · rw [moved.1]
      exact orderly.congr rfl rfl
    · rw [moved.1]
      have gone : (host.moveLoop generation waiting state recorded sendsStarted).Orderly :=
        orderly.congr rfl rfl
      exact gone.addTask (.reap generation) loop.bot

theorem move (orderly : host.Orderly) {move : Move} {next : Host}
    (made : host.after? move = some next) : next.Orderly :=
  after?_kept (fun operation bot _ orderly => orderly.addTask operation bot)
    (fun _ orderly _ _ => orderly.congr rfl rfl) (fun _ _ _ _ orderly _ => orderly.congr rfl rfl)
    (fun orderly stepped => orderly.step stepped) orderly made

end Orderly

/-- Two tasks of one bot that are past their locks are one task. -/
theorem Orderly.alone {host : Host} (orderly : host.Orderly) {number other : TaskNumber}
    {task record : Task} (found : host.task? number = some task)
    (found' : host.task? other = some record) (inside : task.state.inside = true)
    (inside' : record.state.inside = true) (sameBot : record.bot = task.bot) : other = number := by
  obtain ⟨lock, held, refers, there, holder⟩ := orderly.held found inside
  obtain ⟨lock', held', refers', there', holder'⟩ := orderly.held found' inside'
  have named := orderly.named found refers
  rw [← sameBot, orderly.named found' refers'] at named
  obtain rfl : lock' = lock := Option.some.inj named
  rw [there] at there'
  obtain rfl : held = held' := Option.some.inj there'
  exact Option.some.inj (holder'.symm.trans holder)

/-- A lock that a task refers to is held, by this task or by one before it. -/
theorem Orderly.holder {host : Host} (orderly : host.Orderly) {number : TaskNumber} {task : Task}
    (found : host.task? number = some task) {lock : Nat} (refers : task.lock = some lock) :
    ∃ holder record, host.task? holder = some record ∧ record.lock = some lock ∧
      host.locks.holds lock holder = true := by
  obtain ⟨held, there, queued⟩ := orderly.present found refers
  have shaped := (orderly.shaped there).2
  unfold Lock.Shaped at shaped
  rcases order : held.queue with _ | ⟨holder, rest⟩
  · rw [order] at queued
    cases queued
  · rw [order] at shaped
    obtain ⟨record, found', refers'⟩ := orderly.queued there
      (show holder ∈ held.queue by rw [order]; exact List.mem_cons_self)
    exact ⟨holder, record, found', refers',
      (LockTable.holds_iff host.locks).mpr ⟨held, there, shaped⟩⟩

/-- The holder of a lock is a task that refers to it. -/
theorem Orderly.refers_of_holds {host : Host} (orderly : host.Orderly) {lock : Nat}
    {number : TaskNumber} (holds : host.locks.holds lock number = true) :
    ∃ task, host.task? number = some task ∧ task.lock = some lock := by
  obtain ⟨held, there, holder⟩ := host.locks.holds_iff.mp holds
  exact orderly.queued there (by rw [Lock.queue, holder]; exact List.mem_cons_self)

/-- A task that has begun and has not ended refers to a lock. -/
theorem Orderly.exists_lock {host : Host} (orderly : host.Orderly) {number : TaskNumber}
    {task : Task} (found : host.task? number = some task) (begun : task.state.outside = false) :
    ∃ lock, task.lock = some lock := by
  rw [← Option.ne_none_iff_exists']
  intro none
  rw [(orderly.refers found).mp none] at begun
  cases begun

/-- The locks of every reachable host are in order. -/
theorem Reachable.orderly {host : Host} (reachable : host.Reachable) : host.Orderly :=
  reachable.invariant Orderly.seeded fun _ orderly made => orderly.move made

end Host

end BotHost
