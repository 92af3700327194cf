/-
Tasks that wait from the beginning.

When copies begin to follow their originals, some tasks that reap may wait for their locks already.
Their copies wait with them, in a queue of their own: no copy joins it before the last of them has
left. So the queue that such a copy stands in is the beginning of the queue of its original, and both
come to its head at the same time.
-/

import BotHost.Proofs.Manager.Mirroring

namespace BotHost

namespace Host

/-- A queue in which a copy waits is the beginning of that in which its original waits. -/
structure Lined (locks : List Lock) (placed : List TaskNumber) (copies : List Task)
    (copied : List Lock) : Prop where
  ahead : ∀ {place : Nat} {copy : Task} {lock : Nat}, copies[place]? = some copy →
    copy.state.queues = true → copy.lock = some lock → ∃ held held', locks[lock]? = some held ∧
      copied[lock]? = some held' ∧ held'.queue.map (placed[·]?) <+: held.queue.map some

/-- What a lock's being given back does to the locks, if a task has one. -/
theorem locks_releaseLock (host : Host) (task : Task) (lock : Nat) :
    (host.releaseLock task).locks.locks[lock]? =
      if task.lock = some lock then (host.locks.locks[lock]?).map (·.pass)
      else host.locks.locks[lock]? := by
  unfold releaseLock
  split
  next held holds =>
    rw [LockTable.lock?_release, holds]
    simp [eq_comm]
  next none => simp [none]

theorem locks_finishDeleted (host : Host) (number : TaskNumber) (task : Task) :
    (host.finishDeleted number task).locks.locks = (host.releaseLock task).locks.locks := by
  unfold finishDeleted
  dsimp only
  split <;> rfl

namespace Lined

variable {host : Host} {placed : List TaskNumber} {copies : List Task} {locks : LockTable}

/-- At first the copies are the tasks themselves. -/
theorem self (orderly : host.Orderly) :
    Lined host.locks.locks (List.range host.tasks.length) host.tasks host.locks.locks := by
  constructor
  intro place copy lock there _ refers
  obtain ⟨held, atLock, _⟩ := orderly.present there refers
  have same : held.queue.map ((List.range host.tasks.length)[·]?) = held.queue.map some := by
    refine List.map_congr_left fun number queued => ?_
    obtain ⟨task, found, _⟩ := orderly.queued atLock queued
    exact List.getElem?_range (host.task?_lt found)
  exact ⟨held, held, atLock, atLock, same ▸ List.prefix_rfl⟩

/-- The originals' queues may get longer. -/
theorem longer {before after copied : List Lock} (lined : Lined before placed copies copied)
    (joined : ∀ {lock : Nat} {held : Lock}, before[lock]? = some held →
      ∃ later rest, after[lock]? = some later ∧ later.queue = held.queue ++ rest) :
    Lined after placed copies copied := by
  constructor
  intro place copy lock there queues refers
  obtain ⟨held, held', atLock, atLock', ahead⟩ := lined.ahead there queues refers
  obtain ⟨later, rest, atLock, grown⟩ := joined atLock
  refine ⟨later, held', atLock, atLock', ahead.trans ?_⟩
  rw [grown, List.map_append]
  exact List.prefix_append _ _

/-- Who asks for a lock comes behind all who have asked for it. -/
theorem request (orderly : host.Orderly) {copied : List Lock}
    (lined : Lined host.locks.locks placed copies copied) (number : TaskNumber) (task : Task) :
    Lined (host.requestLock number task).locks.locks placed copies copied := by
  refine lined.longer fun {lock held} atLock => ?_
  have before : (host.locks.obtain task.bot).2.locks[lock]? = some held := by
    rw [LockTable.lock?_obtain, if_neg, atLock]
    rintro ⟨_, rfl⟩
    rw [List.getElem?_eq_none (Nat.le_refl _)] at atLock
    cases atLock
  show ∃ later rest, ((host.locks.obtain task.bot).2.request (host.locks.obtain task.bot).1
    number).locks[lock]? = some later ∧ later.queue = held.queue ++ rest
  rw [LockTable.lock?_request, before]
  split
  · exact ⟨held.join number, [number], rfl, Lock.queue_join (orderly.shaped atLock).2 number⟩
  · exact ⟨held, [], rfl, (List.append_nil _).symm⟩

/-- Other copies may come to be, as long as they do not wait and leave alone the locks of those that
do. -/
theorem among {originals copied copied' : List Lock} {copies' : List Task}
    (lined : Lined originals placed copies copied)
    (kept : ∀ {place : Nat} {copy : Task}, copies'[place]? = some copy →
      copy.state.queues = true → copies[place]? = some copy)
    (same : ∀ {place : Nat} {copy : Task} {lock : Nat}, copies[place]? = some copy →
      copy.state.queues = true → copy.lock = some lock → copied'[lock]? = copied[lock]?) :
    Lined originals placed copies' copied' := by
  constructor
  intro place copy lock there queues refers
  have there' := kept there queues
  obtain ⟨held, held', atLock, atLock', ahead⟩ := lined.ahead there' queues refers
  exact ⟨held, held', atLock, (same there' queues refers).trans atLock', ahead⟩

/-- A copy may change to one that does not wait. -/
theorem modify {originals copied : List Lock} (lined : Lined originals placed copies copied)
    (place : Nat) {change : Task → Task}
    (changed : ∀ task, (change task).state.queues = false) :
    Lined originals placed (copies.modify place change) copied := by
  refine lined.among ?_ fun _ _ _ => rfl
  intro other copy there queues
  rw [List.getElem?_modify] at there
  split at there
  · obtain ⟨task, _, rfl⟩ := Option.map_eq_some_iff.mp there
    rw [changed] at queues
    cases queues
  · rwa [id_map'] at there

/-- Another task may get a copy, which does not wait. -/
theorem begin {originals : List Lock} (lined : Lined originals placed copies locks.locks)
    (orderly' : (host.withTasks copies locks).Orderly) (length : placed.length = copies.length)
    (number : TaskNumber) (operation : Operation) (bot : String) :
    Lined originals (placed ++ [number]) (copies ++ [⟨operation, bot, none, .created⟩])
      locks.locks := by
  constructor
  intro place copy lock there queues refers
  have early : copies[place]? = some copy := by
    rw [List.getElem?_append] at there
    split at there
    · exact there
    · obtain ⟨_, rfl⟩ := List.getElem?_eq_some_iff.mp there
      simp [TaskState.queues] at queues
  obtain ⟨held, held', atLock, atLock', ahead⟩ := lined.ahead early queues refers
  refine ⟨held, held', atLock, atLock', ?_⟩
  have same : held'.queue.map ((placed ++ [number])[·]?) = held'.queue.map (placed[·]?) := by
    refine List.map_congr_left fun other queued => ?_
    obtain ⟨record, found, _⟩ := orderly'.queued atLock' queued
    exact List.getElem?_append_left (length ▸ Host.task?_lt _ found)
  rw [same]
  exact ahead

section

variable (lined : Lined host.locks.locks placed copies locks.locks) (orderly : host.Orderly)
  (orderly' : (host.withTasks copies locks).Orderly)

include lined orderly orderly'

/-- The head of a queue in which a copy waits has a copy, which is the head of that queue. -/
theorem head {place : Nat} {copy : Task} {lock : Nat} (there : copies[place]? = some copy)
    (queues : copy.state.queues = true) (refers : copy.lock = some lock) {number : TaskNumber}
    (holds : host.locks.holds lock number = true) :
    ∃ first, placed[first]? = some number ∧ locks.holds lock first = true := by
  obtain ⟨held, held', atLock, atLock', ahead⟩ := lined.ahead there queues refers
  obtain ⟨held'', atLock'', holder⟩ := host.locks.holds_iff.mp holds
  rw [atLock] at atLock''
  obtain rfl := Option.some.inj atLock''
  have shaped := (orderly.shaped atLock).2
  have shaped' := (orderly'.shaped atLock').2
  obtain ⟨record, atLock'', queued⟩ :=
    orderly'.present (show Host.task? _ place = some copy from there) refers
  rw [show locks.locks[lock]? = some record from atLock''] at atLock'
  obtain rfl := Option.some.inj atLock'
  unfold Lock.Shaped at shaped shaped'
  rw [holder] at shaped
  cases order : record.queue with
  | nil =>
    rw [order] at queued
    cases queued
  | cons first rest =>
    cases order' : held.queue with
    | nil =>
      rw [order'] at shaped
      cases shaped
    | cons number' rest' =>
      rw [order, order', List.map_cons, List.map_cons, List.cons_prefix_cons] at ahead
      rw [order'] at shaped
      obtain rfl := Option.some.inj shaped
      rw [order] at shaped'
      exact ⟨first, ahead.1, locks.holds_iff.mpr ⟨record, atLock'', shaped'⟩⟩

/-- A task past its lock and its copy give their locks back together. -/
theorem release (twins : Twins placed host.tasks copies) {base : Host}
    (unlocked : base.locks = host.locks) {number : TaskNumber} {task : Task}
    (found : host.task? number = some task) (inside : task.state.inside = true) {place : Nat}
    {copy : Task} (there : copies[place]? = some copy) (inside' : copy.state.inside = true)
    (sameBot : copy.bot = task.bot) :
    Lined (base.releaseLock task).locks.locks placed copies
      ((base.withTasks copies locks).releaseLock copy).locks.locks := by
  have there : (host.withTasks copies locks).task? place = some copy := there
  constructor
  intro other waiting lock there' queues refers
  obtain ⟨held, held', atLock, atLock', ahead⟩ := lined.ahead there' queues refers
  have there' : (host.withTasks copies locks).task? other = some waiting := there'
  obtain ⟨another, found'⟩ : ∃ another, host.task? another = some waiting := by
    have here := List.getElem?_eq_getElem (l := placed) (i := other)
      (by rw [twins.length]; exact Host.task?_lt _ there')
    obtain ⟨original, copy', found', there'', same⟩ := twins.copied here
    rw [show copies[other]? = some waiting from there'] at there''
    obtain rfl := Option.some.inj there''
    obtain rfl := same.eq_of_queues queues
    exact ⟨_, found'⟩
  obtain ⟨lock₁, _, refers₁, _⟩ := orderly.held found inside
  obtain ⟨lock₂, _, refers₂, _⟩ := orderly'.held there inside'
  have together : task.lock = some lock ↔ copy.lock = some lock := by
    constructor
    · intro first
      have ofBot := orderly.single (orderly.named found first) (orderly.named found' refers)
      have named := orderly'.named there' refers
      rw [← ofBot, ← sameBot, orderly'.named there refers₂] at named
      exact refers₂.trans named
    · intro second
      have ofBot := orderly'.single (orderly'.named there second) (orderly'.named there' refers)
      have named := orderly.named found' refers
      rw [← ofBot, sameBot, orderly.named found refers₁] at named
      exact refers₁.trans named
  rw [locks_releaseLock, locks_releaseLock, unlocked, atLock,
    show (base.withTasks copies locks).locks.locks[lock]? = some held' from atLock']
  by_cases own : task.lock = some lock
  · rw [if_pos own, if_pos (together.mp own)]
    refine ⟨held.pass, held'.pass, rfl, rfl, ?_⟩
    rw [Lock.queue_pass (orderly.shaped atLock).2, Lock.queue_pass (orderly'.shaped atLock').2]
    cases order' : held'.queue with
    | nil => exact List.nil_prefix
    | cons first rest =>
      cases order : held.queue with
      | nil =>
        rw [order, order'] at ahead
        cases List.prefix_nil.mp ahead
      | cons first' rest' =>
        rw [order, order', List.map_cons, List.map_cons, List.cons_prefix_cons] at ahead
        exact ahead.2
  · rw [if_neg own, if_neg fun second => own (together.mpr second)]
    exact ⟨held, held', rfl, rfl, ahead⟩

end

end Lined

end Host

end BotHost
