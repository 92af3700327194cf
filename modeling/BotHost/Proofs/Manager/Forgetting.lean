/-
When a deleted bot leaves no lock behind.

The table of names keeps the lock of a bot until the bot is deleted, and then drops it unless an operation
that waits behind the delete still refers to it. Nothing else takes a name out of the table: a task that
waits and finds no bot leaves the entry where it is, and one that begins later makes a new one. So the
entry is gone exactly if every other operation on the bot had ended when the delete returned and none has
asked for the lock since. This holds as long as the bot is not stored again, for then no other delete can
succeed.

References are counted: the table has one, and each task past its first step has one until its end. That
the count tells whether somebody else is there needs the names of the table to be different.
-/

import BotHost.Proofs.Manager.Separation
import BotHost.Proofs.Manager.Serial
import BotHost.Proofs.Manager.Stopping

namespace BotHost

/-- Whether a task may be one that deletes, as far as it has come. -/
def TaskState.deletes : TaskState → Bool
  | .created | .waiting .lock | .answered .locked | .waiting .readToStop | .answered (.readToStop _)
  | .waiting (.recordStopped _) | .answered (.recordedStopped _) | .waiting .remove
  | .answered (.removed _) | .finished _ => true
  | .waiting (.join _ ending _) | .answered (.joined _ ending _) | .waiting (.joinAborted _ ending)
  | .answered (.joinedAborted _ ending) | .waiting (.close _ ending _ _ _)
  | .answered (.closed _ ending _) => ending == .stopping
  | _ => false

theorem TaskState.outside_iff {state : TaskState} :
    state.outside = true ↔ state = .created ∨ state.ended = true := by
  cases state <;> simp [outside, ended]

namespace Host

variable {host next last : Host} {number : TaskNumber} {task record : Task} {bot : String}

/-! ### What a delete does -/

theorem answer?_deletes {wait : Wait} {answer : Answer} {answered : Host}
    (taken : host.answer? number task wait = some (answer, answered)) :
    (TaskState.answered answer).deletes = (TaskState.waiting wait).deletes := by
  cases answers_of_answer? taken <;> rfl

/-- A delete goes on to end what runs and to remove the record, and it succeeds only when the record has
been removed. -/
theorem resume_deletes (found : host.task? number = some task) (operation : task.operation = .delete)
    {answer : Answer} (before : (TaskState.answered answer).deletes = true)
    (found' : (host.resume number task answer).task? number = some record) :
    record.state.deletes = true ∧
      ∀ success, record.state = .finished (.ok success) → answer = .removed (.ok true) := by
  have waits {other : Host} {wait : Wait} (same : other.task? number = some task)
      (there : (other.waitFor number wait).task? number = some record)
      (deletes : (TaskState.waiting wait).deletes = true) :
      record.state.deletes = true ∧
        ∀ success, record.state = .finished (.ok success) → answer = .removed (.ok true) := by
    rw [waitFor_found same] at there
    obtain rfl := Option.some.inj there
    exact ⟨deletes, nofun⟩
  have fails {fault : ManagerFault}
      (there : (host.finish number task (.error fault)).task? number = some record) :
      record.state.deletes = true ∧
        ∀ success, record.state = .finished (.ok success) → answer = .removed (.ok true) := by
    rw [task?_finish_self found] at there
    obtain rfl := Option.some.inj there
    exact ⟨rfl, nofun⟩
  have stopped {result : Except ManagerFault Unit}
      (there : (host.afterStop number task result).task? number = some record) :
      record.state.deletes = true ∧
        ∀ success, record.state = .finished (.ok success) → answer = .removed (.ok true) := by
    unfold afterStop at there
    rw [operation] at there
    rcases result with fault | _
    · cases fault with
      | closeTimeout => exact waits found there rfl
      | _ => exact fails there
    · exact waits found there rfl
  cases answer with
  | locked =>
    simp only [resume, Host.begin, operation] at found'
    split at found'
    · exact waits found found' rfl
    · exact waits found found' rfl
  | readToStop read => rcases read with fault | _ | bot <;> exact stopped found'
  | joined running ending finished => cases finished <;> exact waits found found' before
  | joinedAborted running ending => exact waits found found' before
  | closed running ending forced =>
    cases ending with
    | stopping => exact waits found found' rfl
    | reaping | startFailed => cases before
  | recordedStopped result => exact stopped found'
  | removed present =>
    rcases present with fault | _ | _
    · exact fails found'
    · exact fails found'
    · refine ⟨?_, fun _ _ => rfl⟩
      rw [resume, finishDeleted_eq] at found'
      obtain rfl := Option.some.inj ((task?_changeTask_self found _).symm.trans found')
      rfl
  | _ => cases before

/-- Every task that deletes does nothing but that. -/
structure Deleters (host : Host) : Prop where
  deletes : ∀ {number : TaskNumber} {task : Task}, host.task? number = some task →
    task.operation = .delete → task.state.deletes = true

namespace Deleters

/-- Only the task that takes a step changes. -/
theorem step (deleters : host.Deleters) {number : TaskNumber}
    (stepped : host.advance (.task number) = some next) : next.Deleters := by
  constructor
  intro other record found' operation
  by_cases own : other = number
  · subst own
    obtain ⟨task, found, there⟩ := advance_task_cases stepped
    obtain ⟨lock, state, kept⟩ := task?_after (show host.after? (.step (.task other)) = some next
      from stepped) found
    obtain rfl := Option.some.inj (kept.symm.trans found')
    have before := deleters.deletes found operation
    rcases there with ⟨_, rfl⟩ | ⟨wait, answer, answered, waiting, taken, rfl⟩ | ⟨answer, answered, rfl⟩
    · have same := (task?_changeTask_self found _).symm.trans found'
      cases Option.some.inj same
      rfl
    · cases Option.some.inj ((task?_answered found taken).symm.trans found')
      rw [answer?_deletes taken, ← waiting]
      exact before
    · exact (resume_deletes found operation (answered ▸ before) found').1
  · exact deleters.deletes ((advance_task_other stepped own).symm.trans found') operation

theorem move (deleters : host.Deleters) {move : Move} (made : host.after? move = some next) :
    next.Deleters := by
  by_cases own : ∃ number, move = .step (.task number)
  · obtain ⟨number, rfl⟩ := own
    exact deleters.step made
  · constructor
    intro number record found operation
    have other : move ≠ .step (.task number) := fun same => own ⟨number, same⟩
    rcases task?_of_after made other found with there | created
    · exact deleters.deletes there operation
    · rw [created]
      rfl

end Deleters

theorem Reachable.deleters (reachable : host.Reachable) : host.Deleters :=
  reachable.invariant (fun _ _ _ => ⟨nofun⟩) fun _ deleters made => Deleters.move deleters made

/-- A delete succeeds with its step from the removal of the record. -/
theorem Reachable.removed_of_deleted (reachable : host.Reachable)
    (found : host.task? number = some task) (operation : task.operation = .delete)
    (stepped : host.advance (.task number) = some next) (found' : next.task? number = some record)
    {success : Success} (done : record.state = .finished (.ok success)) :
    task.state = .answered (.removed (.ok true)) := by
  obtain ⟨_, rfl⟩ | ⟨wait, answer, answered, _, taken, rfl⟩ | ⟨answer, answered, rfl⟩ :=
    advance_found_cases found stepped
  · cases Option.some.inj ((task?_changeTask_self found _).symm.trans found')
    cases done
  · cases Option.some.inj ((task?_answered found taken).symm.trans found')
    cases done
  · have before := reachable.deleters.deletes found operation
    rw [answered, (resume_deletes found operation (answered ▸ before) found').2 success done]

/-! ### Counting references -/

/-- The table of names has every bot once. -/
def Listed (host : Host) : Prop := (host.locks.names.map Prod.fst).Nodup

theorem names_releaseLock (host : Host) (task : Task) :
    (host.releaseLock task).locks.names = host.locks.names := by
  unfold releaseLock
  split <;> rfl

theorem Listed.step (listed : host.Listed) {number : TaskNumber}
    (stepped : host.advance (.task number) = some next) : next.Listed := by
  obtain ⟨task, found, ⟨_, rfl⟩ | ⟨wait, answer, answered, _, taken, rfl⟩ | ⟨answer, answered, rfl⟩⟩ :=
    advance_task_cases stepped
  · show ((host.locks.obtain task.bot).2.names.map Prod.fst).Nodup
    cases known : host.locks.number? task.bot with
    | some lock =>
      rw [LockTable.obtain_known _ known]
      exact listed
    | none =>
      rw [LockTable.obtain_new _ known]
      refine List.nodup_cons.mpr ⟨fun member => ?_, listed⟩
      obtain ⟨entry, there, same⟩ := List.mem_map.mp member
      have absent := List.find?_eq_none.mp (Option.map_eq_none_iff.mp known) entry there
      exact absent (by simpa using same)
  · obtain ⟨store, transport, rfl⟩ := answer?_eq taken
    exact listed
  · have goes := goesOn_resume host number task answer
    generalize host.resume number task answer = next at goes
    cases goes with
    | waits | launches => exact listed
    | ends _ registry result =>
      show ((releaseLock _ task).locks.names.map Prod.fst).Nodup
      rw [names_releaseLock]
      exact listed
    | deletes =>
      have released : (host.releaseLock task).Listed := by
        rw [Listed, names_releaseLock]
        exact listed
      unfold finishDeleted
      dsimp only
      split
      · exact List.Nodup.sublist (List.filter_sublist.map Prod.fst) released
      · exact released

theorem Reachable.listed (reachable : host.Reachable) : host.Listed :=
  reachable.invariant (fun _ _ _ => List.nodup_nil) fun _ listed made =>
    after?_kept (fun _ _ _ listed => listed) (fun _ listed _ _ => listed)
      (fun _ _ _ _ listed _ => listed)
      (fun {host next process} listed stepped => by
        cases process with
        | task number => exact listed.step stepped
        | loop generation =>
          rw [Listed, (advance_loop_frame stepped).2.2]
          exact listed)
      listed made

/-- A test that is passed at one place alone is passed once. -/
theorem length_filter_eq_one {Item : Type} {items : List Item} {accepts : Item → Bool} {place : Nat}
    {item : Item} (there : items[place]? = some item) (accepted : accepts item = true)
    (alone : ∀ {other : Nat} {item : Item}, items[other]? = some item → accepts item = true →
      other = place) :
    (items.filter accepts).length = 1 := by
  induction items generalizing place with
  | nil => cases there
  | cons first rest inductionHypothesis =>
    cases place with
    | zero =>
      obtain rfl := Option.some.inj there
      have others : rest.filter accepts = [] := by
        refine List.filter_eq_nil_iff.mpr fun item member accepted' => ?_
        obtain ⟨other, at_⟩ := List.mem_iff_getElem?.mp member
        exact absurd (alone (List.getElem?_cons_succ.trans at_) accepted') nofun
      rw [List.filter_cons_of_pos accepted, others]
      rfl
    | succ place =>
      have refused : ¬ accepts first = true := fun accepted' =>
        absurd (alone (List.getElem?_cons_zero) accepted') nofun
      rw [List.filter_cons_of_neg refused]
      refine inductionHypothesis (List.getElem?_cons_succ.symm.trans there) fun at_ accepted' => ?_
      exact Nat.succ.inj (alone (List.getElem?_cons_succ.trans at_) accepted')

theorem Listed.number?_of_mem (listed : host.Listed) {entry : String × Nat}
    (member : entry ∈ host.locks.names) : host.locks.number? entry.1 = some entry.2 := by
  unfold LockTable.number?
  cases found : host.locks.names.find? fun other => other.1 == entry.1 with
  | none => exact absurd (List.find?_eq_none.mp found entry member) (by simp)
  | some other =>
    have same : other.1 = entry.1 := by simpa using List.find?_some found
    rw [List.inj_on_of_nodup_map listed (List.mem_of_find?_eq_some found) member same]
    rfl

/-- The table refers once to a lock that it names. -/
theorem Listed.length_names (listed : host.Listed) (orderly : host.Orderly) {lock : Nat}
    (named : host.locks.number? bot = some lock) :
    (host.locks.names.filter fun entry => entry.2 == lock).length = 1 := by
  obtain ⟨entry, found, rfl⟩ := Option.map_eq_some_iff.mp named
  obtain ⟨place, there⟩ := List.mem_iff_getElem?.mp (List.mem_of_find?_eq_some found)
  refine length_filter_eq_one there (beq_self_eq_true _) fun {other item} at_ accepted => ?_
  have own : entry.1 = bot := by simpa using List.find?_some found
  have same : bot = item.1 := by
    refine orderly.single named ?_
    rw [listed.number?_of_mem (List.mem_of_getElem? at_), eq_of_beq accepted]
  have keys : (host.locks.names.map Prod.fst)[other]? = (host.locks.names.map Prod.fst)[place]? := by
    rw [List.getElem?_map, List.getElem?_map, there, at_, Option.map_some, Option.map_some, own, same]
  have bound : other < (host.locks.names.map Prod.fst).length := by
    rw [List.length_map]
    exact (List.getElem?_eq_some_iff.mp at_).1
  exact (List.getElem?_inj bound listed).mp keys

/-- A delete drops the lock of its bot exactly if no other task on the bot is under way. -/
theorem number?_finishDeleted (reachable : host.Reachable) (found : host.task? number = some task)
    (inside : task.state.inside = true) :
    (host.finishDeleted number task).locks.number? task.bot = none ↔
      ∀ {other : TaskNumber} {record : Task}, host.task? other = some record →
        record.bot = task.bot → other ≠ number → record.state.outside = true := by
  have orderly := reachable.orderly
  obtain ⟨lock, _, refers, _, _⟩ := orderly.held found inside
  have named := orderly.named found refers
  have references : (host.releaseLock task).lockReferences lock = host.lockReferences lock := by
    unfold lockReferences releaseLock
    rw [refers]
    rfl
  have names : (host.releaseLock task).locks.number? task.bot = some lock := by
    rw [LockTable.number?, names_releaseLock]
    exact named
  have counted : (host.finishDeleted number task).locks.number? task.bot = none ↔
      host.lockReferences lock = 2 := by
    unfold finishDeleted
    dsimp only
    rw [refers]
    split
    next two =>
      rw [Option.any_some, references, beq_iff_eq] at two
      refine iff_of_true ?_ two
      exact (LockTable.number?_forget _ task.bot task.bot).trans (if_pos rfl)
    next more =>
      rw [Option.any_some, references, beq_iff_eq] at more
      refine iff_of_false (fun none => ?_) more
      cases names.symm.trans none
  rw [counted]
  constructor
  · intro two other record found' sameBot different
    refine (orderly.refers found').mp (Option.eq_none_iff_forall_ne_some.mpr fun other' refers' => ?_)
    have same : some other' = some lock :=
      (orderly.named found' refers').symm.trans (sameBot ▸ named)
    have many := orderly.two_lt_lockReferences different found found' refers (refers'.trans same)
    omega
  · intro outside
    rw [lockReferences, reachable.listed.length_names orderly named]
    rw [length_filter_eq_one found (by simp [refers]) fun {other record} found' refers' => ?_]
    rw [beq_iff_eq] at refers'
    refine Classical.not_not.mp fun different => ?_
    have sameBot : record.bot = task.bot := orderly.single (orderly.named found' refers') named
    have none := (orderly.refers found').mpr (outside found' sameBot different)
    cases refers'.symm.trans none

/-! ### Since the delete -/

/-- No task on the bot has been under way since then: it has not begun, or it had ended by then. -/
def QuietSince (since host : Host) (bot : String) : Prop :=
  ∀ {number : TaskNumber} {task : Task}, host.task? number = some task → task.bot = bot →
    task.state = .created ∨
      ∃ earlier, since.task? number = some earlier ∧ earlier.state.ended = true

/-- No task is about to drop the lock of the bot. -/
def Spared (host : Host) (bot : String) : Prop :=
  ∀ {number : TaskNumber} {task : Task}, host.task? number = some task → task.bot = bot →
    task.state ≠ .answered (.removed (.ok true))

/-- What is not stored cannot be removed. -/
theorem stored_of_removed {wait : Wait} {answered : Host}
    (taken : host.answer? number task wait = some (.removed (.ok true), answered)) :
    host.store.find? task.bot ≠ none := by
  generalize result : Answer.removed (.ok true) = answer at taken
  cases answers_of_answer? taken with
  | removed =>
    have removed : (host.storeRemove task.bot).1 = .ok true := (Answer.removed.inj result).symm
    unfold storeRemove at removed
    split at removed
    · cases removed
    · intro gone
      simp [BotStore.remove, BotStore.contains, gone] at removed
  | _ => cases result

theorem Spared.move (spared : host.Spared bot) (gone : host.store.find? bot = none) {move : Move}
    (made : host.after? move = some next) : next.Spared bot := by
  intro number record found' sameBot
  by_cases own : move = .step (.task number)
  · subst own
    obtain ⟨task, found, ⟨_, rfl⟩ | ⟨wait, answer, answered, _, taken, rfl⟩ | ⟨answer, answered, rfl⟩⟩ :=
      advance_task_cases made
    · cases Option.some.inj ((task?_changeTask_self found _).symm.trans found')
      nofun
    · cases Option.some.inj ((task?_answered found taken).symm.trans found')
      intro removed
      cases removed
      exact stored_of_removed taken (sameBot ▸ gone)
    · rcases resume_comesTo found found' with ⟨result, finished⟩ | ⟨wait, waiting, _⟩
      · rw [finished]
        nofun
      · rw [waiting]
        nofun
  · rcases task?_of_after made own found' with there | created
    · exact spared there sameBot
    · rw [created]
      nofun

/-- A task that has taken a step has begun, and its bot has a lock unless it has just been removed. -/
theorem named_of_advance (orderly : host.Orderly) (found : host.task? number = some task)
    (present : task.state ≠ .answered (.removed (.ok true)))
    (stepped : host.advance (.task number) = some next) :
    next.locks.number? task.bot ≠ none := by
  have named (begun : task.state.outside = false) : host.locks.number? task.bot ≠ none := by
    obtain ⟨lock, refers⟩ := orderly.exists_lock found begun
    rw [orderly.named found refers]
    nofun
  obtain ⟨_, rfl⟩ | ⟨wait, answer, answered, waiting, taken, rfl⟩ | ⟨answer, answered, rfl⟩ :=
    advance_found_cases found stepped
  · intro none
    have obtained := host.locks.number?_obtain task.bot task.bot
    rw [if_pos rfl] at obtained
    exact nomatch obtained.symm.trans none
  · obtain ⟨store, transport, rfl⟩ := answer?_eq taken
    exact named (by rw [waiting]; rfl)
  · have named := named (by rw [answered]; rfl)
    have goes := resume_continues host number task answer
    generalize host.resume number task answer = next at goes
    cases goes with
    | waits | takes | withdraws | aborts | launches => exact named
    | enrolls | ends =>
      show LockTable.number? (releaseLock _ task).locks task.bot ≠ none
      rw [LockTable.number?, names_releaseLock]
      exact named
    | deletes => exact absurd answered present

theorem begun_of_advance (found : host.task? number = some task)
    (stepped : host.advance (.task number) = some next) (found' : next.task? number = some record) :
    task.state.ended = false ∧ record.state ≠ .created := by
  obtain ⟨created, rfl⟩ | ⟨wait, answer, answered, waiting, taken, rfl⟩ | ⟨answer, answered, rfl⟩ :=
    advance_found_cases found stepped
  · cases Option.some.inj ((task?_changeTask_self found _).symm.trans found')
    exact ⟨by rw [created]; rfl, nofun⟩
  · cases Option.some.inj ((task?_answered found taken).symm.trans found')
    exact ⟨by rw [waiting]; rfl, nofun⟩
  · refine ⟨by rw [answered]; rfl, ?_⟩
    rcases resume_comesTo found found' with ⟨result, finished⟩ | ⟨wait, waiting, _⟩
    · rw [finished]
      nofun
    · rw [waiting]
      nofun

section

variable {since : Host} {move : Move}

/-- A step of a task on the bot leaves the bot with a lock, and has the task under way. -/
theorem forgets_own {moves : List Move} (reachable : host.Reachable) (run : Run since moves host)
    (spared : host.Spared bot) (found : host.task? number = some task) (own : task.bot = bot)
    (stepped : host.advance (.task number) = some next) :
    next.locks.number? bot ≠ none ∧ ¬ QuietSince since next bot := by
  subst own
  refine ⟨named_of_advance reachable.orderly found (spared found rfl) stepped, fun quiet => ?_⟩
  obtain ⟨lock, state, found'⟩ := task?_after (show host.after? (.step (.task number)) = some next
    from stepped) found
  obtain ⟨unfinished, begun⟩ := begun_of_advance found stepped found'
  rcases quiet found' rfl with created | ⟨earlier, there, ended⟩
  · exact begun created
  · obtain rfl := Option.some.inj ((run.task?_of_ended there ended).symm.trans found)
    exact nomatch unfinished.symm.trans ended

/-- What is no step of a task on the bot leaves the bot its lock, and its tasks as they are. -/
theorem forgets_other (reachable : host.Reachable) (made : host.after? move = some next)
    (other : ∀ {number : TaskNumber} {task : Task}, move = .step (.task number) →
      host.task? number = some task → task.bot ≠ bot) :
    next.locks.number? bot = host.locks.number? bot ∧
      (QuietSince since next bot ↔ QuietSince since host bot) := by
  constructor
  · by_cases isStep : ∃ process, move = .step process
    · obtain ⟨process, rfl⟩ := isStep
      cases process with
      | task number =>
        obtain ⟨task, found, _⟩ := advance_task_cases made
        exact (keepsLock_of_advance reachable.orderly found made (Ne.symm (other rfl found))).named
      | loop generation =>
        rw [(advance_loop_frame made).2.2]
    · refine @after?_kept_aside (fun later => later.locks.number? bot = host.locks.number? bot)
        ?_ ?_ ?_ _ _ _ rfl made fun process same => isStep ⟨process, same⟩
      · exact fun _ _ _ same => same
      · exact fun _ same _ _ => same
      · exact fun _ _ _ _ same _ => same
  · have later {number : TaskNumber} {task : Task} (found : host.task? number = some task)
        (own : task.bot = bot) : next.task? number = some task := by
      refine task?_after_of_ne made ?_ found
      rintro rfl
      exact other rfl found own
    constructor
    · exact fun quiet number task found own => quiet (later found own) own
    · intro quiet number record found' own
      by_cases moved : move = .step (.task number)
      · subst moved
        obtain ⟨task, found, _⟩ := advance_task_cases made
        obtain ⟨lock, state, kept⟩ := task?_after made found
        cases Option.some.inj (kept.symm.trans found')
        exact (other rfl found own).elim
      · rcases task?_of_after made moved found' with found | created
        · exact quiet found own
        · exact .inl created

end

/-- Once a delete has succeeded, and as long as its bot is not stored again, the bot has no lock exactly
if no other task on it has been under way since. -/
theorem Run.forgets {moves : List Move} (reachable : host.Reachable)
    (found : host.task? number = some task) (operation : task.operation = .delete)
    (stepped : host.advance (.task number) = some next) (found' : next.task? number = some record)
    (done : record.state = .finished (.ok .done)) (run : Run next moves last)
    (gone : Throughout (fun host => host.store.find? task.bot = none) next moves) :
    last.locks.number? task.bot = none ↔ QuietSince next last task.bot := by
  have removed := reachable.removed_of_deleted found operation stepped found' done
  have inside : task.state.inside = true := by rw [removed]; rfl
  have reachable' : next.Reachable :=
    reachable.run (.move (show host.after? (.step (.task number)) = some next from stepped) (.rest _))
  have resumed : next = host.finishDeleted number task := by
    simp only [Host.advance, found, Option.bind_some, advanceTask, removed] at stepped
    exact (Option.some.inj stepped).symm
  have others {other : TaskNumber} (different : other ≠ number) : next.task? other = host.task? other :=
    advance_task_other stepped different
  have dropped := number?_finishDeleted reachable found inside
  rw [← resumed] at dropped
  have first : next.locks.number? task.bot = none ↔ QuietSince next next task.bot := by
    refine dropped.trans ⟨fun outside other later there sameBot => ?_, fun quiet => ?_⟩
    · by_cases own : other = number
      · subst own
        obtain rfl := Option.some.inj (found'.symm.trans there)
        exact .inr ⟨_, there, by rw [done]; rfl⟩
      · have out := outside ((others own).symm.trans there) sameBot own
        exact (TaskState.outside_iff.mp out).imp id fun ended => ⟨_, there, ended⟩
    · intro other later there sameBot different
      have there := (others different).trans there
      refine TaskState.outside_iff.mpr ((quiet there sameBot).imp id ?_)
      rintro ⟨earlier, same, ended⟩
      rwa [Option.some.inj (there.symm.trans same)]
  have spared : next.Spared task.bot := by
    intro other later there sameBot removed'
    by_cases own : other = number
    · subst own
      obtain rfl := Option.some.inj (found'.symm.trans there)
      cases done.symm.trans removed'
    · have inside' : later.state.inside = true := by rw [removed']; rfl
      exact own (reachable.orderly.alone found ((others own).symm.trans there) inside inside' sameBot)
  have kept : (∃ moves, Run next moves last) ∧ last.Spared task.bot ∧
      (last.locks.number? task.bot = none ↔ QuietSince next last task.bot) := by
    refine @keeps_throughout (fun later => (∃ moves, Run next moves later) ∧ later.Spared task.bot ∧
      (later.locks.number? task.bot = none ↔ QuietSince next later task.bot)) _ ?_ _ _ _ run
      reachable' gone ⟨⟨[], .rest next⟩, spared, first⟩
    rintro host later move reachable gone ⟨⟨before, run⟩, spared, kept⟩ made
    refine ⟨⟨before ++ [move], run.append (.move made (.rest later))⟩, spared.move gone made, ?_⟩
    by_cases own : ∃ number record, move = .step (.task number) ∧ host.task? number = some record ∧
        record.bot = task.bot
    · obtain ⟨number, record, rfl, found, sameBot⟩ := own
      obtain ⟨named, busy⟩ := forgets_own reachable run spared found sameBot made
      exact iff_of_false named busy
    · obtain ⟨same, quiet⟩ : later.locks.number? task.bot = host.locks.number? task.bot ∧
          (QuietSince next later task.bot ↔ QuietSince next host task.bot) :=
        forgets_other reachable made fun moved found sameBot => own ⟨_, _, moved, found, sameBot⟩
      rw [same, quiet]
      exact kept
  exact kept.2.2

/-- A bot is started and then deleted, up to the last step of the delete. -/
def startDelete : List Move :=
  .begin .start "bot" :: .replicate 9 (.step (.task 0)) ++
    .begin .delete "bot" :: .replicate 3 (.step (.task 1)) ++
    .step (.loop 1) :: .replicate 7 (.step (.task 1))

/-- The start had ended before the delete, and the stop that is begun later has not asked for the lock. -/
theorem forgets_startDelete : ∃ host next last task record,
    Run (seeded .unlimited {} [.plain "bot" "token"]) startDelete host ∧
      host.task? 1 = some task ∧ task.operation = .delete ∧ host.advance (.task 1) = some next ∧
      next.task? 1 = some record ∧ record.state = .finished (.ok .done) ∧
      Run next [.pass 1, .begin .stop "bot"] last ∧ last.tasks.length = 3 ∧
      last.locks.number? "bot" = none ∧ QuietSince next last "bot" := by
  have played : ((seeded .unlimited {} [.plain "bot" "token"]).play startDelete).bind (fun host =>
      (host.task? 1).bind fun task => (host.advance (.task 1)).bind fun next =>
        (next.task? 1).bind fun record => (next.play [.pass 1, .begin .stop "bot"]).map fun last =>
          (task.operation, task.bot, record.state, last.tasks.length, last.locks.number? "bot",
            decide (Throughout (fun host => host.store.find? "bot" = none) next
              [.pass 1, .begin .stop "bot"]))) =
      some (.delete, "bot", .finished (.ok .done), 3, none, true) := by rfl
  simp only [Option.bind_eq_some_iff, Option.map_eq_some_iff, Prod.mk.injEq, decide_eq_true_eq]
    at played
  obtain ⟨host, first, task, found, next, stepped, record, found', last, rest, operation, own, done,
    length, none, gone⟩ := played
  have run := run_iff.mpr first
  have forgets := Run.forgets ⟨_, _, _, _, run⟩ found operation stepped found' done (run_iff.mpr rest)
    (own ▸ gone)
  rw [own] at forgets
  exact ⟨host, next, last, task, record, run, found, operation, stepped, found', done, run_iff.mpr rest,
    length, none, forgets.mp none⟩

/-- A stop begins while a delete has the lock. -/
def stopBehindDelete : List Move :=
  [.begin .delete "bot", .begin .stop "bot", .step (.task 0), .step (.task 1)] ++
    .replicate 6 (.step (.task 0)) ++ .replicate 4 (.step (.task 1))

/-- The delete succeeds, the stop finds no bot, and nothing is under way any more; but the bot, which has
not been registered again, still has its lock. -/
theorem lock_left_stopBehindDelete : ∃ host task,
    Run (seeded .unlimited {} [.plain "bot" "token"]) stopBehindDelete host ∧
      (∀ bot, .register bot ∉ stopBehindDelete) ∧
      host.task? 0 = some task ∧ task.operation = .delete ∧ task.bot = "bot" ∧
      task.state = .finished (.ok .done) ∧ (∀ task ∈ host.tasks, task.state.ended = true) ∧
      host.store.find? "bot" = none ∧ host.locks.number? "bot" ≠ none := by
  have played : ((seeded .unlimited {} [.plain "bot" "token"]).play stopBehindDelete).bind (fun host =>
      (host.task? 0).map fun task => (task.operation, task.bot, task.state,
        host.tasks.all fun task => task.state.ended, host.store.find? "bot",
          host.locks.number? "bot")) =
      some (.delete, "bot", .finished (.ok .done), true, none, some 0) := by rfl
  simp only [Option.bind_eq_some_iff, Option.map_eq_some_iff, Prod.mk.injEq, List.all_eq_true]
    at played
  obtain ⟨host, played, task, found, operation, own, done, ended, gone, lock⟩ := played
  refine ⟨host, task, run_iff.mpr played, fun bot member => ?_, found, operation, own, done, ended, gone,
    by simp [lock]⟩
  simp [stopBehindDelete] at member

end Host

end BotHost
