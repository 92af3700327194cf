/-
What steps write to the store.

Only the calls of tasks write to the store, and each writes to the record of the task's bot. All but
two of them write a status and nothing else: an update changes the record, and a removal drops it.
-/

import BotHost.Proofs.Manager.Steps

namespace BotHost

/-- A record but for its status. -/
def Bot.withoutStatus (bot : Bot) : Bot := { bot with status := .stopped }

namespace BotStore

/-- The stored records in their order, but for their statuses. -/
def records (store : BotStore) : List Bot := store.bots.map Bot.withoutStatus

theorem records_setStatus (store : BotStore) {next : BotStore} {id : String} {status : BotStatus}
    (done : store.setStatus id status = .ok next) : next.records = store.records := by
  have all (bots : List Bot) :
      (changeFirst id (fun bot => { bot with status := status }) bots).map Bot.withoutStatus =
        bots.map Bot.withoutStatus := by
    induction bots with
    | nil => rfl
    | cons bot rest inductionHypothesis =>
      unfold changeFirst
      split
      · rfl
      · rw [List.map_cons, inductionHypothesis, List.map_cons]
  unfold setStatus at done
  split at done
  · cases done
    exact all store.bots
  · cases done

/-- What is stored for a bot, but for its status, is among the records. -/
theorem find?_records (store : BotStore) (id : String) :
    store.records.find? (fun bot => bot.id == id) = (store.find? id).map Bot.withoutStatus := by
  unfold records find?
  rw [List.find?_map]
  rfl

end BotStore

/-- The status that a task writes when it does not wait any more. -/
def Wait.records? : Wait → Option BotStatus
  | .recordStopped _ => some .stopped
  | .recordReaped | .recordFailed _ => some .error
  | .recordRunning _ => some .running
  | _ => none

namespace Host

variable (host : Host)

/-! ### Calls to the store -/

/-- A status is written to a record, or nothing is. -/
theorem storeSetStatus_cases (bot : String) (status : BotStatus) :
    (host.storeSetStatus bot status).2.store = host.store ∨
      host.store.setStatus bot status = .ok (host.storeSetStatus bot status).2.store := by
  unfold storeSetStatus
  split
  · exact .inl rfl
  · split
    · exact .inl rfl
    · split
      next store done => exact .inr done
      · exact .inl rfl

theorem records_storeSetStatus (bot : String) (status : BotStatus) :
    (host.storeSetStatus bot status).2.store.records = host.store.records := by
  rcases host.storeSetStatus_cases bot status with same | done
  · rw [same]
  · exact host.store.records_setStatus done

theorem find?_storeSetStatus (bot : String) (status : BotStatus) (other : String) :
    (host.storeSetStatus bot status).2.store.find? other = host.store.find? other ∨ other = bot ∧
      (host.storeSetStatus bot status).2.store.find? other =
        (host.store.find? other).map fun stored => { stored with status } := by
  rcases host.storeSetStatus_cases bot status with same | done
  · exact .inl (by rw [same])
  · have found := host.store.find?_setStatus done other
    by_cases own : other = bot
    · exact .inr ⟨own, by rw [found, if_pos own]⟩
    · exact .inl (by rw [found, if_neg own])

theorem find?_storeSetStatus_other {bot other : String} (different : other ≠ bot)
    (status : BotStatus) :
    (host.storeSetStatus bot status).2.store.find? other = host.store.find? other :=
  (host.find?_storeSetStatus bot status other).resolve_right fun own => different own.1

theorem find?_storeUpdate_other {bot other : String} (different : other ≠ bot) (patch : BotPatch) :
    (host.storeUpdate bot patch).2.store.find? other = host.store.find? other := by
  unfold storeUpdate
  split
  · rfl
  · split
    next updated store done => exact (host.store.find?_update done other).trans (if_neg different)
    · rfl

theorem find?_storeRemove_other {bot other : String} (different : other ≠ bot) :
    (host.storeRemove bot).2.store.find? other = host.store.find? other := by
  unfold storeRemove
  split
  · rfl
  · exact (host.store.find?_remove bot other).trans (if_neg different)

/-- Storing a new bot leaves every record that there is. -/
theorem find?_register {bot : Bot} {id : String} {stored : Bot}
    (there : host.store.find? id = some stored) :
    (host.register bot).2.store.find? id = some stored := by
  unfold register storeInsert
  dsimp only
  split
  · exact there
  · split
    next store done =>
      refine (host.store.find?_insert done id).trans ?_
      split
      next same =>
        unfold BotStore.insert at done
        split at done
        · cases done
        next missing =>
          rw [BotStore.contains, ← same, there] at missing
          exact absurd rfl missing
      · exact there
    · exact there

/-! ### Steps -/

variable {host} {next : Host}

/-- What an answer has written to the store: nothing, a status, an update or a removal, and to the
record of the task's bot alone. -/
theorem answer?_store {number : TaskNumber} {task : Task} {wait : Wait} {answer : Answer}
    {answered : Host} (taken : host.answer? number task wait = some (answer, answered)) :
    answered.store = host.store ∨
      (∃ status, wait.records? = some status ∧
        answered.store = (host.storeSetStatus task.bot status).2.store) ∨
      (∃ patch, wait = .update patch ∧
        answered.store = (host.storeUpdate task.bot patch).2.store) ∨
      wait = .remove ∧ answered.store = (host.storeRemove task.bot).2.store := by
  cases answers_of_answer? taken with
  | recordedStopped | recordedReaped | recordedFailed | recordedRunning =>
    exact .inr (.inl ⟨_, rfl, rfl⟩)
  | updated patch => exact .inr (.inr (.inl ⟨patch, rfl, rfl⟩))
  | removed => exact .inr (.inr (.inr ⟨rfl, rfl⟩))
  | _ => exact .inl rfl

/-- A record of another bot is as it was. -/
theorem answer?_find?_other {number : TaskNumber} {task : Task} {wait : Wait} {answer : Answer}
    {answered : Host} (taken : host.answer? number task wait = some (answer, answered))
    {other : String} (different : other ≠ task.bot) :
    answered.store.find? other = host.store.find? other := by
  rcases answer?_store taken with same | ⟨status, _, same⟩ | ⟨patch, _, same⟩ | ⟨_, same⟩ <;> rw [same]
  · exact host.find?_storeSetStatus_other different status
  · exact host.find?_storeUpdate_other different patch
  · exact host.find?_storeRemove_other different

/-- Only a task that takes an answer writes to the store. -/
theorem advance_store {process : Process} (stepped : host.advance process = some next) :
    next.store = host.store ∨ ∃ number task wait answer answered, process = .task number ∧
      host.task? number = some task ∧ task.state = .waiting wait ∧
        host.answer? number task wait = some (answer, answered) ∧ next.store = answered.store := by
  cases process with
  | loop generation =>
    obtain ⟨loop, found, _, waiting, state, recorded, sendsStarted, ⟨rfl, _⟩ | ⟨rfl, _⟩⟩ :=
      advance_loop_cases stepped
    · exact .inl rfl
    · exact .inl rfl
  | task number =>
    obtain ⟨task, found, ⟨_, rfl⟩ | ⟨wait, answer, answered, waiting, taken, rfl⟩ |
      ⟨answer, _, rfl⟩⟩ := advance_task_cases stepped
    · exact .inl rfl
    · exact .inr ⟨number, task, wait, answer, answered, rfl, found, waiting, taken, rfl⟩
    · exact .inl (host.resume_frame number task answer).1

end Host

end BotHost
