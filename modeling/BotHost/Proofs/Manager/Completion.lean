/-
Coming to an end.

However calls are interleaved, nothing keeps them from coming to their ends. A task takes no more
than a bounded number of steps, whatever the answers are that it gets. And as long as a task has not
ended, it is a matter of steps and of time that some task gets closer to its end: the head of the
queue waits for no other task, but at most for times to come or for a loop that has been aborted.
-/

import BotHost.Proofs.Manager.Rest
import Mathlib.Algebra.BigOperators.Group.List.Basic
import Mathlib.Algebra.Order.BigOperators.Group.List
import Mathlib.Algebra.Order.Group.Nat

namespace BotHost

/-! ### What is left to do -/

/-- How many steps are left at most when the session of an instance has been closed. -/
@[simp]
def Ending.stepsLeft : Ending → Nat
  | .stopping => 15
  | .reaping => 3
  | .startFailed _ => 1

@[simp]
def Wait.stepsLeft : Wait → Nat
  | .lock => 22
  | .join _ ending _ => ending.stepsLeft + 5
  | .joinAborted _ ending => ending.stepsLeft + 3
  | .close _ ending _ _ _ => ending.stepsLeft + 1
  | .readToStop | .recordStopped _ => 14
  | .readToStart _ => 12
  | .connect .. => 10
  | .recordRunning _ => 8
  | .recordReaped | .remove | .recordFailed _ | .update _ => 2

@[simp]
def Answer.stepsLeft : Answer → Nat
  | .locked => 21
  | .joined _ ending _ => ending.stepsLeft + 4
  | .joinedAborted _ ending => ending.stepsLeft + 2
  | .closed _ ending _ => ending.stepsLeft
  | .readToStop _ | .recordedStopped _ => 13
  | .readToStart _ _ => 11
  | .connected _ _ => 9
  | .recordedRunning _ _ => 7
  | .recordedReaped | .removed _ | .recordedFailed _ | .updated _ => 1

/-- How many steps a task has left at most. -/
@[simp]
def TaskState.stepsLeft : TaskState → Nat
  | .created => 23
  | .waiting wait => wait.stepsLeft
  | .answered answer => answer.stepsLeft
  | .finished _ => 0

/-- Whether a move only carries on what has begun. -/
def Move.carriesOn : Move → Bool
  | .step _ | .pass _ => true
  | _ => false

theorem sum_set_lt {weights : List Nat} {place before after : Nat}
    (here : weights[place]? = some before) (less : after < before) :
    (weights.set place after).sum < weights.sum := by
  obtain ⟨bound, rfl⟩ := List.getElem?_eq_some_iff.mp here
  have whole := List.sum_take_add_sum_drop weights place
  rw [List.drop_eq_getElem_cons bound, List.sum_cons] at whole
  rw [List.sum_set, if_pos bound]
  omega

namespace Host

variable {host next : Host} {number : TaskNumber} {task : Task}

theorem answer?_stepsLeft {wait : Wait} {answer : Answer} {answered : Host}
    (taken : host.answer? number task wait = some (answer, answered)) :
    answer.stepsLeft + 1 = wait.stepsLeft := by
  cases answers_of_answer? taken <;> rfl

/-- A task that goes on has fewer steps left. -/
theorem resume_stepsLeft (found : host.task? number = some task) (answer : Answer) :
    ∃ lock state, (host.resume number task answer).task? number = some { task with lock, state } ∧
      state.stepsLeft < answer.stepsLeft := by
  have waits {other : Host} {wait : Wait} {bound : Nat} (same : other.task? number = some task)
      (less : wait.stepsLeft < bound) : ∃ lock state,
        (other.waitFor number wait).task? number = some { task with lock, state } ∧
          state.stepsLeft < bound :=
    ⟨task.lock, .waiting wait, waitFor_found same, less⟩
  have ends {other : Host} {bound : Nat} (same : other.task? number = some task)
      (result : Except ManagerFault Success) (positive : 0 < bound) : ∃ lock state,
      (other.finish number task result).task? number = some { task with lock, state } ∧
        state.stepsLeft < bound :=
    ⟨none, .finished result, task?_finish_self same result, positive⟩
  have stops (result : Except ManagerFault Unit) : ∃ lock state,
      (host.afterStop number task result).task? number = some { task with lock, state } ∧
        state.stepsLeft < 13 := by
    unfold afterStop
    split
    · exact waits found (by simp)
    · exact waits found (by simp)
    · exact waits found (by simp)
    · exact waits found (by simp)
    · exact ends found _ (by simp)
    · exact ends found _ (by simp)
  cases answer with
  | locked =>
    simp only [resume, Host.begin]
    split
    · exact waits found (by simp)
    iterate 3
      split
      · exact waits found (by simp)
      · exact waits found (by simp)
    · split
      · exact ends found _ (by simp)
      · exact waits found (by simp)
    · split
      · split
        · exact waits found (by simp)
        · exact ends found _ (by simp)
      · exact ends found _ (by simp)
  | readToStop result => rcases result with fault | _ | bot <;> exact stops _
  | recordedStopped result => exact stops result
  | joined running ending finished => cases finished <;> exact waits found (by simp)
  | joinedAborted running ending => exact waits found (by simp)
  | closed running ending forced =>
    cases ending with
    | stopping => exact waits found (by simp)
    | startFailed fault => exact ends found _ (by simp)
    | reaping => exact waits found (by simp)
  | recordedReaped => exact ends found _ (by simp)
  | recordedFailed failure => exact ends found _ (by simp)
  | removed present =>
    rcases present with fault | _ | _
    · exact ends found _ (by simp)
    · exact ends found _ (by simp)
    · refine ⟨none, .finished (.ok .done), ?_, by simp⟩
      show (host.finishDeleted number task).task? number = _
      rw [finishDeleted_eq]
      exact task?_changeTask_self found _
  | readToStart token result =>
    simp only [resume, Host.connect]
    split
    · exact ends found _ (by simp)
    · exact ends found _ (by simp)
    · split
      · exact ends found _ (by simp)
      · exact waits found (by simp)
  | connected handlers session =>
    cases session with
    | error failure => exact waits found (by simp)
    | ok session => exact waits found (by simp)
  | recordedRunning running result =>
    cases result with
    | error fault => exact waits found (by simp)
    | ok done => exact ends ((host.task?_enroll running number).trans found) _ (by simp)
  | updated result => cases result <;> exact ends found _ (by simp)

/-- With each step a task has fewer steps left. -/
theorem advance_stepsLeft (found : host.task? number = some task)
    (stepped : host.advance (.task number) = some next) : ∃ lock state,
      next.task? number = some { task with lock, state } ∧
        state.stepsLeft < task.state.stepsLeft := by
  obtain ⟨created, rfl⟩ | ⟨wait, answer, answered, waiting, taken, rfl⟩ |
    ⟨answer, answered, rfl⟩ := advance_found_cases found stepped
  · refine ⟨_, _, task?_changeTask_self found _, ?_⟩
    simp [created]
  · have less := answer?_stepsLeft taken
    obtain ⟨store, transport, rfl⟩ := answer?_eq taken
    refine ⟨_, _, task?_changeTask_self found _, ?_⟩
    rw [waiting]
    exact Nat.lt_of_succ_le (Nat.le_of_eq less)
  · rw [answered]
    exact resume_stepsLeft found answer

/-! ### Bounds -/

/-- How many steps all tasks have left at most. -/
def stepsLeft (host : Host) : Nat := (host.tasks.map fun task => task.state.stepsLeft).sum

theorem stepsLeft_lt (stepped : host.advance (.task number) = some next) :
    next.stepsLeft < host.stepsLeft := by
  obtain ⟨task, found, _⟩ := advance_task_cases stepped
  obtain ⟨lock, state, there, less⟩ := advance_stepsLeft found stepped
  have same : next.tasks = host.tasks.set number { task with lock, state } := by
    refine List.ext_getElem? fun other => ?_
    by_cases own : other = number
    · subst own
      rw [List.getElem?_set_self (host.task?_lt found)]
      exact there
    · rw [List.getElem?_set_ne (Ne.symm own)]
      exact advance_task_other stepped own
  rw [stepsLeft, same, List.map_set]
  exact sum_set_lt (by rw [List.getElem?_map]; exact congrArg _ found) less

/-! ### The ends of all tasks -/

/-- As long as a task has not ended, steps and time bring some task closer to its end. A task that waits for an
aborted loop goes on when that has taken its last step. -/
theorem Reachable.closer (reachable : host.Reachable) (found : host.task? number = some task)
    (unended : task.state.ended = false) : ∃ moves next, Run host moves next ∧
      (∀ move ∈ moves, move.carriesOn = true) ∧ next.stepsLeft < host.stepsLeft := by
  obtain ⟨other, record, found', goesOn | inside⟩ := reachable.orderly.ahead found unended
  · obtain ⟨next, stepped⟩ := Option.isSome_iff_exists.mp goesOn
    exact ⟨[.step (.task other)], next, .move stepped (.rest _), by simp [Move.carriesOn],
      stepsLeft_lt stepped⟩
  let later : Host := { host with now := host.now + (Task.times record).sum }
  have passed : host.after? (.pass (Task.times record).sum) = some later := rfl
  have reachable' := reachable.run (.move passed (.rest _))
  have come : ∀ time ∈ Task.times record, time ≤ later.now := fun time waits =>
    Nat.le_trans (List.le_sum_of_mem waits) (Nat.le_add_left _ _)
  rcases reachable'.custody.unhindered (show later.task? other = some record from found') inside come
    with goesOn | ⟨running, ending, waiting, finishes⟩
  · obtain ⟨next, stepped⟩ := Option.isSome_iff_exists.mp goesOn
    exact ⟨[.pass _, .step (.task other)], next, .move passed (.move stepped (.rest _)),
      by simp [Move.carriesOn], show _ < later.stepsLeft from stepsLeft_lt stepped⟩
  · let joined := later.setLoopState running.generation .finished
    have finished : joined.loopFinished running.generation = true := by
      cases there : later.loop? running.generation with
      | none =>
        rw [advance, there] at finishes
        cases finishes
      | some loop =>
        rw [loopFinished, show joined.loop? _ = _ from loop?_changeLoop later there _ _, if_pos rfl]
        rfl
    have stepped : joined.advance (.task other) =
        some (joined.setTaskState other (.answered (.joinedAborted running ending))) :=
      advance_of_answers (show joined.task? other = some record from found') waiting
        (.joinedAborted running ending finished)
    exact ⟨[.pass _, .step (.loop running.generation), .step (.task other)], _,
      .move passed (.move finishes (.move stepped (.rest _))), by simp [Move.carriesOn],
      show _ < joined.stepsLeft from stepsLeft_lt stepped⟩

/-- Wherever a run has led, steps and time lead to the ends of all tasks. -/
theorem Reachable.completes (reachable : host.Reachable) : ∃ moves last, Run host moves last ∧
    (∀ move ∈ moves, move.carriesOn = true) ∧ ∀ task ∈ last.tasks, task.state.ended = true := by
  induction left : host.stepsLeft using Nat.strong_induction_on generalizing host with
  | _ left inductionHypothesis =>
    by_cases all : ∀ task ∈ host.tasks, task.state.ended = true
    · exact ⟨[], host, .rest _, by simp, all⟩
    obtain ⟨task, member, unended⟩ : ∃ task ∈ host.tasks, task.state.ended = false := by
      simpa using all
    obtain ⟨number, found⟩ := List.mem_iff_getElem?.mp member
    obtain ⟨moves, next, run, carriesOn, less⟩ := reachable.closer found unended
    obtain ⟨others, last, rest, carriesOn', ended⟩ :=
      inductionHypothesis next.stepsLeft (left ▸ less) (reachable.run run) rfl
    refine ⟨moves ++ others, last, run.append rest, fun move member => ?_, ended⟩
    exact (List.mem_append.mp member).elim (carriesOn move) (carriesOn' move)

end Host

end BotHost
