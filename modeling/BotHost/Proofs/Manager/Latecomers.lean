/-
Tasks that are begun one by one and together.

A schedule lets every task of a shutdown go as far as it can before it begins the next. But a task that has
not begun has no lock, and no other task looks at it. So the steps that a task takes are the same whether
those that come after it are there or not, and a schedule that begins them one by one makes a run in which
all of them have been there from the start.
-/

import BotHost.Proofs.Manager.Mirroring
import BotHost.Proofs.Manager.Scheduling

namespace BotHost

namespace Host

variable {host next : Host} {number : TaskNumber} {task : Task} {late : List Task} {moves : List Move}

/-! ### Beside tasks that come late -/

/-- The host with further tasks. -/
def beside (host : Host) (late : List Task) : Host := host.withTasks (host.tasks ++ late) host.locks

theorem beside_nil (host : Host) : host.beside [] = host := by
  rw [beside, List.append_nil]
  rfl

theorem beside_beside (host : Host) (late later : List Task) :
    (host.beside late).beside later = host.beside (late ++ later) := by
  simp only [beside, withTasks, List.append_assoc]

theorem task?_beside (found : host.task? number = some task) :
    (host.beside late).task? number = some task := by
  obtain ⟨bound, _⟩ := List.getElem?_eq_some_iff.mp found
  exact (List.getElem?_append_left bound).trans found

theorem changeTask_beside (found : host.task? number = some task) (change : Task → Task) :
    (host.beside late).changeTask number change = (host.changeTask number change).beside late := by
  obtain ⟨bound, _⟩ := List.getElem?_eq_some_iff.mp found
  have modified : (host.tasks ++ late).modify number change = host.tasks.modify number change ++ late := by
    refine List.ext_getElem? fun index => ?_
    rw [List.getElem?_append, List.length_modify]
    grind
  simp only [beside, withTasks, changeTask, modified]

theorem tasks_releaseLock (host : Host) (task : Task) : (host.releaseLock task).tasks = host.tasks := by
  unfold releaseLock
  split <;> rfl

theorem releaseLock_beside (host : Host) (task : Task) (late : List Task) :
    (host.beside late).releaseLock task = (host.releaseLock task).beside late := by
  unfold releaseLock
  split <;> rfl

/-- Tasks without a lock do not refer to one. -/
theorem lockReferences_beside (unlocked : ∀ task ∈ late, task.lock = none) (host : Host) (lock : Nat) :
    (host.beside late).lockReferences lock = host.lockReferences lock := by
  have none : late.filter (fun task => task.lock == some lock) = [] :=
    List.filter_eq_nil_iff.mpr fun task member => by simp [unlocked task member]
  simp only [lockReferences, beside, withTasks, List.filter_append, none, List.append_nil]

theorem finish_beside (found : host.task? number = some task) (record : Task)
    (result : Except ManagerFault Success) :
    (host.beside late).finish number record result = (host.finish number record result).beside late := by
  unfold finish
  rw [releaseLock_beside]
  exact @changeTask_beside (host.releaseLock record) _ task _ (by rwa [task?, tasks_releaseLock]) _

theorem finishDeleted_beside (unlocked : ∀ task ∈ late, task.lock = none)
    (found : host.task? number = some task) (record : Task) :
    (host.beside late).finishDeleted number record = (host.finishDeleted number record).beside late := by
  have released : (host.releaseLock record).task? number = some task := by
    rwa [task?, tasks_releaseLock]
  unfold finishDeleted
  rw [releaseLock_beside]
  simp only [lockReferences_beside unlocked]
  split
  · exact @changeTask_beside { host.releaseLock record with
      locks := (host.releaseLock record).locks.forget record.bot } _ _ _ released _
  · exact changeTask_beside released _

/-- What a task does is the same beside tasks that have no lock. -/
theorem advance_beside (unlocked : ∀ task ∈ late, task.lock = none)
    (made : host.advance (.task number) = some next) :
    (host.beside late).advance (.task number) = some (next.beside late) := by
  obtain ⟨task, found, _⟩ := advance_task_cases made
  have found' : (host.beside late).task? number = some task := task?_beside found
  obtain ⟨created, rfl⟩ | ⟨wait, answer, answered, waiting, taken, rfl⟩ | ⟨answer, answered, rfl⟩ :=
    advance_found_cases found made
  · refine (advance_of_created found' created).trans (congrArg some ?_)
    exact @changeTask_beside { host with
      locks := (host.locks.obtain task.bot).2.request (host.locks.obtain task.bot).1 number } _ _ _ found _
  · have taken' : (host.beside late).answer? number task wait = some (answer, answered.beside late) := by
      by_cases locks : wait = .lock
      · subst locks
        cases answers_of_answer? taken with
        | locked refers holds =>
          have locked : Answers (host.beside late) number task .lock .locked (host.beside late) :=
            .locked refers holds
          exact locked.answer?
      · rw [beside, answer?_withTasks host _ _ locks rfl, taken]
        obtain ⟨store, transport, rfl⟩ := answer?_eq taken
        rfl
    refine (advance_of_answers found' waiting (answers_of_answer? taken')).trans (congrArg some ?_)
    obtain ⟨store, transport, rfl⟩ := answer?_eq taken
    exact @changeTask_beside { host with store, transport } _ _ _ found _
  · refine (advance_of_answered found' answered).trans (congrArg some ?_)
    have alike := resume_alike host number number (host.tasks ++ late) host.locks
      (show task.operation = task.operation from rfl) rfl answer
    rw [← beside] at alike
    generalize host.resume number task answer = next, (host.beside late).resume number task answer = next'
      at alike
    cases alike with
    | waits base wait _ untouched unlocked' =>
      rw [← untouched, ← unlocked']
      exact @changeTask_beside base _ task _ (by rwa [task?, untouched]) _
    | ends base result untouched unlocked' =>
      rw [← untouched, ← unlocked']
      exact @finish_beside base _ task _ (by rwa [task?, untouched]) _ _
    | deletes => exact finishDeleted_beside unlocked found task

/-- What several tasks do is the same, too. -/
theorem Run.beside (unlocked : ∀ task ∈ late, task.lock = none) (run : Run host moves next)
    (steps : ∀ move ∈ moves, ∃ number, move = .step (.task number)) :
    Run (host.beside late) moves (next.beside late) := by
  induction run with
  | rest => exact .rest _
  | move made _ inductionHypothesis =>
    obtain ⟨⟨number, rfl⟩, rest⟩ := List.forall_mem_cons.mp steps
    exact .move (advance_beside unlocked made) (inductionHypothesis rest)

/-- No step of a task adds another. -/
theorem tasks_length_of_advance (made : host.advance (.task number) = some next) :
    next.tasks.length = host.tasks.length := by
  obtain ⟨task, found, _⟩ := advance_task_cases made
  obtain ⟨_, rfl⟩ | ⟨wait, answer, answered, _, taken, rfl⟩ | ⟨answer, _, rfl⟩ :=
    advance_found_cases found made
  · exact List.length_modify ..
  · obtain ⟨store, transport, rfl⟩ := answer?_eq taken
    exact List.length_modify ..
  · have alike := resume_alike host number number host.tasks host.locks
      (show task.operation = task.operation from rfl) rfl answer
    generalize host.resume number task answer = next,
      (host.withTasks host.tasks host.locks).resume number task answer = next' at alike
    cases alike with
    | waits base _ _ untouched _ => exact (List.length_modify ..).trans (congrArg _ untouched)
    | ends base _ untouched _ =>
      refine (List.length_modify ..).trans ?_
      rw [tasks_releaseLock, untouched]
    | deletes =>
      refine (List.length_modify ..).trans ?_
      split <;> exact congrArg _ (tasks_releaseLock host task)

theorem Run.tasks_length (run : Run host moves next)
    (steps : ∀ move ∈ moves, ∃ number, move = .step (.task number)) :
    next.tasks.length = host.tasks.length := by
  induction run with
  | rest => rfl
  | move made _ inductionHypothesis =>
    obtain ⟨⟨number, rfl⟩, rest⟩ := List.forall_mem_cons.mp steps
    exact (inductionHypothesis rest).trans (tasks_length_of_advance made)

end Host

namespace Schedule

/-! ### Stops that are begun one by one -/

/-- What a process is let do is steps of it. -/
theorem run_runProcess (process : Process) (fuel : Nat) (schedule : Schedule) : ∃ count,
    Host.Run schedule.host (.replicate count (.step process)) (runProcess process fuel schedule).host := by
  induction fuel generalizing schedule with
  | zero => exact ⟨0, .rest _⟩
  | succ fuel inductionHypothesis =>
    unfold runProcess
    split
    next host stepped =>
      obtain ⟨count, run⟩ := inductionHypothesis (schedule.changed host)
      exact ⟨count + 1, .move stepped run⟩
    next => exact ⟨0, .rest _⟩

/-- Begins operations of one kind for several bots, one after another, besides those that have been begun. -/
def beginTasks (operation : Operation) (bots : List String) (begun : List TaskNumber × Schedule) :
    List TaskNumber × Schedule :=
  bots.foldl (fun (numbers, schedule) bot =>
    let (number, schedule) := schedule.beginTask operation bot
    (numbers ++ [number], schedule)) begun

/-- A schedule that has begun tasks one after another could have begun all of them before it let any go on. -/
theorem run_beginTasks (operation : Operation) (bots : List String) (numbers : List TaskNumber)
    (schedule : Schedule) : ∃ moves,
      (∀ move ∈ moves, ∃ number, move = .step (.task number)) ∧
      Host.Run (schedule.host.beside (bots.map fun bot => ⟨operation, bot, none, .created⟩)) moves
        (beginTasks operation bots (numbers, schedule)).2.host ∧
      (beginTasks operation bots (numbers, schedule)).1 =
        numbers ++ List.range' schedule.host.tasks.length bots.length := by
  induction bots generalizing numbers schedule with
  | nil =>
    refine ⟨[], nofun, ?_, (List.append_nil _).symm⟩
    rw [List.map_nil, Host.beside_nil]
    exact .rest _
  | cons bot bots inductionHypothesis =>
    obtain ⟨count, run⟩ := run_runProcess (.task schedule.host.tasks.length)
      ((schedule.call (·.addTask operation bot)).2.host.effort + 1)
      (schedule.call (·.addTask operation bot)).2
    have begun : (schedule.call (·.addTask operation bot)).2.host =
        schedule.host.beside [⟨operation, bot, none, .created⟩] := rfl
    rw [begun] at run
    have own : ∀ move ∈ List.replicate count (Move.step (.task schedule.host.tasks.length)),
        ∃ number, move = .step (.task number) :=
      fun _ member => ⟨_, List.eq_of_mem_replicate member⟩
    obtain ⟨moves, steps, rest, counted⟩ := inductionHypothesis
      (numbers ++ [schedule.host.tasks.length]) (schedule.beginTask operation bot).2
    refine ⟨_, List.forall_mem_append.mpr ⟨own, steps⟩, Host.Run.append ?_ rest, counted.trans ?_⟩
    · have later := @Host.Run.beside _ _ (bots.map fun bot => ⟨operation, bot, none, .created⟩) _
        (by simp) run own
      rwa [Host.beside_beside] at later
    · have one : (schedule.beginTask operation bot).2.host.tasks.length = schedule.host.tasks.length + 1 := by
        refine (run.tasks_length own).trans ?_
        simp [Host.beside, Host.withTasks]
      rw [one, List.append_assoc, List.length_cons, List.range'_succ]
      rfl

end Schedule

end BotHost
