/-
What a host answers after it has been changed.

A host is changed in few ways: a task is added or goes on, a loop is added or changed, an instance is
put into the registry or taken out of it, a record of the store or a session of the transport is
written. For each of them this file says what is found afterwards under the number or the name that
was changed and under every other one, so that nothing that follows has to open a table.
-/

import BotHost.Proofs.Manager.Run
import Mathlib

namespace BotHost

namespace Host

variable (host : Host)

/-! ### Tasks -/

theorem task?_lt {number : TaskNumber} {task : Task} (found : host.task? number = some task) :
    number < host.tasks.length :=
  (List.getElem?_eq_some_iff.mp found).1

theorem mem_tasks {task : Task} :
    task ∈ host.tasks ↔ ∃ number, host.task? number = some task :=
  List.mem_iff_getElem?

/-- A new task gets the number after the last, and every other keeps its own. -/
theorem task?_addTask (operation : Operation) (bot : String) (number : TaskNumber) :
    (host.addTask operation bot).2.task? number =
      if number = host.tasks.length then some ⟨operation, bot, none, .created⟩
      else host.task? number := by
  simp only [task?, addTask, List.getElem?_append, List.getElem?_singleton]
  grind

@[simp]
theorem task?_addTask_self (operation : Operation) (bot : String) :
    (host.addTask operation bot).2.task? host.tasks.length =
      some ⟨operation, bot, none, .created⟩ := by
  rw [task?_addTask, if_pos rfl]

/-- Changing a task changes the task of its number only. -/
theorem task?_changeTask (changed : TaskNumber) (change : Task → Task) (number : TaskNumber) :
    (host.changeTask changed change).task? number =
      if number = changed then (host.task? number).map change else host.task? number := by
  simp only [task?, changeTask, List.getElem?_modify]
  grind

theorem task?_setTaskState (changed : TaskNumber) (state : TaskState) (number : TaskNumber) :
    (host.setTaskState changed state).task? number =
      if number = changed then (host.task? number).map fun task => { task with state }
      else host.task? number :=
  host.task?_changeTask changed _ number

theorem task?_waitFor (changed : TaskNumber) (wait : Wait) (number : TaskNumber) :
    (host.waitFor changed wait).task? number =
      if number = changed then (host.task? number).map fun task =>
        { task with state := .waiting wait }
      else host.task? number :=
  host.task?_setTaskState changed _ number

@[simp]
theorem task?_changeLoop (generation : Nat) (change : SessionLoop → SessionLoop)
    (number : TaskNumber) :
    (host.changeLoop generation change).task? number = host.task? number := rfl

@[simp]
theorem task?_unregister (bot : String) (number : TaskNumber) :
    (host.unregister bot).task? number = host.task? number := rfl

@[simp]
theorem task?_enroll (running : Instance) (number : TaskNumber) :
    (host.enroll running).task? number = host.task? number := rfl

/-- A task that asks for its lock changes the locks and, besides, nothing but itself. -/
theorem requestLock_eq (number : TaskNumber) (task : Task) :
    ∃ locks lock, host.requestLock number task =
      { host with locks }.changeTask number fun task =>
        { task with lock := some lock, state := .waiting .lock } :=
  ⟨_, _, rfl⟩

/-- A task that ends changes nothing but itself and its lock. -/
theorem finish_eq (number : TaskNumber) (task : Task) (result : Except ManagerFault Success) :
    host.finish number task result =
      { host.changeTask number fun task => { task with lock := none, state := .finished result } with
        locks := (host.finish number task result).locks } := by
  unfold finish releaseLock
  split <;> rfl

/-- A deletion that finishes changes the host in its own task and in the locks only. -/
theorem finishDeleted_eq (number : TaskNumber) (task : Task) :
    host.finishDeleted number task =
      { host.changeTask number fun task =>
          { task with lock := none, state := .finished (.ok .done) } with
        locks := (host.finishDeleted number task).locks } := by
  unfold finishDeleted releaseLock
  dsimp only
  split <;> split <;> rfl

/-- A task that finishes is left with its result and without its lock, and every other as it is.
-/
theorem task?_finish (ended : TaskNumber) (task : Task) (result : Except ManagerFault Success)
    (number : TaskNumber) :
    (host.finish ended task result).task? number =
      if number = ended then (host.task? number).map fun task =>
        { task with lock := none, state := .finished result }
      else host.task? number := by
  rw [finish_eq]
  exact host.task?_changeTask ended _ number

/-- What is found after a task has been added is this task, or was there before. -/
theorem task?_addTask_cases {host : Host} {operation : Operation} {bot : String}
    {number : TaskNumber} {task : Task}
    (there : (host.addTask operation bot).2.task? number = some task) :
    (number = host.tasks.length ∧ task = ⟨operation, bot, none, .created⟩) ∨
      host.task? number = some task := by
  rw [task?_addTask] at there
  split at there
  next last => exact .inl ⟨last, (Option.some.inj there).symm⟩
  next => exact .inr there

section

variable {host : Host} {number : TaskNumber} {task : Task} (found : host.task? number = some task)

include found

/-- A task that is added leaves every other one where it is. -/
theorem task?_addTask_of_some (operation : Operation) (bot : String) :
    (host.addTask operation bot).2.task? number = some task := by
  rw [task?_addTask, if_neg (Nat.ne_of_lt (host.task?_lt found)), found]

/-- What is found after a task has been changed is this task, changed, or was there before. -/
theorem task?_changeTask_cases {change : Task → Task} {other : TaskNumber} {record : Task}
    (there : (host.changeTask number change).task? other = some record) :
    (other = number ∧ record = change task) ∨
      (other ≠ number ∧ host.task? other = some record) := by
  rw [task?_changeTask] at there
  split at there
  next same =>
    rw [same, found] at there
    exact .inl ⟨same, (Option.some.inj there).symm⟩
  next different => exact .inr ⟨different, there⟩

theorem task?_changeTask_self (change : Task → Task) :
    (host.changeTask number change).task? number = some (change task) := by
  rw [task?_changeTask, if_pos rfl, found, Option.map_some]

theorem waitFor_found {wait : Wait} :
    (host.waitFor number wait).task? number = some { task with state := .waiting wait } :=
  task?_changeTask_self found _

theorem task?_finish_self (result : Except ManagerFault Success) :
    (host.finish number task result).task? number =
      some { task with lock := none, state := .finished result } := by
  rw [finish_eq]
  exact task?_changeTask_self found _

end

/-! ### Loops -/

/-- Generations count from the first one, and each finds its own loop. -/
theorem loop?_eq_some {generation : Nat} {loop : SessionLoop} :
    host.loop? generation = some loop ↔
      firstGeneration ≤ generation ∧ host.loops[generation - firstGeneration]? = some loop := by
  unfold loop?
  grind

theorem mem_loops {loop : SessionLoop} :
    loop ∈ host.loops ↔ ∃ generation, host.loop? generation = some loop := by
  constructor
  · intro member
    obtain ⟨place, there⟩ := List.mem_iff_getElem?.mp member
    refine ⟨firstGeneration + place, host.loop?_eq_some.mpr ⟨Nat.le_add_right .., ?_⟩⟩
    rw [Nat.add_sub_cancel_left]
    exact there
  · rintro ⟨generation, found⟩
    exact List.mem_of_getElem? (host.loop?_eq_some.mp found).2

/-- A loop that there is comes before the next. -/
theorem loop?_lt {generation : Nat} {loop : SessionLoop}
    (found : host.loop? generation = some loop) : generation < host.nextGeneration := by
  obtain ⟨positive, found⟩ := host.loop?_eq_some.mp found
  have bound := (List.getElem?_eq_some_iff.mp found).1
  unfold nextGeneration
  omega

/-- Changing a loop changes the loop of its generation only. -/
theorem loop?_changeLoop {changed : Nat} {loop : SessionLoop}
    (found : host.loop? changed = some loop) (change : SessionLoop → SessionLoop)
    (generation : Nat) :
    (host.changeLoop changed change).loop? generation =
      if generation = changed then some (change loop) else host.loop? generation := by
  obtain ⟨positive, found⟩ := host.loop?_eq_some.mp found
  simp only [loop?, changeLoop, List.getElem?_modify]
  grind

/-- Loops that are added come behind those there are. -/
theorem loop?_append (loop : SessionLoop) (generation : Nat) :
    { host with loops := host.loops ++ [loop] }.loop? generation =
      if generation = host.nextGeneration then some loop else host.loop? generation := by
  simp only [loop?, nextGeneration, List.getElem?_append, List.getElem?_singleton]
  grind [firstGeneration]

/-! ### The registry -/

theorem running?_bot {bot : String} {running : Instance}
    (found : host.running? bot = some running) : running.bot = bot := by
  simpa using List.find?_some found

/-- Taking a bot out of the registry takes out no other. -/
theorem running?_unregister (gone bot : String) :
    (host.unregister gone).running? bot = if bot = gone then none else host.running? bot := by
  unfold running? unregister
  rw [List.find?_filter]
  split
  next same =>
    subst same
    simp
  next other =>
    congr 1
    grind

theorem running?_enroll (running : Instance) (bot : String) :
    (host.enroll running).running? bot =
      if bot = running.bot then some running else host.running? bot := by
  have others := host.running?_unregister running.bot bot
  unfold running? at others ⊢
  unfold enroll
  rw [List.find?_cons]
  grind

/-- A bot runs exactly when the registry has an instance of it. -/
theorem isRunning_iff (bot : String) :
    host.isRunning bot = true ↔ ∃ running, host.running? bot = some running := by
  unfold isRunning
  exact Option.isSome_iff_exists

end Host

/-! ### The store -/

namespace BotStore

variable (store : BotStore)

/-- A change that keeps the name changes the record of that name only. -/
theorem find?_changeFirst (bots : List Bot) (changed : String) (change : Bot → Bot)
    (keeps : ∀ bot, (change bot).id = bot.id) (id : String) :
    (changeFirst changed change bots).find? (fun bot => bot.id == id) =
      if id = changed then (bots.find? fun bot => bot.id == id).map change
      else bots.find? fun bot => bot.id == id := by
  induction bots with
  | nil => simp [changeFirst]
  | cons bot rest inductionHypothesis =>
    unfold changeFirst
    split
    next same => grind
    next other =>
      rw [List.find?_cons, List.find?_cons, inductionHypothesis]
      grind

/-- Setting a status changes the record of its bot only, and of it the status only. -/
theorem find?_setStatus {next : BotStore} {changed : String} {status : BotStatus}
    (done : store.setStatus changed status = .ok next) (id : String) :
    next.find? id =
      if id = changed then (store.find? id).map fun bot => { bot with status }
      else store.find? id := by
  unfold setStatus at done
  split at done
  · cases done
    exact find?_changeFirst store.bots changed (fun bot => { bot with status }) (fun _ => rfl) id
  · cases done

theorem find?_update {next : BotStore} {changed : String} {patch : BotPatch} {updated : Bot}
    (done : store.update changed patch = .ok (updated, next)) (id : String) :
    next.find? id =
      if id = changed then (store.find? id).map (·.apply patch) else store.find? id := by
  unfold update at done
  split at done
  · cases done
  · cases done
    exact find?_changeFirst store.bots changed (·.apply patch) (fun _ => rfl) id

theorem find?_remove (gone id : String) :
    (store.remove gone).2.find? id = if id = gone then none else store.find? id := by
  unfold remove find?
  rw [List.find?_filter]
  split
  next same =>
    subst same
    simp
  next other =>
    congr 1
    grind

/-- An inserted bot is found by its name, and every other as before. -/
theorem find?_insert {next : BotStore} {bot : Bot} (done : store.insert bot = .ok next)
    (id : String) :
    next.find? id = if id = bot.id then some bot else store.find? id := by
  unfold insert contains at done
  split at done
  · cases done
  next missing =>
    cases done
    have absent : store.find? bot.id = none := by simpa using missing
    simp only [find?, List.find?_append, List.find?_singleton] at absent ⊢
    grind

/-- A store made from a list holds bots of the list only. -/
theorem mem_of_mem_ofList {bots : List Bot} {bot : Bot} (stored : bot ∈ (ofList bots).bots) :
    bot ∈ bots := by
  have all (add : BotStore → Bot → BotStore)
      (adds : ∀ store first, bot ∈ (add store first).bots → bot ∈ store.bots ∨ bot = first)
      (bots : List Bot) (store : BotStore) (stored : bot ∈ (bots.foldl add store).bots) :
      bot ∈ store.bots ∨ bot ∈ bots := by
    induction bots generalizing store with
    | nil => exact .inl stored
    | cons first rest inductionHypothesis =>
      rw [List.mem_cons]
      rcases inductionHypothesis _ stored with before | later
      · exact (adds store first before).imp_right .inl
      · exact .inr (.inr later)
  unfold ofList at stored
  refine (all _ ?_ bots empty stored).resolve_left List.not_mem_nil
  intro store first before
  split at before
  next added =>
    unfold insert at added
    split at added <;> cases added
    exact (List.mem_append.mp before).imp_right List.mem_singleton.mp
  · exact .inl before

end BotStore

end BotHost
