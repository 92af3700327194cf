/-
What a task goes on to.

Between an answer and what comes next, a task does at most one thing that others can see: it takes the
instance of its bot out of the registry, it gives up the instance that it has launched, it has a loop
aborted, it launches a loop, or it registers an instance. All else is which wait follows which answer,
and this is a table.
-/

import BotHost.Proofs.Manager.Steps

namespace BotHost

namespace Host

/-- The answers after which an operation waits for something else, with nothing done in between. -/
inductive LeadsTo (host : Host) (operation : Operation) : Answer → Wait → Prop
  | starts (own : operation = .start) : LeadsTo host operation .locked (.readToStart none)
  | stops (own : operation.isCall = true) : LeadsTo host operation .locked .readToStop
  | updates {patch : BotPatch} (own : operation = .update patch) :
      LeadsTo host operation .locked (.update patch)
  | restarts {answer : Answer} {token : Option String} (own : operation = .restart token)
      (stopped : (∃ found, answer = .readToStop found) ∨ ∃ result, answer = .recordedStopped result) :
      LeadsTo host operation answer (.readToStart token)
  | removes {answer : Answer} (own : operation = .delete)
      (stopped : (∃ found, answer = .readToStop found) ∨ ∃ result, answer = .recordedStopped result) :
      LeadsTo host operation answer .remove
  | closes (running : Instance) (ending : Ending) (due deadline : Nat) :
      LeadsTo host operation (.joined running ending true) (.close running ending false due deadline)
  | forces (running : Instance) (ending : Ending) (due deadline : Nat) :
      LeadsTo host operation (.joinedAborted running ending) (.close running ending true due deadline)
  | stopped (running : Instance) (forced : Bool) (result : Except ManagerFault Unit) :
      LeadsTo host operation (.closed running .stopping forced) (.recordStopped result)
  | reaped (running : Instance) (forced : Bool) :
      LeadsTo host operation (.closed running .reaping forced) .recordReaped
  | connects (given : Option String) (bot : Bot) (token : String) (due deadline : Nat) :
      LeadsTo host operation (.readToStart given (.ok (some bot)))
        (.connect (host.compilation bot.blocks).handlers token due deadline)
  | fails (handlers : List Handler) (failure : StartFailure) :
      LeadsTo host operation (.connected handlers (.error failure)) (.recordFailed failure)

/-- What becomes of the host when a task goes on from an answer. A task that reaps takes out the
instance of its generation alone. -/
inductive Continues (host : Host) (number : TaskNumber) (task : Task) : Answer → Host → Prop
  | waits {answer : Answer} {wait : Wait} (leads : host.LeadsTo task.operation answer wait) :
      Continues host number task answer (host.waitFor number wait)
  | takes (running : Instance) (ending : Ending) (registered : host.running? task.bot = some running)
      (own : ∀ generation, task.operation = .reap generation → running.generation = generation) :
      Continues host number task .locked
        ((host.unregister task.bot).tearDown number running ending)
  | withdraws (running : Instance) (fault : StoreFault) :
      Continues host number task (.recordedRunning running (.error fault))
        (host.tearDown number running (.startFailed (.ofStore fault)))
  | aborts (running : Instance) (ending : Ending) :
      Continues host number task (.joined running ending false)
        ((host.changeLoop running.generation fun loop => { loop with aborted := true }).waitFor number
          (.joinAborted running ending))
  | launches (handlers : List Handler) (session : Nat) :
      Continues host number task (.connected handlers (.ok session))
        (host.launch number task handlers session)
  | enrolls (running : Instance) :
      Continues host number task (.recordedRunning running (.ok ()))
        ((host.enroll running).finish number task (.ok .done))
  | ends (answer : Answer) (result : Except ManagerFault Success) :
      Continues host number task answer (host.finish number task result)
  | deletes : Continues host number task (.removed (.ok true)) (host.finishDeleted number task)

namespace Continues

variable (host : Host) (number : TaskNumber) (task : Task)

theorem afterStop {answer : Answer}
    (stopped : (∃ found, answer = .readToStop found) ∨ ∃ result, answer = .recordedStopped result)
    (result : Except ManagerFault Unit) :
    Continues host number task answer (host.afterStop number task result) := by
  unfold Host.afterStop
  split
  next own => exact .waits (.restarts own stopped)
  next own => exact .waits (.restarts own stopped)
  next own => exact .waits (.removes own stopped)
  next own => exact .waits (.removes own stopped)
  · exact .ends answer _
  · exact .ends answer _

theorem begin : Continues host number task .locked (host.begin number task) := by
  unfold Host.begin
  split
  next own => exact .waits (.starts own)
  iterate 3
    next own =>
      split
      next running registered =>
        refine .takes running .stopping registered fun generation reaps => ?_
        rw [own] at reaps
        cases reaps
      · exact .waits (.stops (by rw [own]; rfl))
  next own =>
    split
    · exact .ends .locked _
    · exact .waits (.updates own)
  next own =>
    split
    next running registered =>
      split
      next same =>
        refine .takes running .reaping registered fun generation reaps => ?_
        rw [own] at reaps
        cases reaps
        exact same
      · exact .ends .locked _
    · exact .ends .locked _

theorem connect (token : Option String) (read : Except StoreFault (Option Bot)) :
    Continues host number task (.readToStart token read) (host.connect number task token read) := by
  unfold Host.connect
  split
  · exact .ends _ _
  · exact .ends _ _
  · split
    · exact .ends _ _
    · exact .waits (.connects ..)

end Continues

theorem resume_continues (host : Host) (number : TaskNumber) (task : Task) (answer : Answer) :
    Continues host number task answer (host.resume number task answer) := by
  cases answer with
  | locked => exact .begin host number task
  | readToStop read =>
    rcases read with fault | _ | bot <;> exact .afterStop host number task (.inl ⟨_, rfl⟩) _
  | joined running ending finished =>
    cases finished with
    | false => exact .aborts running ending
    | true => exact .waits (.closes ..)
  | joinedAborted running ending => exact .waits (.forces ..)
  | closed running ending forced =>
    cases ending with
    | stopping => exact .waits (.stopped ..)
    | startFailed fault => exact .ends _ _
    | reaping => exact .waits (.reaped ..)
  | recordedStopped result => exact .afterStop host number task (.inr ⟨_, rfl⟩) result
  | recordedReaped => exact .ends _ _
  | removed present =>
    rcases present with fault | _ | _
    · exact .ends _ _
    · exact .ends _ _
    · exact .deletes
  | readToStart token read => exact .connect host number task token read
  | connected handlers session =>
    cases session with
    | error failure => exact .waits (.fails ..)
    | ok session => exact .launches handlers session
  | recordedFailed failure => exact .ends _ _
  | recordedRunning running result =>
    cases result with
    | error fault => exact .withdraws running fault
    | ok done => exact .enrolls running
  | updated bot => cases bot <;> exact .ends _ _

/-- What a task comes to wait for after an answer. -/
inductive ComesTo (host : Host) (task : Task) : Answer → Wait → Prop
  | leads {answer : Answer} {wait : Wait} (leads : host.LeadsTo task.operation answer wait) :
      ComesTo host task answer wait
  | takes (running : Instance) (ending : Ending) (deadline : Nat)
      (registered : host.running? task.bot = some running)
      (own : ∀ generation, task.operation = .reap generation → running.generation = generation) :
      ComesTo host task .locked (.join running ending deadline)
  | withdraws (running : Instance) (fault : StoreFault) (ending : Ending) (deadline : Nat) :
      ComesTo host task (.recordedRunning running (.error fault)) (.join running ending deadline)
  | aborts (running : Instance) (ending : Ending) :
      ComesTo host task (.joined running ending false) (.joinAborted running ending)
  | launches (handlers : List Handler) (session : Nat) :
      ComesTo host task (.connected handlers (.ok session))
        (.recordRunning ⟨task.bot, host.nextGeneration, session, handlers⟩)

/-- A task that has gone on from an answer is at its end or waits again. -/
theorem resume_comesTo {host : Host} {number : TaskNumber} {task record : Task}
    (found : host.task? number = some task) {answer : Answer}
    (found' : (host.resume number task answer).task? number = some record) :
    (∃ result, record.state = .finished result) ∨
      ∃ wait, record.state = .waiting wait ∧ host.ComesTo task answer wait := by
  have waits {other : Host} {wait : Wait} (same : other.task? number = some task)
      (there : (other.waitFor number wait).task? number = some record)
      (comes : host.ComesTo task answer wait) :
      ∃ wait, record.state = .waiting wait ∧ host.ComesTo task answer wait := by
    rw [waitFor_found same] at there
    obtain rfl := Option.some.inj there
    exact ⟨wait, rfl, comes⟩
  have goes := resume_continues host number task answer
  generalize host.resume number task answer = next at goes found'
  cases goes with
  | waits leads => exact .inr (waits found found' (.leads leads))
  | takes running ending registered own =>
    exact .inr (waits found found' (.takes running ending _ registered own))
  | withdraws running fault => exact .inr (waits found found' (.withdraws running fault _ _))
  | aborts running ending => exact .inr (waits found found' (.aborts running ending))
  | launches handlers session =>
    have same (loop : SessionLoop) (transport : MemoryTransport Nat) :
        { host with loops := host.loops ++ [loop], transport }.task? number = some task := found
    exact .inr (waits (same _ _) found' (.launches handlers session))
  | enrolls running =>
    have same : (host.enroll running).task? number = some task := found
    rw [task?_finish_self same] at found'
    obtain rfl := Option.some.inj found'
    exact .inl ⟨_, rfl⟩
  | ends _ result =>
    rw [task?_finish_self found] at found'
    obtain rfl := Option.some.inj found'
    exact .inl ⟨_, rfl⟩
  | deletes =>
    rw [finishDeleted_eq] at found'
    obtain rfl := Option.some.inj ((task?_changeTask_self found _).symm.trans found')
    exact .inl ⟨_, rfl⟩

/-- A task that takes a step and waits afterwards has asked for its lock or has gone on. -/
theorem comesTo_of_advance {host next : Host} {number : TaskNumber} {task : Task}
    (found : host.task? number = some task) (stepped : host.advance (.task number) = some next)
    {record : Task} (found' : next.task? number = some record) {wait : Wait}
    (waiting : record.state = .waiting wait) :
    wait = .lock ∨ ∃ answer, task.state = .answered answer ∧ host.ComesTo task answer wait := by
  obtain ⟨_, rfl⟩ | ⟨_, answer, answered, _, taken, rfl⟩ | ⟨answer, state, rfl⟩ :=
    advance_found_cases found stepped
  · have there : (host.requestLock number task).task? number = some _ := task?_changeTask_self found _
    obtain rfl := Option.some.inj (there.symm.trans found')
    cases waiting
    exact .inl rfl
  · obtain rfl := Option.some.inj ((task?_answered found taken).symm.trans found')
    cases waiting
  · rcases resume_comesTo found found' with ⟨result, finished⟩ | ⟨wait', waiting', comes⟩
    · rw [finished] at waiting
      cases waiting
    · rw [waiting'] at waiting
      cases waiting
      exact .inr ⟨answer, state, comes⟩

/-- After a move that is not its own step a task is as it was, or it is new. -/
theorem task?_of_after {host next : Host} {move : Move} (made : host.after? move = some next)
    {number : TaskNumber} (other : move ≠ .step (.task number)) {record : Task}
    (found : next.task? number = some record) :
    host.task? number = some record ∨ record.state = .created := by
  have adds {middle : Host} (operation : Operation) (bot : String)
      (before : ∀ record, middle.task? number = some record →
        host.task? number = some record ∨ record.state = .created)
      (record : Task) (found : (middle.addTask operation bot).2.task? number = some record) :
      host.task? number = some record ∨ record.state = .created := by
    obtain ⟨rfl, rfl⟩ | found := task?_addTask_cases found
    · exact .inr rfl
    · exact before record found
  by_cases isStep : ∀ process, move ≠ .step process
  · refine @after?_kept_aside (fun next => ∀ record, next.task? number = some record →
      host.task? number = some record ∨ record.state = .created) ?_ ?_ ?_ _ _ _
      (fun _ found => .inl found) made isStep record found
    · exact fun operation bot _ before => adds operation bot before
    · exact fun _ before _ _ => before
    · exact fun _ _ _ _ before _ => before
  obtain ⟨process, rfl⟩ : ∃ process, move = .step process := by simpa using isStep
  change host.advance process = some next at made
  cases process with
  | task changed =>
    have different : number ≠ changed := by
      rintro rfl
      exact other rfl
    rw [advance_task_other made different] at found
    exact .inl found
  | loop generation =>
    obtain ⟨loop, there, _, waiting, state, recorded, sendsStarted, ⟨rfl, _⟩ | ⟨rfl, _⟩⟩ :=
      advance_loop_cases made
    · exact .inl found
    · exact adds _ _ (fun _ found => .inl found) record found

end Host

end BotHost
