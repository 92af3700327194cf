/-
Who takes an instance out of the registry.

Stops and tasks that reap do nothing but end an instance of their bot. The one that is first takes the
instance out. From then on it has the bot to itself until it has recorded what the bot is since, and all
that come later find nothing and leave everything as it is. So as long as no other operations on a bot go
on, the fate of its instance lies with one task: who it was decides which status the bot is left with.

What others do cannot be seen from the bot, and a step of a stop or of a task that reaps has one of three
effects that others see: none, the removal, or the record.
-/

import BotHost.Proofs.Manager.Overtaking
import BotHost.Proofs.Manager.Restarting
import BotHost.Proofs.Manager.Serial
import BotHost.Proofs.Manager.Stopping

namespace BotHost

/-- How an operation ends the instance of its bot, if it is there for nothing else. -/
def Operation.ending? : Operation → Option Ending
  | .stop => some .stopping
  | .reap _ => some .reaping
  | _ => none

/-- What a bot is left as whose instance has been ended so. -/
def Ending.status : Ending → BotStatus
  | .stopping => .stopped
  | .startFailed _ | .reaping => .error

/-- Whether a task may be one that ends an instance so, as far as it has come. -/
def TaskState.endsBy (ending : Ending) : TaskState → Bool
  | .created | .waiting .lock | .answered .locked | .finished _ => true
  | .waiting .readToStop | .answered (.readToStop _) | .waiting (.recordStopped _)
  | .answered (.recordedStopped _) => ending == .stopping
  | .waiting .recordReaped | .answered .recordedReaped => ending == .reaping
  | .waiting (.join _ own _) | .answered (.joined _ own _) | .waiting (.joinAborted _ own)
  | .answered (.joinedAborted _ own) | .waiting (.close _ own _ _ _) | .answered (.closed _ own _) =>
    own == ending
  | _ => false

/-- Whether a move begins calls. -/
def Move.isCall : Move → Bool
  | .begin _ _ | .shutdown => true
  | _ => false

/-- It is stops that end an instance by stopping it, and reaps by reaping it. -/
theorem Operation.ending?_eq_some {operation : Operation} {ending : Ending}
    (ends : operation.ending? = some ending) :
    operation = .stop ∧ ending = .stopping ∨
      ∃ generation, operation = .reap generation ∧ ending = .reaping := by
  cases operation with
  | stop =>
    cases ends
    exact .inl ⟨rfl, rfl⟩
  | reap generation =>
    cases ends
    exact .inr ⟨generation, rfl, rfl⟩
  | _ => cases ends

theorem Operation.unrecords_of_ending? {operation : Operation} {ending : Ending}
    (ends : operation.ending? = some ending) : ending.unrecords = true := by
  obtain ⟨_, rfl⟩ | ⟨_, _, rfl⟩ := Operation.ending?_eq_some ends <;> rfl

namespace Host

/-- What others see of a step of a task that ends the instance of its bot so, by where the step leads. -/
inductive EndingStep (host : Host) (task : Task) (ending : Ending) : TaskState → Host → Prop
  | passes {state : TaskState} {next : Host} (owes : state.owes = task.state.owes)
      (registry : next.registry = host.registry) (store : next.store = host.store) :
      EndingStep host task ending state next
  | removes {state : TaskState} {next : Host} {running : Instance} (owes : state.owes = true)
      (registered : host.running? task.bot = some running)
      (own : ∀ generation, task.operation = .reap generation → running.generation = generation)
      (gone : next.running? task.bot = none) (store : next.store = host.store) :
      EndingStep host task ending state next
  | records {state : TaskState} {next : Host} (owed : task.state.owes = true)
      (paid : state.owes = false) (registry : next.registry = host.registry)
      (store : next.store = (host.storeSetStatus task.bot ending.status).2.store) :
      EndingStep host task ending state next

/-- No task of a bot that is under way is there for anything but to end an instance. -/
structure OnlyEnds (host : Host) (bot : String) : Prop where
  ends : ∀ {number : TaskNumber} {task : Task}, host.task? number = some task → task.bot = bot →
    task.state.ended = false → ∃ ending, task.operation.ending? = some ending

/-- A bot does not run, its record is this one, and nobody is about to write to it. -/
structure Rests (host : Host) (bot : String) (stored : Bot) : Prop where
  gone : host.running? bot = none
  still : host.store.find? bot = some stored
  unowed : ∀ {number : TaskNumber} {task : Task}, host.task? number = some task → task.bot = bot →
    task.state.owes = false

/-! ### Who was first -/

/-- An instance is taken out of the registry with this step. -/
def Unseats (running : Instance) (step : Host × Host) : Prop :=
  step.1.running? running.bot = some running ∧ step.2.running? running.bot = none

/-- The session of an instance has ended: the loop has come to its end, and nobody had told it to. -/
def SessionEnded (host : Host) (running : Instance) : Prop :=
  ∃ loop, host.loop? running.generation = some loop ∧ loop.session = running.session ∧
    loop.state = .finished ∧ loop.cancelled = false ∧ loop.aborted = false

/-- In the course of a run a task takes an instance out of the registry. -/
def Removes (first : Host) (moves : List Move) (number : TaskNumber) (running : Instance) : Prop :=
  ∃ step ∈ first.stepsOf number moves, Unseats running step

/-- In the course of a run a task that reaps takes an instance out of the registry whose session has
ended. -/
def RemovesEnded (first : Host) (moves : List Move) (number : TaskNumber) (running : Instance) : Prop :=
  ∃ step ∈ first.stepsOf number moves, Unseats running step ∧ step.1.SessionEnded running ∧
    ∃ task, step.1.task? number = some task ∧ task.operation = .reap running.generation

/-- A bot's end is left to a stop: of its tasks that are under way all others reap. -/
structure LeftTo (host : Host) (stop : TaskNumber) (bot : String) : Prop where
  called : ∃ lock state, host.task? stop = some ⟨.stop, bot, lock, state⟩
  only : host.OnlyEnds bot
  sole : ∀ {number : TaskNumber} {task : Task}, host.task? number = some task → task.bot = bot →
    task.state.ended = false → task.operation = .stop → number = stop

section

variable (first : Host) (moves : List Move) (host : Host) (stop : TaskNumber) (running : Instance)

/-- Of all tasks it was this one that took an instance out of the registry: it is the stop, or it reaps. -/
structure TakenBy (number : TaskNumber) (ending : Ending) : Prop where
  sole : ∀ other, first.Removes moves other running ↔ other = number
  who : number = stop ∧ ending = .stopping ∨
    number ≠ stop ∧ ending = .reaping ∧ first.RemovesEnded moves number running

/-- How far the end of an instance has come. -/
inductive Fate (stored : Bot) : Prop
  | runs (registered : host.running? running.bot = some running)
      (still : host.store.find? running.bot = some stored)
      (untaken : ∀ number, ¬first.Removes moves number running)
  | owed {number : TaskNumber} {task : Task} (found : host.task? number = some task)
      (ofBot : task.bot = running.bot) (owes : task.state.owes = true)
      (gone : host.running? running.bot = none)
      (still : host.store.find? running.bot = some stored)
      (taken : ∀ ending, task.operation.ending? = some ending →
        TakenBy first moves stop running number ending)
  | recorded {number : TaskNumber} {ending : Ending}
      (taken : TakenBy first moves stop running number ending)
      (rests : host.Rests running.bot { stored with status := ending.status })

/-- The end of an instance is left to a stop and to those that reap. When the stop has returned, the bot is
at rest. -/
structure Entrusted (stored : Bot) : Prop where
  left : host.LeftTo stop running.bot
  fate : Fate first moves host stop running stored
  returned : ∀ {task : Task}, host.task? stop = some task → task.state.ended = true →
    ∃ settled, host.Rests running.bot settled

end

variable {first host next last : Host} {number other stop : TaskNumber} {task record : Task}
  {ending : Ending} {bot : String} {stored : Bot} {running : Instance}
  {move : Move} {moves : List Move}

/-! ### The steps of tasks that end an instance -/

theorem afterStop_of_stop (stops : task.operation = .stop) (result : Except ManagerFault Unit) :
    host.afterStop number task result = host.finish number task (result.map fun _ => .done) := by
  cases result <;> simp only [afterStop, stops] <;> rfl

/-- A task that ends an instance so takes an answer. It records what the bot is since, or else others do
not see it. -/
theorem endingStep_of_answer {wait : Wait} {answer : Answer} {answered : Host}
    (waiting : task.state = .waiting wait) (ends : (TaskState.waiting wait).endsBy ending = true)
    (taken : host.answer? number task wait = some (answer, answered)) :
    (TaskState.answered answer).endsBy ending = true ∧
      EndingStep host task ending (.answered answer)
        (answered.setTaskState number (.answered answer)) := by
  have registry : answered.registry = host.registry := by
    obtain ⟨store, transport, rfl⟩ := answer?_eq taken
    rfl
  have passes (owes : (TaskState.answered answer).owes = (TaskState.waiting wait).owes)
      (same : answered.store = host.store) : EndingStep host task ending (.answered answer)
        (answered.setTaskState number (.answered answer)) :=
    .passes (owes.trans (by rw [waiting])) registry same
  have records (owed : (TaskState.waiting wait).owes = true)
      (paid : (TaskState.answered answer).owes = false)
      (wrote : answered.store = (host.storeSetStatus task.bot ending.status).2.store) :
      EndingStep host task ending (.answered answer)
        (answered.setTaskState number (.answered answer)) :=
    .records (by rw [waiting, owed]) paid registry wrote
  cases answers_of_answer? taken with
  | locked | readToStop | joined | unjoined | joinedAborted | closed | unclosed =>
    exact ⟨ends, passes rfl rfl⟩
  | recordedStopped =>
    obtain rfl : ending = .stopping := by simpa [TaskState.endsBy] using ends
    exact ⟨rfl, records rfl rfl rfl⟩
  | recordedReaped =>
    obtain rfl : ending = .reaping := by simpa [TaskState.endsBy] using ends
    exact ⟨rfl, records rfl rfl rfl⟩
  | _ => cases ends

/-- A task that has nothing to record ends, and others do not see it. -/
theorem endingStep_of_finish (found : host.task? number = some task) (owed : task.state.owes = false)
    (result : Except ManagerFault Success) :
    ∃ lock state, (host.finish number task result).task? number = some { task with lock, state } ∧
      state.endsBy ending = true ∧
        EndingStep host task ending state (host.finish number task result) := by
  refine ⟨none, _, task?_finish_self found _, rfl, .passes owed.symm ?_ ?_⟩
  · rw [finish_eq]
    rfl
  · rw [finish_eq]
    rfl

/-- A task that has got the lock takes the instance of its bot out of the registry, or finds none that is
its to end. -/
theorem endingStep_of_locked (found : host.task? number = some task)
    (answered : task.state = .answered .locked) (ends : task.operation.ending? = some ending) :
    ∃ lock state, (host.begin number task).task? number = some { task with lock, state } ∧
      state.endsBy ending = true ∧ EndingStep host task ending state (host.begin number task) := by
  have removes {running : Instance} (registered : host.running? task.bot = some running)
      (own : ∀ generation, task.operation = .reap generation → running.generation = generation)
      (begins : host.begin number task = (host.unregister task.bot).tearDown number running ending) :
      ∃ lock state, (host.begin number task).task? number = some { task with lock, state } ∧
        state.endsBy ending = true ∧ EndingStep host task ending state (host.begin number task) := by
    rw [begins]
    have gone : ((host.unregister task.bot).tearDown number running ending).running? task.bot = none :=
      (running?_unregister host task.bot task.bot).trans (if_pos rfl)
    exact ⟨task.lock, _, waitFor_found found, beq_self_eq_true ending,
      .removes (Operation.unrecords_of_ending? ends) registered own gone rfl⟩
  have finishes (begins : host.begin number task = host.finish number task (.ok .done)) :
      ∃ lock state, (host.begin number task).task? number = some { task with lock, state } ∧
        state.endsBy ending = true ∧ EndingStep host task ending state (host.begin number task) := by
    rw [begins]
    exact endingStep_of_finish found (by rw [answered]; rfl) _
  rcases Operation.ending?_eq_some ends with ⟨stops, rfl⟩ | ⟨generation, reaps, rfl⟩
  · cases registered : host.running? task.bot with
    | some running =>
      refine removes registered (fun generation reaps => ?_) ?_
      · cases stops.symm.trans reaps
      · simp only [Host.begin, stops, registered]
    | none =>
      have begins : host.begin number task = host.waitFor number .readToStop := by
        simp only [Host.begin, stops, registered]
      rw [begins]
      exact ⟨task.lock, _, waitFor_found found, rfl, .passes (by rw [answered]; rfl) rfl rfl⟩
  · cases registered : host.running? task.bot with
    | none =>
      refine finishes ?_
      simp only [Host.begin, reaps, registered]
    | some running =>
      by_cases own : running.generation = generation
      · refine removes registered (fun other same => ?_) ?_
        · cases reaps.symm.trans same
          exact own
        · simp only [Host.begin, reaps, registered, if_pos own]
      · refine finishes ?_
        simp only [Host.begin, reaps, registered, if_neg own]

/-- A task that ends an instance so goes on from any other answer, and others do not see it. -/
theorem endingStep_of_resume (found : host.task? number = some task) {answer : Answer}
    (answered : task.state = .answered answer) (ends : task.operation.ending? = some ending)
    (far : (TaskState.answered answer).endsBy ending = true) :
    ∃ lock state, (host.resume number task answer).task? number = some { task with lock, state } ∧
      state.endsBy ending = true ∧
        EndingStep host task ending state (host.resume number task answer) := by
  have owing (state : TaskState) (same : state.owes = (TaskState.answered answer).owes) :
      state.owes = task.state.owes := by rw [same, answered]
  have stop (stops : ending = .stopping) : task.operation = .stop := by
    rcases Operation.ending?_eq_some ends with ⟨stop, _⟩ | ⟨_, _, reaps⟩
    · exact stop
    · cases stops.symm.trans reaps
  cases answer with
  | locked => exact endingStep_of_locked found answered ends
  | readToStop read =>
    have stops := stop (by simpa [TaskState.endsBy] using far)
    obtain ⟨result, resumes⟩ : ∃ result, host.resume number task (.readToStop read) =
        host.finish number task result := by
      rcases read with fault | _ | bot <;> exact ⟨_, afterStop_of_stop stops _⟩
    rw [resumes]
    exact endingStep_of_finish found (by rw [answered]; rfl) result
  | joined running own finished =>
    cases finished with
    | false => exact ⟨task.lock, _, waitFor_found found, far, .passes (owing _ rfl) rfl rfl⟩
    | true => exact ⟨task.lock, _, waitFor_found found, far, .passes (owing _ rfl) rfl rfl⟩
  | joinedAborted running own =>
    exact ⟨task.lock, _, waitFor_found found, far, .passes (owing _ rfl) rfl rfl⟩
  | closed running own forced =>
    obtain rfl : own = ending := by simpa [TaskState.endsBy] using far
    rcases Operation.ending?_eq_some ends with ⟨_, rfl⟩ | ⟨_, _, rfl⟩
    · exact ⟨task.lock, _, waitFor_found found, rfl, .passes (owing _ rfl) rfl rfl⟩
    · exact ⟨task.lock, _, waitFor_found found, rfl, .passes (owing _ rfl) rfl rfl⟩
  | recordedStopped result =>
    have stops := stop (by simpa [TaskState.endsBy] using far)
    rw [show host.resume number task (.recordedStopped result) = _ from afterStop_of_stop stops result]
    exact endingStep_of_finish found (by rw [answered]; rfl) _
  | recordedReaped => exact endingStep_of_finish found (by rw [answered]; rfl) _
  | _ => cases far

/-- Others see one of three effects of a step of such a task. -/
theorem endingStep_of_advance (found : host.task? number = some task)
    (ends : task.operation.ending? = some ending) (far : task.state.endsBy ending = true)
    (stepped : host.advance (.task number) = some next) :
    ∃ lock state, next.task? number = some { task with lock, state } ∧ state.endsBy ending = true ∧
      EndingStep host task ending state next := by
  obtain ⟨created, rfl⟩ | ⟨wait, answer, answered, waiting, taken, rfl⟩ | ⟨answer, answered, rfl⟩ :=
    advance_found_cases found stepped
  · exact ⟨_, _, task?_changeTask_self found _, rfl, .passes (by rw [created]; rfl) rfl rfl⟩
  · rw [waiting] at far
    exact ⟨task.lock, _, task?_answered found taken, endingStep_of_answer waiting far taken⟩
  · rw [answered] at far
    exact endingStep_of_resume found answered ends far

/-- A task that is there to end an instance does nothing else. -/
theorem Reachable.endsBy (reachable : host.Reachable) (found : host.task? number = some task)
    (ends : task.operation.ending? = some ending) : task.state.endsBy ending = true := by
  refine @Reachable.invariant (fun host => ∀ task, host.task? number = some task →
    task.operation.ending? = some ending → task.state.endsBy ending = true) ?_ ?_ _ reachable task found
      ends
  · intro patterns settings bots task found
    cases found
  · intro host next move _ before made record found' ends
    by_cases own : move = .step (.task number)
    · subst own
      obtain ⟨task, found, _⟩ := advance_task_cases made
      obtain ⟨_, _, there⟩ := task?_after made found
      have same : record.operation = task.operation :=
        congrArg (·.operation) (Option.some.inj (found'.symm.trans there))
      rw [same] at ends
      obtain ⟨lock, state, there, far, _⟩ :=
        endingStep_of_advance found ends (before task found ends) made
      obtain rfl := Option.some.inj (found'.symm.trans there)
      exact far
    · rcases task?_of_after made own found' with found | created
      · exact before record found ends
      · rw [created]
        rfl

/-! ### Tasks and moves that do not concern a bot -/

/-- Unless calls are begun, the only tasks that come up are to reap. -/
theorem task?_of_quiet (made : host.after? move = some next) (quiet : move.isCall = false)
    (found : next.task? number = some record) :
    (∃ task, host.task? number = some task ∧ task.operation = record.operation ∧
        task.bot = record.bot ∧ (record.state.ended = false → task.state.ended = false)) ∨
      ∃ generation, record.operation = .reap generation := by
  by_cases own : move = .step (.task number)
  · subst own
    obtain ⟨task, there, _⟩ := advance_task_cases made
    obtain ⟨lock, state, there'⟩ := task?_after made there
    obtain rfl := Option.some.inj (found.symm.trans there')
    exact .inl ⟨task, there, rfl, rfl, fun _ => unended_of_advance there made⟩
  have stays (found : host.task? number = some record) :
      (∃ task, host.task? number = some task ∧ task.operation = record.operation ∧
          task.bot = record.bot ∧ (record.state.ended = false → task.state.ended = false)) ∨
        ∃ generation, record.operation = .reap generation :=
    .inl ⟨record, found, rfl, rfl, id⟩
  cases move with
  | begin | shutdown => cases quiet
  | register bot =>
    cases made
    rw [register_eq] at found
    exact stays found
  | inject token event =>
    cases made
    rw [inject_eq] at found
    exact stays found
  | endSession | reject | accept | clearSent | setDelays | setFaults | pass =>
    cases made
    exact stays found
  | step process =>
    change host.advance process = some next at made
    cases process with
    | task changed =>
      have different : number ≠ changed := by
        rintro rfl
        exact own rfl
      rw [advance_task_other made different] at found
      exact stays found
    | loop generation =>
      obtain ⟨loop, there, _, waiting, state, recorded, sendsStarted, ⟨rfl, _⟩ | ⟨rfl, _⟩⟩ :=
        advance_loop_cases made
      · exact stays found
      · obtain ⟨rfl, rfl⟩ | found := task?_addTask_cases found
        · exact .inr ⟨generation, rfl⟩
        · exact stays found

/-- What is not a step of one of its tasks leaves a stored bot alone. -/
theorem leaves_bot (reachable : host.Reachable) (made : host.after? move = some next)
    (still : host.store.find? bot = some stored)
    (other : ∀ number task, move = .step (.task number) → host.task? number = some task →
      task.bot ≠ bot) :
    next.running? bot = host.running? bot ∧ next.store.find? bot = some stored ∧
      ∀ {number : TaskNumber} {record : Task}, next.task? number = some record → record.bot = bot →
        host.task? number = some record ∨ record.state = .created := by
  have tasks {number : TaskNumber} {record : Task} (found : next.task? number = some record)
      (ofBot : record.bot = bot) : host.task? number = some record ∨ record.state = .created := by
    refine task?_of_after made ?_ found
    rintro rfl
    obtain ⟨task, there, _⟩ := advance_task_cases made
    obtain ⟨_, _, there'⟩ := task?_after made there
    obtain rfl := Option.some.inj (found.symm.trans there')
    exact other number task rfl there ofBot
  suffices same : next.running? bot = host.running? bot ∧ next.store.find? bot = some stored from
    ⟨same.1, same.2, tasks⟩
  cases move with
  | step process =>
    cases process with
    | loop generation =>
      obtain ⟨registry, store, _⟩ := advance_loop_frame made
      rw [running?, registry, store]
      exact ⟨rfl, still⟩
    | task number =>
      obtain ⟨task, found, _⟩ := advance_task_cases made
      have different := (other number task rfl found).symm
      exact ⟨(spares_of_advance reachable.custody found made).running different,
        (find?_of_advance found made different).trans still⟩
  | register registered =>
    cases made
    refine ⟨?_, host.find?_register still⟩
    rw [register_eq]
    rfl
  | _ =>
    obtain ⟨running, find⟩ := @aside_of_after _ _ bot _ made (by simp) (by simp)
    exact ⟨running, find.trans still⟩

/-! ### Bots at rest -/

/-- The bot of a task that owes the store a status does not run. -/
theorem gone_of_owes (reachable : host.Reachable) (found : host.task? number = some task)
    (owes : task.state.owes = true) : host.running? task.bot = none :=
  reachable.custody.vacant found (vacant_of_owes owes)

/-- Where there are only ends under way, a step is that of an end and has its effect. -/
theorem OnlyEnds.step (only : host.OnlyEnds bot) (reachable : host.Reachable)
    (found : host.task? number = some task) (ofBot : task.bot = bot)
    (stepped : host.advance (.task number) = some next) :
    ∃ ending lock state, task.operation.ending? = some ending ∧
      next.task? number = some { task with lock, state } ∧ EndingStep host task ending state next := by
  obtain ⟨ending, ends⟩ := only.ends found ofBot (unended_of_advance found stepped)
  obtain ⟨lock, state, found', _, effect⟩ :=
    endingStep_of_advance found ends (reachable.endsBy found ends) stepped
  exact ⟨ending, lock, state, ends, found', effect⟩

/-- Of the tasks of a bot none owes the store a status after a step if only the one that takes the step has
owed it. -/
theorem unowed_of_step (made : host.after? (.step (.task number)) = some next)
    (found' : next.task? number = some record) (paid : record.state.owes = false)
    (others : ∀ {other : TaskNumber} {task : Task}, other ≠ number → host.task? other = some task →
      task.bot = bot → task.state.owes = false)
    {other : TaskNumber} {task : Task} (there : next.task? other = some task) (ofBot : task.bot = bot) :
    task.state.owes = false := by
  by_cases own : other = number
  · subst own
    obtain rfl := Option.some.inj (found'.symm.trans there)
    exact paid
  · rcases task?_of_after made (by simp [Ne.symm own]) there with before | created
    · exact others own before ofBot
    · rw [created]
      rfl

/-- Where there are only ends under way, a bot at rest stays at rest. -/
theorem Rests.after (rests : host.Rests bot stored) (reachable : host.Reachable)
    (only : host.OnlyEnds bot) (made : host.after? move = some next) : next.Rests bot stored := by
  by_cases own : ∃ number task, move = .step (.task number) ∧ host.task? number = some task ∧
      task.bot = bot
  · obtain ⟨number, task, rfl, found, rfl⟩ := own
    obtain ⟨ending, lock, state, _, found', effect⟩ := only.step reachable found rfl made
    have owed := rests.unowed found rfl
    cases effect with
    | passes owes registry store =>
      refine ⟨?_, ?_, fun there ofBot => unowed_of_step made found' (owes.trans owed)
        (fun _ => rests.unowed) there ofBot⟩
      · rw [running?, registry]
        exact rests.gone
      · rw [store]
        exact rests.still
    | removes _ registered => cases rests.gone.symm.trans registered
    | records owes => cases owed.symm.trans owes
  · obtain ⟨running, still, tasks⟩ := leaves_bot reachable made rests.still
      fun number task same found ofBot => own ⟨number, task, same, found, ofBot⟩
    refine ⟨running.trans rests.gone, still, fun there ofBot => ?_⟩
    rcases tasks there ofBot with before | created
    · exact rests.unowed before ofBot
    · rw [created]
      rfl

/-! ### Who has taken an instance out -/

/-- The steps of a task stay steps of it when the run goes on. -/
theorem Run.stepsOf_mono (run : Run first moves host) (move : Move) {step : Host × Host}
    (member : step ∈ first.stepsOf number moves) : step ∈ first.stepsOf number (moves ++ [move]) := by
  rw [stepsOf, run.along_append]
  exact List.mem_append_left _ member

/-- What has been removed has been removed before the last move or with it. -/
theorem Run.removes_concat (run : Run first moves host) (made : host.after? move = some next) :
    first.Removes (moves ++ [move]) number running ↔ first.Removes moves number running ∨
      move = .step (.task number) ∧ Unseats running (host, next) := by
  by_cases own : move = .step (.task number)
  · subst own
    rw [Removes, run.stepsOf_self made]
    simp [Removes, or_and_right, exists_or]
  · rw [Removes, run.stepsOf_of_ne made own]
    simp [Removes, own]

/-- An instance that is not taken out by a move has been taken out by whoever has taken it out before. -/
theorem Run.removes_of_not (run : Run first moves host) (made : host.after? move = some next)
    (not : ¬Unseats running (host, next)) :
    first.Removes (moves ++ [move]) number running ↔ first.Removes moves number running := by
  rw [run.removes_concat made]
  simp [not]

/-- An instance that is gone is not taken out again. -/
theorem not_unseats_of_gone (gone : host.running? running.bot = none) :
    ¬Unseats running (host, next) := by
  rintro ⟨registered, _⟩
  cases gone.symm.trans registered

theorem not_unseats_of_same (same : next.running? running.bot = host.running? running.bot) :
    ¬Unseats running (host, next) := by
  rintro ⟨registered, gone⟩
  cases (same.trans registered).symm.trans gone

/-- It is settled for good which task took the instance out. -/
theorem TakenBy.concat (taken : TakenBy first moves stop running number ending)
    (run : Run first moves host) (made : host.after? move = some next)
    (gone : host.running? running.bot = none) :
    TakenBy first (moves ++ [move]) stop running number ending where
  sole other := (run.removes_of_not made (not_unseats_of_gone gone)).trans (taken.sole other)
  who := taken.who.imp_right fun ⟨other, reaps, step, member, unseats⟩ =>
    ⟨other, reaps, step, run.stepsOf_mono move member, unseats⟩

/-- The session of a registered instance that is to be reaped has ended. -/
theorem sessionEnded_of_reap (reachable : host.Reachable) (found : host.task? number = some task)
    (reaps : task.operation = .reap running.generation)
    (registered : host.running? bot = some running) : host.SessionEnded running := by
  obtain ⟨loop, there, finished⟩ := reachable.reapers.finished found reaps
  obtain ⟨loop', there', _, session, _, active, whole⟩ := reachable.custody.registered registered
  obtain rfl := Option.some.inj (there.symm.trans there')
  exact ⟨loop, there, session, finished, active, whole⟩

/-! ### The fate of an instance -/

/-- As long as nobody calls, no other operations come up. -/
theorem OnlyEnds.after (only : host.OnlyEnds bot) (made : host.after? move = some next)
    (quiet : move.isCall = false) : next.OnlyEnds bot := by
  constructor
  intro number record found' ofBot unended
  rcases task?_of_quiet made quiet found' with ⟨task, found, same, sameBot, unended'⟩ | ⟨_, reaps⟩
  · rw [← same]
    exact only.ends found (sameBot.trans ofBot) (unended' unended)
  · exact ⟨.reaping, by rw [reaps]; rfl⟩

/-- As long as nobody calls, the end stays left to the stop. -/
theorem LeftTo.after (left : host.LeftTo stop bot) (made : host.after? move = some next)
    (quiet : move.isCall = false) : next.LeftTo stop bot where
  called := by
    obtain ⟨lock, state, found⟩ := left.called
    obtain ⟨lock', state', found'⟩ := task?_after made found
    exact ⟨lock', state', found'⟩
  only := left.only.after made quiet
  sole := by
    intro number record found' ofBot unended stops
    rcases task?_of_quiet made quiet found' with ⟨task, found, same, sameBot, unended'⟩ | ⟨_, reaps⟩
    · exact left.sole found (sameBot.trans ofBot) (unended' unended) (same.trans stops)
    · cases stops.symm.trans reaps

section

variable (left : host.LeftTo stop running.bot) (reachable : host.Reachable) (run : Run first moves host)

include left reachable run

/-- Whoever takes an instance out that nobody has taken out before is the only one. -/
theorem TakenBy.of_unseats (untaken : ∀ number, ¬first.Removes moves number running)
    (found : host.task? number = some task) (ofBot : task.bot = running.bot)
    (ends : task.operation.ending? = some ending)
    (own : ∀ generation, task.operation = .reap generation → running.generation = generation)
    (made : host.after? (.step (.task number)) = some next) (unseats : Unseats running (host, next)) :
    TakenBy first (moves ++ [.step (.task number)]) stop running number ending where
  sole other := by
    rw [run.removes_concat made]
    simp [untaken other, unseats, eq_comm]
  who := by
    have unended := unended_of_advance found made
    rcases Operation.ending?_eq_some ends with ⟨stops, rfl⟩ | ⟨generation, reaps, rfl⟩
    · exact .inl ⟨left.sole found ofBot unended stops, rfl⟩
    · rw [← own generation reaps] at reaps
      refine .inr ⟨?_, rfl, (host, next), ?_, unseats,
        sessionEnded_of_reap reachable found reaps unseats.1, task, found, reaps⟩
      · rintro rfl
        obtain ⟨_, _, called⟩ := left.called
        obtain rfl := Option.some.inj (found.symm.trans called)
        cases reaps
      · rw [run.stepsOf_self made]
        exact List.mem_append_right _ List.mem_cons_self

variable (made : host.after? move = some next)

include made

/-- As long as an instance is registered nobody has taken it out, and whoever does so next is the first. -/
theorem Fate.after_runs (registered : host.running? running.bot = some running)
    (still : host.store.find? running.bot = some stored)
    (untaken : ∀ number, ¬first.Removes moves number running) :
    Fate first (moves ++ [move]) next stop running stored := by
  have stays (same : next.running? running.bot = host.running? running.bot)
      (find : next.store.find? running.bot = some stored) :
      Fate first (moves ++ [move]) next stop running stored := by
    refine .runs (same.trans registered) find fun other => ?_
    rw [run.removes_of_not made (not_unseats_of_same same)]
    exact untaken other
  by_cases own : ∃ number task, move = .step (.task number) ∧ host.task? number = some task ∧
      task.bot = running.bot
  · obtain ⟨number, task, rfl, found, ofBot⟩ := own
    obtain ⟨ending, lock, state, ends, found', effect⟩ := left.only.step reachable found ofBot made
    cases effect with
    | passes _ registry store => exact stays (by rw [running?, registry, running?]) (store ▸ still)
    | removes owes registered' own gone store =>
      rw [ofBot] at registered' gone
      obtain rfl := Option.some.inj (registered'.symm.trans registered)
      exact .owed found' ofBot owes gone (store ▸ still) fun ending ends =>
        .of_unseats left reachable run untaken found ofBot ends own made ⟨registered, gone⟩
    | records owes =>
      have gone := gone_of_owes reachable found owes
      rw [ofBot, registered] at gone
      cases gone
  · obtain ⟨same, find, _⟩ := leaves_bot reachable made still
      fun number task moved found ofBot => own ⟨number, task, moved, found, ofBot⟩
    exact stays same find

/-- Whoever has taken an instance out has its bot to itself until it has recorded what the bot is. -/
theorem Fate.after_owed (serves : host.Serves) (found : host.task? number = some task)
    (ofBot : task.bot = running.bot) (owes : task.state.owes = true)
    (gone : host.running? running.bot = none) (still : host.store.find? running.bot = some stored)
    (taken : ∀ ending, task.operation.ending? = some ending →
      TakenBy first moves stop running number ending) :
    Fate first (moves ++ [move]) next stop running stored := by
  have taken' (ending : Ending) (ends : task.operation.ending? = some ending) :=
    (taken ending ends).concat run made gone
  by_cases own : ∃ number task, move = .step (.task number) ∧ host.task? number = some task ∧
      task.bot = running.bot
  · obtain ⟨other, task', rfl, there', ofBot'⟩ := own
    obtain ⟨ending, lock, state, ends, after, effect⟩ := left.only.step reachable there' ofBot' made
    cases effect with
    | passes owes' registry store =>
      have gone' : next.running? running.bot = none := by
        rw [running?, registry]
        exact gone
      by_cases same : other = number
      · subst same
        obtain rfl := Option.some.inj (found.symm.trans there')
        exact .owed after ofBot (owes'.trans owes) gone' (store ▸ still) taken'
      · exact .owed (task?_after_of_ne made (by simp [same]) found) ofBot owes gone' (store ▸ still)
          taken'
    | removes _ registered =>
      rw [ofBot', gone] at registered
      cases registered
    | records owed paid registry store =>
      have alone {another : TaskNumber} {task : Task} (there : host.task? another = some task)
          (ofBot : task.bot = running.bot) (owes : task.state.owes = true) : another = other :=
        reachable.orderly.alone there' there (inside_of_owes owed) (inside_of_owes owes)
          (ofBot.trans ofBot'.symm)
      obtain rfl := alone found ofBot owes
      obtain rfl := Option.some.inj (found.symm.trans there')
      refine .recorded (taken' ending ends) ⟨?_, ?_, fun there ofBot' => ?_⟩
      · rw [running?, registry]
        exact gone
      · rw [store, ofBot]
        exact (serves.storeSetStatus still _).2
      · refine unowed_of_step made after paid (fun different before sameBot => ?_) there ofBot'
        by_contra owes'
        exact different (alone before sameBot (by simpa using owes'))
  · obtain ⟨same, find, _⟩ := leaves_bot reachable made still
      fun number task moved found ofBot => own ⟨number, task, moved, found, ofBot⟩
    refine .owed (task?_after_of_ne made ?_ found) ofBot owes (same.trans gone) find taken'
    rintro rfl
    exact own ⟨number, task, rfl, found, ofBot⟩

/-- With every move that is no call the end of the instance comes as far or farther. -/
theorem Fate.after (fate : Fate first moves host stop running stored) (serves : host.Serves) :
    Fate first (moves ++ [move]) next stop running stored := by
  cases fate with
  | runs registered still untaken =>
    exact .after_runs left reachable run made registered still untaken
  | owed found ofBot owes gone still taken =>
    exact .after_owed left reachable run made serves found ofBot owes gone still taken
  | recorded taken rests =>
    exact .recorded (taken.concat run made rests.gone) (rests.after reachable left.only made)

end

/-! ### When the stop has returned -/

/-- Where there are only ends under way, no bot comes back. -/
theorem OnlyEnds.gone_of_step (only : host.OnlyEnds bot) (reachable : host.Reachable)
    (found : host.task? number = some task) (ofBot : task.bot = bot)
    (made : host.after? (.step (.task number)) = some next) (gone : host.running? bot = none) :
    next.running? bot = none := by
  obtain ⟨ending, lock, state, _, _, effect⟩ := only.step reachable found ofBot made
  cases effect with
  | passes _ registry | records _ _ registry =>
    rw [running?, registry]
    exact gone
  | removes _ registered =>
    rw [ofBot, gone] at registered
    cases registered

theorem exists_result (ended : task.state.ended = true) : ∃ result, task.state = .finished result := by
  cases state : task.state with
  | finished result => exact ⟨result, rfl⟩
  | _ =>
    rw [state] at ended
    cases ended

/-- A stop returns when its bot is at rest. -/
theorem Fate.rests_of_return (fate : Fate first moves next stop running stored)
    (left : host.LeftTo stop running.bot) (reachable : host.Reachable)
    (found : host.task? stop = some task) (ofBot : task.bot = running.bot)
    (stops : task.operation = .stop) (made : host.after? (.step (.task stop)) = some next)
    (found' : next.task? stop = some record) (ended : record.state.ended = true) :
    ∃ settled, next.Rests running.bot settled := by
  obtain ⟨result, finished⟩ := exists_result ended
  have vacant : task.vacant = true := by
    obtain ⟨_, rfl⟩ | ⟨wait, answer, answered, _, taken, rfl⟩ | ⟨answer, answered, rfl⟩ :=
      advance_found_cases found made
    · have there : (host.requestLock stop task).task? stop = some _ := task?_changeTask_self found _
      obtain rfl := Option.some.inj (there.symm.trans found')
      cases finished
    · obtain rfl := Option.some.inj ((task?_answered found taken).symm.trans found')
      cases finished
    · refine (vacant_of_endsAt reachable.suited found answered found' ?_).1
      rw [stops, finished]
      rfl
  have gone : next.running? running.bot = none :=
    left.only.gone_of_step reachable found ofBot made (ofBot ▸ reachable.custody.vacant found vacant)
  cases fate with
  | runs registered => cases gone.symm.trans registered
  | @owed number owing there ofBot' owes =>
    by_cases same : number = stop
    · subst same
      obtain rfl := Option.some.inj (found'.symm.trans there)
      rw [finished] at owes
      cases owes
    · rcases task?_of_after made (by simp [Ne.symm same]) there with before | created
      · exact absurd (reachable.orderly.alone found before (Task.inside_of_vacant vacant)
          (inside_of_owes owes) (ofBot'.trans ofBot.symm)) same
      · rw [created] at owes
        cases owes
  | recorded _ rests => exact ⟨_, rests⟩

namespace Entrusted

/-- As long as nobody calls, the end stays with the stop and with those that reap. -/
theorem concat (entrusted : Entrusted first moves host stop running stored)
    (reachable : host.Reachable) (run : Run first moves host) (serves : host.Serves)
    (made : host.after? move = some next) (quiet : move.isCall = false) :
    Entrusted first (moves ++ [move]) next stop running stored := by
  obtain ⟨lock, state, found⟩ := entrusted.left.called
  obtain ⟨lock', state', found'⟩ := task?_after made found
  have fate := entrusted.fate.after entrusted.left reachable run made serves
  refine ⟨entrusted.left.after made quiet, fate, fun there ended => ?_⟩
  obtain rfl := Option.some.inj (found'.symm.trans there)
  by_cases own : move = .step (.task stop)
  · subst own
    exact fate.rests_of_return entrusted.left reachable found rfl rfl made there ended
  · obtain rfl : state = state' := by
      have same := (task?_after_of_ne made own found).symm.trans found'
      simpa using congrArg (Option.map Task.state) same
    obtain ⟨settled, rests⟩ := entrusted.returned found ended
    exact ⟨settled, rests.after reachable entrusted.left.only made⟩

/-- When the stop has returned, somebody has taken the instance out and has recorded what the bot is. -/
theorem concludes (entrusted : Entrusted first moves host stop running stored)
    (found : host.task? stop = some task) (ended : task.state.ended = true) :
    ∃ number ending, TakenBy first moves stop running number ending ∧
      host.Rests running.bot { stored with status := ending.status } := by
  obtain ⟨settled, rests⟩ := entrusted.returned found ended
  cases entrusted.fate with
  | runs registered => cases rests.gone.symm.trans registered
  | owed there ofBot owes => cases (rests.unowed there ofBot).symm.trans owes
  | recorded taken rests => exact ⟨_, _, taken, rests⟩

end Entrusted

/-- A task that ends an instance and has it in hand still has to write it down. -/
theorem owes_of_charge {state : TaskState} {stage : Stage}
    (charge : state.charge? = some (stage, running)) (ends : state.endsBy ending = true)
    (unrecords : ending.unrecords = true) : state.owes = true := by
  cases state with
  | created | finished => cases charge
  | waiting wait =>
    cases wait with
    | join | joinAborted | close =>
      obtain rfl := eq_of_beq ends
      exact unrecords
    | recordRunning => cases ends
    | _ => cases charge
  | answered answer =>
    cases answer with
    | joined | joinedAborted | closed =>
      obtain rfl := eq_of_beq ends
      exact unrecords
    | recordedRunning => cases ends
    | _ => cases charge

/-- All loops of a bot at rest have come to their ends. -/
theorem Rests.finished (rests : host.Rests bot stored) (reachable : host.Reachable)
    (only : host.OnlyEnds bot) {generation : Nat} {loop : SessionLoop}
    (there : host.loop? generation = some loop) (ofBot : loop.bot = bot) : loop.state = .finished := by
  by_contra unfinished
  rcases reachable.custody.owned there unfinished with ⟨running, registered, _⟩ |
    ⟨number, task, stage, running, found, charge, same⟩
  · rw [ofBot, rests.gone] at registered
    cases registered
  · obtain ⟨ofTask, loop', there', ofLoop, _⟩ := reachable.custody.charged found charge
    rw [same, there] at there'
    obtain rfl := Option.some.inj there'
    have ofBot' : task.bot = bot := ofTask.symm.trans (ofLoop.symm.trans ofBot)
    have unended : task.state.ended = false := by
      generalize task.state = state at charge
      cases state with
      | finished => cases charge
      | _ => rfl
    obtain ⟨ending, ends⟩ := only.ends found ofBot' unended
    have owes := owes_of_charge charge (reachable.endsBy found ends)
      (Operation.unrecords_of_ending? ends)
    cases (rests.unowed found ofBot').symm.trans owes

end Host

end BotHost
