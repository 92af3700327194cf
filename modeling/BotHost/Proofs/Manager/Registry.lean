/-
What a task that goes on does to the registry.

It takes its bot's instance out, to tear it down; it puts the instance in that it has launched; or it
leaves the registry alone. An instance passes between the registry and the hands of a task and is in
one place at a time, with its session; and a task that has taken an instance out owes the store a new
status of the bot.
-/

import BotHost.Proofs.Manager.Custody

namespace BotHost

/-- Whether an instance that ends so has been recorded as running. -/
def Ending.unrecords : Ending → Bool
  | .startFailed _ => false
  | .stopping | .reaping => true

/-- Whether the registry is about to be in line again with the status of the bot in the store. -/
def TaskState.owes : TaskState → Bool
  | .waiting (.join _ ending _) | .answered (.joined _ ending _)
  | .waiting (.joinAborted _ ending) | .answered (.joinedAborted _ ending)
  | .waiting (.close _ ending _ _ _) | .answered (.closed _ ending _) => ending.unrecords
  | .waiting (.recordStopped _) | .waiting .recordReaped
  | .answered (.recordedRunning _ (.ok _)) => true
  | _ => false

/-- The session that a task has in hand and has not closed. -/
def TaskState.holds? : TaskState → Option Nat
  | .answered (.connected _ (.ok session)) => some session
  | .waiting (.recordRunning running) | .answered (.recordedRunning running _)
  | .waiting (.join running _ _) | .answered (.joined running _ _)
  | .waiting (.joinAborted running _) | .answered (.joinedAborted running _)
  | .waiting (.close running _ _ _ _) => some running.session
  | _ => none

namespace Host

variable {host : Host} {number : TaskNumber} {task : Task}

/-- What becomes of the registry, and of the task, when the task goes on from an answer. -/
inductive Registers (host : Host) (number : TaskNumber) (task : Task) (answer : Answer) :
    Host → Prop
  | keeps (next : Host) (lock : Option Nat) (state : TaskState)
      (registry : next.registry = host.registry)
      (found : next.task? number = some { task with lock, state })
      (goes : ∀ other, state ≠ .answered other)
      (owes : (TaskState.answered answer).owes = true → state.owes = true)
      (holds : state.holds? = (TaskState.answered answer).holds?) :
      Registers host number task answer next
  | takes (running : Instance) (ending : Ending) (locked : answer = .locked)
      (registered : host.running? task.bot = some running) (unrecords : ending.unrecords = true) :
      Registers host number task answer
        ((host.unregister task.bot).tearDown number running ending)
  | enrolls (running : Instance) (recorded : answer = .recordedRunning running (.ok ())) :
      Registers host number task answer ((host.enroll running).finish number task (.ok .done))

namespace Registers

variable (found : host.task? number = some task) (answer : Answer)

include found

theorem waitFor {wait : Wait}
    (owes : (TaskState.answered answer).owes = true → (TaskState.waiting wait).owes = true)
    (holds : (TaskState.waiting wait).holds? = (TaskState.answered answer).holds?) :
    Registers host number task answer (host.waitFor number wait) :=
  .keeps _ task.lock (.waiting wait) rfl (waitFor_found found) nofun owes holds

theorem finish (result : Except ManagerFault Success)
    (owes : (TaskState.answered answer).owes = false)
    (holds : (TaskState.answered answer).holds? = none) :
    Registers host number task answer (host.finish number task result) := by
  refine .keeps _ none (.finished result) ?_ (task?_finish_self found result) nofun ?_ holds.symm
  · rw [finish_eq]
    rfl
  · rw [owes]
    exact nofun

theorem afterStop (result : Except ManagerFault Unit)
    (owes : (TaskState.answered answer).owes = false)
    (holds : (TaskState.answered answer).holds? = none) :
    Registers host number task answer (host.afterStop number task result) := by
  have ends (result : Except ManagerFault Success) := finish found answer result owes holds
  have waits {wait : Wait} (idle : (TaskState.waiting wait).holds? = none) :
      Registers host number task answer (host.waitFor number wait) := by
    refine waitFor found answer (fun owed => ?_) (idle.trans holds.symm)
    rw [owes] at owed
    cases owed
  unfold Host.afterStop
  split
  · exact waits rfl
  · exact waits rfl
  · exact waits rfl
  · exact waits rfl
  · exact ends _
  · exact ends _

theorem begin : Registers host number task .locked (host.begin number task) := by
  have ends (result : Except ManagerFault Success) := finish found .locked result rfl rfl
  unfold Host.begin
  split
  · exact waitFor found .locked nofun rfl
  iterate 3
    split
    next registered => exact .takes _ _ rfl registered rfl
    · exact waitFor found .locked nofun rfl
  · split
    · exact ends _
    · exact waitFor found .locked nofun rfl
  · split
    next registered =>
      split
      · exact .takes _ _ rfl registered rfl
      · exact ends _
    · exact ends _

theorem connect (token : Option String) (read : Except StoreFault (Option Bot)) :
    Registers host number task (.readToStart token read) (host.connect number task token read) := by
  have ends (result : Except ManagerFault Success) :=
    finish found (.readToStart token read) result rfl rfl
  unfold Host.connect
  split
  · exact ends _
  · exact ends _
  · split
    · exact ends _
    · exact waitFor found (.readToStart token _) nofun rfl

end Registers

theorem resume_registers (found : host.task? number = some task) (answer : Answer) :
    Registers host number task answer (host.resume number task answer) := by
  cases answer with
  | locked => exact .begin found
  | readToStop read =>
    rcases read with fault | _ | bot <;> exact .afterStop found _ _ rfl rfl
  | joined running ending finished =>
    cases finished with
    | false => exact .keeps _ task.lock _ rfl (waitFor_found found) nofun id rfl
    | true => exact .waitFor found _ id rfl
  | joinedAborted running ending => exact .waitFor found _ id rfl
  | closed running ending forced =>
    cases ending with
    | stopping => exact .waitFor found _ id rfl
    | startFailed fault => exact .finish found _ _ rfl rfl
    | reaping => exact .waitFor found _ id rfl
  | recordedStopped result => exact .afterStop found _ result rfl rfl
  | recordedReaped => exact .finish found _ _ rfl rfl
  | removed present =>
    rcases present with fault | _ | _
    · exact .finish found _ _ rfl rfl
    · exact .finish found _ _ rfl rfl
    · refine .keeps _ none (.finished (.ok .done)) ?_ ?_ nofun nofun rfl <;>
        rw [show host.resume number task (.removed (.ok true)) = host.finishDeleted number task
          from rfl, finishDeleted_eq]
      · rfl
      · exact task?_changeTask_self found _
  | readToStart token read => exact .connect found token read
  | connected handlers session =>
    cases session with
    | error failure => exact .waitFor found _ nofun rfl
    | ok session => exact .keeps _ task.lock _ rfl (waitFor_found found) nofun nofun rfl
  | recordedFailed failure => exact .finish found _ _ rfl rfl
  | recordedRunning running result =>
    cases result with
    | error fault => exact .keeps _ task.lock _ rfl (waitFor_found found) nofun nofun rfl
    | ok done => exact .enrolls running rfl
  | updated bot =>
    cases bot with
    | error fault => exact .finish found _ _ rfl rfl
    | ok bot => exact .finish found _ _ rfl rfl

/-- What is registered when a task has gone on was registered before, unless the task has recorded it as
running. -/
theorem running?_of_resume (found : host.task? number = some task) {answer : Answer}
    {running : Instance}
    (registered : (host.resume number task answer).running? running.bot = some running) :
    host.running? running.bot = some running ∨ answer = .recordedRunning running (.ok ()) := by
  have registers := resume_registers found answer
  generalize host.resume number task answer = next at registers registered
  cases registers with
  | keeps _ lock state registry =>
    rw [running?, registry] at registered
    exact .inl registered
  | takes other ending =>
    change (host.unregister task.bot).running? running.bot = _ at registered
    rw [running?_unregister] at registered
    split at registered
    · cases registered
    · exact .inl registered
  | enrolls other recorded =>
    rw [finish_eq] at registered
    change (host.enroll other).running? running.bot = _ at registered
    rw [running?_enroll] at registered
    split at registered
    · obtain rfl := Option.some.inj registered
      exact .inr recorded
    · exact .inl registered

end Host

end BotHost
