/-
Instances whose sessions have ended.

A loop that finds that its session has ended finishes on its own and leaves behind a task that reaps
its instance. As long as the instance is registered, or is about to be, this task has not gone beyond
the lock of the bot: when it does, the instance leaves the registry.
-/

import BotHost.Proofs.Manager.Registry
import BotHost.Proofs.Manager.Silence

namespace BotHost

/-- Whether a task has not done anything yet. -/
def TaskState.early : TaskState → Bool
  | .created | .waiting .lock | .answered .locked => true
  | _ => false

/-! ### Tasks that reap -/

/-- Whether a task may be one that reaps, as far as it has come. -/
def TaskState.reaps : TaskState → Bool
  | .created | .waiting .lock | .answered .locked | .waiting .recordReaped
  | .answered .recordedReaped | .finished _ => true
  | .waiting (.join _ ending _) | .answered (.joined _ ending _) | .waiting (.joinAborted _ ending)
  | .answered (.joinedAborted _ ending) | .waiting (.close _ ending _ _ _)
  | .answered (.closed _ ending _) => ending == .reaping
  | _ => false

namespace Host

/-- An instance is registered, or has been launched to be registered. -/
def Present (host : Host) (running : Instance) : Prop :=
  host.running? running.bot = some running ∨ ∃ number task, host.task? number = some task ∧
    task.state.charge? = some (.launched, running)

/-- There is a task that is to reap the instance of a generation and has not begun to. -/
def ToReap (host : Host) (running : Instance) : Prop :=
  ∃ number task, host.task? number = some task ∧ task.operation = .reap running.generation ∧
    task.bot = running.bot ∧ task.state.early = true

/-- Each instance that is present is to be reaped once its loop has finished. -/
structure Attended (host : Host) : Prop where
  pending : ∀ {running : Instance} {loop : SessionLoop}, host.Present running →
    host.loop? running.generation = some loop → loop.state = .finished → host.ToReap running

variable {host next : Host} {number : TaskNumber} {task : Task}

/-- The loop of an instance that is present has not been told to stop. -/
theorem Custody.present (custody : host.Custody) {running : Instance}
    (present : host.Present running) : host.Bears .running running := by
  rcases present with registered | ⟨number, task, found, charge⟩
  · exact custody.registered registered
  · obtain ⟨_, loop, there, ofLoop, session, handlers, shown⟩ := custody.charged found charge
    exact ⟨loop, there, ofLoop, session, handlers, shown⟩

/-- Two instances that are present and have one loop are the same. -/
theorem Custody.present_unique (custody : host.Custody) (orderly : host.Orderly)
    {running other : Instance} (present : host.Present running) (present' : host.Present other)
    (same : running.bot = other.bot) : running = other := by
  have launched {running : Instance} {number : TaskNumber} {task : Task}
      (found : host.task? number = some task)
      (charge : task.state.charge? = some (.launched, running)) :
      running.bot = task.bot ∧ task.state.inside = true ∧ host.running? running.bot = none := by
    have vacant := Task.vacant_of_charge charge
    have ofBot := (custody.charged found charge).1
    exact ⟨ofBot, Task.inside_of_vacant vacant, ofBot ▸ custody.vacant found vacant⟩
  rcases present with registered | ⟨number, task, found, charge⟩ <;>
    rcases present' with registered' | ⟨number', task', found', charge'⟩
  · rw [same, registered'] at registered
    exact (Option.some.inj registered).symm
  · rw [same, (launched found' charge').2.2] at registered
    cases registered
  · rw [← same, (launched found charge).2.2] at registered'
    cases registered'
  · obtain ⟨ofBot, inside, _⟩ := launched found charge
    obtain ⟨ofBot', inside', _⟩ := launched found' charge'
    have one := orderly.alone found found' inside inside' (by rw [← ofBot, ← ofBot', same])
    subst one
    rw [found] at found'
    obtain rfl := Option.some.inj found'
    rw [charge] at charge'
    simpa using charge'

/-- A task that goes on and has launched an instance then has launched the next one. -/
theorem resume_launched (found : host.task? number = some task) {answer : Answer} {record : Task}
    (found' : (host.resume number task answer).task? number = some record) {running : Instance}
    (charge : record.state.charge? = some (.launched, running)) :
    running.generation = host.nextGeneration := by
  have goes := goesOn_resume host number task answer
  generalize host.resume number task answer = next at goes found'
  cases goes with
  | waits _ registry loops wait other idle =>
    have found : (host.withInstances registry loops).task? number = some task := found
    rw [waitFor_found found] at found'
    obtain rfl := Option.some.inj found'
    cases wait with
    | recordRunning running => exact absurd rfl (idle running)
    | _ => cases charge
  | launches handlers session =>
    change (Host.waitFor _ number _).task? number = _ at found'
    rw [task?_waitFor, if_pos rfl] at found'
    obtain ⟨_, _, rfl⟩ := Option.map_eq_some_iff.mp found'
    cases charge
    rfl
  | ends _ registry result =>
    rw [task?_finish, if_pos rfl] at found'
    obtain ⟨_, _, rfl⟩ := Option.map_eq_some_iff.mp found'
    cases charge
  | deletes =>
    rw [finishDeleted_eq] at found'
    change (host.changeTask number _).task? number = _ at found'
    rw [task?_changeTask, if_pos rfl] at found'
    obtain ⟨_, _, rfl⟩ := Option.map_eq_some_iff.mp found'
    cases charge

/-- A task that takes an answer has launched what it has launched before. -/
theorem answer?_launched {wait : Wait} {answer : Answer} {answered : Host}
    (taken : host.answer? number task wait = some (answer, answered)) {running : Instance}
    (charge : (TaskState.answered answer).charge? = some (.launched, running)) :
    (TaskState.waiting wait).charge? = some (.launched, running) := by
  cases answers_of_answer? taken <;> first | exact charge | cases charge

/-- A loop that has finished when a task has gone on had finished before. -/
theorem resume_loop?_of_finished {answer : Answer} {generation : Nat} {loop : SessionLoop}
    (there : (host.resume number task answer).loop? generation = some loop)
    (finished : loop.state = .finished) :
    ∃ before, host.loop? generation = some before ∧ before.state = .finished := by
  rcases host.resume_launches number task answer with ⟨_, marked⟩ | ⟨_, _, _, launched⟩
  · obtain ⟨before, found, same⟩ := loop?_unmarked marked there
    exact ⟨before, found, (congrArg (·.state) same).trans finished⟩
  · rw [launched] at there
    change { host with loops := host.loops ++ [_] }.loop? generation = some loop at there
    rw [loop?_append] at there
    split at there
    · obtain rfl := Option.some.inj there
      cases finished
    · exact ⟨loop, there, finished⟩

namespace Attended

theorem congr (attended : host.Attended) (present : ∀ running, next.Present running →
      host.Present running)
    (loops : ∀ {generation : Nat} {loop : SessionLoop}, next.loop? generation = some loop →
      loop.state = .finished →
        ∃ before, host.loop? generation = some before ∧ before.state = .finished)
    (tasks : ∀ {running : Instance}, next.Present running → host.ToReap running →
      next.ToReap running) : next.Attended := by
  constructor
  intro running loop there found finished
  obtain ⟨before, found', finished'⟩ := loops found finished
  exact tasks there (attended.pending (present running there) found' finished')

theorem addTask (attended : host.Attended) (operation : Operation) (bot : String) :
    (host.addTask operation bot).2.Attended := by
  refine attended.congr ?_ (fun there finished => ⟨_, there, finished⟩) ?_
  · rintro running (registered | ⟨number, task, found, charge⟩)
    · exact .inl registered
    · obtain ⟨rfl, rfl⟩ | found := task?_addTask_cases found
      · cases charge
      · exact .inr ⟨number, task, found, charge⟩
  · rintro running _ ⟨number, task, found, reaps⟩
    exact ⟨number, task, task?_addTask_of_some found _ _, reaps⟩

/-- A loop goes on and does not finish, or finishes because it was told to. -/
theorem moveLoop (attended : host.Attended) (custody : host.Custody) {generation : Nat}
    {loop : SessionLoop} (found : host.loop? generation = some loop) (waiting : List Event)
    {state : LoopState} (told : state = .finished → loop.cancelled = true ∨ loop.aborted = true)
    (recorded : List (String × Call)) (sendsStarted : Nat) :
    (host.moveLoop generation waiting state recorded sendsStarted).Attended := by
  constructor
  intro running loop' present there finished
  have before : host.Present running := present
  rw [loop?_moveLoop found] at there
  split at there
  next same =>
    obtain rfl := Option.some.inj there
    obtain ⟨loop', there', _, _, _, calm⟩ := custody.present before
    rw [same, found] at there'
    obtain rfl := Option.some.inj there'
    rcases told finished with cancelled | aborted
    · exact absurd (calm.1.symm.trans cancelled) nofun
    · exact absurd (calm.2.symm.trans aborted) nofun
  next => exact attended.pending before there finished

/-- A loop finishes on its own, and asks to be reaped. -/
theorem endsItself (attended : host.Attended) (custody : host.Custody) {generation : Nat}
    {loop : SessionLoop} (found : host.loop? generation = some loop) (waiting : List Event)
    (state : LoopState) (recorded : List (String × Call)) (sendsStarted : Nat) :
    ((host.moveLoop generation waiting state recorded sendsStarted).addTask (.reap generation)
      loop.bot).2.Attended := by
  constructor
  intro running loop' present there finished
  have before : host.Present running := by
    rcases present with registered | ⟨number, task, found', charge⟩
    · exact .inl registered
    · obtain ⟨rfl, rfl⟩ | found' := task?_addTask_cases found'
      · cases charge
      · exact .inr ⟨number, task, found', charge⟩
  change (host.moveLoop generation waiting state recorded sendsStarted).loop? _ = _ at there
  rw [loop?_moveLoop found] at there
  split at there
  next same =>
    obtain ⟨loop', there', ofLoop, _⟩ := custody.present before
    rw [same, found] at there'
    obtain rfl := Option.some.inj there'
    refine ⟨host.tasks.length, ⟨.reap generation, loop.bot, none, .created⟩, ?_, by rw [same], ofLoop,
      rfl⟩
    exact task?_addTask_self ..
  next =>
    obtain ⟨number, task, found', reaps⟩ := attended.pending before there finished
    have moved : (host.moveLoop generation waiting state recorded sendsStarted).task? number =
        some task := found'
    exact ⟨number, task, task?_addTask_of_some moved _ _, reaps⟩

/-- A task goes on that launches nothing and is, if it was to reap, still to reap. -/
theorem changeTask (attended : host.Attended) (found : host.task? number = some task)
    {state : TaskState} {change : Task → Task}
    (changes : ∃ lock, change task = { task with lock, state })
    (launched : ∀ running, state.charge? = some (.launched, running) →
      task.state.charge? = some (.launched, running))
    (early : task.state.early = true → state.early = true) :
    (host.changeTask number change).Attended := by
  obtain ⟨lock, changes⟩ := changes
  refine attended.congr ?_ (fun there finished => ⟨_, there, finished⟩) ?_
  · rintro running (registered | ⟨other, record, there, charge⟩)
    · exact .inl registered
    · obtain ⟨rfl, rfl⟩ | ⟨_, there⟩ := task?_changeTask_cases found there
      · rw [changes] at charge
        exact .inr ⟨other, task, found, launched running charge⟩
      · exact .inr ⟨other, record, there, charge⟩
  · rintro running _ ⟨other, record, there, operation, ofBot, waits⟩
    by_cases same : other = number
    · subst same
      rw [found] at there
      obtain rfl := Option.some.inj there
      refine ⟨other, { task with lock, state }, ?_, operation, ofBot, early waits⟩
      rw [task?_changeTask_self found, changes]
    · exact ⟨other, record, by rw [task?_changeTask, if_neg same, there], operation, ofBot, waits⟩

/-- What is present when a task has gone on was present before, unless the task has launched it; and the task
was not about to reap it, since then it would have taken it out of the registry. -/
theorem present_of_resume (orderly : host.Orderly) (custody : host.Custody)
    (found : host.task? number = some task) {answer : Answer}
    (answered : task.state = .answered answer) {running : Instance}
    (present : (host.resume number task answer).Present running) :
    running.generation = host.nextGeneration ∨ host.Present running ∧
      (task.operation = .reap running.generation → task.bot = running.bot →
        answer ≠ .locked) := by
  rcases present with registered | ⟨other, record, found', charge⟩
  · right
    have taken (operation : task.operation = .reap running.generation)
        (before : host.running? task.bot = some running) :
        (host.resume number task .locked).running? task.bot = none := by
      have begins : host.resume number task .locked =
          (host.unregister task.bot).tearDown number running .reaping := by
        show host.begin number task = _
        rw [Host.begin, operation]
        dsimp only
        rw [before]
        exact if_pos rfl
      rw [begins]
      exact (running?_unregister host task.bot task.bot).trans (if_pos rfl)
    have before := running?_of_resume found registered
    constructor
    · rcases before with before | rfl
      · exact .inl before
      · exact .inr ⟨number, task, found, by rw [answered]; rfl⟩
    · rintro operation ofBot rfl
      rcases before with before | recorded
      · rw [← ofBot] at registered before
        exact absurd ((taken operation before).symm.trans registered) nofun
      · cases recorded
  · by_cases own : other = number
    · subst own
      exact .inl (resume_launched found found' charge)
    · obtain ⟨_, others⟩ := host.resume_frame number task answer
      rw [others own] at found'
      refine .inr ⟨.inr ⟨other, record, found', charge⟩, fun _ ofBot _ => ?_⟩
      have inside := Task.inside_of_vacant (Task.vacant_of_charge charge)
      have inside' : task.state.inside = true := by
        rw [answered]
        rfl
      exact own (orderly.alone found found' inside' inside
        ((custody.charged found' charge).1.symm.trans ofBot.symm))

/-- However a task goes on, what has finished is still to be reaped. -/
theorem resume (attended : host.Attended) (orderly : host.Orderly) (custody : host.Custody)
    (found : host.task? number = some task) {answer : Answer}
    (answered : task.state = .answered answer) : (host.resume number task answer).Attended := by
  constructor
  intro running loop present there finished
  obtain ⟨before, there', finished'⟩ := resume_loop?_of_finished there finished
  rcases present_of_resume orderly custody found answered present with new | ⟨present', reaps⟩
  · exact absurd (host.loop?_lt there') (by rw [new]; exact Nat.lt_irrefl _)
  · obtain ⟨other, record, found', operation, ofBot, early⟩ :=
      attended.pending present' there' finished'
    have different : other ≠ number := by
      rintro rfl
      rw [found] at found'
      obtain rfl := Option.some.inj found'
      have locked : answer = .locked := by
        rw [answered] at early
        cases answer with
        | locked => rfl
        | _ => cases early
      exact reaps operation ofBot locked
    obtain ⟨_, others⟩ := host.resume_frame number task answer
    exact ⟨other, record, (others different).trans found', operation, ofBot, early⟩

/-- With an answer nothing is launched, and a task is past its lock only if it has got it. -/
theorem answer (attended : host.Attended) (found : host.task? number = some task) {wait : Wait}
    (waiting : task.state = .waiting wait) {answer : Answer} {answered : Host}
    (taken : host.answer? number task wait = some (answer, answered)) :
    (answered.setTaskState number (.answered answer)).Attended := by
  have launched (running : Instance)
      (charge : (TaskState.answered answer).charge? = some (.launched, running)) :
      task.state.charge? = some (.launched, running) := by
    rw [waiting]
    exact answer?_launched taken charge
  have early (before : task.state.early = true) : (TaskState.answered answer).early = true := by
    rw [waiting] at before
    cases answers_of_answer? taken with
    | locked => rfl
    | _ => cases before
  obtain ⟨store, transport, rfl⟩ := answer?_eq taken
  have same : { host with store, transport }.Attended :=
    attended.congr (fun _ present => present) (fun there finished => ⟨_, there, finished⟩)
      fun _ reaps => reaps
  have found' : { host with store, transport }.task? number = some task := found
  exact same.changeTask found' ⟨task.lock, rfl⟩ launched early

/-- With every step what has finished is still to be reaped. -/
theorem step (attended : host.Attended) (reachable : host.Reachable) {process : Process}
    (stepped : host.advance process = some next) : next.Attended := by
  cases process with
  | loop generation =>
    obtain ⟨loop, found, _, waiting, state, recorded, sendsStarted, ⟨rfl, told⟩ | ⟨rfl, _⟩⟩ :=
      advance_loop_cases stepped
    · exact attended.moveLoop reachable.custody found waiting told recorded sendsStarted
    · exact attended.endsItself reachable.custody found waiting state recorded sendsStarted
  | task number =>
    obtain ⟨task, found, ⟨created, rfl⟩ | ⟨wait, answer, answered, waiting, taken, rfl⟩ |
      ⟨answer, answered, rfl⟩⟩ := advance_task_cases stepped
    · obtain ⟨locks, lock, asks⟩ := host.requestLock_eq number task
      rw [asks]
      have asked : { host with locks }.Attended :=
        attended.congr (fun _ present => present) (fun there finished => ⟨_, there, finished⟩)
          fun _ reaps => reaps
      have found' : { host with locks }.task? number = some task := found
      exact asked.changeTask found' ⟨_, rfl⟩ (by rintro _ ⟨⟩) fun _ => rfl
    · exact attended.answer found waiting taken
    · exact attended.resume reachable.orderly reachable.custody found answered

theorem move (attended : host.Attended) (reachable : host.Reachable) {move : Move}
    (made : host.after? move = some next) : next.Attended := by
  by_cases isStep : ∀ process, move ≠ .step process
  · have both : next.Custody ∧ next.Attended := by
      refine @after?_kept_aside (fun host => host.Custody ∧ host.Attended) ?_ ?_ ?_ _ _ _
        ⟨reachable.custody, attended⟩ made isStep
      · exact fun operation bot _ before =>
          ⟨before.1.addTask operation bot, before.2.addTask operation bot⟩
      · exact fun waiting before found unfinished =>
          ⟨before.1.moveLoop found unfinished waiting _ _ _,
            before.2.moveLoop before.1 found waiting (fun finished => absurd finished unfinished) _ _⟩
      · exact fun _ _ _ _ before _ => ⟨before.1.congr rfl rfl rfl,
          before.2.congr (fun _ present => present) (fun there finished => ⟨_, there, finished⟩)
            fun _ reaps => reaps⟩
    exact both.2
  · obtain ⟨process, rfl⟩ : ∃ process, move = .step process := by simpa using isStep
    exact attended.step reachable made

theorem seeded (patterns : PatternEngine) (settings : ManagerSettings) (bots : List Bot) :
    (Host.seeded patterns settings bots).Attended where
  pending _ there := absurd there (by simp [loop?, Host.seeded])

end Attended

/-- On every reachable host what has finished is still to be reaped. -/
theorem Reachable.attended (reachable : host.Reachable) : host.Attended :=
  reachable.invariant Attended.seeded fun before attended made => attended.move before made

/-! ### Tasks that reap -/

/-- Reaping concerns a loop that has finished, and is nothing but ending its instance. -/
structure Reapers (host : Host) : Prop where
  reaps : ∀ {number : TaskNumber} {task : Task} {generation : Nat},
    host.task? number = some task → task.operation = .reap generation → task.state.reaps = true
  finished : ∀ {number : TaskNumber} {task : Task} {generation : Nat},
    host.task? number = some task → task.operation = .reap generation →
      ∃ loop, host.loop? generation = some loop ∧ loop.state = .finished

/-- Whether a task may be one that reaps does not change with an answer. -/
theorem answer?_reaps {wait : Wait} {answer : Answer} {answered : Host}
    (taken : host.answer? number task wait = some (answer, answered)) :
    (TaskState.answered answer).reaps = (TaskState.waiting wait).reaps := by
  cases answers_of_answer? taken <;> rfl

/-- A task that reaps goes on to end its instance, or is done. -/
theorem resume_reaps (found : host.task? number = some task) {generation : Nat}
    (operation : task.operation = .reap generation) {answer : Answer}
    (before : (TaskState.answered answer).reaps = true) :
    ∃ lock state, (host.resume number task answer).task? number = some { task with lock, state } ∧
      state.reaps = true := by
  have waits {other : Host} {wait : Wait} (same : other.task? number = some task)
      (reaps : (TaskState.waiting wait).reaps = true) : ∃ lock state,
        (other.waitFor number wait).task? number = some { task with lock, state } ∧
          state.reaps = true :=
    ⟨task.lock, .waiting wait, waitFor_found same, reaps⟩
  have ends (result : Except ManagerFault Success) : ∃ lock state,
      (host.finish number task result).task? number = some { task with lock, state } ∧
        state.reaps = true :=
    ⟨none, .finished result, task?_finish_self found result, rfl⟩
  cases answer with
  | locked =>
    obtain ⟨_, bot, lock, state⟩ := task
    cases operation
    simp only [resume, Host.begin]
    split
    · split
      · exact waits found rfl
      · exact ends _
    · exact ends _
  | joined running ending finished =>
    cases finished <;> exact waits found before
  | joinedAborted running ending => exact waits found before
  | closed running ending forced =>
    cases ending with
    | reaping => exact waits found rfl
    | stopping | startFailed => cases before
  | recordedReaped => exact ends _
  | _ => cases before

/-- A task that reaps takes a step, and still does nothing but reap. -/
theorem advance_reaps (stepped : host.advance (.task number) = some next) :
    ∃ task, host.task? number = some task ∧ ∃ lock state,
      next.task? number = some { task with lock, state } ∧
        ∀ {generation : Nat}, task.operation = .reap generation → task.state.reaps = true →
          state.reaps = true := by
  obtain ⟨task, found, ⟨_, rfl⟩ | ⟨wait, answer, answered, waiting, taken, rfl⟩ |
    ⟨answer, answered, rfl⟩⟩ := advance_task_cases stepped
  · refine ⟨task, found, some (host.locks.obtain task.bot).1, .waiting .lock, ?_, fun _ _ => rfl⟩
    exact task?_changeTask_self found _
  · have same := answer?_reaps taken
    obtain ⟨store, transport, rfl⟩ := answer?_eq taken
    refine ⟨task, found, task.lock, .answered answer, ?_, ?_⟩
    · exact task?_changeTask_self found _
    · intro generation _ before
      rw [same, ← waiting]
      exact before
  · obtain ⟨lock, state, there⟩ := task?_after (show host.after? (.step (.task number)) =
      some (host.resume number task answer) from stepped) found
    refine ⟨task, found, lock, state, there, ?_⟩
    intro generation operation before
    obtain ⟨lock', state', there', reaps⟩ := resume_reaps found operation (answered ▸ before)
    rw [there] at there'
    cases Option.some.inj there'
    exact reaps

namespace Reapers

theorem congr (reapers : host.Reapers)
    (tasks : ∀ {number : TaskNumber} {task : Task} {generation : Nat},
      next.task? number = some task → task.operation = .reap generation →
        ∃ before, host.task? number = some before ∧ before.operation = .reap generation ∧
          (before.state.reaps = true → task.state.reaps = true))
    (loops : ∀ {generation : Nat} {loop : SessionLoop}, host.loop? generation = some loop →
      loop.state = .finished → ∃ later, next.loop? generation = some later ∧
        later.state = .finished) : next.Reapers where
  reaps := by
    intro number task generation there operation
    obtain ⟨before, found, same, reaps⟩ := tasks there operation
    exact reaps (reapers.reaps found same)
  finished := by
    intro number task generation there operation
    obtain ⟨before, found, same, _⟩ := tasks there operation
    obtain ⟨loop, there', finished⟩ := reapers.finished found same
    exact loops there' finished

theorem addTask (reapers : host.Reapers) {operation : Operation} (isCall : operation.isCall = true)
    (bot : String) : (host.addTask operation bot).2.Reapers := by
  refine reapers.congr ?_ fun there finished => ⟨_, there, finished⟩
  intro number task generation there reaps
  obtain ⟨rfl, rfl⟩ | there := task?_addTask_cases there
  · cases reaps
    cases isCall
  · exact ⟨task, there, reaps, id⟩

/-- A loop that has not finished may do so. -/
theorem moveLoop (reapers : host.Reapers) {generation : Nat} {loop : SessionLoop}
    (found : host.loop? generation = some loop) (unfinished : loop.state ≠ .finished)
    (waiting : List Event) (state : LoopState) (recorded : List (String × Call))
    (sendsStarted : Nat) :
    (host.moveLoop generation waiting state recorded sendsStarted).Reapers := by
  refine reapers.congr (fun there reaps => ⟨_, there, reaps, id⟩) ?_
  intro other loop' there finished
  refine ⟨loop', ?_, finished⟩
  rw [loop?_moveLoop found, if_neg, there]
  rintro rfl
  rw [found] at there
  obtain rfl := Option.some.inj there
  exact unfinished finished

/-- A loop that has finished on its own is to be reaped. -/
theorem endsItself (reapers : host.Reapers) {generation : Nat} {loop : SessionLoop}
    (there : host.loop? generation = some loop) (finished : loop.state = .finished)
    (bot : String) : (host.addTask (.reap generation) bot).2.Reapers where
  reaps := by
    intro number task other found operation
    obtain ⟨rfl, rfl⟩ | found := task?_addTask_cases found
    · rfl
    · exact reapers.reaps found operation
  finished := by
    intro number task other found operation
    obtain ⟨rfl, rfl⟩ | found := task?_addTask_cases found
    · cases operation
      exact ⟨loop, there, finished⟩
    · exact reapers.finished found operation

/-- With every step reaping stays with loops that have finished. -/
theorem step (reapers : host.Reapers) {process : Process}
    (stepped : host.advance process = some next) : next.Reapers := by
  cases process with
  | loop generation =>
    obtain ⟨loop, found, unfinished, waiting, state, recorded, sendsStarted,
      ⟨rfl, _⟩ | ⟨rfl, rfl, _⟩⟩ := advance_loop_cases stepped
    · exact reapers.moveLoop found unfinished _ _ _ _
    · have there := loop?_moveLoop found waiting .finished recorded sendsStarted generation
      rw [if_pos rfl] at there
      exact (reapers.moveLoop found unfinished waiting .finished recorded sendsStarted).endsItself
        there rfl loop.bot
  | task number =>
    refine reapers.congr ?_ ?_
    · intro other record generation there operation
      by_cases own : other = number
      · subst own
        obtain ⟨task, found, lock, state, there', reaps⟩ := advance_reaps stepped
        rw [there] at there'
        obtain rfl := Option.some.inj there'
        exact ⟨task, found, operation, reaps operation⟩
      · exact ⟨record, (advance_task_other stepped own).symm.trans there, operation, id⟩
    · intro generation loop there finished
      obtain ⟨later, there', same⟩ := advance_task_loop? stepped there
      exact ⟨later, there', (congrArg (·.state) same).trans finished⟩

theorem move (reapers : host.Reapers) {move : Move} (made : host.after? move = some next) :
    next.Reapers := by
  refine after?_kept (fun operation bot isCall reapers => reapers.addTask isCall bot)
    (fun waiting reapers found unfinished => reapers.moveLoop found unfinished waiting _ _ _)
    (fun _ _ _ _ reapers _ => ?_) (fun reapers stepped => reapers.step stepped) reapers made
  exact reapers.congr (fun there reaps => ⟨_, there, reaps, id⟩)
    fun there finished => ⟨_, there, finished⟩

end Reapers

/-- On every reachable host reaping concerns loops that have finished. -/
theorem Reachable.reapers (reachable : host.Reachable) : host.Reapers :=
  reachable.invariant (fun _ _ _ => ⟨nofun, nofun⟩) fun _ reapers made => Reapers.move reapers made

/-! ### No bot is registered twice -/

/-- Each bot has at most one entry in the registry. -/
def Distinct (host : Host) : Prop := (host.registry.map Instance.bot).Nodup

theorem Distinct.unregister (distinct : host.Distinct) (bot : String) :
    (host.unregister bot).Distinct :=
  List.Nodup.sublist ((List.filter_sublist ..).map Instance.bot) distinct

theorem Distinct.enroll (distinct : host.Distinct) (running : Instance) :
    (host.enroll running).Distinct := by
  refine List.nodup_cons.mpr ⟨?_, distinct.unregister running.bot⟩
  simp only [Host.unregister, List.mem_map, List.mem_filter, not_exists, not_and]
  rintro other ⟨_, different⟩ same
  simp [same] at different

/-- With every step each bot has one instance at most. -/
theorem Distinct.step (distinct : host.Distinct) {process : Process}
    (stepped : host.advance process = some next) : next.Distinct := by
  cases process with
  | loop generation =>
    obtain ⟨loop, found, _, waiting, state, recorded, sendsStarted, ⟨rfl, _⟩ | ⟨rfl, _⟩⟩ :=
      advance_loop_cases stepped
    · exact distinct
    · exact distinct
  | task number =>
    obtain ⟨task, found, ⟨created, rfl⟩ | ⟨wait, answer, answered, waiting, taken, rfl⟩ |
      ⟨answer, answered, rfl⟩⟩ := advance_task_cases stepped
    · exact distinct
    · obtain ⟨store, transport, rfl⟩ := answer?_eq taken
      exact distinct
    · have registers := resume_registers found answer
      generalize host.resume number task answer = next at registers
      cases registers with
      | keeps _ lock state registry =>
        rw [Distinct, registry]
        exact distinct
      | takes => exact distinct.unregister task.bot
      | enrolls running =>
        rw [finish_eq]
        exact distinct.enroll running

/-- On every reachable host each bot has one instance at most. -/
theorem Reachable.distinct (reachable : host.Reachable) : host.Distinct :=
  reachable.invariant (fun _ _ _ => List.nodup_nil) fun _ distinct made =>
    after?_kept (fun _ _ _ distinct => distinct) (fun _ distinct _ _ => distinct)
      (fun _ _ _ _ distinct _ => distinct) (fun distinct stepped => distinct.step stepped) distinct
      made

/-- Who is in the registry is the running instance of its bot. -/
theorem Distinct.running?_of_mem (distinct : host.Distinct) {running : Instance}
    (member : running ∈ host.registry) : host.running? running.bot = some running := by
  cases found : host.running? running.bot with
  | none =>
    have all := List.find?_eq_none.mp found running member
    simp at all
  | some other =>
    have same := host.running?_bot found
    have member' := List.mem_of_find?_eq_some found
    rw [List.inj_on_of_nodup_map distinct member' member same]

end Host

end BotHost
