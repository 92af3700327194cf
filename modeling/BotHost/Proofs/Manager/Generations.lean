/-
Instances that succeed one another.

An instance comes about with its loop, which gets the next generation. From then on it is present, in
the hands of the task that has launched it or in the registry, until a task begins to tear it down.
With that its loop is told to stop, and what a loop has been told is never taken back; since the loop
of an instance that is present has been told nothing, no instance is torn down twice.
-/

import BotHost.Proofs.Manager.Continuing
import BotHost.Proofs.Manager.History
import BotHost.Proofs.Manager.Reaping

namespace BotHost

/-- The instance whose creation is to be recorded. -/
def Wait.created? : Wait → Option Instance
  | .recordRunning running => some running
  | _ => none

/-- The instance whose loop is to come to its end. -/
def Wait.tornDown? : Wait → Option Instance
  | .join running _ _ => some running
  | _ => none

namespace Host

/-- What a task comes to wait for with its step. -/
def comesTo? (host : Host) : Move → Option Wait
  | .step (.task number) =>
    ((host.advance (.task number)).bind fun next => next.task? number).bind fun task =>
      match task.state with
      | .waiting wait => some wait
      | _ => none
  | _ => none

/-- The instance that comes about with a move. -/
def created? (host : Host) (move : Move) : Option Instance :=
  (host.comesTo? move).bind Wait.created?

/-- The instance that a task begins to tear down with a move. -/
def tornDown? (host : Host) (move : Move) : Option Instance :=
  (host.comesTo? move).bind Wait.tornDown?

variable {host next : Host} {move : Move} {number : TaskNumber} {task : Task}

/-! ### What a move begins -/

theorem comesTo?_eq_some {wait : Wait} :
    host.comesTo? move = some wait ↔ ∃ number next record, move = .step (.task number) ∧
      host.advance (.task number) = some next ∧ next.task? number = some record ∧
        record.state = .waiting wait := by
  unfold comesTo?
  split
  next number =>
    simp only [Option.bind_eq_some_iff, Move.step.injEq, Process.task.injEq]
    constructor
    · rintro ⟨record, ⟨next, stepped, found⟩, waiting⟩
      split at waiting
      next wait' state =>
        obtain rfl := Option.some.inj waiting
        exact ⟨number, next, record, rfl, stepped, found, state⟩
      · cases waiting
    · rintro ⟨_, next, record, rfl, stepped, found, state⟩
      exact ⟨record, ⟨next, stepped, found⟩, by rw [state]⟩
  next other =>
    constructor
    · exact nofun
    · rintro ⟨number, _, _, rfl, _⟩
      exact absurd rfl (other number)

/-- What comes about is the next instance. -/
theorem launched_of_created {running : Instance} (created : host.created? move = some running)
    (made : host.after? move = some next) :
    running.generation = host.nextGeneration ∧ next.nextGeneration = host.nextGeneration + 1 := by
  obtain ⟨wait, comes, created⟩ := Option.bind_eq_some_iff.mp created
  obtain ⟨number, next', record, rfl, stepped, found', waiting⟩ := comesTo?_eq_some.mp comes
  obtain rfl : next' = next := Option.some.inj (stepped.symm.trans made)
  obtain ⟨task, found, _⟩ := advance_task_cases stepped
  rcases comesTo_of_advance found stepped found' waiting with rfl | ⟨answer, answered, comes⟩
  · cases created
  cases comes with
  | leads leads => cases leads <;> cases created
  | takes | withdraws | aborts => cases created
  | launches handlers session =>
    cases created
    have launches : host.advance (.task number) =
        some (host.launch number task handlers session) :=
      advance_of_answered found answered
    obtain rfl := Option.some.inj (stepped.symm.trans launches)
    refine ⟨rfl, ?_⟩
    simp only [nextGeneration, launch, waitFor, setTaskState, changeTask, List.length_append,
      List.length_singleton]
    omega

/-- What a task begins to tear down was present. -/
theorem present_of_tornDown {running : Instance} (torn : host.tornDown? move = some running) :
    host.Present running := by
  obtain ⟨wait, comes, torn⟩ := Option.bind_eq_some_iff.mp torn
  obtain ⟨number, next, record, rfl, stepped, found', waiting⟩ := comesTo?_eq_some.mp comes
  obtain ⟨task, found, _⟩ := advance_task_cases stepped
  rcases comesTo_of_advance found stepped found' waiting with rfl | ⟨answer, answered, comes⟩
  · cases torn
  cases comes with
  | leads leads => cases leads <;> cases torn
  | takes running ending deadline registered =>
    cases torn
    left
    rw [host.running?_bot registered, registered]
  | withdraws running fault ending deadline =>
    cases torn
    exact .inr ⟨number, task, found, by rw [answered]; rfl⟩
  | aborts | launches => cases torn

/-! ### Loops that have been told to stop -/

/-- The loop of a generation has been told to stop. -/
def Told (host : Host) (generation : Nat) : Prop :=
  ∃ loop, host.loop? generation = some loop ∧ loop.cancelled = true

theorem told_of_tornDown (reachable : next.Reachable) (made : host.after? move = some next)
    {running : Instance} (torn : host.tornDown? move = some running) :
    next.Told running.generation := by
  obtain ⟨wait, comes, torn⟩ := Option.bind_eq_some_iff.mp torn
  obtain ⟨number, next', record, rfl, stepped, found, waiting⟩ := comesTo?_eq_some.mp comes
  obtain rfl : next' = next := Option.some.inj (stepped.symm.trans made)
  have charge : record.state.charge? = some (.cancelled, running) := by
    rw [waiting]
    cases wait <;> cases torn
    rfl
  obtain ⟨_, loop, there, _, _, _, cancelled, _⟩ := reachable.custody.charged found charge
  exact ⟨loop, there, cancelled⟩

theorem not_told_of_present (reachable : host.Reachable) {running : Instance}
    (present : host.Present running) : ¬host.Told running.generation := by
  rintro ⟨loop, there, cancelled⟩
  obtain ⟨loop', there', _, _, _, calm, _⟩ := reachable.custody.present present
  obtain rfl : loop = loop' := Option.some.inj (there.symm.trans there')
  exact absurd (calm.symm.trans cancelled) nofun

namespace Told

variable {generation : Nat} (told : host.Told generation)

include told

theorem congr (loops : next.loops = host.loops) : next.Told generation := by
  obtain ⟨loop, there, cancelled⟩ := told
  exact ⟨loop, by rw [loop?, loops]; exact there, cancelled⟩

theorem changeLoop (changed : Nat) {change : SessionLoop → SessionLoop}
    (keeps : ∀ loop, loop.cancelled = true → (change loop).cancelled = true) :
    (host.changeLoop changed change).Told generation := by
  obtain ⟨loop, there, cancelled⟩ := told
  obtain ⟨positive, there⟩ := host.loop?_eq_some.mp there
  have modified := List.getElem?_modify change (changed - firstGeneration) host.loops
    (generation - firstGeneration)
  rw [there, Option.map_eq_map, Option.map_some] at modified
  refine ⟨_, loop?_eq_some _ |>.mpr ⟨positive, modified⟩, ?_⟩
  split
  · exact keeps loop cancelled
  · exact cancelled

theorem moveLoop (moved : Nat) (waiting : List Event) (state : LoopState)
    (recorded : List (String × Call)) (sendsStarted : Nat) :
    (host.moveLoop moved waiting state recorded sendsStarted).Told generation := by
  have same : { host with transport := { host.transport with recorded, sendsStarted } }.Told
      generation := told.congr rfl
  exact same.changeLoop moved fun _ cancelled => cancelled

theorem resume {number : TaskNumber} {task : Task} (answer : Answer) :
    (host.resume number task answer).Told generation := by
  have goes := resume_continues host number task answer
  generalize host.resume number task answer = next at goes
  cases goes with
  | waits => exact told.congr rfl
  | takes running ending =>
    have left : (host.unregister task.bot).Told generation := told.congr rfl
    exact (left.changeLoop running.generation fun _ _ => rfl).congr rfl
  | withdraws running fault =>
    exact (told.changeLoop running.generation fun _ _ => rfl).congr rfl
  | aborts running ending =>
    have marked : (host.changeLoop running.generation fun loop =>
        { loop with aborted := true }).Told generation :=
      told.changeLoop running.generation fun _ cancelled => cancelled
    exact marked.congr rfl
  | launches handlers session =>
    obtain ⟨loop, there, cancelled⟩ := told
    refine ⟨loop, (host.loop?_append _ generation).trans ?_, cancelled⟩
    rw [if_neg (Nat.ne_of_lt (host.loop?_lt there)), there]
  | enrolls running =>
    rw [finish_eq]
    exact told.congr rfl
  | ends _ result =>
    rw [finish_eq]
    exact told.congr rfl
  | deletes =>
    rw [finishDeleted_eq]
    exact told.congr rfl

theorem step {process : Process} (stepped : host.advance process = some next) :
    next.Told generation := by
  cases process with
  | loop moved =>
    obtain ⟨loop, found, _, waiting, state, recorded, sendsStarted, ⟨rfl, _⟩ | ⟨rfl, _⟩⟩ :=
      advance_loop_cases stepped
    · exact told.moveLoop ..
    · exact (told.moveLoop ..).congr rfl
  | task number =>
    obtain ⟨task, found, ⟨_, rfl⟩ | ⟨wait, answer, answered, _, taken, rfl⟩ | ⟨answer, _, rfl⟩⟩ :=
      advance_task_cases stepped
    · exact told.congr rfl
    · obtain ⟨store, transport, rfl⟩ := answer?_eq taken
      exact told.congr rfl
    · exact told.resume answer

/-- What a loop has been told is never taken back. -/
theorem kept (made : host.after? move = some next) : next.Told generation := by
  refine @after?_kept (fun host => host.Told generation) ?_ ?_ ?_ ?_ _ _ _ told made
  · exact fun _ _ _ told => told.congr rfl
  · exact fun waiting told _ _ => told.moveLoop _ waiting _ _ _
  · exact fun _ _ _ _ told _ => told.congr rfl
  · exact fun told stepped => told.step stepped

end Told

/-! ### Instances that are present -/

theorem nextGeneration_le_of_advance {process : Process}
    (stepped : host.advance process = some next) : host.nextGeneration ≤ next.nextGeneration := by
  have same (loops : next.loops.length = host.loops.length) :
      host.nextGeneration ≤ next.nextGeneration :=
    Nat.le_of_eq (by rw [nextGeneration, nextGeneration, loops])
  cases process with
  | loop generation =>
    obtain ⟨loop, found, _, waiting, state, recorded, sendsStarted, ⟨rfl, _⟩ | ⟨rfl, _⟩⟩ :=
      advance_loop_cases stepped
    · exact same (List.length_modify ..)
    · exact same (List.length_modify ..)
  | task number =>
    obtain ⟨task, found, ⟨_, rfl⟩ | ⟨wait, answer, answered, _, taken, rfl⟩ | ⟨answer, _, rfl⟩⟩ :=
      advance_task_cases stepped
    · exact same rfl
    · obtain ⟨store, transport, rfl⟩ := answer?_eq taken
      exact same rfl
    · rcases host.resume_launches number task answer with ⟨_, marked⟩ |
        ⟨handlers, session, _, launched⟩
      · have length := congrArg List.length marked
        rw [List.length_map, List.length_map] at length
        exact same length
      · have length : (host.launch number task handlers session).loops.length =
            host.loops.length + 1 := List.length_append
        rw [launched, nextGeneration, nextGeneration, length]
        omega

/-- Loops come and do not go. -/
theorem nextGeneration_le (made : host.after? move = some next) :
    host.nextGeneration ≤ next.nextGeneration := by
  refine @after?_kept (fun next => host.nextGeneration ≤ next.nextGeneration) ?_ ?_ ?_ ?_ _ _ _
    (Nat.le_refl _) made
  · exact fun _ _ _ before => before
  · intro middle _ _ waiting before _ _
    refine Nat.le_trans before (Nat.add_le_add_left ?_ firstGeneration)
    exact Nat.le_of_eq (List.length_modify ..).symm
  · exact fun _ _ _ _ before _ => before
  · exact fun before stepped => Nat.le_trans before (nextGeneration_le_of_advance stepped)

theorem Present.congr {running : Instance} (present : next.Present running)
    (registry : next.registry = host.registry) (tasks : next.tasks = host.tasks) :
    host.Present running := by
  rcases present with registered | ⟨number, task, found, charge⟩
  · left
    rw [running?, registry] at registered
    exact registered
  · refine .inr ⟨number, task, ?_, charge⟩
    rw [task?, tasks] at found
    exact found

theorem Present.of_addTask {operation : Operation} {bot : String} {running : Instance}
    (present : (host.addTask operation bot).2.Present running) : host.Present running := by
  rcases present with registered | ⟨number, task, found, charge⟩
  · exact .inl registered
  · obtain ⟨rfl, rfl⟩ | found := task?_addTask_cases found
    · cases charge
    · exact .inr ⟨number, task, found, charge⟩

/-- What is present after a task's step was present before, or has come about with the step. -/
theorem present_of_advance (stepped : host.advance (.task number) = some next) {running : Instance}
    (present : next.Present running) :
    host.Present running ∨ host.created? (.step (.task number)) = some running := by
  rcases present with registered | ⟨other, record, found', charge⟩
  · left
    obtain ⟨task, found, ⟨_, rfl⟩ | ⟨wait, answer, answered, _, taken, rfl⟩ |
      ⟨answer, answered, rfl⟩⟩ := advance_task_cases stepped
    · exact .inl registered
    · obtain ⟨store, transport, rfl⟩ := answer?_eq taken
      exact .inl registered
    · rcases running?_of_resume found registered with before | rfl
      · exact .inl before
      · exact .inr ⟨number, task, found, by rw [answered]; rfl⟩
  by_cases own : other = number
  · subst own
    obtain ⟨task, found, ⟨_, rfl⟩ | ⟨wait, answer, answered, waiting, taken, rfl⟩ |
      ⟨answer, answered, rfl⟩⟩ := advance_task_cases stepped
    · have there : (host.requestLock other task).task? other = some _ := task?_changeTask_self found _
      obtain rfl := Option.some.inj (there.symm.trans found')
      cases charge
    · rw [task?_setTaskState, if_pos rfl] at found'
      obtain ⟨_, _, rfl⟩ := Option.map_eq_some_iff.mp found'
      refine .inl (.inr ⟨other, task, found, ?_⟩)
      rw [waiting]
      exact answer?_launched taken charge
    · right
      rcases resume_comesTo found found' with ⟨result, finished⟩ | ⟨wait, waiting, comes⟩
      · rw [finished] at charge
        cases charge
      · have created : wait.created? = some running := by
          rw [waiting] at charge
          cases wait <;> cases charge
          rfl
        have comes : host.comesTo? (.step (.task other)) = some wait :=
          comesTo?_eq_some.mpr ⟨other, _, record, rfl, stepped, found', waiting⟩
        rw [created?, comes]
        exact created
  · rw [advance_task_other stepped own] at found'
    exact .inl (.inr ⟨other, record, found', charge⟩)

theorem present_of_move (made : host.after? move = some next) {running : Instance}
    (present : next.Present running) :
    host.Present running ∨ host.created? move = some running := by
  by_cases isStep : ∀ process, move ≠ .step process
  · left
    refine @after?_kept_aside (fun next => next.Present running → host.Present running) ?_ ?_ ?_ _ _ _
      id made isStep present
    · exact fun _ _ _ before present => before present.of_addTask
    · exact fun _ before _ _ present => before (present.congr rfl rfl)
    · exact fun _ _ _ _ before _ present => before (present.congr rfl rfl)
  obtain ⟨process, rfl⟩ : ∃ process, move = .step process := by simpa using isStep
  cases process with
  | loop generation =>
    left
    change host.advance (.loop generation) = some next at made
    obtain ⟨loop, found, _, waiting, state, recorded, sendsStarted, ⟨rfl, _⟩ | ⟨rfl, _⟩⟩ :=
      advance_loop_cases made
    · exact present.congr rfl rfl
    · exact Present.congr present.of_addTask rfl rfl
  | task number => exact present_of_advance made present

/-! ### The instances of a run -/

/-- The instances of a run: those that have come about, in the order of their generations, and those
of them that have been torn down, each once. -/
structure Succession (first : Host) (moves : List Move) (host : Host) : Prop where
  present : ∀ {running : Instance}, host.Present running → running ∈ along created? first moves
  earlier : ∀ running ∈ along created? first moves, running.generation < host.nextGeneration
  ascending : ((along created? first moves).map Instance.generation).Pairwise (· < ·)
  existed : ∀ running ∈ along tornDown? first moves, running ∈ along created? first moves
  told : ∀ running ∈ along tornDown? first moves, host.Told running.generation
  once : ((along tornDown? first moves).map Instance.generation).Nodup

namespace Succession

variable {first : Host} {moves : List Move}

theorem extend (succession : Succession first moves host) (reachable : host.Reachable)
    (run : Run first moves host) (made : host.after? move = some next) :
    Succession first (moves ++ [move]) next := by
  have created : along created? first (moves ++ [move]) =
      along created? first moves ++ (host.created? move).toList := run.along_concat made
  have torn : along tornDown? first (moves ++ [move]) =
      along tornDown? first moves ++ (host.tornDown? move).toList := run.along_concat made
  have launched {running : Instance} (member : running ∈ (host.created? move).toList) :=
    launched_of_created (Option.mem_toList.mp member) made
  constructor
  · intro running present
    rw [created, List.mem_append, Option.mem_toList]
    exact (present_of_move made present).imp succession.present id
  · intro running member
    rw [created, List.mem_append] at member
    rcases member with before | now
    · exact Nat.lt_of_lt_of_le (succession.earlier running before) (nextGeneration_le made)
    · obtain ⟨same, more⟩ := launched now
      omega
  · rw [created, List.map_append, List.pairwise_append]
    refine ⟨succession.ascending, ?_, ?_⟩
    · cases host.created? move <;> simp
    · intro generation before generation' now
      obtain ⟨running, member, rfl⟩ := List.mem_map.mp before
      obtain ⟨running', member', rfl⟩ := List.mem_map.mp now
      rw [(launched member').1]
      exact succession.earlier running member
  · intro running member
    rw [torn, List.mem_append, Option.mem_toList] at member
    rw [created, List.mem_append]
    left
    rcases member with before | now
    · exact succession.existed running before
    · exact succession.present (present_of_tornDown now)
  · intro running member
    rw [torn, List.mem_append, Option.mem_toList] at member
    rcases member with before | now
    · exact (succession.told running before).kept made
    · exact told_of_tornDown (reachable.run (.move made (.rest next))) made now
  · rw [torn, List.map_append, List.nodup_append']
    refine ⟨succession.once, ?_, ?_⟩
    · cases host.tornDown? move <;> simp
    · intro generation before now
      obtain ⟨running, member, same⟩ := List.mem_map.mp before
      obtain ⟨running', member', rfl⟩ := List.mem_map.mp now
      have present := present_of_tornDown (Option.mem_toList.mp member')
      exact not_told_of_present reachable present (same ▸ succession.told running member)

end Succession

theorem Run.succession {patterns : PatternEngine} {settings : ManagerSettings} {bots : List Bot} {moves : List Move}
    (run : Run (seeded patterns settings bots) moves host) : Succession (seeded patterns settings bots) moves host := by
  refine @Run.keeps_history _ _ _ (Succession (seeded patterns settings bots)) ?_ ?_ run
  · exact ⟨by rintro running (registered | ⟨_, _, found, _⟩) <;> contradiction, nofun, .nil, nofun,
      nofun, .nil⟩
  · exact fun run succession made => succession.extend ⟨patterns, settings, bots, _, run⟩ run made

/-- An instance that is present at the end of a run was present at the beginning, or has come about in
between. -/
theorem Run.present {moves : List Move} (run : Run host moves next) {running : Instance}
    (present : next.Present running) :
    host.Present running ∨ host.nextGeneration ≤ running.generation := by
  induction run with
  | rest => exact .inl present
  | move made _ inductionHypothesis =>
    rcases inductionHypothesis present with before | later
    · rcases present_of_move made before with before | created
      · exact .inl before
      · exact .inr (Nat.le_of_eq (launched_of_created created made).1.symm)
    · exact .inr (Nat.le_trans (nextGeneration_le made) later)

end Host

end BotHost
