/-
What a step can do.

Each step of a process is brought into one of few shapes, with everything that the shape leaves open
named. A loop's step changes what waits for the loop and what the loop does, may write to the record
of calls, and adds a task only when the loop ends because its session did. A task's step asks for the
lock, or takes an answer, or goes on; to go on is to wait again or to end, after the registry, the
loops and the sessions have been brought up to date.
-/

import BotHost.Proofs.Manager.Lookup
import BotHost.Proofs.Session.Memory

namespace BotHost

/-! ### Marks -/

/-- A loop without what others have told it. -/
def SessionLoop.unmarked (loop : SessionLoop) : SessionLoop :=
  { loop with cancelled := false, aborted := false }

/-- Marking one of the loops leaves them the same but for marks. -/
theorem SessionLoop.map_unmarked_modify (loops : List SessionLoop) (index : Nat)
    {change : SessionLoop → SessionLoop} (same : ∀ loop, (change loop).unmarked = loop.unmarked) :
    (loops.modify index change).map unmarked = loops.map unmarked := by
  refine List.ext_getElem? fun other => ?_
  rw [List.getElem?_map, List.getElem?_map, List.getElem?_modify]
  split
  · cases loops[other]? with
    | none => rfl
    | some loop => exact congrArg some (same loop)
  · rw [id_map']

/-! ### Starting -/

/-- Whether a task is about to start its bot. -/
def TaskState.starting : TaskState → Bool
  | .waiting (.readToStart _) | .answered (.readToStart _ _) | .waiting (.connect _ _ _ _)
  | .answered (.connected _ _) | .waiting (.recordFailed _) | .answered (.recordedFailed _)
  | .waiting (.recordRunning _) | .answered (.recordedRunning _ _) => true
  | _ => false

def Operation.mayStart : Operation → Bool
  | .start | .restart _ => true
  | _ => false

namespace Host

/-- Of two hosts whose loops are the same but for marks, each has the loops of the other. -/
theorem loop?_unmarked {host next : Host}
    (marked : next.loops.map SessionLoop.unmarked = host.loops.map SessionLoop.unmarked)
    {generation : Nat} {loop : SessionLoop} (there : next.loop? generation = some loop) :
    ∃ before, host.loop? generation = some before ∧ before.unmarked = loop.unmarked := by
  obtain ⟨positive, there⟩ := next.loop?_eq_some.mp there
  have same := congrArg (fun loops => loops[generation - firstGeneration]?) marked
  simp only [List.getElem?_map, there, Option.map_some] at same
  obtain ⟨before, found, equal⟩ := Option.map_eq_some_iff.mp same.symm
  exact ⟨before, host.loop?_eq_some.mpr ⟨positive, found⟩, equal⟩

/-! ### Steps of loops -/

/-- The host after a loop has gone on, with what its calls have left in the transport. -/
def moveLoop (host : Host) (generation : Nat) (waiting : List Event) (state : LoopState)
    (recorded : List (String × Call)) (sendsStarted : Nat) : Host :=
  { host with transport := { host.transport with recorded, sendsStarted } }.changeLoop generation
    fun loop => { loop with waiting, state }

/-- A loop that moves leaves every other loop as it is. -/
theorem loop?_moveLoop {host : Host} {generation : Nat} {loop : SessionLoop}
    (found : host.loop? generation = some loop) (waiting : List Event) (state : LoopState)
    (recorded : List (String × Call)) (sendsStarted other : Nat) :
    (host.moveLoop generation waiting state recorded sendsStarted).loop? other =
      if other = generation then some { loop with waiting, state } else host.loop? other :=
  loop?_changeLoop { host with transport := { host.transport with recorded, sendsStarted } } found
    (fun loop => { loop with waiting, state }) other

/-- Two changes that do the same to a loop are the same change of the host. -/
theorem changeLoop_congr (host : Host) {generation : Nat} {loop : SessionLoop}
    (found : host.loop? generation = some loop) {change other : SessionLoop → SessionLoop}
    (same : change loop = other loop) :
    host.changeLoop generation change = host.changeLoop generation other := by
  obtain ⟨_, found⟩ := host.loop?_eq_some.mp found
  simp only [changeLoop, Host.mk.injEq, true_and, and_true]
  refine List.ext_getElem? fun index => ?_
  simp only [List.getElem?_modify]
  split
  next equal =>
    subst equal
    rw [found, Option.map_eq_map, Option.map_eq_map, Option.map_some, Option.map_some, same]
  next => rfl

/-- Noting a call changes nothing of the transport but its notes. -/
theorem record_eq (transport : MemoryTransport Nat) (number : Nat) (call : Call) :
    (transport.record number call).2 =
      { transport with recorded := (transport.record number call).2.recorded } := by
  unfold MemoryTransport.record
  split
  · rfl
  · split <;> rfl

/-- What a loop does with its step: it takes an event, goes on with the calls that it has to make,
finishes because it was told to, or finds that no event can come any more and reports that. -/
inductive LoopSteps (host : Host) (generation : Nat) (loop : SessionLoop) : Host → Prop
  | takes (event : Event) (rest : List Event) (idle : loop.state = .idle)
      (waiting : loop.waiting = event :: rest) :
      LoopSteps host generation loop
        (host.moveLoop generation rest (.replying (Dispatch.calls loop.handlers event))
          host.transport.recorded host.transport.sendsStarted)
  | replies (state : LoopState) (recorded : List (String × Call)) (sendsStarted : Nat)
      (busy : loop.state ≠ .idle) (on : state ≠ .finished) :
      LoopSteps host generation loop
        (host.moveLoop generation loop.waiting state recorded sendsStarted)
  | stops (told : loop.cancelled = true ∨ loop.aborted = true) :
      LoopSteps host generation loop
        (host.moveLoop generation loop.waiting .finished host.transport.recorded
          host.transport.sendsStarted)
  | reports (idle : loop.state = .idle) (empty : loop.waiting = [])
      (deaf : host.hears generation loop = false) (active : loop.cancelled = false)
      (whole : loop.aborted = false) :
      LoopSteps host generation loop
        ((host.moveLoop generation [] .finished host.transport.recorded
          host.transport.sendsStarted).addTask (.reap generation) loop.bot).2

/-- A loop that takes a step has not finished. -/
theorem advanceLoop_steps {host next : Host} {generation : Nat} {loop : SessionLoop}
    (found : host.loop? generation = some loop)
    (stepped : host.advanceLoop generation loop = some next) :
    loop.state ≠ .finished ∧ LoopSteps host generation loop next := by
  unfold advanceLoop at stepped
  split at stepped
  · cases stepped
  next unfinished =>
  refine ⟨unfinished, ?_⟩
  have moved (recorded : List (String × Call)) (sendsStarted : Nat) (state : LoopState) :
      { host with transport := { host.transport with recorded, sendsStarted } }.setLoopState
        generation state = host.moveLoop generation loop.waiting state recorded sendsStarted :=
    changeLoop_congr { host with transport := { host.transport with recorded, sendsStarted } } found
      rfl
  have same (state : LoopState) := moved host.transport.recorded host.transport.sendsStarted state
  change ∀ state, host.setLoopState generation state = _ at same
  split at stepped
  next aborted =>
    cases stepped
    rw [same]
    exact .stops (.inr aborted)
  next whole =>
  unfold stepLoop at stepped
  split at stepped
  · cases stepped
  next idle =>
    split at stepped
    next cancelled =>
      cases stepped
      rw [same]
      exact .stops (.inl cancelled)
    next active =>
      split at stepped
      next event rest waiting =>
        cases stepped
        have taken : (host.changeLoop generation fun loop =>
            { loop with waiting := rest, state := .replying (Dispatch.calls loop.handlers event) }) =
              host.moveLoop generation rest (.replying (Dispatch.calls loop.handlers event))
                host.transport.recorded host.transport.sendsStarted :=
          changeLoop_congr host found rfl
        rw [taken]
        exact .takes event rest idle waiting
      next waiting =>
        split at stepped
        · cases stepped
        next deaf =>
          cases stepped
          rw [same, waiting]
          exact .reports idle waiting (by simpa using deaf) (by simpa using active)
            (by simpa using whole)
  next replying =>
    cases stepped
    rw [same]
    exact .replies .idle _ _ (by rw [replying]; nofun) nofun
  next call rest replying =>
    split at stepped
    · cases stepped
      rw [same]
      exact .replies (.replying rest) _ _ (by rw [replying]; nofun) nofun
    · cases stepped
      show LoopSteps host generation loop ({ host with transport := { host.transport with
        recorded := host.transport.recorded
        sendsStarted := host.transport.sendsStarted + 1 } }.setLoopState generation
          (.sending call rest (host.now + host.transport.sendDelay)))
      rw [moved]
      exact .replies _ _ _ (by rw [replying]; nofun) nofun
  next call rest due sending =>
    split at stepped
    · cases stepped
      rw [record_eq]
      show LoopSteps host generation loop ({ host with transport := { host.transport with
        recorded := (host.transport.record loop.session call).2.recorded
        sendsStarted := host.transport.sendsStarted } }.setLoopState generation (.replying rest))
      rw [moved]
      exact .replies _ _ _ (by rw [sending]; nofun) nofun
    · cases stepped

/-- A loop that takes a step goes on by itself, and is finished afterwards only if it was told to stop;
or it finds that no event can come any more and asks to be reaped. -/
theorem advance_loop_cases {host next : Host} {generation : Nat}
    (stepped : host.advance (.loop generation) = some next) :
    ∃ loop, host.loop? generation = some loop ∧ loop.state ≠ .finished ∧
      ∃ waiting state recorded sendsStarted,
        (next = host.moveLoop generation waiting state recorded sendsStarted ∧
          (state = .finished → loop.cancelled = true ∨ loop.aborted = true)) ∨
        (next = ((host.moveLoop generation waiting state recorded sendsStarted).addTask
            (.reap generation) loop.bot).2 ∧ state = .finished ∧ loop.waiting = [] ∧
          host.hears generation loop = false ∧ loop.cancelled = false ∧ loop.aborted = false) := by
  simp only [advance, Option.bind_eq_some_iff] at stepped
  obtain ⟨loop, found, stepped⟩ := stepped
  obtain ⟨unfinished, steps⟩ := advanceLoop_steps found stepped
  refine ⟨loop, found, unfinished, ?_⟩
  cases steps with
  | takes event rest => exact ⟨_, _, _, _, .inl ⟨rfl, nofun⟩⟩
  | replies state recorded sendsStarted busy on =>
    exact ⟨_, _, _, _, .inl ⟨rfl, fun finished => absurd finished on⟩⟩
  | stops told => exact ⟨_, _, _, _, .inl ⟨rfl, fun _ => told⟩⟩
  | reports idle empty deaf active whole =>
    exact ⟨_, _, _, _, .inr ⟨rfl, rfl, empty, deaf, active, whole⟩⟩

/-- An event that is handed to a loop waits for it, or is dropped. There is no loop of generation zero, and what
is handed to that goes to the first. -/
theorem deliver_cases (host : Host) (generation : Nat) (event : Event) :
    host.deliver generation event = host ∨ ∃ other loop, host.loop? other = some loop ∧
      loop.state ≠ .finished ∧ host.deliver generation event = host.moveLoop other
        (loop.waiting ++ [event]) loop.state host.transport.recorded
          host.transport.sendsStarted := by
  wlog positive : firstGeneration ≤ generation with known
  · have first : host.deliver generation event = host.deliver firstGeneration event := by
      unfold deliver changeLoop
      rw [Nat.sub_eq_zero_of_le (by omega), Nat.sub_self]
    rw [first]
    exact known host firstGeneration event (Nat.le_refl _)
  rcases found : host.loop? generation with _ | loop
  · left
    have missing : host.loops.length ≤ generation - firstGeneration := by
      simpa [loop?, positive] using found
    unfold deliver changeLoop
    rw [List.modify_eq_self missing]
  by_cases drops : loop.state = .finished ∨ host.settings.eventBuffer ≤ loop.waiting.length
  · left
    have same : host.deliver generation event = host.changeLoop generation id := by
      refine changeLoop_congr host found ?_
      exact if_pos drops
    rw [same, changeLoop, List.modify_id]
  · refine .inr ⟨generation, loop, found, fun finished => drops (.inl finished), ?_⟩
    exact changeLoop_congr host found (if_neg drops)

/-! ### Steps of tasks -/

/-- A task that takes a step asks for its lock, takes an answer, or goes on from one. -/
theorem advance_task_cases {host next : Host} {number : TaskNumber}
    (stepped : host.advance (.task number) = some next) :
    ∃ task, host.task? number = some task ∧
      ((task.state = .created ∧ next = host.requestLock number task) ∨
        (∃ wait answer answered, task.state = .waiting wait ∧
          host.answer? number task wait = some (answer, answered) ∧
          next = answered.setTaskState number (.answered answer)) ∨
        ∃ answer, task.state = .answered answer ∧ next = host.resume number task answer) := by
  simp only [advance, Option.bind_eq_some_iff] at stepped
  obtain ⟨task, found, stepped⟩ := stepped
  refine ⟨task, found, ?_⟩
  unfold advanceTask at stepped
  split at stepped
  next created => exact .inl ⟨created, (Option.some.inj stepped).symm⟩
  next wait waiting =>
    simp only [Option.map_eq_some_iff] at stepped
    obtain ⟨⟨answer, answered⟩, taken, rfl⟩ := stepped
    exact .inr (.inl ⟨wait, answer, answered, waiting, taken, rfl⟩)
  next answer answered => exact .inr (.inr ⟨answer, answered, (Option.some.inj stepped).symm⟩)
  · cases stepped

/-- A task steps by asking for its lock, by being answered or by resuming with its answer. -/
theorem advance_found_cases {host next : Host} {number : TaskNumber} {task : Task}
    (found : host.task? number = some task) (stepped : host.advance (.task number) = some next) :
    (task.state = .created ∧ next = host.requestLock number task) ∨
      (∃ wait answer answered, task.state = .waiting wait ∧
        host.answer? number task wait = some (answer, answered) ∧
        next = answered.setTaskState number (.answered answer)) ∨
      ∃ answer, task.state = .answered answer ∧ next = host.resume number task answer := by
  obtain ⟨record, found', cases⟩ := advance_task_cases stepped
  rw [found] at found'
  obtain rfl := Option.some.inj found'
  exact cases

/-- Setting a status changes the host in its store only. -/
theorem storeSetStatus_eq (host : Host) (bot : String) (status : BotStatus) :
    (host.storeSetStatus bot status).2 =
      { host with store := (host.storeSetStatus bot status).2.store } := by
  unfold storeSetStatus
  split
  · rfl
  · split
    · rfl
    · split <;> rfl

theorem storeRemove_eq (host : Host) (bot : String) :
    (host.storeRemove bot).2 = { host with store := (host.storeRemove bot).2.store } := by
  unfold storeRemove
  split <;> rfl

theorem storeUpdate_eq (host : Host) (bot : String) (patch : BotPatch) :
    (host.storeUpdate bot patch).2 =
      { host with store := (host.storeUpdate bot patch).2.store } := by
  unfold storeUpdate
  split
  · rfl
  · split <;> rfl

/-- With what a task comes back from a wait, and what has been done by then. Who waits for a loop to end
or for a session to open or close comes back when that has happened, or without it at the deadline. -/
inductive Answers (host : Host) (number : TaskNumber) (task : Task) : Wait → Answer → Host → Prop
  | locked {lock : Nat} (refers : task.lock = some lock)
      (holds : host.locks.holds lock number = true) : Answers host number task .lock .locked host
  | readToStop :
      Answers host number task .readToStop (.readToStop (host.storeFind task.bot)) host
  | joined (running : Instance) (ending : Ending) (deadline : Nat)
      (finished : host.loopFinished running.generation = true) :
      Answers host number task (.join running ending deadline) (.joined running ending true) host
  | unjoined (running : Instance) (ending : Ending) {deadline : Nat}
      (unfinished : host.loopFinished running.generation = false) (passed : deadline ≤ host.now) :
      Answers host number task (.join running ending deadline) (.joined running ending false) host
  | joinedAborted (running : Instance) (ending : Ending)
      (finished : host.loopFinished running.generation = true) :
      Answers host number task (.joinAborted running ending) (.joinedAborted running ending) host
  | closed (running : Instance) (ending : Ending) (forced : Bool) {due : Nat} (deadline : Nat)
      (reached : due ≤ host.now) :
      Answers host number task (.close running ending forced due deadline)
        (.closed running ending forced)
        { host with transport := host.transport.closeSession running.session }
  | unclosed (running : Instance) (ending : Ending) (forced : Bool) {due deadline : Nat}
      (early : host.now < due) (passed : deadline ≤ host.now) :
      Answers host number task (.close running ending forced due deadline)
        (.closed running ending true) host
  | recordedStopped (result : Except ManagerFault Unit) :
      Answers host number task (.recordStopped result) (.recordedStopped result)
        (host.storeSetStatus task.bot .stopped).2
  | recordedReaped :
      Answers host number task .recordReaped .recordedReaped (host.storeSetStatus task.bot .error).2
  | removed :
      Answers host number task .remove (.removed (host.storeRemove task.bot).1)
        (host.storeRemove task.bot).2
  | readToStart (token : Option String) :
      Answers host number task (.readToStart token) (.readToStart token (host.storeFind task.bot))
        host
  | opened (handlers : List Handler) {token : String} {due : Nat} (deadline : Nat) {session : Nat}
      {transport : MemoryTransport Nat} (reached : due ≤ host.now)
      (opens : host.transport.openSession token = (.ok session, transport)) :
      Answers host number task (.connect handlers token due deadline)
        (.connected handlers (.ok session)) { host with transport }
  | rejected (handlers : List Handler) {token : String} {due : Nat} (deadline : Nat)
      {fault : TransportFault} (reached : due ≤ host.now)
      (rejects : (host.transport.openSession token).1 = .error fault) :
      Answers host number task (.connect handlers token due deadline)
        (.connected handlers (.error (.connect fault))) host
  | unopened (handlers : List Handler) (token : String) {due deadline : Nat}
      (early : host.now < due) (passed : deadline ≤ host.now) :
      Answers host number task (.connect handlers token due deadline)
        (.connected handlers (.error (.timeout host.settings.connectTimeout))) host
  | recordedFailed (failure : StartFailure) :
      Answers host number task (.recordFailed failure) (.recordedFailed failure)
        (host.storeSetStatus task.bot .error).2
  | recordedRunning (running : Instance) :
      Answers host number task (.recordRunning running)
        (.recordedRunning running (host.storeSetStatus task.bot .running).1)
        (host.storeSetStatus task.bot .running).2
  | updated (patch : BotPatch) :
      Answers host number task (.update patch) (.updated (host.storeUpdate task.bot patch).1)
        (host.storeUpdate task.bot patch).2

theorem Answers.answer? {host answered : Host} {number : TaskNumber} {task : Task} {wait : Wait}
    {answer : Answer} (answers : Answers host number task wait answer answered) :
    host.answer? number task wait = some (answer, answered) := by
  cases answers with
  | locked refers holds =>
    refine if_pos ?_
    rw [refers]
    exact holds
  | joined _ _ _ finished | joinedAborted _ _ finished => exact if_pos finished
  | unjoined _ _ unfinished passed =>
    exact (if_neg (Bool.eq_false_iff.mp unfinished)).trans (if_pos passed)
  | closed _ _ _ _ reached => exact if_pos reached
  | unclosed _ _ _ early passed | unopened _ _ early passed =>
    exact (if_neg (Nat.not_le_of_lt early)).trans (if_pos passed)
  | opened _ _ reached opens =>
    simp only [Host.answer?, if_pos reached, opens]
    rfl
  | @rejected _ token _ _ _ reached rejects =>
    rcases opens : host.transport.openSession token with ⟨outcome, transport⟩
    obtain rfl : outcome = .error _ := by rw [← rejects, opens]
    obtain rfl : transport = host.transport := MemoryTransport.openSession_error opens
    simp only [Host.answer?, if_pos reached, opens]
    rfl
  | _ => rfl

/-- An answer that is taken is one of those there are to what is waited for. -/
theorem answers_of_answer? {host answered : Host} {number : TaskNumber} {task : Task} {wait : Wait}
    {answer : Answer} (taken : host.answer? number task wait = some (answer, answered)) :
    Answers host number task wait answer answered := by
  cases wait with
  | lock =>
    simp only [Host.answer?, Option.any_eq_true] at taken
    split at taken
    next holds =>
      obtain ⟨lock, refers, holds⟩ := holds
      cases taken
      exact .locked refers holds
    · cases taken
  | join running ending deadline =>
    simp only [Host.answer?] at taken
    split at taken
    next finished =>
      cases taken
      exact .joined running ending deadline finished
    next unfinished =>
      split at taken
      next passed =>
        cases taken
        exact .unjoined running ending (Bool.eq_false_iff.mpr unfinished) passed
      · cases taken
  | joinAborted running ending =>
    simp only [Host.answer?] at taken
    split at taken
    next finished =>
      cases taken
      exact .joinedAborted running ending finished
    · cases taken
  | close running ending forced due deadline =>
    simp only [Host.answer?] at taken
    split at taken
    next reached =>
      cases taken
      exact .closed running ending forced deadline reached
    next early =>
      split at taken
      next passed =>
        cases taken
        exact .unclosed running ending forced (Nat.lt_of_not_le early) passed
      · cases taken
  | connect handlers token due deadline =>
    simp only [Host.answer?] at taken
    split at taken
    next reached =>
      rcases opens : host.transport.openSession token with ⟨fault | session, transport⟩
      · obtain rfl : transport = host.transport := MemoryTransport.openSession_error opens
        rw [opens] at taken
        cases taken
        exact .rejected handlers deadline reached (by rw [opens])
      · rw [opens] at taken
        cases taken
        exact .opened handlers deadline reached opens
    next early =>
      split at taken
      next passed =>
        cases taken
        exact .unopened handlers token (Nat.lt_of_not_le early) passed
      · cases taken
  | readToStop | readToStart | recordStopped | recordReaped | remove | recordFailed | recordRunning |
      update =>
    cases taken
    constructor

/-- A task that comes back from its lock has it. -/
theorem Answers.holds {host answered : Host} {number : TaskNumber} {task : Task} {answer : Answer}
    (answers : Answers host number task .lock answer answered) :
    ∃ lock, task.lock = some lock ∧ host.locks.holds lock number = true := by
  cases answers with
  | locked refers holds => exact ⟨_, refers, holds⟩

section

variable {host : Host} {number : TaskNumber} {task : Task} (found : host.task? number = some task)

include found

theorem advance_of_created (created : task.state = .created) :
    host.advance (.task number) = some (host.requestLock number task) := by
  rw [advance, found, Option.bind_some, advanceTask, created]

theorem advance_of_answers {wait : Wait} (waiting : task.state = .waiting wait) {answer : Answer}
    {answered : Host} (answers : Answers host number task wait answer answered) :
    host.advance (.task number) = some (answered.setTaskState number (.answered answer)) := by
  rw [advance, found, Option.bind_some, advanceTask, waiting]
  exact congrArg (Option.map _) answers.answer?

theorem advance_of_answered {answer : Answer} (answered : task.state = .answered answer) :
    host.advance (.task number) = some (host.resume number task answer) := by
  rw [advance, found, Option.bind_some, advanceTask, answered]

theorem advance_of_finished {result : Except ManagerFault Success}
    (finished : task.state = .finished result) : host.advance (.task number) = none := by
  rw [advance, found, Option.bind_some, advanceTask, finished]

end

theorem ready_of_advance {host next : Host} {process : Process}
    (stepped : host.advance process = some next) : host.ready process = true := by
  rw [ready, stepped, Option.isSome_some]

/-- An answer has its effect on the store and on the transport alone. -/
theorem answer?_eq {host answered : Host} {number : TaskNumber} {task : Task} {wait : Wait}
    {answer : Answer} (taken : host.answer? number task wait = some (answer, answered)) :
    ∃ store transport, answered = { host with store, transport } := by
  cases answers_of_answer? taken with
  | recordedStopped | recordedReaped | recordedFailed | recordedRunning =>
    rw [storeSetStatus_eq]
    exact ⟨_, _, rfl⟩
  | removed =>
    rw [storeRemove_eq]
    exact ⟨_, _, rfl⟩
  | updated =>
    rw [storeUpdate_eq]
    exact ⟨_, _, rfl⟩
  | _ => exact ⟨_, _, rfl⟩

/-- A task that has taken an answer has not gone on from it. -/
theorem task?_answered {host answered : Host} {number : TaskNumber} {task : Task}
    (found : host.task? number = some task) {wait : Wait} {answer : Answer}
    (taken : host.answer? number task wait = some (answer, answered)) :
    (answered.setTaskState number (.answered answer)).task? number =
      some { task with state := .answered answer } := by
  obtain ⟨store, transport, rfl⟩ := answer?_eq taken
  exact @task?_changeTask_self { host with store, transport } number task found _

/-- The host with other instances and loops. -/
def withInstances (host : Host) (registry : List Instance) (loops : List SessionLoop) : Host :=
  { host with registry, loops }

/-- Where a task that goes on from an answer can come to: to another wait, though not for the lock, or
to its end. It launches a loop for a session that it has opened; to other loops it does no more than
mark them. Only an operation that may start a bot begins to. -/
inductive GoesOn (host : Host) (number : TaskNumber) (task : Task) : Answer → Host → Prop
  | waits (answer : Answer) (registry : List Instance) (loops : List SessionLoop) (wait : Wait)
      (other : wait ≠ .lock) (idle : ∀ running, wait ≠ .recordRunning running)
      (marked : loops.map SessionLoop.unmarked = host.loops.map SessionLoop.unmarked)
      (suits : (TaskState.waiting wait).starting = true →
        task.operation.mayStart = true ∨ (TaskState.answered answer).starting = true) :
      GoesOn host number task answer ((host.withInstances registry loops).waitFor number wait)
  | launches (handlers : List Handler) (session : Nat) :
      GoesOn host number task (.connected handlers (.ok session))
        (host.launch number task handlers session)
  | ends (answer : Answer) (registry : List Instance) (result : Except ManagerFault Success) :
      GoesOn host number task answer
        ((host.withInstances registry host.loops).finish number task result)
  | deletes (answer : Answer) :
      GoesOn host number task answer (host.finishDeleted number task)

namespace GoesOn

variable (host : Host) (number : TaskNumber) (task : Task) (answer : Answer)

theorem waitFor {wait : Wait} (other : wait ≠ .lock)
    (idle : ∀ running, wait ≠ .recordRunning running)
    (suits : (TaskState.waiting wait).starting = true →
      task.operation.mayStart = true ∨ (TaskState.answered answer).starting = true) :
    GoesOn host number task answer (host.waitFor number wait) :=
  .waits answer host.registry host.loops wait other idle rfl suits

/-- A loop is marked before the task waits. -/
theorem marks (registry : List Instance) (generation : Nat) {change : SessionLoop → SessionLoop}
    (same : ∀ loop, (change loop).unmarked = loop.unmarked) {wait : Wait} (other : wait ≠ .lock)
    (idle : ∀ running, wait ≠ .recordRunning running)
    (suits : (TaskState.waiting wait).starting = true →
      task.operation.mayStart = true ∨ (TaskState.answered answer).starting = true) :
    GoesOn host number task answer
      ((host.withInstances registry
        (host.loops.modify (generation - firstGeneration) change)).waitFor number wait) :=
  .waits answer registry _ wait other idle (SessionLoop.map_unmarked_modify host.loops _ same) suits

theorem finish (result : Except ManagerFault Success) :
    GoesOn host number task answer (host.finish number task result) :=
  .ends answer host.registry result

theorem afterStop (result : Except ManagerFault Unit) :
    GoesOn host number task answer (host.afterStop number task result) := by
  unfold Host.afterStop
  split
  next restarts =>
    exact waitFor host number task answer nofun nofun fun _ => .inl (by rw [restarts]; rfl)
  next restarts =>
    exact waitFor host number task answer nofun nofun fun _ => .inl (by rw [restarts]; rfl)
  · exact waitFor host number task answer nofun nofun nofun
  · exact waitFor host number task answer nofun nofun nofun
  · exact finish host number task answer _
  · exact finish host number task answer _

theorem begin : GoesOn host number task answer (host.begin number task) := by
  unfold Host.begin
  split
  next starts =>
    exact waitFor host number task answer nofun nofun fun _ => .inl (by rw [starts]; rfl)
  iterate 3
    split
    · refine marks host number task answer _ _ ?_ nofun nofun nofun
      exact fun _ => rfl
    · exact waitFor host number task answer nofun nofun nofun
  · split
    · exact finish host number task answer _
    · exact waitFor host number task answer nofun nofun nofun
  · split
    · split
      · refine marks host number task answer _ _ ?_ nofun nofun nofun
        exact fun _ => rfl
      · exact finish host number task answer _
    · exact finish host number task answer _

theorem connect (token : Option String) (found : Except StoreFault (Option Bot)) :
    GoesOn host number task (.readToStart token found) (host.connect number task token found) := by
  unfold Host.connect
  split
  · exact finish host number task _ _
  · exact finish host number task _ _
  · split
    · exact finish host number task _ _
    · exact waitFor host number task _ nofun nofun fun _ => .inr rfl

end GoesOn

/-- However a task resumes, it goes on in one of the ways there are. -/
theorem goesOn_resume (host : Host) (number : TaskNumber) (task : Task) (answer : Answer) :
    GoesOn host number task answer (host.resume number task answer) := by
  cases answer with
  | locked => exact .begin host number task _
  | readToStop found =>
    rcases found with fault | _ | bot <;> exact .afterStop host number task _ _
  | joined running ending finished =>
    cases finished with
    | false =>
      refine .marks host number task _ _ _ ?_ nofun nofun nofun
      exact fun _ => rfl
    | true => exact .waitFor host number task _ nofun nofun nofun
  | joinedAborted running ending => exact .waitFor host number task _ nofun nofun nofun
  | closed running ending forced =>
    cases ending with
    | stopping => exact .waitFor host number task _ nofun nofun nofun
    | startFailed fault => exact .finish host number task _ _
    | reaping => exact .waitFor host number task _ nofun nofun nofun
  | recordedStopped result => exact .afterStop host number task _ result
  | recordedReaped => exact .finish host number task _ _
  | removed present =>
    rcases present with fault | _ | _
    · exact .finish host number task _ _
    · exact .finish host number task _ _
    · exact .deletes _
  | readToStart token found => exact .connect host number task token found
  | connected handlers session =>
    cases session with
    | error failure => exact .waitFor host number task _ nofun nofun fun _ => .inr rfl
    | ok session => exact .launches handlers session
  | recordedFailed failure => exact .finish host number task _ _
  | recordedRunning running result =>
    cases result with
    | error fault =>
      refine .marks host number task _ _ _ ?_ nofun nofun nofun
      exact fun _ => rfl
    | ok done => exact .ends _ _ _
  | updated bot =>
    cases bot with
    | error fault => exact .finish host number task _ _
    | ok bot => exact .finish host number task _ _

/-- A task that goes on leaves the store and the other tasks alone. -/
theorem resume_frame (host : Host) (number : TaskNumber) (task : Task) (answer : Answer) :
    (host.resume number task answer).store = host.store ∧
      ∀ {other : TaskNumber}, other ≠ number →
        (host.resume number task answer).task? other = host.task? other := by
  have goes := goesOn_resume host number task answer
  generalize host.resume number task answer = next at goes
  cases goes with
  | waits | launches =>
    exact ⟨rfl, fun different => (task?_changeTask ..).trans (if_neg different)⟩
  | ends _ registry result =>
    rw [finish_eq]
    exact ⟨rfl, fun different => (task?_changeTask ..).trans (if_neg different)⟩
  | deletes =>
    rw [finishDeleted_eq]
    exact ⟨rfl, fun different => (task?_changeTask ..).trans (if_neg different)⟩

/-- A task that goes on leaves the sessions alone and does no more to loops than mark them, unless it
launches a loop for a session that it has opened. -/
theorem resume_launches (host : Host) (number : TaskNumber) (task : Task) (answer : Answer) :
    ((host.resume number task answer).transport = host.transport ∧
      (host.resume number task answer).loops.map SessionLoop.unmarked =
        host.loops.map SessionLoop.unmarked) ∨
    ∃ handlers session, answer = .connected handlers (.ok session) ∧
      host.resume number task answer = host.launch number task handlers session := by
  have goes := goesOn_resume host number task answer
  generalize host.resume number task answer = next at goes
  cases goes with
  | waits _ registry loops wait other idle marked => exact .inl ⟨rfl, marked⟩
  | launches handlers session => exact .inr ⟨handlers, session, rfl, rfl⟩
  | ends _ registry result =>
    rw [finish_eq]
    exact .inl ⟨rfl, rfl⟩
  | deletes =>
    rw [finishDeleted_eq]
    exact .inl ⟨rfl, rfl⟩

/-- A task that goes on opens no session. -/
theorem openedCount_resume (host : Host) (number : TaskNumber) (task : Task) (answer : Answer) :
    (host.resume number task answer).transport.openedCount = host.transport.openedCount := by
  rcases host.resume_launches number task answer with ⟨same, _⟩ | ⟨_, _, _, launched⟩
  · rw [same]
  · rw [launched]
    exact MemoryTransport.length_change ..

/-- A task's step leaves the other tasks alone. -/
theorem advance_task_other {host next : Host} {number other : TaskNumber}
    (stepped : host.advance (.task number) = some next) (different : other ≠ number) :
    next.task? other = host.task? other := by
  obtain ⟨task, _, ⟨_, rfl⟩ | ⟨wait, answer, answered, _, taken, rfl⟩ | ⟨answer, _, rfl⟩⟩ :=
    advance_task_cases stepped
  · exact (task?_changeTask _ number _ other).trans (if_neg different)
  · obtain ⟨store, transport, rfl⟩ := answer?_eq taken
    exact (task?_changeTask _ number _ other).trans (if_neg different)
  · exact (host.resume_frame number task answer).2 different

/-! ### Calls that answer at once -/

/-- Registering a bot changes the host in its store only. -/
theorem register_eq (host : Host) (bot : Bot) :
    (host.register bot).2 = { host with store := (host.register bot).2.store } := by
  unfold register storeInsert
  split
  next inserted =>
    split at inserted
    · cases inserted
      rfl
    · split at inserted <;> cases inserted <;> rfl

theorem inject_eq (host : Host) (token : String) (event : Event) :
    (host.inject token event).2 = { host with loops := (host.inject token event).2.loops } := by
  unfold inject
  split <;> rfl

/-! ### Moves -/

/-- Shutting down adds tasks. -/
theorem stopAll_kept {kept : Host → Prop}
    (adds : ∀ {host : Host} (bot : String), kept host → kept (host.addTask .stop bot).2)
    {host : Host} (before : kept host) : kept host.stopAll := by
  have all (bots : List String) {host : Host} (before : kept host) :
      kept (bots.foldl (fun host bot => (host.addTask .stop bot).2) host) := by
    induction bots generalizing host with
    | nil => exact before
    | cons bot bots inductionHypothesis => exact inductionHypothesis (adds bot before)
  exact all host.runningIds before

section

variable {kept : Host → Prop}
  (adds : ∀ {host : Host} (operation : Operation) (bot : String), operation.isCall = true →
    kept host → kept (host.addTask operation bot).2)
  (events : ∀ {host : Host} {generation : Nat} {loop : SessionLoop} (waiting : List Event),
    kept host → host.loop? generation = some loop → loop.state ≠ .finished →
      kept (host.moveLoop generation waiting loop.state host.transport.recorded
        host.transport.sendsStarted))
  (aside : ∀ {host : Host} (store : BotStore) (transport : MemoryTransport Nat)
    (faults : List FaultPoint) (now : Nat), kept host →
      transport.openedCount = host.transport.openedCount →
        kept { host with store, transport, faults, now })

include adds events aside

/-- What is kept by new calls, by events that a loop is given, and whatever becomes of the store, of
delays and of sessions that were opened before, is kept by every move that is no step. -/
theorem after?_kept_aside {host next : Host} {move : Move} (before : kept host)
    (made : host.after? move = some next) (other : ∀ process, move ≠ .step process) :
    kept next := by
  cases move with
  | step process => exact absurd rfl (other process)
  | begin operation bot =>
    simp only [after?] at made
    split at made
    next isCall =>
      cases made
      exact adds operation bot isCall before
    · cases made
  | shutdown =>
    cases made
    exact stopAll_kept (fun bot => adds .stop bot rfl) before
  | register bot =>
    cases made
    rw [register_eq]
    exact aside _ host.transport host.faults host.now before rfl
  | inject token event =>
    cases made
    unfold inject
    split
    next generation _ =>
      rcases host.deliver_cases generation event with same | ⟨other, loop, found, unfinished, moved⟩
      · rw [same]
        exact before
      · rw [moved]
        exact events _ before found unfinished
    · exact before
  | endSession token =>
    cases made
    refine aside host.store _ host.faults host.now before ?_
    unfold MemoryTransport.endSession
    split
    · rfl
    · exact List.length_modify ..
  | reject | accept | clearSent | setDelays | setFaults | pass =>
    cases made
    exact aside _ _ _ _ before rfl

/-- What steps keep besides is kept by every move. -/
theorem after?_kept
    (steps : ∀ {host next : Host} {process : Process}, kept host →
      host.advance process = some next → kept next)
    {host next : Host} {move : Move} (before : kept host) (made : host.after? move = some next) :
    kept next := by
  by_cases other : ∀ process, move ≠ .step process
  · exact after?_kept_aside adds events aside before made other
  · obtain ⟨process, rfl⟩ : ∃ process, move = .step process := by simpa using other
    exact steps before made

end

/-- A task goes on by its own steps alone. -/
theorem task?_after_of_ne {host next : Host} {move : Move} (made : host.after? move = some next)
    {number : TaskNumber} (other : move ≠ .step (.task number)) {task : Task}
    (found : host.task? number = some task) : next.task? number = some task := by
  by_cases isStep : ∀ process, move ≠ .step process
  · exact @after?_kept_aside (fun host => host.task? number = some task)
      (fun operation bot _ found => task?_addTask_of_some found operation bot)
      (fun _ found _ _ => found) (fun _ _ _ _ found _ => found) host next move found made isStep
  obtain ⟨process, rfl⟩ : ∃ process, move = .step process := by simpa using isStep
  change host.advance process = some next at made
  cases process with
  | loop generation =>
    obtain ⟨loop, there, _, waiting, state, recorded, sendsStarted, ⟨rfl, _⟩ | ⟨rfl, _⟩⟩ :=
      advance_loop_cases made
    · exact found
    · have moved : (host.moveLoop generation waiting state recorded sendsStarted).task? number =
          some task := found
      exact task?_addTask_of_some moved _ _
  | task changed =>
    have different : number ≠ changed := by
      rintro rfl
      exact other rfl
    obtain ⟨record, _, ⟨_, rfl⟩ | ⟨wait, answer, answered, _, taken, rfl⟩ | ⟨answer, _, rfl⟩⟩ :=
      advance_task_cases made
    · exact (task?_changeTask _ changed _ number).trans ((if_neg different).trans found)
    · obtain ⟨store, transport, rfl⟩ := answer?_eq taken
      exact (task?_changeTask _ changed _ number).trans ((if_neg different).trans found)
    · have goes := goesOn_resume host changed record answer
      generalize host.resume changed record answer = next at goes
      cases goes with
      | waits | launches =>
        exact (task?_changeTask _ changed _ number).trans ((if_neg different).trans found)
      | ends _ registry result =>
        rw [task?_finish, if_neg different]
        exact found
      | deletes =>
        rw [finishDeleted_eq]
        exact (task?_changeTask _ changed _ number).trans ((if_neg different).trans found)

/-- Tasks do not go away, and keep what they are about. -/
theorem task?_after {host next : Host} {move : Move} (made : host.after? move = some next)
    {number : TaskNumber} {task : Task} (found : host.task? number = some task) :
    ∃ lock state, next.task? number = some { task with lock, state } := by
  by_cases own : move = .step (.task number)
  · subst own
    obtain ⟨_, rfl⟩ | ⟨wait, answer, answered, _, taken, rfl⟩ | ⟨answer, _, rfl⟩ :=
      advance_found_cases found made
    · exact ⟨_, _, task?_changeTask_self found _⟩
    · obtain ⟨store, transport, rfl⟩ := answer?_eq taken
      exact ⟨_, _, task?_changeTask_self found _⟩
    · have goes := goesOn_resume host number task answer
      generalize host.resume number task answer = next at goes
      cases goes with
      | waits | launches => exact ⟨_, _, task?_changeTask_self found _⟩
      | ends _ registry result =>
        rw [finish_eq]
        exact ⟨_, _, task?_changeTask_self found _⟩
      | deletes =>
        rw [finishDeleted_eq]
        exact ⟨_, _, task?_changeTask_self found _⟩
  · exact ⟨_, _, task?_after_of_ne made own found⟩

/-- Tasks do not go away in a run, and keep what they are about. -/
theorem Run.task? {host last : Host} {moves : List Move} (run : Run host moves last)
    {number : TaskNumber} {task : Task} (found : host.task? number = some task) :
    ∃ lock state, last.task? number = some { task with lock, state } := by
  refine @keeps (fun host => ∃ lock state, host.task? number = some { task with lock, state }) ?_
    _ _ _ run ⟨task.lock, task.state, found⟩
  rintro host next move ⟨_, _, found⟩ made
  obtain ⟨lock, state, found'⟩ := task?_after made found
  exact ⟨lock, state, found'⟩

end Host

end BotHost
