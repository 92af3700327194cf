/-
Operations that end the instances of a bot.

When a stop or a delete returns, when a restart turns to starting the bot again, and when a start
returns that has opened a session and failed, then every loop that the bot has had has finished. This
holds whatever the result is: an operation that could not find its bot, or not in time, still has the
lock, and so nobody but itself could answer for a loop that has not finished.
-/

import BotHost.Proofs.Manager.Silence

namespace BotHost

/-- The session that a task has opened to start its bot, as long as the task has it in hand. -/
def TaskState.opened? : TaskState → Option Nat
  | .answered (.connected _ (.ok session)) => some session
  | .waiting (.recordRunning running) | .answered (.recordedRunning running _)
  | .waiting (.join running (.startFailed _) _) | .answered (.joined running (.startFailed _) _)
  | .waiting (.joinAborted running (.startFailed _))
  | .answered (.joinedAborted running (.startFailed _))
  | .waiting (.close running (.startFailed _) _ _ _)
  | .answered (.closed running (.startFailed _) _) => some running.session
  | _ => none

/-- Whether an operation that has come to a state has ended what ran for its bot. -/
def Operation.endsAt : Operation → TaskState → Bool
  | .stop, .finished _ | .delete, .finished _ => true
  | .restart _, .waiting (.readToStart _) | .restart _, .finished (.error _) => true
  | _, _ => false

theorem Operation.endsAt_answered (operation : Operation) (answer : Answer) :
    operation.endsAt (.answered answer) = false := by
  cases operation <;> rfl

theorem Operation.endsAt_waiting {operation : Operation} {wait : Wait}
    (ends : operation.endsAt (.waiting wait) = true) :
    operation ≠ .start ∧ ∃ token, wait = .readToStart token := by
  cases operation <;> try cases ends
  cases wait <;> try cases ends
  exact ⟨nofun, _, rfl⟩

/-- What may start a bot has not ended what ran for it when it succeeds. -/
theorem Operation.not_mayStart_of_endsAt {operation : Operation} {success : Success}
    (ends : operation.endsAt (.finished (.ok success)) = true) : operation.mayStart = false := by
  cases operation <;> first | rfl | cases ends

namespace Host

variable {host next : Host} {number : TaskNumber} {task : Task}

/-! ### Which operations start a bot -/

/-- Only operations that may start a bot are about to. -/
structure Suited (host : Host) : Prop where
  starting : ∀ {number : TaskNumber} {task : Task}, host.task? number = some task →
    task.state.starting = true → task.operation.mayStart = true

/-- An answer to a task that is about to start its bot is one to a wait of such a task. -/
theorem answer?_starting {wait : Wait} {answer : Answer} {answered : Host}
    (taken : host.answer? number task wait = some (answer, answered)) :
    (TaskState.answered answer).starting = (TaskState.waiting wait).starting := by
  cases answers_of_answer? taken <;> rfl

namespace Suited

theorem congr (suited : host.Suited) (tasks : next.tasks = host.tasks) : next.Suited := by
  constructor
  intro number task there
  rw [task?, tasks] at there
  exact suited.starting there

theorem changeTask (suited : host.Suited) (found : host.task? number = some task)
    {change : Task → Task} (suits : (change task).state.starting = true →
      (change task).operation.mayStart = true) : (host.changeTask number change).Suited := by
  constructor
  intro other record there starting
  obtain ⟨rfl, rfl⟩ | ⟨_, there⟩ := task?_changeTask_cases found there
  · exact suits starting
  · exact suited.starting there starting

theorem addTask (suited : host.Suited) (operation : Operation) (bot : String) :
    (host.addTask operation bot).2.Suited := by
  constructor
  intro other record there starting
  obtain ⟨rfl, rfl⟩ | there := task?_addTask_cases there
  · cases starting
  · exact suited.starting there starting

theorem of_goesOn (suited : host.Suited) (found : host.task? number = some task) {answer : Answer}
    (answered : task.state = .answered answer) (goes : GoesOn host number task answer next) :
    next.Suited := by
  have waits {other : Host} (tasks : other.tasks = host.tasks) {wait : Wait}
      (suits : (TaskState.waiting wait).starting = true → task.operation.mayStart = true) :
      (other.waitFor number wait).Suited := by
    have found' : other.task? number = some task := by rw [task?, tasks]; exact found
    exact (suited.congr tasks).changeTask found' suits
  cases goes with
  | waits _ registry loops wait other idle marked suits =>
    refine waits ?_ fun starting => ?_
    · rfl
    rcases suits starting with may | before
    · exact may
    · exact suited.starting found (by rw [answered]; exact before)
  | launches handlers session =>
    refine waits ?_ fun _ => suited.starting found (by rw [answered]; rfl)
    rfl
  | ends _ registry result =>
    rw [finish_eq]
    have ended : (host.changeTask number fun task =>
        { task with lock := none, state := .finished result }).Suited :=
      suited.changeTask found (by rintro ⟨⟩)
    exact ended.congr rfl
  | deletes =>
    rw [finishDeleted_eq]
    have ended : (host.changeTask number fun task =>
        { task with lock := none, state := .finished (.ok .done) }).Suited :=
      suited.changeTask found (by rintro ⟨⟩)
    exact ended.congr rfl

theorem step (suited : host.Suited) {process : Process} (stepped : host.advance process = some next) :
    next.Suited := by
  cases process with
  | loop generation =>
    obtain ⟨loop, found, _, waiting, state, recorded, sendsStarted, ⟨rfl, _⟩ | ⟨rfl, _⟩⟩ :=
      advance_loop_cases stepped
    · exact suited.congr rfl
    · have moved : (host.moveLoop generation waiting state recorded sendsStarted).Suited :=
        suited.congr rfl
      exact moved.addTask _ _
  | task number =>
    obtain ⟨task, found, ⟨created, rfl⟩ | ⟨wait, answer, answered, waiting, taken, rfl⟩ |
      ⟨answer, answered, rfl⟩⟩ := advance_task_cases stepped
    · obtain ⟨locks, lock, asks⟩ := host.requestLock_eq number task
      rw [asks]
      have asked : { host with locks }.Suited := suited.congr rfl
      exact asked.changeTask found (by rintro ⟨⟩)
    · have starting := answer?_starting taken
      obtain ⟨store, transport, rfl⟩ := answer?_eq taken
      have same : { host with store, transport }.Suited := suited.congr rfl
      refine same.changeTask found fun after => ?_
      have before : task.state.starting = true := by rw [waiting, ← starting]; exact after
      have may := suited.starting found before
      exact may
    · exact suited.of_goesOn found answered (goesOn_resume host number task answer)

theorem move (suited : host.Suited) {move : Move} (made : host.after? move = some next) :
    next.Suited :=
  after?_kept (fun operation bot _ suited => suited.addTask operation bot)
    (fun _ suited _ _ => suited.congr rfl) (fun _ _ _ _ suited _ => suited.congr rfl)
    (fun suited stepped => suited.step stepped) suited made

end Suited

theorem Reachable.suited (reachable : host.Reachable) : host.Suited :=
  reachable.invariant (fun _ _ _ => ⟨nofun⟩) fun _ suited made => Suited.move suited made

/-! ### What has finished when an operation returns -/

/-- A task that goes on to where it has ended what ran for its bot has nothing in hand but an instance
whose loop has finished. -/
theorem vacant_of_endsAt (suited : host.Suited) (found : host.task? number = some task)
    {answer : Answer} (answered : task.state = .answered answer) {record : Task}
    (found' : (host.resume number task answer).task? number = some record)
    (ends : task.operation.endsAt record.state = true) :
    task.vacant = true ∧ ∀ {stage : Stage} {running : Instance},
      task.state.charge? = some (stage, running) → stage = .closed := by
  have waits {other : Host} {wait : Wait} (same : other.task? number = host.task? number)
      (there : (other.waitFor number wait).task? number = some record) :
      ∃ token, task.operation ≠ .start ∧ wait = .readToStart token := by
    rw [waitFor_found (same.trans found)] at there
    obtain rfl := Option.some.inj there
    obtain ⟨other, token, same⟩ := Operation.endsAt_waiting ends
    exact ⟨token, other, same⟩
  have idle (vacant : Task.vacant { task with state := .answered answer } = true)
      (none : (TaskState.answered answer).charge? = none) :
      task.vacant = true ∧ ∀ {stage : Stage} {running : Instance},
        task.state.charge? = some (stage, running) → stage = .closed := by
    obtain ⟨operation, bot, lock, state⟩ := task
    subst answered
    exact ⟨vacant, fun charge => absurd (none.symm.trans charge) nofun⟩
  cases answer with
  | locked =>
    change (host.begin number task).task? number = some record at found'
    unfold Host.begin at found'
    split at found'
    next starts =>
      obtain ⟨_, other, _⟩ := waits rfl found'
      exact absurd starts other
    iterate 3
      split at found'
      · obtain ⟨_, _, other⟩ := waits rfl found'
        cases other
      · obtain ⟨_, _, other⟩ := waits rfl found'
        cases other
    next updates =>
      rw [updates] at ends
      cases ends
    next reaps =>
      rw [reaps] at ends
      cases ends
  | readToStop read => exact idle rfl rfl
  | joined running ending finished =>
    cases finished with
    | false =>
      obtain ⟨_, _, other⟩ := waits rfl found'
      cases other
    | true =>
      obtain ⟨_, _, other⟩ := waits rfl found'
      cases other
  | joinedAborted running ending =>
    obtain ⟨_, _, other⟩ := waits rfl found'
    cases other
  | closed running ending forced =>
    have charged : task.state.charge? = some (.closed, running) := by rw [answered]; rfl
    refine ⟨Task.vacant_of_charge charged, fun charge => ?_⟩
    obtain ⟨rfl, _⟩ : Stage.closed = _ ∧ _ := by simpa using charged.symm.trans charge
    rfl
  | recordedStopped result => exact idle rfl rfl
  | recordedReaped => exact idle rfl rfl
  | removed present => exact idle rfl rfl
  | readToStart token read =>
    refine idle ?_ rfl
    show (task.operation != .start) = true
    cases operation : task.operation <;> first | rfl | (rw [operation] at ends; cases ends)
  | connected handlers session => exact idle rfl rfl
  | recordedFailed failure => exact idle rfl rfl
  | recordedRunning running result =>
    cases result with
    | error fault =>
      obtain ⟨_, _, other⟩ := waits rfl found'
      cases other
    | ok done =>
      have may := suited.starting found (by rw [answered]; rfl)
      change ((host.enroll running).finish number task _).task? number = _ at found'
      rw [task?_finish, if_pos rfl, task?_enroll, found] at found'
      obtain rfl := Option.some.inj found'
      change task.operation.endsAt (.finished (.ok .done)) = true at ends
      rw [Operation.not_mayStart_of_endsAt ends] at may
      cases may
  | updated bot => exact idle rfl rfl

/-- When an operation has ended what ran for its bot, all loops of the bot have finished. -/
theorem Reachable.finished_of_endsAt (reachable : host.Reachable)
    (found : host.task? number = some task) (stepped : host.advance (.task number) = some next)
    {record : Task} (found' : next.task? number = some record)
    (ends : task.operation.endsAt record.state = true) {generation : Nat} {loop : SessionLoop}
    (there : next.loop? generation = some loop) (ofBot : loop.bot = task.bot) :
    loop.state = .finished := by
  obtain ⟨created, rfl⟩ | ⟨wait, answer, answered, waiting, taken, rfl⟩ |
    ⟨answer, answered, rfl⟩ := advance_found_cases found stepped
  · rw [show (host.requestLock number task).task? number = _ from
      (task?_changeTask ..).trans (if_pos rfl)] at found'
    obtain ⟨_, _, rfl⟩ := Option.map_eq_some_iff.mp found'
    obtain ⟨_, _, other⟩ := Operation.endsAt_waiting ends
    cases other
  · rw [task?_setTaskState, if_pos rfl] at found'
    obtain ⟨_, _, rfl⟩ := Option.map_eq_some_iff.mp found'
    rw [Operation.endsAt_answered] at ends
    cases ends
  · obtain ⟨vacant, closed⟩ := vacant_of_endsAt reachable.suited found answered found' ends
    have custody := reachable.custody.at reachable.orderly found (Task.inside_of_vacant vacant)
    have before {loop : SessionLoop} (there : host.loop? generation = some loop)
        (ofBot : loop.bot = task.bot) : loop.state = .finished := by
      by_contra unfinished
      rcases custody.owned there ofBot unfinished with ⟨running, registered, _⟩ |
        ⟨stage, running, charge, same⟩
      · exact absurd ((custody.vacant vacant).symm.trans registered) nofun
      · obtain rfl := closed charge
        obtain ⟨_, loop', there', _, _, _, finished⟩ := custody.charged charge
        rw [same, there] at there'
        obtain rfl := Option.some.inj there'
        exact unfinished finished
    rcases host.resume_launches number task answer with ⟨_, marked⟩ | ⟨_, _, _, launched⟩
    · obtain ⟨loop', there', same⟩ := loop?_unmarked marked there
      have finished := before there' ((congrArg (·.bot) same).trans ofBot)
      exact (congrArg (·.state) same).symm.trans finished
    · rw [launched] at found'
      change (Host.waitFor _ number _).task? number = some record at found'
      rw [task?_waitFor, if_pos rfl] at found'
      obtain ⟨_, _, rfl⟩ := Option.map_eq_some_iff.mp found'
      obtain ⟨_, _, other⟩ := Operation.endsAt_waiting ends
      cases other

/-! ### Starts that have opened a session -/

/-- An operation that has opened a session has the session in hand until it returns. -/
theorem resume_opened (found : host.task? number = some task) {answer : Answer}
    (answered : task.state = .answered answer) {session : Nat}
    (opened : (TaskState.answered answer).opened? = some session) {record : Task}
    (found' : (host.resume number task answer).task? number = some record) :
    record.state.opened? = some session ∨ (∃ success, record.state = .finished (.ok success)) ∨
      ∃ fault running, record.state = .finished (.error fault) ∧
        task.state.charge? = some (.closed, running) ∧ running.session = session := by
  have waits {other : Host} {wait : Wait} (same : other.task? number = host.task? number)
      (there : (other.waitFor number wait).task? number = some record)
      (still : (TaskState.waiting wait).opened? = some session) :
      record.state.opened? = some session := by
    rw [waitFor_found (same.trans found)] at there
    obtain rfl := Option.some.inj there
    exact still
  cases answer with
  | joined running ending finished =>
    cases ending with
    | stopping | reaping => cases opened
    | startFailed fault =>
      cases finished with
      | false => exact .inl (waits rfl found' opened)
      | true => exact .inl (waits rfl found' opened)
  | joinedAborted running ending =>
    cases ending with
    | stopping | reaping => cases opened
    | startFailed fault => exact .inl (waits rfl found' opened)
  | closed running ending forced =>
    cases ending with
    | stopping | reaping => cases opened
    | startFailed fault =>
      change (host.finish number task _).task? number = _ at found'
      rw [task?_finish, if_pos rfl, found] at found'
      obtain rfl := Option.some.inj found'
      exact .inr (.inr ⟨fault, running, rfl, by rw [answered]; rfl, Option.some.inj opened⟩)
  | connected handlers result =>
    cases result with
    | error failure => cases opened
    | ok session' => exact .inl (waits rfl found' opened)
  | recordedRunning running result =>
    cases result with
    | error fault => exact .inl (waits rfl found' opened)
    | ok done =>
      change ((host.enroll running).finish number task _).task? number = _ at found'
      rw [task?_finish, if_pos rfl, task?_enroll, found] at found'
      obtain rfl := Option.some.inj found'
      exact .inr (.inl ⟨_, rfl⟩)
  | _ => cases opened

theorem answer?_opened {wait : Wait} {answer : Answer} {answered : Host}
    (taken : host.answer? number task wait = some (answer, answered)) {session : Nat}
    (opened : (TaskState.waiting wait).opened? = some session) :
    (TaskState.answered answer).opened? = some session := by
  cases answers_of_answer? taken with
  | joined _ ending | unjoined _ ending | joinedAborted _ ending | closed _ ending
  | unclosed _ ending => cases ending <;> exact opened
  | opened | rejected | unopened => cases opened
  | _ => exact opened

/-- The start of a task has opened a session. Either the task has it in hand, or it has returned, and
if it has failed, then the loop of the session has finished. -/
def Pursues (host : Host) (number : TaskNumber) (session : Nat) : Prop :=
  ∃ task, host.task? number = some task ∧
    (task.state.opened? = some session ∨ (∃ success, task.state = .finished (.ok success)) ∨
      ∃ fault generation loop, task.state = .finished (.error fault) ∧
        host.loop? generation = some loop ∧ loop.session = session ∧ loop.state = .finished)

theorem Reachable.pursues (reachable : host.Reachable) {session : Nat}
    (pursues : host.Pursues number session) {move : Move} (made : host.after? move = some next) :
    next.Pursues number session := by
  obtain ⟨task, found, phase⟩ := pursues
  by_cases own : move = .step (.task number)
  · subst own
    obtain ⟨created, rfl⟩ | ⟨wait, answer, answered, waiting, taken, rfl⟩ |
      ⟨answer, answered, rfl⟩ := advance_found_cases found made
    · rw [created] at phase
      simp [TaskState.opened?] at phase
    · rw [waiting] at phase
      simp only [reduceCtorEq, false_and, exists_false, or_false] at phase
      have opened := answer?_opened taken phase
      obtain ⟨store, transport, rfl⟩ := answer?_eq taken
      refine ⟨{ task with state := .answered answer }, ?_, .inl opened⟩
      exact task?_changeTask_self found _
    · rw [answered] at phase
      simp only [reduceCtorEq, false_and, exists_false, or_false] at phase
      obtain ⟨lock, state, found'⟩ := task?_after made found
      have later := resume_opened found answered phase found'
      refine ⟨_, found', ?_⟩
      rcases later with opened | succeeded | ⟨fault, running, failed, charge, same⟩
      · exact .inl opened
      · exact .inr (.inl succeeded)
      · obtain ⟨_, loop, there, _, session', _, shown⟩ := reachable.custody.charged found charge
        have finished : loop.state = .finished := shown
        obtain ⟨later, there', same'⟩ := advance_task_loop? made there
        exact .inr (.inr ⟨fault, running.generation, later, failed, there',
          (congrArg (·.session) same').trans (session'.trans same),
          (congrArg (·.state) same').trans finished⟩)
  · refine ⟨task, task?_after_of_ne made own found, ?_⟩
    rcases phase with opened | succeeded | ⟨fault, generation, loop, failed, there, same, finished⟩
    · exact .inl opened
    · exact .inr (.inl succeeded)
    · have run : Run host [move] next := .move made (.rest next)
      obtain ⟨later, there', same'⟩ := run.loop?_of_finished there finished
      exact .inr (.inr ⟨fault, generation, later, failed, there',
        (congrArg (·.session) same').trans same, (congrArg (·.state) same').trans finished⟩)

/-- A start that has opened a session and fails leaves a loop that has finished. -/
theorem Reachable.finished_of_failed (reachable : host.Reachable)
    (found : host.task? number = some task) {handlers : List Handler} {session : Nat}
    (opened : task.state = .answered (.connected handlers (.ok session))) {moves : List Move}
    (run : Run host moves next) {record : Task} (found' : next.task? number = some record)
    {fault : ManagerFault} (failed : record.state = .finished (.error fault)) :
    ∃ generation loop, next.loop? generation = some loop ∧ loop.session = session ∧
      loop.state = .finished := by
  have pursues : next.Reachable ∧ next.Pursues number session := by
    refine @Run.keeps (fun host => host.Reachable ∧ host.Pursues number session) ?_ _ _ _ run
      ⟨reachable, task, found, .inl (by rw [opened]; rfl)⟩
    intro host next move before made
    exact ⟨before.1.run (.move made (.rest next)), before.1.pursues before.2 made⟩
  obtain ⟨_, task', there, phase⟩ := pursues
  rw [found'] at there
  obtain rfl := Option.some.inj there
  rcases phase with opened | ⟨success, succeeded⟩ | ⟨_, generation, loop, _, rest⟩
  · rw [failed] at opened
    cases opened
  · rw [failed] at succeeded
    cases succeeded
  · exact ⟨generation, loop, rest⟩

/-! ### Nothing after the return -/

/-- Once a stop or a delete has returned, or the stop that a restart begins with, every instance that
the bot has had is over; once a start has failed that had opened a session, the instance of this
session is. -/
theorem Run.over_of_return {patterns : PatternEngine} {settings : ManagerSettings} {bots : List Bot} {moves : List Move}
    (run : Run (seeded patterns settings bots) moves host) :
    (∀ {number : TaskNumber} {task record : Task} {next : Host},
      host.task? number = some task → host.advance (.task number) = some next →
        next.task? number = some record → task.operation.endsAt record.state = true →
          ∀ {generation : Nat} {loop : SessionLoop}, next.loop? generation = some loop →
            loop.bot = task.bot → ∀ {later : List Move} {last : Host}, Run next later last →
              last.Over generation loop) ∧
      ∀ {number : TaskNumber} {task record : Task} {handlers : List Handler} {session : Nat}
        {fault : ManagerFault} {between : List Move} {next : Host},
        host.task? number = some task →
          task.state = .answered (.connected handlers (.ok session)) → Run host between next →
            next.task? number = some record → record.state = .finished (.error fault) →
              ∃ generation loop, next.loop? generation = some loop ∧ loop.session = session ∧
                ∀ {later : List Move} {last : Host}, Run next later last →
                  last.Over generation loop := by
  have reachable : host.Reachable := ⟨patterns, settings, bots, moves, run⟩
  constructor
  · intro number task record next found stepped found' ends generation loop there ofBot later last
    have reachable' : next.Reachable :=
      reachable.run (.move (show host.after? (.step (.task number)) = some next from stepped)
        (.rest next))
    exact reachable'.stays_over there
      (reachable.finished_of_endsAt found stepped found' ends there ofBot)
  · intro number task record handlers session fault between next found opened between' found' failed
    obtain ⟨generation, loop, there, same, finished⟩ :=
      reachable.finished_of_failed found opened between' found' failed
    exact ⟨generation, loop, there, same, (reachable.run between').stays_over there finished⟩

/-- A bot is started and told of two events, and is stopped while a call in reply to the first takes
longer than the stop waits. -/
def stopDuringReply : List Move :=
  [.setDelays 0 0 60000, .begin .start "bot"] ++ .replicate 9 (.step (.task 0)) ++
    [.inject "token" (.ofText 7 "one"), .inject "token" (.ofText 7 "two"), .step (.loop 1),
      .step (.loop 1), .begin .stop "bot", .step (.task 1), .step (.task 1), .step (.task 1),
      .pass 5000, .step (.task 1), .step (.task 1), .step (.loop 1)] ++
    .replicate 5 (.step (.task 1))

theorem over_of_return_stopDuringReply : ∃ host next loop,
    Run (seeded .unlimited {} [.plain "bot" "token"]) stopDuringReply host ∧
      host.advance (.task 1) = some next ∧ next.loop? 1 = some loop ∧ loop.waiting.length = 1 ∧
        next.Over 1 loop := by
  have played : (((seeded .unlimited {} [.plain "bot" "token"]).play stopDuringReply).bind fun host =>
      (host.advance (.task 1)).bind fun next => (host.task? 1).bind fun task =>
        (next.task? 1).bind fun record => (next.loop? 1).map fun loop =>
          (task.operation.endsAt record.state, loop.bot == task.bot, loop.waiting.length)) =
      some (true, true, 1) := by rfl
  simp only [Option.bind_eq_some_iff, Option.map_eq_some_iff, Prod.mk.injEq, beq_iff_eq] at played
  obtain ⟨host, run, next, stepped, task, found, record, found', loop, there, ends, ofBot, waits⟩ :=
    played
  have silenced := (run_iff.mpr run).over_of_return
  exact ⟨host, next, loop, run_iff.mpr run, stepped, there, waits,
    silenced.1 found stepped found' ends there ofBot (.rest next)⟩

end Host

end BotHost
