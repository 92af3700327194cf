/-
What a start does step by step.

A start that can open a session goes on to where it asks for one, unless it finds that the bot runs;
it gets a session, launches a loop with it and registers the instance. Nothing else that goes on
meanwhile has anything to do with the session: reaping closes another one, and the loop that has it
goes on as long as nobody tells it to stop.
-/

import BotHost.Proofs.Manager.Holding
import BotHost.Proofs.Manager.Ledger
import BotHost.Proofs.Manager.Reaping
import BotHost.Proofs.Manager.Serial

namespace BotHost

/-- Whether a start has not gone beyond reading its bot's record. -/
def TaskState.contends (token : String) : TaskState → Prop
  | .created | .waiting .lock | .answered .locked | .waiting (.readToStart none) => True
  | .answered (.readToStart none (.ok (some record))) => record.token = token
  | _ => False

/-- Whether a start waits for a session to be opened, and for long enough. -/
def TaskState.connects (token : String) : TaskState → Prop
  | .waiting (.connect _ asked due deadline) => asked = token ∧ due ≤ deadline
  | _ => False

/-- Whether a start has opened a session and is about to register its instance. -/
def TaskState.carries (session : Nat) : TaskState → Prop
  | .answered (.connected _ (.ok opened)) => opened = session
  | .waiting (.recordRunning running) | .answered (.recordedRunning running (.ok _)) =>
    running.session = session
  | _ => False

namespace Host

variable {host next : Host} {number : TaskNumber} {task : Task} {bot token : String}

/-! ### What a start finds -/

/-- The token that a bot is stored with. -/
def tokenOf? (host : Host) (bot : String) : Option String :=
  (host.store.find? bot).map Bot.token

/-- A session for the bot is opened if it is asked for. -/
structure Startable (host : Host) (bot token : String) : Prop where
  reliable : host.Reliable
  stored : host.tokenOf? bot = some token
  accepted : host.transport.rejected.contains token = false
  prompt : host.transport.openDelay ≤ host.settings.connectTimeout

/-- What is set from outside no step changes. -/
theorem advance_frame {process : Process} (stepped : host.advance process = some next) :
    next.settings = host.settings ∧ next.faults = host.faults ∧ next.now = host.now ∧
      next.transport.rejected = host.transport.rejected ∧
        next.transport.openDelay = host.transport.openDelay ∧
          next.transport.closeDelay = host.transport.closeDelay ∧
            next.transport.sendDelay = host.transport.sendDelay := by
  cases process with
  | loop generation =>
    obtain ⟨loop, found, _, waiting, state, recorded, sendsStarted, ⟨rfl, _⟩ | ⟨rfl, _⟩⟩ :=
      advance_loop_cases stepped
    · exact ⟨rfl, rfl, rfl, rfl, rfl, rfl, rfl⟩
    · exact ⟨rfl, rfl, rfl, rfl, rfl, rfl, rfl⟩
  | task number =>
    obtain ⟨task, found, ⟨_, rfl⟩ | ⟨wait, answer, answered, waiting, taken, rfl⟩ |
      ⟨answer, answered, rfl⟩⟩ := advance_task_cases stepped
    · exact ⟨rfl, rfl, rfl, rfl, rfl, rfl, rfl⟩
    · have effect := answer?_transport taken
      obtain ⟨store, transport, rfl⟩ := answer?_eq taken
      refine ⟨rfl, rfl, rfl, ?_⟩
      show transport.rejected = _ ∧ transport.openDelay = _ ∧ transport.closeDelay = _ ∧
        transport.sendDelay = _
      rcases effect with
        ⟨_, same⟩ | ⟨_, token, _, _, _, _, _, opened⟩ | ⟨running, _, _, _, _, _, _, closed⟩
      · rw [show transport = host.transport from same]
        exact ⟨rfl, rfl, rfl, rfl⟩
      · unfold MemoryTransport.openSession at opened
        split at opened
        · cases opened
        · cases opened
          exact ⟨rfl, rfl, rfl, rfl⟩
      · rw [show transport = host.transport.closeSession running.session from closed]
        exact host.transport.closeSession_frame running.session
    · have goes := goesOn_resume host number task answer
      generalize host.resume number task answer = next at goes
      cases goes with
      | waits | launches => exact ⟨rfl, rfl, rfl, rfl, rfl, rfl, rfl⟩
      | ends _ registry result =>
        rw [finish_eq]
        exact ⟨rfl, rfl, rfl, rfl, rfl, rfl, rfl⟩
      | deletes =>
        rw [finishDeleted_eq]
        exact ⟨rfl, rfl, rfl, rfl, rfl, rfl, rfl⟩

theorem Startable.step (startable : host.Startable bot token) {process : Process}
    (stepped : host.advance process = some next) (stored : next.tokenOf? bot = host.tokenOf? bot) :
    next.Startable bot token where
  reliable := by
    intro point member
    rw [fails, (advance_frame stepped).2.1]
    exact startable.reliable point member
  stored := stored.trans startable.stored
  accepted := by
    rw [(advance_frame stepped).2.2.2.1]
    exact startable.accepted
  prompt := by
    rw [(advance_frame stepped).1, (advance_frame stepped).2.2.2.2.1]
    exact startable.prompt

theorem tokenOf?_storeSetStatus (host : Host) (written : String) (status : BotStatus)
    (bot : String) : (host.storeSetStatus written status).2.tokenOf? bot = host.tokenOf? bot := by
  unfold storeSetStatus
  split
  · rfl
  split
  · rfl
  split
  next store done =>
    show (store.find? bot).map Bot.token = _
    rw [host.store.find?_setStatus done bot]
    split
    · rw [tokenOf?, Option.map_map]
      rfl
    · rfl
  · rfl

/-! ### Before a session is opened -/

/-- A start goes on to where it asks for a session, unless it finds that the bot runs. -/
theorem advance_contends (startable : host.Startable task.bot token)
    (found : host.task? number = some task) (starts : task.operation = .start)
    (contends : task.state.contends token) (stepped : host.advance (.task number) = some next) :
    next = host.withTasks next.tasks next.locks ∧ ∃ lock state,
      next.task? number = some { task with lock, state } ∧
        (state.contends token ∨
          (host.running? task.bot = none ∧ state.connects token) ∨
          (host.running? task.bot ≠ none ∧
            state = .finished (.error (.alreadyRunning task.bot)))) := by
  obtain ⟨created, rfl⟩ | ⟨wait, answer, answered, waiting, taken, rfl⟩ |
    ⟨answer, answered, rfl⟩ := advance_found_cases found stepped
  · refine ⟨rfl, some (host.locks.obtain task.bot).1, .waiting .lock, ?_, .inl trivial⟩
    exact task?_changeTask_self found _
  · rw [waiting] at contends
    have here : (host.setTaskState number (.answered answer)).task? number =
        some { task with state := .answered answer } := task?_changeTask_self found _
    cases wait with
    | lock =>
      cases answers_of_answer? taken
      exact ⟨rfl, task.lock, _, here, .inl trivial⟩
    | readToStart asked =>
      cases asked with
      | some => cases contends
      | none =>
        have token' := startable.stored
        obtain ⟨record, stored, same⟩ := Option.map_eq_some_iff.mp token'
        cases answers_of_answer? taken
        refine ⟨rfl, task.lock, _, here, .inl ?_⟩
        have reads : host.storeFind task.bot = .ok (some record) := by
          rw [storeFind, startable.reliable .get (by decide), stored]
          rfl
        rw [reads]
        exact same
    | _ => cases contends
  · rw [answered] at contends
    cases answer with
    | locked =>
      have begins : host.resume number task .locked = host.waitFor number (.readToStart none) := by
        show host.begin number task = _
        unfold Host.begin
        rw [starts]
      rw [begins]
      exact ⟨rfl, task.lock, _, waitFor_found found, .inl trivial⟩
    | readToStart asked read =>
      cases asked with
      | some => rcases read with _ | _ | _ <;> cases contends
      | none =>
        rcases read with _ | _ | record
        · cases contends
        · cases contends
        change record.token = token at contends
        have connects : host.resume number task (.readToStart none (.ok (some record))) =
            if host.isRunning task.bot then
              host.finish number task (.error (.alreadyRunning task.bot))
            else host.waitFor number (.connect (host.compilation record.blocks).handlers record.token
              (host.now + host.transport.openDelay)
              (host.now + host.settings.connectTimeout)) := rfl
        rw [connects]
        split
        next runs =>
          refine ⟨?_, none, _, task?_finish_self found _, .inr (.inr ⟨?_, rfl⟩)⟩
          · rw [finish_eq]
            rfl
          · exact Option.isSome_iff_ne_none.mp runs
        next idle =>
          refine ⟨rfl, task.lock, _, waitFor_found found, .inr (.inl ⟨?_, contends, ?_⟩)⟩
          · simpa [isRunning] using idle
          · exact Nat.add_le_add_left startable.prompt host.now
    | _ => cases contends

/-- A start that asks for a session gets a new one. -/
theorem advance_connects (startable : host.Startable bot token)
    (found : host.task? number = some task) (connects : task.state.connects token)
    (stepped : host.advance (.task number) = some next) :
    ∃ handlers transport, next = { host with transport }.setTaskState number
        (.answered (.connected handlers (.ok host.transport.openedCount))) ∧
      transport.sessions = host.transport.sessions ++ [⟨token, none, false, false⟩] := by
  obtain ⟨created, rfl⟩ | ⟨wait, answer, answered, waiting, taken, rfl⟩ |
    ⟨answer, answered, rfl⟩ := advance_found_cases found stepped
  · rw [created] at connects
    cases connects
  · rw [waiting] at connects
    cases wait with
    | connect handlers asked due deadline =>
      obtain ⟨rfl, enough⟩ := connects
      have opens : host.transport.openSession asked = (.ok host.transport.openedCount,
          { host.transport with
            sessions := host.transport.sessions ++ [⟨asked, none, false, false⟩]
            current := (asked, host.transport.openedCount) ::
              (host.transport.forget asked).current }) := by
        unfold MemoryTransport.openSession
        rw [startable.accepted]
        rfl
      cases answers_of_answer? taken with
      | opened _ _ _ opens' =>
        cases opens.symm.trans opens'
        exact ⟨handlers, _, rfl, rfl⟩
      | rejected _ _ _ rejects =>
        rw [opens] at rejects
        cases rejects
      | unopened _ _ early passed =>
        exact absurd (Nat.le_trans enough passed) (Nat.not_le_of_lt early)
    | _ => cases connects
  · rw [answered] at connects
    cases connects

/-! ### What reaping leaves alone -/

/-- A task that reaps opens no session, closes none but that of its instance, launches no loop and
changes no token. -/
structure Bystands (host next : Host) (session : Nat) : Prop where
  count : next.transport.openedCount = host.transport.openedCount
  session : next.transport.session? session = host.transport.session? session
  marked : next.loops.map SessionLoop.unmarked = host.loops.map SessionLoop.unmarked
  token : ∀ bot, next.tokenOf? bot = host.tokenOf? bot

theorem bystands_of_reaps (found : host.task? number = some task)
    (reaps : task.state.reaps = true) {session : Nat}
    (other : ∀ {stage : Stage} {running : Instance}, task.state.charge? = some (stage, running) →
      running.session ≠ session) (stepped : host.advance (.task number) = some next) :
    host.Bystands next session := by
  obtain ⟨created, rfl⟩ | ⟨wait, answer, answered, waiting, taken, rfl⟩ |
    ⟨answer, answered, rfl⟩ := advance_found_cases found stepped
  · exact ⟨rfl, rfl, rfl, fun _ => rfl⟩
  · rw [waiting] at reaps other
    cases answers_of_answer? taken with
    | closed running =>
      refine ⟨host.transport.length_closeSession running.session, ?_, rfl, fun _ => rfl⟩
      exact (host.transport.session?_closeSession running.session session).trans
        (if_neg fun same => other rfl same.symm)
    | recordedReaped =>
      have tokens := host.tokenOf?_storeSetStatus task.bot .error
      rw [storeSetStatus_eq] at tokens ⊢
      exact ⟨rfl, rfl, rfl, tokens⟩
    | locked | joined | unjoined | joinedAborted | unclosed => exact ⟨rfl, rfl, rfl, fun _ => rfl⟩
    | _ => cases reaps
  · rw [answered] at reaps
    have goes := goesOn_resume host number task answer
    generalize host.resume number task answer = next at goes
    cases goes with
    | waits _ registry loops wait other idle marked => exact ⟨rfl, rfl, marked, fun _ => rfl⟩
    | launches => cases reaps
    | ends _ registry result =>
      rw [finish_eq]
      exact ⟨rfl, rfl, rfl, fun _ => rfl⟩
    | deletes =>
      rw [finishDeleted_eq]
      exact ⟨rfl, rfl, rfl, fun _ => rfl⟩

/-- A task that reaps leaves an instance registered whose loop has not finished. -/
theorem running?_of_reaps (reapers : host.Reapers) (found : host.task? number = some task)
    {generation : Nat} (operation : task.operation = .reap generation)
    (stepped : host.advance (.task number) = some next)
    (unfinished : ∀ {running : Instance} {loop : SessionLoop}, host.running? bot = some running →
      host.loop? running.generation = some loop → loop.state ≠ .finished) :
    next.running? bot = host.running? bot := by
  have reaps := reapers.reaps found operation
  obtain ⟨created, rfl⟩ | ⟨wait, answer, answered, waiting, taken, rfl⟩ |
    ⟨answer, answered, rfl⟩ := advance_found_cases found stepped
  · rfl
  · obtain ⟨store, transport, rfl⟩ := answer?_eq taken
    rfl
  · rw [answered] at reaps
    by_cases locked : answer = .locked
    · subst locked
      have begins : host.resume number task .locked = host.begin number task := rfl
      rw [begins, Host.begin, operation]
      dsimp only
      split
      next running registered =>
        split
        next same =>
          refine (host.running?_unregister task.bot bot).trans (if_neg ?_)
          rintro rfl
          obtain ⟨loop, there, finished⟩ := reapers.finished found operation
          exact unfinished registered (same ▸ there) finished
        · rw [finish_eq]
          rfl
      · rw [finish_eq]
        rfl
    · have registers := resume_registers found answer
      generalize host.resume number task answer = next at registers
      cases registers with
      | keeps _ lock state registry => rw [running?, registry, running?]
      | takes running ending atLock => exact absurd atLock locked
      | enrolls running recorded =>
        rw [recorded] at reaps
        cases reaps

/-! ### A session that stays open -/

/-- A session is open, and the loop that has it as its own, if there is one yet, hears through it and
goes on. -/
def Listens (host : Host) (session : Nat) : Prop :=
  ∃ record, host.transport.session? session = some record ∧ record.closed = false ∧
    record.ended = false ∧ ∀ {generation : Nat} {loop : SessionLoop},
      host.loop? generation = some loop → loop.session = session →
        record.listener = some generation ∧ loop.state ≠ .finished

theorem Listens.congr {session : Nat} (listens : host.Listens session)
    (same : next.transport.session? session = host.transport.session? session)
    (loops : ∀ {generation : Nat} {loop : SessionLoop}, next.loop? generation = some loop →
      loop.session = session → ∃ before, host.loop? generation = some before ∧
        before.session = session ∧ (loop.state = .finished → before.state = .finished)) :
    next.Listens session := by
  obtain ⟨record, there, opened, unended, hears⟩ := listens
  refine ⟨record, same.trans there, opened, unended, fun there' ofLoop => ?_⟩
  obtain ⟨before, found, ofLoop', finished⟩ := loops there' ofLoop
  obtain ⟨listener, unfinished⟩ := hears found ofLoop'
  exact ⟨listener, fun now => unfinished (finished now)⟩

theorem Listens.kept {session : Nat} (listens : host.Listens session)
    (same : next.transport.session? session = host.transport.session? session)
    (loops : next.loops = host.loops) : next.Listens session := by
  refine listens.congr same fun {generation loop} there ofLoop => ⟨loop, ?_, ofLoop, id⟩
  rw [loop?, loops] at there
  exact there

theorem Bystands.listens {session : Nat} (bystands : host.Bystands next session)
    (listens : host.Listens session) : next.Listens session := by
  refine listens.congr bystands.session fun there ofLoop => ?_
  obtain ⟨before, found, same⟩ := loop?_unmarked bystands.marked there
  exact ⟨before, found, (congrArg (·.session) same).trans ofLoop,
    fun finished => (congrArg (·.state) same).trans finished⟩

/-- A loop that nobody has told to stop goes on as long as it hears. -/
theorem Listens.loop {session generation : Nat} (listens : host.Listens session)
    (unmarked : ∀ {loop : SessionLoop}, host.loop? generation = some loop →
      loop.session = session → loop.cancelled = false ∧ loop.aborted = false)
    (stepped : host.advance (.loop generation) = some next) : next.Listens session := by
  obtain ⟨loop, found, unfinished, waiting, state, recorded, sendsStarted, moved⟩ :=
    advance_loop_cases stepped
  have goesOn (ends : state = .finished → loop.session ≠ session) :
      (host.moveLoop generation waiting state recorded sendsStarted).Listens session := by
    refine listens.congr rfl fun {other later} there ofLoop => ?_
    rw [loop?_moveLoop found] at there
    split at there
    next same =>
      subst same
      obtain rfl := Option.some.inj there
      exact ⟨loop, found, ofLoop, fun finished => absurd ofLoop (ends finished)⟩
    next => exact ⟨later, there, ofLoop, id⟩
  rcases moved with ⟨rfl, told⟩ | ⟨rfl, _, _, deaf, _⟩
  · refine goesOn fun finished ofLoop => ?_
    obtain ⟨active, whole⟩ := unmarked found ofLoop
    rcases told finished with cancelled | aborted
    · cases active.symm.trans cancelled
    · cases whole.symm.trans aborted
  · have silent : loop.session ≠ session := by
      intro ofLoop
      obtain ⟨record, there, _, _, hears⟩ := listens
      have listener := (hears found ofLoop).1
      rw [Host.hears, MemoryTransport.listener?, ofLoop, there, Option.bind_some, listener] at deaf
      simp at deaf
    exact goesOn fun _ => silent

/-! ### Once a session has been opened -/

theorem holds_of_carries {state : TaskState} {session : Nat} (carries : state.carries session) :
    state.holds? = some session ∧ state.inside = true := by
  cases state with
  | created | finished => cases carries
  | waiting wait =>
    cases wait with
    | recordRunning running => exact ⟨congrArg some carries, rfl⟩
    | _ => cases carries
  | answered answer =>
    cases answer with
    | connected handlers result =>
      cases result with
      | ok opened => exact ⟨congrArg some carries, rfl⟩
      | error => cases carries
    | recordedRunning running result =>
      cases result with
      | ok => exact ⟨congrArg some carries, rfl⟩
      | error => cases carries
    | _ => cases carries

theorem vacant_of_carries {session : Nat} (carries : task.state.carries session) :
    task.vacant = true := by
  obtain ⟨operation, bot, lock, state⟩ := task
  cases state with
  | created | finished => cases carries
  | waiting wait => cases wait <;> first | rfl | cases carries
  | answered answer =>
    cases answer with
    | readToStart => cases carries
    | locked => cases carries
    | _ => rfl

theorem idle_of_contends {state : TaskState} (contends : state.contends token) :
    state.holds? = none := by
  cases state with
  | created | finished => rfl
  | waiting wait => cases wait <;> first | rfl | cases contends
  | answered answer =>
    cases answer with
    | locked | readToStart => rfl
    | _ => cases contends

theorem inside_of_connects {state : TaskState} (connects : state.connects token) :
    state.inside = true := by
  cases state with
  | created | finished | answered => cases connects
  | waiting wait => cases wait <;> first | rfl | cases connects

/-- A session belongs to an instance that is registered or is about to be. -/
def Owned (host : Host) (session : Nat) : Prop :=
  (∃ bot running, host.running? bot = some running ∧ running.session = session) ∨
    ∃ number task, host.task? number = some task ∧ task.operation = .start ∧
      task.state.carries session

/-- Nobody has told the loop of such an instance to stop. -/
theorem Owned.unmarked {session : Nat} (owned : host.Owned session) (custody : host.Custody)
    (paired : host.Paired) {generation : Nat} {loop : SessionLoop}
    (there : host.loop? generation = some loop) (ofLoop : loop.session = session) :
    loop.cancelled = false ∧ loop.aborted = false := by
  have shown {stage : Stage} {running : Instance} (bears : host.Bears stage running)
      (same : running.session = session) : stage.Shows loop := by
    obtain ⟨loop', there', _, session', _, shows⟩ := bears
    have one := paired.single there there' (ofLoop.trans (same.symm.trans session'.symm))
    rw [← one, there] at there'
    obtain rfl := Option.some.inj there'
    exact shows
  rcases owned with ⟨bot, running, registered, same⟩ | ⟨number, task, found, _, carries⟩
  · exact shown (custody.registered registered) same
  have fresh (unused : task.state.fresh? = some session) : False :=
    (paired.fresh found unused).2 there ofLoop
  have launched {running : Instance} (charge : task.state.charge? = some (.launched, running))
      (same : running.session = session) : loop.cancelled = false ∧ loop.aborted = false :=
    shown (custody.charged found charge).2 same
  generalize task.state = state at carries fresh launched
  cases state with
  | created | finished => cases carries
  | waiting wait =>
    cases wait with
    | recordRunning running => exact launched rfl carries
    | _ => cases carries
  | answered answer =>
    cases answer with
    | connected handlers result =>
      cases result with
      | ok opened => exact absurd (congrArg some carries) fresh
      | error => cases carries
    | recordedRunning running result =>
      cases result with
      | ok => exact launched rfl carries
      | error => cases carries
    | _ => cases carries

/-- A task that does not start a bot has another instance in hand. -/
theorem Owned.apart {session : Nat} (owned : host.Owned session) (orderly : host.Orderly)
    (custody : host.Custody) (paired : host.Paired) (found : host.task? number = some task)
    (other : task.operation ≠ .start) {stage : Stage} {running : Instance}
    (charge : task.state.charge? = some (stage, running)) : running.session ≠ session := by
  obtain ⟨registered, holder⟩ := sole_holder orderly custody paired found charge
  rintro rfl
  rcases owned with ⟨bot, running', there, same⟩ | ⟨winner, record, found', starts, carries⟩
  · exact registered there same
  · have own := holder ((holds?_eq found').trans (holds_of_carries carries).1)
    subst own
    rw [found] at found'
    obtain rfl := Option.some.inj found'
    exact other starts

/-- What a start that has opened a session does next: it launches a loop, records that the bot runs,
and registers the instance. -/
theorem advance_carries (startable : host.Startable task.bot token) (custody : host.Custody)
    (paired : host.Paired) (found : host.task? number = some task) {session : Nat}
    (carries : task.state.carries session) (listens : host.Listens session)
    (stepped : host.advance (.task number) = some next) :
    next.transport.openedCount = host.transport.openedCount ∧ next.Listens session ∧
      next.tokenOf? task.bot = host.tokenOf? task.bot ∧
      ((∃ lock state, next.task? number = some { task with lock, state } ∧
          state.carries session) ∨
        next.task? number = some { task with lock := none, state := .finished (.ok .done) } ∧
          ∃ running, next.running? task.bot = some running ∧ running.session = session) := by
  obtain ⟨created, rfl⟩ | ⟨wait, answer, answered, waiting, taken, rfl⟩ |
    ⟨answer, answered, rfl⟩ := advance_found_cases found stepped
  · rw [created] at carries
    cases carries
  · rw [waiting] at carries
    cases wait with
    | recordRunning running =>
      have tokens := host.tokenOf?_storeSetStatus task.bot .running task.bot
      cases written : (host.storeSetStatus task.bot .running).1 with
      | error fault =>
        have missing := statusOf?_of_storeSetStatus_error startable.reliable written
        have stored := startable.stored
        rw [statusOf?, Option.map_eq_none_iff] at missing
        rw [tokenOf?, missing] at stored
        cases stored
      | ok done =>
        cases answers_of_answer? taken
        rw [written]
        rw [storeSetStatus_eq] at tokens ⊢
        refine ⟨rfl, listens.kept rfl rfl, tokens, .inl
          ⟨task.lock, .answered (.recordedRunning running (.ok done)), ?_, carries⟩⟩
        exact task?_changeTask_self found _
    | _ => cases carries
  · rw [answered] at carries
    cases answer with
    | connected handlers result =>
      cases result with
      | error => cases carries
      | ok opened =>
        obtain rfl : opened = session := carries
        refine ⟨host.transport.length_change opened _, ?_, rfl, .inl ⟨task.lock, _,
          waitFor_found found, rfl⟩⟩
        obtain ⟨record, there, unclosed, unended, _⟩ := listens
        refine ⟨{ record with listener := some host.nextGeneration }, ?_, unclosed, unended, ?_⟩
        · refine (host.transport.session?_change opened _ opened).trans ?_
          rw [if_pos rfl, there, Option.map_some, unclosed, unended]
          rfl
        · intro generation loop there' ofLoop
          change { host with loops := host.loops ++ [_] }.loop? generation = some loop at there'
          rw [loop?_append] at there'
          split at there'
          next same =>
            obtain rfl := Option.some.inj there'
            exact ⟨congrArg some same.symm, by rintro ⟨⟩⟩
          · exact absurd ofLoop ((paired.fresh found (by rw [answered]; rfl)).2 there')
    | recordedRunning running result =>
      cases result with
      | error => cases carries
      | ok done =>
        have ofBot := (custody.charged found (by rw [answered]; rfl)).1
        show ((host.enroll running).finish number task (.ok .done)).transport.openedCount = _ ∧
          ((host.enroll running).finish number task (.ok .done)).Listens session ∧
          ((host.enroll running).finish number task (.ok .done)).tokenOf? task.bot = _ ∧ (_ ∨
          ((host.enroll running).finish number task (.ok .done)).task? number = _ ∧ ∃ running',
          ((host.enroll running).finish number task (.ok .done)).running? task.bot = _ ∧ _)
        have here := @task?_finish_self (host.enroll running) number task found (.ok .done)
        rw [finish_eq] at here ⊢
        refine ⟨rfl, listens.kept rfl rfl, rfl, .inr
          ⟨here, running, ?_, carries⟩⟩
        exact (host.running?_enroll running task.bot).trans (if_pos ofBot.symm)
    | _ => cases carries

end Host

end BotHost
