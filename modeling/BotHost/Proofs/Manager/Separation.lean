/-
What an operation on one bot leaves alone.

The registry, the table of locks, the store and the transport are shared by all bots, and what keeps
the bots apart is that each entry has one owner: names are found by the bot, a lock is named for one
bot, and a session is in the hands of one task or one loop. A token alone may be shared, and two bots
with one token would take the events of that token from each other.
-/

import BotHost.Proofs.Manager.Continuing
import BotHost.Proofs.Manager.Looping
import BotHost.Proofs.Manager.Queueing
import BotHost.Proofs.Manager.Records

namespace BotHost

/-- The token that a task is about to connect with. -/
def TaskState.token? : TaskState → Option String
  | .waiting (.connect _ token _ _) => some token
  | _ => none

namespace Host

/-- The sessions of a bot: those of its loops, and those that tasks have opened for it. -/
def sessionsOf (host : Host) (bot : String) : List Nat :=
  (host.loops.filter (·.bot == bot)).map SessionLoop.session ++
    (host.tasks.filter (·.bot == bot)).filterMap fun task => task.state.fresh?

/-- The tokens that a bot uses: the one that is stored for it, those that tasks connect with for it, and
those of its sessions which have not been closed. -/
def tokensOf (host : Host) (bot : String) : List String :=
  (host.store.find? bot).toList.map Bot.token ++
    (host.tasks.filter (·.bot == bot)).filterMap (fun task => task.state.token?) ++
      (((host.sessionsOf bot).filterMap host.transport.session?).filter (!·.closed)).map
        MemorySession.token

/-- A bot has the lock that it had, and nothing has happened to that. -/
structure KeepsLock (host : Host) (bot : String) (next : Host) : Prop where
  named : next.locks.number? bot = host.locks.number? bot
  lock : ∀ {number : Nat}, host.locks.number? bot = some number →
    next.locks.locks[number]? = host.locks.locks[number]?

/-- The sessions of a bot are as they were, and the tokens that it uses reach the sessions that they
have reached. -/
structure KeepsSessions (host : Host) (bot : String) (next : Host) : Prop where
  sessions : ∀ session ∈ host.sessionsOf bot,
    next.transport.session? session = host.transport.session? session
  reached : ∀ token ∈ host.tokensOf bot,
    next.transport.current? token = host.transport.current? token

/-- All that belongs to a bot is as it was: its lock and who has it and waits for it, its sessions, its
entry in the registry, its record, and its loops with the events that wait for them. -/
structure Untouched (host : Host) (bot : String) (next : Host) : Prop extends
    KeepsLock host bot next, KeepsSessions host bot next where
  registered : next.running? bot = host.running? bot
  stored : next.store.find? bot = host.store.find? bot
  loops : ∀ {generation : Nat} {loop : SessionLoop}, loop.bot = bot →
    (next.loop? generation = some loop ↔ host.loop? generation = some loop)

/-- The bot that a process acts for. -/
def actsFor? (host : Host) : Process → Option String
  | .task number => (host.task? number).map Task.bot
  | .loop generation => (host.loop? generation).map SessionLoop.bot

variable {host next : Host} {number : TaskNumber} {task : Task} {other : String}

/-! ### Registry and loops -/

/-- A step that changes neither tasks nor registry nor loops spares all of them. -/
theorem Spares.of_eq {bot : String} (tasks : next.tasks = host.tasks)
    (registry : next.registry = host.registry) (loops : next.loops = host.loops) :
    host.Spares number bot next where
  tasks _ := by rw [task?, task?, tasks]
  running _ := by rw [running?, running?, registry]
  loops _ := by rw [loop?, loop?, loops]

/-- A task that goes on spares the other bots: a loop that it marks is that of an instance of its own. -/
theorem spares_of_resume (custody : host.Custody) (found : host.task? number = some task)
    {answer : Answer} (answered : task.state = .answered answer) :
    host.Spares number task.bot (host.resume number task answer) := by
  have marks {middle : Host} {stage : Stage} {running : Instance} (ofBot : running.bot = task.bot)
      (bears : middle.Bears stage running) (change : SessionLoop → SessionLoop)
      (stays : ∀ loop, (change loop).bot = loop.bot) :
      middle.Spares number task.bot (middle.changeLoop running.generation change) := by
    obtain ⟨loop, there, ofLoop, _⟩ := bears
    have ofTask := ofLoop.trans ofBot
    exact .changeLoop number there ofTask change ((stays loop).trans ofTask)
  have charged {stage : Stage} {running : Instance}
      (charge : (TaskState.answered answer).charge? = some (stage, running)) :=
    custody.charged found (by rw [answered]; exact charge)
  have goes := resume_continues host number task answer
  generalize host.resume number task answer = next at goes
  cases goes with
  | waits => exact .changeTask ..
  | takes running ending registered =>
    have bears : (host.unregister task.bot).Bears .running running := custody.registered registered
    have marked := marks (host.running?_bot registered) bears
      (fun loop => { loop with cancelled := true }) fun _ => rfl
    exact ((Spares.unregister host number task.bot).trans marked).trans (.changeTask ..)
  | withdraws running fault =>
    obtain ⟨ofBot, bears⟩ := charged rfl
    have marked := marks ofBot bears (fun loop => { loop with cancelled := true }) fun _ => rfl
    exact marked.trans (.changeTask ..)
  | aborts running ending =>
    obtain ⟨ofBot, bears⟩ := charged rfl
    have marked := marks ofBot bears (fun loop => { loop with aborted := true }) fun _ => rfl
    exact marked.trans (.changeTask ..)
  | launches handlers session =>
    exact (Spares.addLoop host number task.bot _ _ rfl).trans (.changeTask ..)
  | enrolls running =>
    have enrolled := Spares.enroll host number running
    rw [(charged rfl).1] at enrolled
    exact enrolled.trans (.finish ..)
  | ends => exact .finish ..
  | deletes =>
    rw [finishDeleted_eq]
    exact (Spares.changeTask host number task.bot _).trans (.of_eq rfl rfl rfl)

/-- A task spares the instances and the loops of all bots but its own. -/
theorem spares_of_advance (custody : host.Custody) (found : host.task? number = some task)
    (stepped : host.advance (.task number) = some next) : host.Spares number task.bot next := by
  obtain ⟨_, rfl⟩ | ⟨wait, answer, answered, _, taken, rfl⟩ | ⟨answer, answered, rfl⟩ :=
    advance_found_cases found stepped
  · obtain ⟨locks, lock, asks⟩ := host.requestLock_eq number task
    rw [asks]
    have asked : host.Spares number task.bot { host with locks } := .of_eq rfl rfl rfl
    exact asked.trans (.changeTask ..)
  · obtain ⟨store, transport, rfl⟩ := answer?_eq taken
    have served : host.Spares number task.bot { host with store, transport } := .of_eq rfl rfl rfl
    exact served.trans (.changeTask ..)
  · exact spares_of_resume custody found answered

/-! ### Locks -/

theorem KeepsLock.of_eq {bot : String} (same : next.locks = host.locks) : host.KeepsLock bot next where
  named := by rw [same]
  lock _ := by rw [same]

/-- Asking for the lock of one bot keeps that of another. -/
theorem keepsLock_requestLock (orderly : host.Orderly) (task : Task) (different : other ≠ task.bot) :
    host.KeepsLock other (host.requestLock number task) where
  named := (host.locks.number?_obtain task.bot other).trans (if_neg different)
  lock := by
    intro lock named
    have apart : lock ≠ (host.locks.obtain task.bot).1 := by
      rintro rfl
      cases known : host.locks.number? task.bot with
      | some lock =>
        rw [LockTable.obtain_known _ known] at named
        exact different (orderly.single named known)
      | none =>
        rw [LockTable.obtain_new _ known] at named
        exact Nat.lt_irrefl _ (orderly.made named)
    show ((host.locks.obtain task.bot).2.request (host.locks.obtain task.bot).1 number).locks[lock]? =
      _
    rw [LockTable.lock?_request, if_neg apart, LockTable.lock?_obtain, if_neg]
    rintro ⟨_, rfl⟩
    exact Nat.lt_irrefl _ (orderly.made named)

/-- A lock that is given back is that of the task's bot. -/
theorem keepsLock_releaseLock (orderly : host.Orderly) (found : host.task? number = some task)
    (different : other ≠ task.bot) : host.KeepsLock other (host.releaseLock task) where
  named := by
    unfold releaseLock
    split <;> rfl
  lock := by
    intro lock named
    rw [locks_releaseLock, if_neg]
    intro refers
    exact different (orderly.single named (orderly.named found refers))

/-- A deletion of one bot keeps the lock of another. -/
theorem keepsLock_finishDeleted (orderly : host.Orderly) (found : host.task? number = some task)
    (different : other ≠ task.bot) : host.KeepsLock other (host.finishDeleted number task) where
  named := by
    have released := (keepsLock_releaseLock orderly found different).named
    unfold finishDeleted
    dsimp only
    split
    · exact (((host.releaseLock task).locks.number?_forget task.bot other).trans
        (if_neg different)).trans released
    · exact released
  lock := by
    intro lock named
    rw [locks_finishDeleted]
    exact (keepsLock_releaseLock orderly found different).lock named

/-- A step of a task keeps the lock of every bot but its own. -/
theorem keepsLock_of_advance (orderly : host.Orderly) (found : host.task? number = some task)
    (stepped : host.advance (.task number) = some next) (different : other ≠ task.bot) :
    host.KeepsLock other next := by
  obtain ⟨_, rfl⟩ | ⟨wait, answer, answered, _, taken, rfl⟩ | ⟨answer, answered, rfl⟩ :=
    advance_found_cases found stepped
  · exact keepsLock_requestLock orderly task different
  · obtain ⟨store, transport, rfl⟩ := answer?_eq taken
    exact .of_eq rfl
  · have goes := goesOn_resume host number task answer
    generalize host.resume number task answer = next at goes
    have released := keepsLock_releaseLock orderly found different
    cases goes with
    | waits | launches => exact .of_eq rfl
    | ends _ registry result =>
      have same : (host.withInstances registry host.loops).Orderly := orderly.congr rfl rfl
      have left := @keepsLock_releaseLock _ number task _ same found different
      exact ⟨left.named, left.lock⟩
    | deletes => exact keepsLock_finishDeleted orderly found different

/-! ### Sessions -/

/-- A session of a bot is that of one of its loops or one that a task has just opened for it. -/
theorem mem_sessionsOf {bot : String} {session : Nat} :
    session ∈ host.sessionsOf bot ↔
      (∃ generation loop, host.loop? generation = some loop ∧ loop.bot = bot ∧
        loop.session = session) ∨
      ∃ number task, host.task? number = some task ∧ task.bot = bot ∧
        task.state.fresh? = some session := by
  refine List.mem_append.trans (or_congr ?_ ?_)
  · simp only [List.mem_map, List.mem_filter, mem_loops, beq_iff_eq]
    grind
  · simp only [List.mem_filterMap, List.mem_filter, mem_tasks, beq_iff_eq]
    grind

/-- A bot uses the token a task of it connects with. -/
theorem mem_tokensOf_of_connect (found : host.task? number = some task) {handlers : List Handler}
    {token : String} {due deadline : Nat}
    (waiting : task.state = .waiting (.connect handlers token due deadline)) :
    token ∈ host.tokensOf task.bot := by
  refine List.mem_append_left _ (List.mem_append_right _ (List.mem_filterMap.mpr ⟨task, ?_, ?_⟩))
  · exact List.mem_filter.mpr ⟨List.mem_of_getElem? found, beq_self_eq_true task.bot⟩
  · rw [waiting]
    rfl

/-- A bot uses the tokens of its sessions that are open. -/
theorem mem_tokensOf_of_session {bot : String} {opened : Nat} (owns : opened ∈ host.sessionsOf bot)
    {session : MemorySession Nat} (there : host.transport.session? opened = some session)
    (unclosed : session.closed = false) : session.token ∈ host.tokensOf bot := by
  have among := List.mem_filterMap.mpr ⟨opened, owns, there⟩
  refine List.mem_append_right _ (List.mem_map_of_mem (List.mem_filter.mpr ⟨among, ?_⟩))
  rw [unclosed]
  rfl

/-- A session belongs to one bot. -/
theorem Paired.owner (paired : host.Paired) {bot : String} {session : Nat}
    (owns : session ∈ host.sessionsOf bot) (owns' : session ∈ host.sessionsOf other) :
    bot = other := by
  rcases mem_sessionsOf.mp owns with
    ⟨generation, loop, found, rfl, has⟩ | ⟨number, task, found, rfl, fresh⟩ <;>
    rcases mem_sessionsOf.mp owns' with
      ⟨generation', loop', found', rfl, has'⟩ | ⟨number', task', found', rfl, fresh'⟩
  · obtain rfl := paired.single found found' (has.trans has'.symm)
    rw [found] at found'
    rw [Option.some.inj found']
  · exact absurd has ((paired.fresh found' fresh').2 found)
  · exact absurd has' ((paired.fresh found fresh).2 found')
  · obtain rfl := paired.apart found found' fresh fresh'
    rw [found] at found'
    rw [Option.some.inj found']

/-- The sessions of a bot have been opened. -/
theorem Paired.opened_of_mem (paired : host.Paired) {bot : String} {session : Nat}
    (owns : session ∈ host.sessionsOf bot) : session < host.transport.openedCount := by
  rcases mem_sessionsOf.mp owns with ⟨generation, loop, found, _, rfl⟩ |
    ⟨number, task, found, _, fresh⟩
  · exact paired.opened found
  · exact (paired.fresh found fresh).1

theorem KeepsSessions.of_eq {bot : String} (same : next.transport = host.transport) :
    host.KeepsSessions bot next where
  sessions _ _ := by rw [same]
  reached _ _ := by rw [same]

/-- A session that a task closes is in its hands. -/
theorem mem_sessionsOf_of_close (custody : host.Custody) (found : host.task? number = some task)
    {running : Instance} {ending : Ending} {forced : Bool} {due deadline : Nat}
    (waiting : task.state = .waiting (.close running ending forced due deadline)) :
    running.session ∈ host.sessionsOf task.bot := by
  obtain ⟨ofBot, loop, there, ofLoop, session, _⟩ := custody.charged found (by rw [waiting]; rfl)
  exact mem_sessionsOf.mpr (.inl ⟨running.generation, loop, there, ofLoop.trans ofBot, session⟩)

/-- An answer to a task keeps the sessions of a bot that shares no token with it. -/
theorem keepsSessions_of_answer (custody : host.Custody) (paired : host.Paired)
    (found : host.task? number = some task) {wait : Wait} (waiting : task.state = .waiting wait)
    {answer : Answer} {answered : Host}
    (taken : host.answer? number task wait = some (answer, answered))
    (different : other ≠ task.bot)
    (apart : ∀ token ∈ host.tokensOf task.bot, token ∉ host.tokensOf other) :
    host.KeepsSessions other answered := by
  rcases answer?_transport taken with ⟨_, same⟩ |
    ⟨handlers, token, due, deadline, session, rfl, _, opened⟩ |
    ⟨running, ending, forced, due, deadline, rfl, _, closed⟩
  · exact .of_eq same
  · have same : answered.transport = (host.transport.openSession token).2 := by rw [opened]
    have uses : token ∈ host.tokensOf task.bot := mem_tokensOf_of_connect found waiting
    constructor
    · intro session owns
      rw [same]
      rcases host.transport.session?_openSession token session with before | ⟨last, _⟩
      · exact before
      · exact absurd (paired.opened_of_mem owns) (by rw [last]; exact Nat.lt_irrefl _)
    · intro token' uses'
      rw [same]
      refine host.transport.current?_openSession_other ?_
      rintro rfl
      exact apart _ uses uses'
  · have owns := mem_sessionsOf_of_close custody found waiting
    constructor
    · intro session owns'
      rw [closed, MemoryTransport.session?_closeSession, if_neg]
      rintro rfl
      exact different (paired.owner owns' owns)
    · intro token uses
      rw [closed]
      by_cases open' : ∃ session, host.transport.session? running.session = some session ∧
          session.closed = false
      · obtain ⟨session, there, unclosed⟩ := open'
        refine host.transport.current?_closeSession_other there ?_
        rintro rfl
        exact apart _ (mem_tokensOf_of_session owns there unclosed) uses
      · rw [host.transport.closeSession_of_closed]
        intro session there
        by_contra unclosed
        exact open' ⟨session, there, by simpa using unclosed⟩

/-- A task that goes on keeps the sessions of every other bot. -/
theorem keepsSessions_of_resume (paired : host.Paired) (found : host.task? number = some task)
    {answer : Answer} (answered : task.state = .answered answer) (different : other ≠ task.bot) :
    host.KeepsSessions other (host.resume number task answer) := by
  rcases host.resume_launches number task answer with ⟨same, _⟩ | ⟨_, session, rfl, launched⟩
  · exact .of_eq same
  · rw [launched]
    have owns : session ∈ host.sessionsOf task.bot :=
      mem_sessionsOf.mpr (.inr ⟨number, task, found, rfl, by rw [answered]; rfl⟩)
    constructor
    · intro session' owns'
      refine (host.transport.session?_change session _ session').trans (if_neg ?_)
      rintro rfl
      exact different (paired.owner owns' owns)
    · exact fun _ _ => rfl

/-- A step of a task keeps the sessions of a bot that shares no token with its own. -/
theorem keepsSessions_of_advance (custody : host.Custody) (paired : host.Paired)
    (found : host.task? number = some task) (stepped : host.advance (.task number) = some next)
    (different : other ≠ task.bot)
    (apart : ∀ token ∈ host.tokensOf task.bot, token ∉ host.tokensOf other) :
    host.KeepsSessions other next := by
  obtain ⟨_, rfl⟩ | ⟨wait, answer, answered, waiting, taken, rfl⟩ | ⟨answer, answered, rfl⟩ :=
    advance_found_cases found stepped
  · exact .of_eq rfl
  · have kept := keepsSessions_of_answer custody paired found waiting taken different apart
    exact ⟨kept.sessions, kept.reached⟩
  · exact keepsSessions_of_resume paired found answered different

/-! ### All that belongs to a bot -/

/-- A step of a task keeps the record of every bot but its own. -/
theorem find?_of_advance (found : host.task? number = some task)
    (stepped : host.advance (.task number) = some next) (different : other ≠ task.bot) :
    next.store.find? other = host.store.find? other := by
  rcases advance_store stepped with same | ⟨number', record, wait, answer, answered, own, found', _,
    taken, wrote⟩
  · rw [same]
  · cases own
    obtain rfl : task = record := Option.some.inj (found.symm.trans found')
    rw [wrote]
    exact answer?_find?_other taken different

/-- A step of a task leaves a bot untouched that shares no token with its own. -/
theorem untouched_of_task (reachable : host.Reachable) (found : host.task? number = some task)
    (stepped : host.advance (.task number) = some next) (different : other ≠ task.bot)
    (apart : ∀ token ∈ host.tokensOf task.bot, token ∉ host.tokensOf other) :
    host.Untouched other next := by
  have spares := spares_of_advance reachable.custody found stepped
  have locks := keepsLock_of_advance reachable.orderly found stepped different
  have sessions := keepsSessions_of_advance reachable.custody reachable.paired found stepped different
    apart
  exact ⟨locks, sessions, spares.running different, find?_of_advance found stepped different,
    fun ofOther => spares.loops (ofOther ▸ different)⟩

/-- A step of a loop leaves every bot but its own untouched. -/
theorem untouched_of_loop {generation : Nat} {loop : SessionLoop}
    (found : host.loop? generation = some loop)
    (stepped : host.advance (.loop generation) = some next) (different : other ≠ loop.bot) :
    host.Untouched other next := by
  have loops {generation' : Nat} {loop' : SessionLoop} (ofOther : loop'.bot = other) :
      next.loop? generation' = some loop' ↔ host.loop? generation' = some loop' := by
    by_cases own : generation' = generation
    · subst own
      obtain ⟨later, there, ofBot, _⟩ :=
        loop?_after (show host.after? (.step (.loop generation')) = some next from stepped) found
      rw [there, found, Option.some.injEq, Option.some.injEq]
      constructor <;> rintro rfl
      · exact absurd (ofOther.symm.trans ofBot) different
      · exact absurd ofOther.symm different
    · rw [advance_loop?_of_ne stepped own]
  obtain ⟨_, _, _, waiting, state, recorded, sendsStarted, ⟨rfl, _⟩ | ⟨rfl, _⟩⟩ :=
    advance_loop_cases stepped
  · exact ⟨.of_eq rfl, ⟨fun _ _ => rfl, fun _ _ => rfl⟩, rfl, rfl, loops⟩
  · exact ⟨.of_eq rfl, ⟨fun _ _ => rfl, fun _ _ => rfl⟩, rfl, rfl, loops⟩

end Host

/-! ### Records but for their statuses -/

/-- Whether an operation may change more of a record than its status. -/
def Operation.rewrites : Operation → Bool
  | .update _ | .delete => true
  | _ => false

/-- Whether what is waited for changes more of a record than its status. -/
def Wait.rewrites : Wait → Bool
  | .update _ | .remove => true
  | _ => false

namespace Host

variable {host next : Host} {number : TaskNumber} {task : Task}

/-- A task waits for what its operation is there for. -/
theorem Reachable.rewrites (reachable : host.Reachable) (found : host.task? number = some task)
    {wait : Wait} (waiting : task.state = .waiting wait) (rewrites : wait.rewrites = true) :
    task.operation.rewrites = true := by
  refine @Reachable.invariant (fun host => ∀ task wait, host.task? number = some task →
    task.state = .waiting wait → wait.rewrites = true → task.operation.rewrites = true) ?_ ?_ _
    reachable task wait found waiting rewrites
  · intro patterns settings bots task wait found
    cases found
  · intro host next move _ before made record wait found' waiting rewrites
    by_cases own : move = .step (.task number)
    · subst own
      obtain ⟨task, found, _⟩ := advance_task_cases made
      obtain ⟨lock, state, there⟩ := task?_after made found
      have same : record.operation = task.operation :=
        congrArg (·.operation) (Option.some.inj (found'.symm.trans there))
      rw [same]
      rcases comesTo_of_advance found made found' waiting with rfl | ⟨answer, _, comes⟩
      · cases rewrites
      cases comes with
      | leads leads =>
        cases leads with
        | updates own | removes own =>
          rw [own]
          rfl
        | _ => cases rewrites
      | _ => cases rewrites
    · rcases task?_of_after made own found' with found | created
      · exact before record wait found waiting rewrites
      · rw [created] at waiting
        cases waiting

/-- Only registration, updates and deletions change more of the store than statuses. -/
theorem records_after (reachable : host.Reachable) {move : Move} (made : host.after? move = some next)
    (unregistered : ∀ bot, move ≠ .register bot)
    (modest : ∀ number task, move = .step (.task number) → host.task? number = some task →
      task.operation.rewrites = false) :
    next.store.records = host.store.records := by
  cases move with
  | step process =>
    rcases advance_store made with same |
      ⟨number, task, wait, answer, answered, rfl, found, waiting, taken, wrote⟩
    · rw [same]
    have plain : wait.rewrites = false := by
      by_contra rewrites
      have operation := reachable.rewrites found waiting (by simpa using rewrites)
      rw [modest number task rfl found] at operation
      cases operation
    rw [wrote]
    rcases answer?_store taken with same | ⟨status, _, same⟩ | ⟨patch, rfl, _⟩ | ⟨rfl, _⟩
    · rw [same]
    · rw [same]
      exact host.records_storeSetStatus task.bot status
    · cases plain
    · cases plain
  | register bot => exact absurd rfl (unregistered bot)
  | begin operation bot =>
    simp only [after?] at made
    split at made <;> cases made
    rfl
  | shutdown =>
    cases made
    exact @stopAll_kept (fun next => next.store.records = host.store.records) (fun _ same => same)
      host rfl
  | inject token event =>
    cases made
    rw [inject_eq]
  | endSession | reject | accept | clearSent | setDelays | setFaults | pass =>
    cases made
    rfl

/-- In a run that neither registers a bot nor updates or deletes one, the records stay as they are, in
their order, but for their statuses. -/
theorem Run.records {later : List Move} (reachable : host.Reachable) (run : Run host later next)
    (unregistered : ∀ bot, .register bot ∉ later)
    (modest : ∀ number task, .step (.task number) ∈ later → next.task? number = some task →
      task.operation.rewrites = false) :
    next.store.records = host.store.records := by
  induction run with
  | rest => rfl
  | @move host middle last move moves made run inductionHypothesis =>
    have first : middle.store.records = host.store.records := by
      refine records_after reachable made ?_ ?_
      · rintro bot rfl
        exact unregistered bot List.mem_cons_self
      · rintro number task rfl found
        obtain ⟨lock, state, there⟩ := (Run.move made run).task? found
        exact modest number { task with lock, state } List.mem_cons_self there
    refine (inductionHypothesis (reachable.run (.move made (.rest middle))) ?_ ?_).trans first
    · exact fun bot member => unregistered bot (List.mem_cons_of_mem _ member)
    · exact fun number task member => modest number task (List.mem_cons_of_mem _ member)

/-! ### Every bot for itself -/

/-- In every run, a step for one bot leaves all alone that belongs to a bot which uses other tokens; and
as long as no bot is registered, updated or deleted, all that changes of any record is its status. -/
theorem Run.separates_bots {patterns : PatternEngine} {settings : ManagerSettings} {bots : List Bot} {moves : List Move}
    (run : Run (seeded patterns settings bots) moves host) :
    (∀ {process : Process} {next : Host} {bot other : String},
      host.after? (.step process) = some next → host.actsFor? process = some bot → other ≠ bot →
        (∀ token ∈ host.tokensOf bot, token ∉ host.tokensOf other) → host.Untouched other next) ∧
    ∀ {later : List Move} {last : Host}, Run host later last → (∀ bot, .register bot ∉ later) →
      (∀ number task, .step (.task number) ∈ later → last.task? number = some task →
        task.operation.rewrites = false) →
      last.store.records = host.store.records := by
  have reachable : host.Reachable := ⟨patterns, settings, bots, moves, run⟩
  refine ⟨?_, fun later => Run.records reachable later⟩
  intro process next bot other made acts different apart
  cases process with
  | task number =>
    obtain ⟨task, found, rfl⟩ := Option.map_eq_some_iff.mp acts
    exact untouched_of_task reachable found made different apart
  | loop generation =>
    obtain ⟨loop, found, rfl⟩ := Option.map_eq_some_iff.mp acts
    exact untouched_of_loop found made different

/-- Of two bots that run, one is about to be started again with another token, and an event waits for
the other. Next the session of the first bot is closed. -/
def restartBeside : List Move :=
  [.begin .start "one"] ++ .replicate 9 (.step (.task 0)) ++ [.begin .start "two"] ++
    .replicate 9 (.step (.task 1)) ++
    [.inject "second" (.ofText 1 "hello"), .begin (.restart (some "third")) "one"] ++
    .replicate 3 (.step (.task 2)) ++ [.step (.loop 1)] ++ .replicate 2 (.step (.task 2))

theorem separates_bots_restartBeside : ∃ host next last,
    Run (seeded .unlimited {} [.plain "one" "first", .plain "two" "second"]) restartBeside host ∧
      host.after? (.step (.task 2)) = some next ∧ host.Untouched "two" next ∧
      Run host (.replicate 10 (.step (.task 2))) last ∧
      last.tokensOf "one" = ["first", "third"] ∧ last.store.records = host.store.records := by
  have played : (((seeded .unlimited {} [.plain "one" "first", .plain "two" "second"]).play
      restartBeside).bind fun host => (host.after? (.step (.task 2))).bind fun _ =>
        (host.play (.replicate 10 (.step (.task 2)))).bind fun last =>
          (last.task? 2).map fun task => (task.operation, host.actsFor? (.task 2),
            host.tokensOf "one", host.tokensOf "two", last.tokensOf "one")) =
      some (.restart (some "third"), some "one", ["first", "first"], ["second", "second"],
        ["first", "third"]) := by rfl
  simp only [Option.bind_eq_some_iff, Option.map_eq_some_iff, Prod.mk.injEq] at played
  obtain ⟨host, played, next, made, last, replayed, task, found, restarts, acts, first, second,
    third⟩ := played
  have run := run_iff.mpr played
  have later : Run host (.replicate 10 (.step (.task 2))) last := run_iff.mpr replayed
  have apart : ∀ token ∈ host.tokensOf "one", token ∉ host.tokensOf "two" := by
    rw [first, second]
    decide
  refine ⟨host, next, last, run, made, run.separates_bots.1 made acts (by decide) apart, later, third,
    run.separates_bots.2 later ?_ ?_⟩
  · intro bot member
    cases List.eq_of_mem_replicate member
  · intro number task' member found'
    cases List.eq_of_mem_replicate member
    rw [found] at found'
    rw [← Option.some.inj found', restarts]
    rfl

end Host

end BotHost
