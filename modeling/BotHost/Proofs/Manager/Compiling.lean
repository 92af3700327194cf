/-
What runs is what is stored.

A bot is compiled when it is started, and its record is read before that and may be written to after
it, by calls that the start has nothing to do with. What keeps the two together is the lock of the bot.
From the moment a start has read the record until it has registered the instance nobody else can change
the blocks, and from then on an update finds the bot running and a removal has it stopped first.
-/

import BotHost.Proofs.Manager.Continuing
import BotHost.Proofs.Manager.Reaping
import BotHost.Proofs.Manager.Records

namespace BotHost

namespace Host

/-- The handlers that a task in this state is about to let its bot run with. -/
def intended? (host : Host) : TaskState → Option (List Handler)
  | .answered (.readToStart _ (.ok (some bot))) => some (host.compilation bot.blocks).handlers
  | .waiting (.connect handlers _ _ _) | .answered (.connected handlers _) => some handlers
  | .waiting (.recordRunning running) | .answered (.recordedRunning running _) =>
    some running.handlers
  | _ => none

/-- A task that goes on to a wait has the handlers in mind that it had before, or none. -/
theorem LeadsTo.intended? {host : Host} {operation : Operation} {answer : Answer} {wait : Wait}
    (leads : host.LeadsTo operation answer wait) {handlers : List Handler}
    (intends : host.intended? (.waiting wait) = some handlers) :
    host.intended? (.answered answer) = some handlers := by
  cases leads with
  | connects => exact intends
  | _ => cases intends

/-- The handlers that the stored blocks of a bot compile to. -/
def compiled? (host : Host) (bot : String) : Option (List Handler) :=
  (host.store.find? bot).map fun stored => (host.compilation stored.blocks).handlers

/-- Registered instances, and those that are about to be, have the handlers that the stored blocks
compile to. -/
structure UpToDate (host : Host) : Prop where
  registered : ∀ {bot : String} {running : Instance}, host.running? bot = some running →
    host.compiled? bot = some running.handlers
  intended : ∀ {number : TaskNumber} {task : Task} {handlers : List Handler},
    host.task? number = some task → host.intended? task.state = some handlers →
      host.compiled? task.bot = some handlers

variable {host next : Host} {number : TaskNumber} {task : Task}

theorem inside_of_intended? {state : TaskState} {handlers : List Handler}
    (intends : host.intended? state = some handlers) : state.inside = true := by
  cases state with
  | waiting wait => cases wait <;> first | rfl | cases intends
  | answered answer => rfl
  | created | finished => cases intends

/-! ### What searches for triggers -/

theorem patterns_of_advance {process : Process} (stepped : host.advance process = some next) :
    next.patterns = host.patterns := by
  cases process with
  | loop generation =>
    obtain ⟨loop, _, _, waiting, state, recorded, sendsStarted, ⟨rfl, _⟩ | ⟨rfl, _⟩⟩ :=
      advance_loop_cases stepped
    · rfl
    · rfl
  | task number =>
    obtain ⟨task, _, ⟨_, rfl⟩ | ⟨wait, answer, answered, _, taken, rfl⟩ | ⟨answer, _, rfl⟩⟩ :=
      advance_task_cases stepped
    · rfl
    · obtain ⟨store, transport, rfl⟩ := answer?_eq taken
      rfl
    · have goes := goesOn_resume host number task answer
      generalize host.resume number task answer = next at goes
      cases goes with
      | waits | launches => rfl
      | ends _ registry result =>
        rw [finish_eq]
        rfl
      | deletes =>
        rw [finishDeleted_eq]
        rfl

/-- A run searches with one engine from its beginning to its end. -/
theorem Run.patterns_eq {moves : List Move} (run : Run host moves next) :
    next.patterns = host.patterns := by
  refine @Run.keeps (fun next => next.patterns = host.patterns) ?_ _ _ _ run rfl
  intro middle next move same made
  refine @after?_kept (fun next => next.patterns = host.patterns) ?_ ?_ ?_ ?_ _ _ _ same made
  · exact fun _ _ _ same => same
  · exact fun _ same _ _ => same
  · exact fun _ _ _ _ same _ => same
  · exact fun same stepped => (patterns_of_advance stepped).trans same

/-! ### What becomes of the stored blocks -/

theorem intended?_congr (engine : next.patterns = host.patterns) (state : TaskState) :
    next.intended? state = host.intended? state := by
  unfold intended? Host.compilation
  rw [engine]

/-- Statuses are not compiled. -/
theorem compiled?_of_records (engine : next.patterns = host.patterns)
    (same : next.store.records = host.store.records) (bot : String) :
    next.compiled? bot = host.compiled? bot := by
  have found := next.store.find?_records bot
  rw [same, host.store.find?_records] at found
  have handlers := congrArg (Option.map fun stored => (host.compilation stored.blocks).handlers) found
  rw [Option.map_map, Option.map_map] at handlers
  unfold compiled? Host.compilation
  rw [engine]
  exact handlers.symm

/-- A task that takes an answer leaves the stored blocks of its bot alone, unless the bot does not run
and the task has no handlers in mind. -/
theorem answer?_compiled? {wait : Wait} {answer : Answer} {answered : Host}
    (taken : host.answer? number task wait = some (answer, answered)) :
    (∀ bot, answered.compiled? bot = host.compiled? bot) ∨
      Task.vacant { task with state := .waiting wait } = true ∧
        host.intended? (.answered answer) = none := by
  have engine : answered.patterns = host.patterns := by
    obtain ⟨store, transport, rfl⟩ := answer?_eq taken
    rfl
  rcases answer?_store taken with same | ⟨status, _, same⟩ | ⟨patch, rfl, _⟩ | ⟨rfl, _⟩
  · exact .inl fun bot => compiled?_of_records engine (congrArg BotStore.records same) bot
  · refine .inl fun bot => compiled?_of_records engine ?_ bot
    rw [same]
    exact host.records_storeSetStatus task.bot status
  · cases answers_of_answer? taken
    exact .inr ⟨rfl, rfl⟩
  · cases answers_of_answer? taken
    exact .inr ⟨rfl, rfl⟩

/-- A task that takes an answer has the handlers in mind that it had before, or those of the blocks
that it has just read. -/
theorem answer?_intended? {wait : Wait} {answer : Answer} {answered : Host}
    (taken : host.answer? number task wait = some (answer, answered)) {handlers : List Handler}
    (intends : host.intended? (.answered answer) = some handlers) :
    host.intended? (.waiting wait) = some handlers ∨
      host.compiled? task.bot = some handlers := by
  cases answers_of_answer? taken with
  | readToStart =>
    right
    unfold storeFind at intends
    split at intends
    · cases intends
    · rw [compiled?]
      cases found : host.store.find? task.bot with
      | none =>
        rw [found] at intends
        cases intends
      | some bot =>
        rw [found] at intends
        exact intends
  | _ => exact .inl intends

namespace UpToDate

/-- Only tasks, the registry and the stored blocks matter, once the engine is the same. -/
theorem congr (upToDate : host.UpToDate) (engine : next.patterns = host.patterns)
    (registered : ∀ {bot : String} {running : Instance}, next.running? bot = some running →
      host.running? bot = some running) (tasks : next.tasks = host.tasks)
    (compiled : ∀ {bot : String} {handlers : List Handler}, host.compiled? bot = some handlers →
      next.compiled? bot = some handlers) : next.UpToDate where
  registered there := compiled (upToDate.registered (registered there))
  intended := by
    intro number task handlers there intends
    rw [task?, tasks] at there
    rw [intended?_congr engine] at intends
    exact compiled (upToDate.intended there intends)

theorem addTask (upToDate : host.UpToDate) (operation : Operation) (bot : String) :
    (host.addTask operation bot).2.UpToDate where
  registered := upToDate.registered
  intended := by
    intro number task handlers there intends
    obtain ⟨rfl, rfl⟩ | there := task?_addTask_cases there
    · cases intends
    · exact upToDate.intended there intends

/-- A task goes on to where it has no handlers in mind, or those that the stored blocks compile to. -/
theorem changeTask (upToDate : host.UpToDate) (found : host.task? number = some task)
    {change : Task → Task} (sameBot : (change task).bot = task.bot)
    (intends : ∀ {handlers : List Handler}, host.intended? (change task).state = some handlers →
      host.compiled? task.bot = some handlers) : (host.changeTask number change).UpToDate where
  registered := upToDate.registered
  intended := by
    intro other record handlers there intends'
    obtain ⟨rfl, rfl⟩ | ⟨_, there⟩ := task?_changeTask_cases found there
    · rw [sameBot]
      exact intends intends'
    · exact upToDate.intended there intends'

/-- Blocks that nobody runs or is about to run are changed. -/
theorem edits (upToDate : host.UpToDate) (orderly : host.Orderly)
    (found : host.task? number = some task) (inside : task.state.inside = true)
    (gone : host.running? task.bot = none) {store : BotStore} {transport : MemoryTransport Nat}
    (others : ∀ {bot : String}, bot ≠ task.bot → store.find? bot = host.store.find? bot)
    {state : TaskState} (silent : host.intended? state = none) :
    ({ host with store, transport }.setTaskState number state).UpToDate := by
  have compiled {bot : String} (different : bot ≠ task.bot) :
      ({ host with store, transport }.setTaskState number state).compiled? bot =
        host.compiled? bot := by
    show (store.find? bot).map _ = _
    rw [others different]
    rfl
  constructor
  · intro bot running there
    rw [compiled]
    · exact upToDate.registered there
    · rintro rfl
      exact absurd (gone.symm.trans there) nofun
  · intro other record handlers there intends
    rw [task?_setTaskState] at there
    split at there
    · obtain ⟨_, _, rfl⟩ := Option.map_eq_some_iff.mp there
      cases silent.symm.trans intends
    next different =>
      rw [compiled]
      · exact upToDate.intended there intends
      · exact fun sameBot =>
          different (orderly.alone found there inside (inside_of_intended? intends) sameBot)

theorem answer (upToDate : host.UpToDate) (orderly : host.Orderly) (custody : host.Custody)
    (found : host.task? number = some task) {wait : Wait} (waiting : task.state = .waiting wait)
    {answer : Answer} {answered : Host}
    (taken : host.answer? number task wait = some (answer, answered)) :
    (answered.setTaskState number (.answered answer)).UpToDate := by
  have effect := answer?_compiled? taken
  have handlers {handlers : List Handler} := @answer?_intended? _ _ _ _ _ _ taken handlers
  have others {bot : String} (different : bot ≠ task.bot) := answer?_find?_other taken different
  obtain ⟨store, transport, rfl⟩ := answer?_eq taken
  rcases effect with same | ⟨vacant, silent⟩
  · have kept : { host with store, transport }.UpToDate :=
      upToDate.congr rfl id rfl
        fun compiles => (same _).trans compiles
    refine kept.changeTask found rfl fun intends => (same task.bot).trans ?_
    rcases handlers intends with before | compiled
    · exact upToDate.intended found (by rw [waiting]; exact before)
    · exact compiled
  · obtain ⟨operation, bot, lock, state⟩ := task
    subst waiting
    exact upToDate.edits orderly found (Task.inside_of_vacant vacant) (custody.vacant found vacant)
      others silent

theorem resume (upToDate : host.UpToDate) (custody : host.Custody)
    (found : host.task? number = some task) {answer : Answer}
    (answered : task.state = .answered answer) : (host.resume number task answer).UpToDate := by
  have before {handlers : List Handler} (intends : host.intended? (.answered answer) =
      some handlers) : host.compiled? task.bot = some handlers :=
    upToDate.intended found (by rw [answered]; exact intends)
  have goes := resume_continues host number task answer
  generalize host.resume number task answer = next at goes
  cases goes with
  | waits leads => exact upToDate.changeTask found rfl fun intends => before (leads.intended? intends)
  | takes running ending =>
    have left : ((host.unregister task.bot).changeLoop running.generation fun loop =>
        { loop with cancelled := true }).UpToDate := by
      refine upToDate.congr rfl ?_ rfl id
      intro bot other there
      change (host.unregister task.bot).running? bot = some other at there
      rw [running?_unregister] at there
      split at there
      · cases there
      · exact there
    exact left.changeTask found rfl nofun
  | withdraws running | aborts running =>
    have marked (change : SessionLoop → SessionLoop) :
        (host.changeLoop running.generation change).UpToDate :=
      upToDate.congr rfl id rfl id
    exact (marked _).changeTask found rfl nofun
  | launches handlers session =>
    have launched (loop : SessionLoop) : { host with
        loops := host.loops ++ [loop]
        transport := host.transport.listen session host.nextGeneration }.UpToDate :=
      upToDate.congr rfl id rfl id
    exact (launched _).changeTask found rfl before
  | enrolls running =>
    have ofBot := (custody.charged found (by rw [answered]; rfl)).1
    have enrolled : (host.enroll running).UpToDate := by
      refine ⟨?_, upToDate.intended⟩
      intro bot other there
      rw [running?_enroll] at there
      split at there
      next same =>
        obtain rfl := Option.some.inj there
        rw [same, ofBot]
        exact before rfl
      next => exact upToDate.registered there
    rw [finish_eq]
    have ended : ((host.enroll running).changeTask number fun task =>
        { task with lock := none, state := .finished (.ok .done) }).UpToDate :=
      enrolled.changeTask found rfl nofun
    exact ended.congr rfl id rfl id
  | ends _ result =>
    rw [finish_eq]
    have ended : (host.changeTask number fun task =>
        { task with lock := none, state := .finished result }).UpToDate :=
      upToDate.changeTask found rfl nofun
    exact ended.congr rfl id rfl id
  | deletes =>
    rw [finishDeleted_eq]
    have ended : (host.changeTask number fun task =>
        { task with lock := none, state := .finished (.ok .done) }).UpToDate :=
      upToDate.changeTask found rfl nofun
    exact ended.congr rfl id rfl id

theorem step (upToDate : host.UpToDate) (orderly : host.Orderly) (custody : host.Custody)
    {process : Process} (stepped : host.advance process = some next) : next.UpToDate := by
  cases process with
  | loop generation =>
    obtain ⟨loop, found, _, waiting, state, recorded, sendsStarted, moved⟩ :=
      advance_loop_cases stepped
    have went : (host.moveLoop generation waiting state recorded sendsStarted).UpToDate :=
      upToDate.congr rfl id rfl id
    rcases moved with ⟨rfl, _⟩ | ⟨rfl, _⟩
    · exact went
    · exact went.addTask _ _
  | task number =>
    obtain ⟨task, found, ⟨created, rfl⟩ | ⟨wait, answer, answered, waiting, taken, rfl⟩ |
      ⟨answer, answered, rfl⟩⟩ := advance_task_cases stepped
    · obtain ⟨locks, lock, asks⟩ := host.requestLock_eq number task
      rw [asks]
      have asked : { host with locks }.UpToDate := upToDate.congr rfl id rfl id
      exact asked.changeTask found rfl (by rintro _ ⟨⟩)
    · exact upToDate.answer orderly custody found waiting taken
    · exact upToDate.resume custody found answered

theorem move (upToDate : host.UpToDate) (orderly : host.Orderly) (custody : host.Custody)
    {move : Move} (made : host.after? move = some next) : next.UpToDate := by
  cases move with
  | step process => exact upToDate.step orderly custody made
  | begin operation bot =>
    simp only [after?] at made
    split at made
    · cases made
      exact upToDate.addTask operation bot
    · cases made
  | shutdown =>
    cases made
    exact stopAll_kept (fun bot upToDate => upToDate.addTask .stop bot) upToDate
  | register bot =>
    cases made
    have stored {id : String} {stored : Bot} := @find?_register host bot id stored
    rw [register_eq] at stored ⊢
    refine upToDate.congr rfl id rfl ?_
    intro id handlers compiles
    obtain ⟨before, there, same⟩ := Option.map_eq_some_iff.mp compiles
    exact Option.map_eq_some_iff.mpr ⟨before, stored there, same⟩
  | inject token event =>
    cases made
    rw [inject_eq]
    exact upToDate.congr rfl id rfl id
  | endSession | reject | accept | clearSent | setDelays | setFaults | pass =>
    cases made
    exact upToDate.congr rfl id rfl id

end UpToDate

theorem Reachable.upToDate (reachable : host.Reachable) : host.UpToDate :=
  reachable.invariant (fun _ _ _ => ⟨nofun, nofun⟩) fun before upToDate made =>
    upToDate.move before.orderly before.custody made

/-! ### Running bots -/

/-- In every run, a registered bot is stored, and its instance and the loop of the instance have the
handlers that the blocks compile to that are stored now, which are the ones that a preview shows. -/
theorem Run.runs_stored_blocks [patterns : PatternEngine] {settings : ManagerSettings} {bots : List Bot}
    {moves : List Move} (run : Run (seeded patterns settings bots) moves host) {running : Instance}
    (registered : running ∈ host.registry) :
    ∃ stored loop, host.store.find? running.bot = some stored ∧
      running.handlers = (compile stored.blocks).handlers ∧
      host.loop? running.generation = some loop ∧ loop.bot = running.bot ∧
      loop.handlers = (compile stored.blocks).handlers ∧
      (host.fails .get = false → host.preview running.bot = .ok (compile stored.blocks)) := by
  have reachable : host.Reachable := ⟨patterns, settings, bots, moves, run⟩
  have there := reachable.distinct.running?_of_mem registered
  obtain ⟨stored, found, same⟩ := Option.map_eq_some_iff.mp (reachable.upToDate.registered there)
  rw [Host.compilation, run.patterns_eq] at same
  change (compile stored.blocks).handlers = running.handlers at same
  obtain ⟨loop, loopThere, ofLoop, _, handlers, _⟩ := reachable.custody.registered there
  refine ⟨stored, loop, found, same.symm, loopThere, ofLoop, handlers.trans same.symm, fun clear => ?_⟩
  have read : host.stored running.bot = .ok stored := by
    rw [Host.stored, storeFind, clear, found]
    rfl
  rw [preview, read, Except.map]
  simp only [Host.compilation]
  rw [run.patterns_eq]
  rfl

/-- A bot gets its blocks by an update and is started; while it starts, another update asks for the
lock, and comes too late. -/
def updateStartUpdate : List Move :=
  [.begin (.update ⟨none, none, some [⟨"hello", .command, [("command", .text "hi")]⟩]⟩) "bot"] ++
    .replicate 5 (.step (.task 0)) ++
    [.begin .start "bot", .step (.task 1), .begin (.update ⟨none, none, some []⟩) "bot",
      .step (.task 2)] ++
    .replicate 8 (.step (.task 1)) ++ .replicate 2 (.step (.task 2))

attribute [local instance] PatternEngine.unlimited

theorem runs_stored_blocks_updateStartUpdate : ∃ host running stored,
    Run (seeded .unlimited {} [.plain "bot" "token"]) updateStartUpdate host ∧ running ∈ host.registry ∧
      host.store.find? running.bot = some stored ∧ stored.blocks.length = 1 ∧
        running.handlers = (compile stored.blocks).handlers := by
  have played : (((seeded .unlimited {} [.plain "bot" "token"]).play updateStartUpdate).bind fun host =>
      host.registry.head?.bind fun running => (host.store.find? running.bot).map fun stored =>
        stored.blocks.length) = some 1 := by rfl
  simp only [Option.bind_eq_some_iff, Option.map_eq_some_iff] at played
  obtain ⟨host, played, running, first, stored, found, single⟩ := played
  have run := run_iff.mpr played
  have registered := List.mem_of_mem_head? first
  obtain ⟨other, _, found', handlers, _⟩ := run.runs_stored_blocks registered
  obtain rfl : stored = other := Option.some.inj (found.symm.trans found')
  exact ⟨host, running, stored, run, registered, found, single, handlers⟩

end Host

end BotHost
