/-
Who is responsible for a loop.

A loop runs on its own, and the only thing that keeps two loops of one bot from running at once is
that somebody answers for each loop that has not finished: the registry, or the task that has
launched it and has not registered it yet, or the task that has taken it out of the registry and has
not seen its end. Such a task is past its lock, so there is at most one for a bot, and while there is
one the registry holds nothing for the bot.
-/

import BotHost.Proofs.Manager.Locking

namespace BotHost

/-! ### What a task has in hand -/

/-- How far the life of an instance has come. A registered instance runs; all other stages are in the
hands of a task. -/
inductive Stage where
  | running
  | launched
  | cancelled
  | aborted
  | ended
  | closed
deriving DecidableEq, Repr

/-- The instance that a task has in hand. -/
def TaskState.charge? : TaskState → Option (Stage × Instance)
  | .waiting (.recordRunning running) | .answered (.recordedRunning running _) =>
    some (.launched, running)
  | .waiting (.join running _ _) | .answered (.joined running _ false) =>
    some (.cancelled, running)
  | .waiting (.joinAborted running _) => some (.aborted, running)
  | .answered (.joined running _ true) | .answered (.joinedAborted running _)
  | .waiting (.close running _ _ _ _) => some (.ended, running)
  | .answered (.closed running _ _) => some (.closed, running)
  | _ => none

/-- Whether a task has found, under its lock, that its bot does not run. A start finds that out only
after it has read the bot's record. -/
def Task.vacant (task : Task) : Bool :=
  match task.state with
  | .created | .finished _ | .waiting .lock | .answered .locked => false
  | .waiting (.readToStart _) | .answered (.readToStart _ _) => task.operation != .start
  | _ => true

/-- Only past its lock does a task know that its bot does not run. -/
theorem Task.inside_of_vacant {task : Task} (vacant : task.vacant = true) :
    task.state.inside = true := by
  obtain ⟨operation, bot, lock, state⟩ := task
  cases state with
  | created => cases vacant
  | finished result => cases vacant
  | answered answer => rfl
  | waiting wait => cases wait <;> first | rfl | cases vacant

/-- A task with an instance in hand has found its bot out of the registry. -/
theorem Task.vacant_of_charge {task : Task} {stage : Stage} {running : Instance}
    (charge : task.state.charge? = some (stage, running)) : task.vacant = true := by
  obtain ⟨operation, bot, lock, state⟩ := task
  cases state with
  | created => cases charge
  | finished result => cases charge
  | answered answer => cases answer <;> first | rfl | cases charge
  | waiting wait => cases wait <;> first | rfl | cases charge

/-- What a loop looks like at a stage of its instance. -/
def Stage.Shows (loop : SessionLoop) : Stage → Prop
  | .running | .launched => loop.cancelled = false ∧ loop.aborted = false
  | .cancelled => loop.cancelled = true ∧ loop.aborted = false
  | .aborted => loop.aborted = true
  | .ended | .closed => loop.state = .finished

namespace Host

/-- The loop of an instance is there, and looks as its stage wants it. -/
def Bears (host : Host) (stage : Stage) (running : Instance) : Prop :=
  ∃ loop, host.loop? running.generation = some loop ∧ loop.bot = running.bot ∧
    loop.session = running.session ∧ loop.handlers = running.handlers ∧ stage.Shows loop

/-- Somebody answers for every loop that has not finished. -/
structure Custody (host : Host) : Prop where
  vacant : ∀ {number : TaskNumber} {task : Task}, host.task? number = some task →
    task.vacant = true → host.running? task.bot = none
  charged : ∀ {number : TaskNumber} {task : Task} {stage : Stage} {running : Instance},
    host.task? number = some task → task.state.charge? = some (stage, running) →
      running.bot = task.bot ∧ host.Bears stage running
  registered : ∀ {bot : String} {running : Instance}, host.running? bot = some running →
    host.Bears .running running
  owned : ∀ {generation : Nat} {loop : SessionLoop}, host.loop? generation = some loop →
    loop.state ≠ .finished →
      (∃ running, host.running? loop.bot = some running ∧ running.generation = generation) ∨
        ∃ number task stage running, host.task? number = some task ∧
          task.state.charge? = some (stage, running) ∧ running.generation = generation

/-- Somebody answers for every loop of a task's bot: the registry or this task. -/
structure CustodyOf (host : Host) (task : Task) : Prop where
  vacant : task.vacant = true → host.running? task.bot = none
  charged : ∀ {stage : Stage} {running : Instance}, task.state.charge? = some (stage, running) →
    running.bot = task.bot ∧ host.Bears stage running
  registered : ∀ {running : Instance}, host.running? task.bot = some running →
    host.Bears .running running
  owned : ∀ {generation : Nat} {loop : SessionLoop}, host.loop? generation = some loop →
    loop.bot = task.bot → loop.state ≠ .finished →
      (∃ running, host.running? task.bot = some running ∧ running.generation = generation) ∨
        ∃ stage running, task.state.charge? = some (stage, running) ∧
          running.generation = generation

/-- What a task's step has left alone: other tasks, other bots' instances and loops. -/
structure Spares (host : Host) (number : TaskNumber) (bot : String) (next : Host) : Prop where
  tasks : ∀ {other : TaskNumber}, other ≠ number → next.task? other = host.task? other
  running : ∀ {other : String}, other ≠ bot → next.running? other = host.running? other
  loops : ∀ {generation : Nat} {loop : SessionLoop}, loop.bot ≠ bot →
    (next.loop? generation = some loop ↔ host.loop? generation = some loop)

variable {host next : Host}

theorem Custody.at (custody : host.Custody) (orderly : host.Orderly) {number : TaskNumber}
    {task : Task} (found : host.task? number = some task) (inside : task.state.inside = true) :
    host.CustodyOf task where
  vacant := custody.vacant found
  charged := custody.charged found
  registered := custody.registered
  owned := by
    intro generation loop there sameBot unfinished
    rcases custody.owned there unfinished with ⟨running, registered, same⟩ |
      ⟨other, record, stage, running, found', charge, same⟩
    · exact .inl ⟨running, sameBot ▸ registered, same⟩
    · obtain ⟨ofTask, loop', there', ofLoop, _⟩ := custody.charged found' charge
      rw [same, there] at there'
      obtain rfl : loop = loop' := Option.some.inj there'
      have inside' := Task.inside_of_vacant (Task.vacant_of_charge charge)
      have sameTask := orderly.alone found found' inside inside'
        (ofTask.symm.trans (ofLoop.symm.trans sameBot))
      subst sameTask
      rw [found] at found'
      obtain rfl : task = record := Option.some.inj found'
      exact .inr ⟨stage, running, charge, same⟩

/-- A loop of another bot looks the same. -/
theorem Spares.bears {number : TaskNumber} {bot : String} (spares : host.Spares number bot next)
    {stage : Stage} {running : Instance} (other : running.bot ≠ bot)
    (bears : host.Bears stage running) : next.Bears stage running := by
  obtain ⟨loop, there, ofLoop, rest⟩ := bears
  exact ⟨loop, (spares.loops (ofLoop ▸ other)).mpr there, ofLoop, rest⟩

/-- A step that concerns one bot keeps custody if it keeps that of the bot. -/
theorem Custody.exchange (custody : host.Custody) (orderly : host.Orderly) {number : TaskNumber}
    {task record : Task} (found : host.task? number = some task)
    (inside : task.state.inside = true) (spares : host.Spares number task.bot next)
    (found' : next.task? number = some record) (sameBot : record.bot = task.bot)
    (now : next.CustodyOf record) : next.Custody where
  vacant := by
    intro other record' there vacant
    by_cases own : other = number
    · subst own
      rw [found'] at there
      obtain rfl : record = record' := Option.some.inj there
      exact now.vacant vacant
    · rw [spares.tasks own] at there
      have different : record'.bot ≠ task.bot := fun same =>
        own (orderly.alone found there inside (Task.inside_of_vacant vacant) same)
      rw [spares.running different]
      exact custody.vacant there vacant
  charged := by
    intro other record' stage running there charge
    by_cases own : other = number
    · subst own
      rw [found'] at there
      obtain rfl : record = record' := Option.some.inj there
      exact now.charged charge
    · rw [spares.tasks own] at there
      obtain ⟨ofTask, bears⟩ := custody.charged there charge
      have inside' := Task.inside_of_vacant (Task.vacant_of_charge charge)
      have different : record'.bot ≠ task.bot := fun same =>
        own (orderly.alone found there inside inside' same)
      exact ⟨ofTask, spares.bears (ofTask ▸ different) bears⟩
  registered := by
    intro bot running there
    by_cases own : bot = record.bot
    · subst own
      exact now.registered there
    · rw [sameBot] at own
      rw [spares.running own] at there
      have ofBot := host.running?_bot there
      exact spares.bears (ofBot ▸ own) (custody.registered there)
  owned := by
    intro generation loop there unfinished
    by_cases own : loop.bot = record.bot
    · rcases now.owned there own unfinished with ⟨running, registered, same⟩ |
        ⟨stage, running, charge, same⟩
      · exact .inl ⟨running, own ▸ registered, same⟩
      · exact .inr ⟨number, record, stage, running, found', charge, same⟩
    · rw [sameBot] at own
      have before := (spares.loops own).mp there
      rcases custody.owned before unfinished with ⟨running, registered, same⟩ |
        ⟨other, record', stage, running, there', charge, same⟩
      · exact .inl ⟨running, (spares.running own).trans registered, same⟩
      · refine .inr ⟨other, record', stage, running, ?_, charge, same⟩
        have different : other ≠ number := by
          rintro rfl
          rw [found] at there'
          obtain rfl : task = record' := Option.some.inj there'
          obtain ⟨ofTask, loop', there'', ofLoop, _⟩ := custody.charged found charge
          rw [same, before] at there''
          obtain rfl : loop = loop' := Option.some.inj there''
          exact own (ofLoop.trans ofTask)
        exact (spares.tasks different).trans there'

/-! ### What steps spare -/

namespace Spares

variable {number : TaskNumber} {bot : String}

/-- What two steps have spared has been spared by both together. -/
theorem trans {middle : Host} (first : host.Spares number bot middle)
    (second : middle.Spares number bot next) : host.Spares number bot next where
  tasks other := (second.tasks other).trans (first.tasks other)
  running other := (second.running other).trans (first.running other)
  loops other := (second.loops other).trans (first.loops other)

theorem changeTask (host : Host) (number : TaskNumber) (bot : String) (change : Task → Task) :
    host.Spares number bot (host.changeTask number change) where
  tasks other := by rw [task?_changeTask, if_neg other]
  running _ := rfl
  loops _ := Iff.rfl

theorem finish (host : Host) (number : TaskNumber) (bot : String) (task : Task)
    (result : Except ManagerFault Success) :
    host.Spares number bot (host.finish number task result) where
  tasks other := by rw [task?_finish, if_neg other]
  running _ := by
    rw [finish_eq]
    rfl
  loops _ := by
    rw [finish_eq]
    exact Iff.rfl

theorem unregister (host : Host) (number : TaskNumber) (bot : String) :
    host.Spares number bot (host.unregister bot) where
  tasks _ := rfl
  running other := by rw [running?_unregister, if_neg other]
  loops _ := Iff.rfl

theorem enroll (host : Host) (number : TaskNumber) (running : Instance) :
    host.Spares number running.bot (host.enroll running) where
  tasks _ := rfl
  running other := by rw [running?_enroll, if_neg other]
  loops _ := Iff.rfl

/-- Changing a loop of the bot, which stays a loop of the bot, spares the other loops. -/
theorem changeLoop {generation : Nat} {loop : SessionLoop} (number : TaskNumber)
    (there : host.loop? generation = some loop) (ofBot : loop.bot = bot)
    (change : SessionLoop → SessionLoop) (stays : (change loop).bot = bot) :
    host.Spares number bot (host.changeLoop generation change) where
  tasks _ := rfl
  running _ := rfl
  loops := by
    intro other loop' different
    rw [host.loop?_changeLoop there]
    split
    next same =>
      subst same
      rw [there]
      constructor <;> rintro ⟨rfl⟩
      · exact absurd stays different
      · exact absurd ofBot different
    next => exact Iff.rfl

/-- A new loop of the bot spares those of other bots. -/
theorem addLoop (host : Host) (number : TaskNumber) (bot : String) (loop : SessionLoop)
    (transport : MemoryTransport Nat) (ofBot : loop.bot = bot) :
    host.Spares number bot { host with loops := host.loops ++ [loop], transport } where
  tasks _ := rfl
  running _ := rfl
  loops := by
    intro generation loop' different
    have added := host.loop?_append loop generation
    change { host with loops := host.loops ++ [loop] }.loop? generation = some loop' ↔ _
    rw [added]
    split
    next last =>
      constructor
      · rintro ⟨rfl⟩
        exact absurd ofBot different
      · intro there
        exact absurd (host.loop?_lt there) (by omega)
    next => exact Iff.rfl

end Spares

/-! ### What steps do to the custody of their bot -/

variable {number : TaskNumber} {task : Task}

/-- A task goes on with the instance that it has in hand, unless that one's loop has finished. -/
theorem Custody.changeTask (custody : host.Custody) (orderly : host.Orderly)
    (found : host.task? number = some task) (inside : task.state.inside = true)
    {change : Task → Task} (sameBot : (change task).bot = task.bot)
    (vacant : (change task).vacant = true → host.running? task.bot = none)
    (charge : ∀ {stage : Stage} {running : Instance},
      (change task).state.charge? = some (stage, running) →
        running.bot = task.bot ∧ host.Bears stage running)
    (handed : ∀ {stage : Stage} {running : Instance},
      task.state.charge? = some (stage, running) → host.Bears .ended running ∨
        ∃ stage', (change task).state.charge? = some (stage', running)) :
    (host.changeTask number change).Custody := by
  have found' := task?_changeTask_self found change
  refine custody.exchange orderly found inside (Spares.changeTask host number task.bot change)
    found' sameBot ?_
  have before := custody.at orderly found inside
  constructor
  · intro there
    rw [sameBot]
    exact vacant there
  · intro stage running there
    rw [sameBot]
    exact charge there
  · intro running there
    rw [sameBot] at there
    exact before.registered there
  · intro generation loop there ofBot unfinished
    rw [sameBot] at ofBot ⊢
    rcases before.owned there ofBot unfinished with registered | ⟨stage, running, held, same⟩
    · exact .inl registered
    · rcases handed held with ⟨loop', there', _, _, _, finished⟩ | ⟨stage', held'⟩
      · rw [same] at there'
        change host.loop? generation = some loop at there
        rw [there] at there'
        obtain rfl : loop = loop' := Option.some.inj there'
        exact absurd finished unfinished
      · exact .inr ⟨stage', running, held', same⟩

/-- Only tasks, the registry and loops matter. -/
theorem Custody.congr (custody : host.Custody) (tasks : next.tasks = host.tasks)
    (registry : next.registry = host.registry) (loops : next.loops = host.loops) :
    next.Custody := by
  obtain ⟨settings, now, store, transport, faults, registry', locks, loops', tasks'⟩ := next
  subst tasks registry loops
  exact ⟨custody.vacant, custody.charged, custody.registered, custody.owned⟩

/-- A task that has no instance in hand, or one whose loop has finished, may end. -/
theorem Custody.finish (custody : host.Custody) (orderly : host.Orderly)
    (found : host.task? number = some task) (inside : task.state.inside = true)
    (handed : ∀ {stage : Stage} {running : Instance},
      task.state.charge? = some (stage, running) → host.Bears .ended running)
    (result : Except ManagerFault Success) : (host.finish number task result).Custody := by
  have ended : (host.changeTask number fun task =>
      { task with lock := none, state := .finished result }).Custody :=
    custody.changeTask orderly found inside rfl nofun nofun fun held => .inl (handed held)
  rw [finish_eq]
  exact ended.congr rfl rfl rfl

/-- A deletion may end when it has no instance in hand, or one whose loop has finished. -/
theorem Custody.finishDeleted (custody : host.Custody) (orderly : host.Orderly)
    (found : host.task? number = some task) (inside : task.state.inside = true)
    (handed : ∀ {stage : Stage} {running : Instance},
      task.state.charge? = some (stage, running) → host.Bears .ended running) :
    (host.finishDeleted number task).Custody := by
  have ended : (host.changeTask number fun task =>
      { task with lock := none, state := .finished (.ok .done) }).Custody :=
    custody.changeTask orderly found inside rfl nofun nofun fun held => .inl (handed held)
  rw [finishDeleted_eq]
  exact ended.congr rfl rfl rfl

/-- The registered instance of a bot is taken out of the registry and told to stop. -/
theorem Custody.tearDown_registered (custody : host.Custody) (orderly : host.Orderly)
    (found : host.task? number = some task) (inside : task.state.inside = true)
    {running : Instance} (registered : host.running? task.bot = some running) (ending : Ending) :
    ((host.unregister task.bot).tearDown number running ending).Custody := by
  have ofBot := host.running?_bot registered
  obtain ⟨loop, there, ofLoop, session, handlers, active⟩ := custody.registered registered
  have before := custody.at orderly found inside
  have spares := Spares.unregister host number task.bot
  have unregistered : (host.unregister task.bot).loop? running.generation = some loop := there
  refine custody.exchange orderly found inside
    ((spares.trans (Spares.changeLoop number unregistered (ofLoop.trans ofBot) _
      (ofLoop.trans ofBot))).trans (Spares.changeTask _ _ _ _))
    (waitFor_found found) rfl ?_
  have gone : (host.unregister task.bot).running? task.bot = none := by
    rw [running?_unregister, if_pos rfl]
  have loops := (host.unregister task.bot).loop?_changeLoop there
    fun loop => { loop with cancelled := true }
  constructor
  · exact fun _ => gone
  · rintro stage other ⟨rfl⟩
    refine ⟨ofBot, { loop with cancelled := true }, ?_, ofLoop, session, handlers, rfl, active.2⟩
    exact (loops running.generation).trans (if_pos rfl)
  · intro other registered'
    exact absurd (gone.symm.trans registered') nofun
  · intro generation loop' there' ofBot' unfinished
    change ((host.unregister task.bot).changeLoop running.generation _).loop? generation = _ at there'
    rw [loops] at there'
    split at there'
    next same => exact .inr ⟨_, _, rfl, same.symm⟩
    next different =>
      rcases before.owned there' ofBot' unfinished with ⟨other, registered', same⟩ |
        ⟨stage, other, charge, _⟩
      · rw [registered] at registered'
        obtain rfl : running = other := Option.some.inj registered'
        exact absurd same.symm different
      · have none := before.vacant (Task.vacant_of_charge charge)
        rw [registered] at none
        cases none

/-- The instance that a task has in hand comes to its next stage, with a mark on its loop. -/
theorem Custody.advance (custody : host.Custody) (orderly : host.Orderly)
    (found : host.task? number = some task) (inside : task.state.inside = true)
    {stage later : Stage} {running : Instance}
    (charge : task.state.charge? = some (stage, running)) {cancelled aborted : SessionLoop → Bool}
    (shows : ∀ loop, stage.Shows loop → later.Shows
      { loop with cancelled := cancelled loop, aborted := aborted loop })
    {wait : Wait} (charge' : (TaskState.waiting wait).charge? = some (later, running)) :
    ((host.changeLoop running.generation fun loop =>
      { loop with cancelled := cancelled loop, aborted := aborted loop }).waitFor number
        wait).Custody := by
  have before := custody.at orderly found inside
  obtain ⟨ofBot, loop, there, ofLoop, session, handlers, shown⟩ := before.charged charge
  refine custody.exchange orderly found inside
    ((Spares.changeLoop number there (ofLoop.trans ofBot) _ (ofLoop.trans ofBot)).trans
      (Spares.changeTask _ _ _ _)) (waitFor_found found) rfl ?_
  have gone := before.vacant (Task.vacant_of_charge charge)
  have loops := host.loop?_changeLoop there fun loop =>
    { loop with cancelled := cancelled loop, aborted := aborted loop }
  constructor
  · exact fun _ => gone
  · intro stage' other charged
    rw [charge'] at charged
    obtain ⟨rfl, rfl⟩ : later = stage' ∧ running = other := by simpa using charged
    refine ⟨ofBot, { loop with cancelled := cancelled loop, aborted := aborted loop }, ?_, ofLoop,
      session, handlers, shows loop shown⟩
    exact (loops running.generation).trans (if_pos rfl)
  · intro other registered
    exact absurd (gone.symm.trans registered) nofun
  · intro generation loop' there' ofBot' unfinished
    change (host.changeLoop running.generation _).loop? generation = _ at there'
    rw [loops] at there'
    split at there'
    next same => exact .inr ⟨later, running, charge', same.symm⟩
    next different =>
      rcases before.owned there' ofBot' unfinished with ⟨other, registered, _⟩ |
        ⟨stage', other, charged, same⟩
      · exact absurd (gone.symm.trans registered) nofun
      · rw [charge] at charged
        obtain ⟨rfl, rfl⟩ : stage = stage' ∧ running = other := by simpa using charged
        exact absurd same.symm different

/-- A loop is launched for a bot that does not run. -/
theorem Custody.launch (custody : host.Custody) (orderly : host.Orderly)
    (found : host.task? number = some task) (inside : task.state.inside = true)
    (vacant : task.vacant = true) (idle : task.state.charge? = none) (handlers : List Handler)
    (session : Nat) : (host.launch number task handlers session).Custody := by
  have before := custody.at orderly found inside
  refine custody.exchange orderly found inside
    ((Spares.addLoop host number task.bot ⟨task.bot, session, handlers, [], false, false, .idle⟩
      (host.transport.listen session host.nextGeneration) rfl).trans (Spares.changeTask _ _ _ _))
    (waitFor_found found) rfl ?_
  have gone := before.vacant vacant
  have loops := host.loop?_append ⟨task.bot, session, handlers, [], false, false, .idle⟩
  constructor
  · exact fun _ => gone
  · rintro stage other ⟨rfl⟩
    refine ⟨rfl, ⟨task.bot, session, handlers, [], false, false, .idle⟩, ?_, rfl, rfl, rfl, rfl, rfl⟩
    exact (loops host.nextGeneration).trans (if_pos rfl)
  · intro other registered
    exact absurd (gone.symm.trans registered) nofun
  · intro generation loop' there ofBot unfinished
    change { host with loops := host.loops ++ [_] }.loop? generation = _ at there
    rw [loops] at there
    split at there
    next last => exact .inr ⟨_, _, rfl, last.symm⟩
    next =>
      rcases before.owned there ofBot unfinished with ⟨other, registered, _⟩ |
        ⟨stage, other, charged, _⟩
      · exact absurd (gone.symm.trans registered) nofun
      · rw [idle] at charged
        cases charged

/-- A launched instance is registered, and the task that launched it ends. -/
theorem Custody.enroll (custody : host.Custody) (orderly : host.Orderly)
    (found : host.task? number = some task) (inside : task.state.inside = true)
    {running : Instance} (charge : task.state.charge? = some (.launched, running))
    (result : Except ManagerFault Success) :
    ((host.enroll running).finish number task result).Custody := by
  have before := custody.at orderly found inside
  obtain ⟨ofBot, bears⟩ := before.charged charge
  have spares := (Spares.enroll host number running).trans
    (Spares.finish (host.enroll running) number running.bot task result)
  rw [ofBot] at spares
  have found' : ((host.enroll running).finish number task result).task? number =
      some { task with lock := none, state := .finished result } := by
    rw [task?_finish, if_pos rfl, task?_enroll, found, Option.map_some]
  refine custody.exchange orderly found inside spares found' rfl ?_
  have registry : ((host.enroll running).finish number task result).running? task.bot =
      some running := by
    rw [finish_eq]
    exact (running?_enroll host running task.bot).trans (if_pos ofBot.symm)
  have loops (generation : Nat) :
      ((host.enroll running).finish number task result).loop? generation =
        host.loop? generation := by
    rw [finish_eq]
    rfl
  constructor
  · exact nofun
  · exact nofun
  · intro other registered
    obtain rfl : running = other := Option.some.inj (registry.symm.trans registered)
    obtain ⟨loop, there, rest⟩ := bears
    exact ⟨loop, (loops _).trans there, rest⟩
  · intro generation loop there sameBot unfinished
    rw [loops] at there
    rcases before.owned there sameBot unfinished with ⟨other, registered, _⟩ |
      ⟨stage, other, charged, same⟩
    · have none := before.vacant (Task.vacant_of_charge charge)
      exact absurd (none.symm.trans registered) nofun
    · rw [charge] at charged
      obtain ⟨_, rfl⟩ : Stage.launched = stage ∧ running = other := by simpa using charged
      exact .inl ⟨running, registry, same⟩

/-! ### Every step -/

/-- A loop that goes on keeps its marks, and is still in the same hands. -/
theorem Custody.moveLoop (custody : host.Custody) {generation : Nat} {loop : SessionLoop}
    (found : host.loop? generation = some loop) (unfinished : loop.state ≠ .finished)
    (waiting : List Event) (state : LoopState) (recorded : List (String × Call))
    (sendsStarted : Nat) :
    (host.moveLoop generation waiting state recorded sendsStarted).Custody := by
  have loops := loop?_moveLoop found waiting state recorded sendsStarted
  have bears {stage : Stage} {running : Instance} (before : host.Bears stage running) :
      (host.moveLoop generation waiting state recorded sendsStarted).Bears stage running := by
    obtain ⟨loop', there, ofLoop, session, handlers, shown⟩ := before
    by_cases same : running.generation = generation
    · rw [same, found] at there
      obtain rfl : loop = loop' := Option.some.inj there
      refine ⟨{ loop with waiting, state }, by rw [loops, if_pos same], ofLoop, session, handlers, ?_⟩
      cases stage with
      | running | launched | cancelled | aborted => exact shown
      | ended | closed => exact absurd shown unfinished
    · exact ⟨loop', by rw [loops, if_neg same, there], ofLoop, session, handlers, shown⟩
  constructor
  · exact custody.vacant
  · intro number task stage running there charge
    obtain ⟨ofBot, before⟩ := custody.charged there charge
    exact ⟨ofBot, bears before⟩
  · exact fun registered => bears (custody.registered registered)
  · intro other loop' there unfinished'
    rw [loops] at there
    split at there
    next same =>
      subst same
      obtain rfl := Option.some.inj there
      have owner := custody.owned found unfinished
      exact owner
    next => exact custody.owned there unfinished'

/-- A new task answers for nothing yet, and nothing is taken from those who do. -/
theorem Custody.addTask (custody : host.Custody) (operation : Operation) (bot : String) :
    (host.addTask operation bot).2.Custody := by
  constructor
  · intro number task there vacant
    obtain ⟨rfl, rfl⟩ | before := task?_addTask_cases there
    · cases vacant
    · exact custody.vacant before vacant
  · intro number task stage running there charge
    obtain ⟨rfl, rfl⟩ | before := task?_addTask_cases there
    · cases charge
    · exact custody.charged before charge
  · exact custody.registered
  · intro generation loop there unfinished
    rcases custody.owned there unfinished with registered |
      ⟨number, task, stage, running, before, charge, same⟩
    · exact .inl registered
    · exact .inr ⟨number, task, stage, running, task?_addTask_of_some before _ _, charge, same⟩

/-- A task that has nothing in hand, before and after, concerns nobody. -/
theorem Custody.changeTask_aside (custody : host.Custody) (found : host.task? number = some task)
    {change : Task → Task} (vacant : (change task).vacant = false)
    (before : task.state.charge? = none) (after : (change task).state.charge? = none) :
    (host.changeTask number change).Custody := by
  constructor
  · intro other record there vacant'
    obtain ⟨rfl, rfl⟩ | ⟨_, old⟩ := task?_changeTask_cases found there
    · rw [vacant] at vacant'
      cases vacant'
    · exact custody.vacant old vacant'
  · intro other record stage running there charge
    obtain ⟨rfl, rfl⟩ | ⟨_, old⟩ := task?_changeTask_cases found there
    · rw [after] at charge
      cases charge
    · exact custody.charged old charge
  · exact custody.registered
  · intro generation loop there unfinished
    rcases custody.owned there unfinished with registered |
      ⟨other, record, stage, running, old, charge, same⟩
    · exact .inl registered
    · refine .inr ⟨other, record, stage, running, ?_, charge, same⟩
      rw [task?_changeTask, if_neg]
      · exact old
      · rintro rfl
        rw [found] at old
        obtain rfl := Option.some.inj old
        rw [before] at charge
        cases charge

/-- Asking for its lock a task has nothing in hand. -/
theorem Custody.requestLock (custody : host.Custody) (found : host.task? number = some task)
    (created : task.state = .created) : (host.requestLock number task).Custody := by
  obtain ⟨locks, lock, asks⟩ := host.requestLock_eq number task
  rw [asks]
  have asked : { host with locks }.Custody := custody.congr rfl rfl rfl
  exact asked.changeTask_aside found rfl (by rw [created]; rfl) rfl

/-- Once the loop of an instance has finished, the instance has ended. -/
theorem loopFinished_bears {stage : Stage} {running : Instance} (bears : host.Bears stage running)
    (finished : host.loopFinished running.generation = true) : host.Bears .ended running := by
  obtain ⟨loop, there, ofLoop, session, handlers, _⟩ := bears
  refine ⟨loop, there, ofLoop, session, handlers, ?_⟩
  unfold loopFinished at finished
  rw [there] at finished
  show loop.state = .finished
  simpa using finished

/-- A task that takes an answer to anything but the lock has found its bot not running before. -/
theorem answer?_vacant {wait : Wait} (waiting : task.state = .waiting wait) (atLock : wait ≠ .lock)
    {answer : Answer} {answered : Host}
    (taken : host.answer? number task wait = some (answer, answered))
    (vacant : Task.vacant { task with state := .answered answer } = true) : task.vacant = true := by
  obtain ⟨operation, bot, lock, state⟩ := task
  subst waiting
  cases answers_of_answer? taken with
  | locked => exact absurd rfl atLock
  | readToStart => exact vacant
  | _ => rfl

/-- A task that takes an answer has the same instance in hand as before, at a stage of which its loop
gives proof. -/
theorem answer?_charge {wait : Wait} {answer : Answer} {answered : Host}
    (taken : host.answer? number task wait = some (answer, answered)) :
    ((TaskState.waiting wait).charge? = none ∧ (TaskState.answered answer).charge? = none) ∨
      ∃ running stage later, (TaskState.waiting wait).charge? = some (stage, running) ∧
        (TaskState.answered answer).charge? = some (later, running) ∧
        (host.Bears stage running → host.Bears later running) := by
  cases answers_of_answer? taken with
  | joined running _ _ finished | joinedAborted running _ finished =>
    exact .inr ⟨running, _, .ended, rfl, rfl, fun bears => loopFinished_bears bears finished⟩
  | unjoined running => exact .inr ⟨running, .cancelled, .cancelled, rfl, rfl, id⟩
  | closed running | unclosed running => exact .inr ⟨running, .ended, .closed, rfl, rfl, id⟩
  | recordedRunning running => exact .inr ⟨running, .launched, .launched, rfl, rfl, id⟩
  | _ => exact .inl ⟨rfl, rfl⟩

/-- A task that takes an answer keeps what it has in hand. -/
theorem Custody.answer (custody : host.Custody) (orderly : host.Orderly)
    (found : host.task? number = some task) {wait : Wait} (waiting : task.state = .waiting wait)
    {answer : Answer} {answered : Host}
    (taken : host.answer? number task wait = some (answer, answered)) :
    (answered.setTaskState number (.answered answer)).Custody := by
  have effect := answer?_eq taken
  by_cases atLock : wait = .lock
  · subst atLock
    cases answers_of_answer? taken with
    | locked => exact custody.changeTask_aside found rfl (by rw [waiting]; rfl) rfl
  have inside : task.state.inside = true := by
    rw [waiting]
    exact TaskState.inside_waiting atLock
  have charge := answer?_charge taken
  have vacant := answer?_vacant waiting atLock taken
  obtain ⟨store, transport, rfl⟩ := effect
  have custody' : { host with store, transport }.Custody := custody.congr rfl rfl rfl
  have orderly' : { host with store, transport }.Orderly := orderly.congr rfl rfl
  refine custody'.changeTask orderly' found inside rfl
    (fun vacant' => custody.vacant found (vacant vacant')) ?_ ?_
  · intro stage running held
    rcases charge with ⟨_, none⟩ | ⟨running', before, later, held', held'', bears⟩
    · cases none.symm.trans held
    · obtain ⟨rfl, rfl⟩ : later = stage ∧ running' = running := by
        simpa using held''.symm.trans held
      obtain ⟨ofBot, before⟩ := custody.charged found (by rw [waiting, held'])
      exact ⟨ofBot, bears before⟩
  · intro stage running held
    rw [waiting] at held
    rcases charge with ⟨none, _⟩ | ⟨running', before, later, held', held'', _⟩
    · cases none.symm.trans held
    · obtain ⟨_, rfl⟩ : before = stage ∧ running' = running := by
        simpa using held'.symm.trans held
      exact .inr ⟨later, held''⟩

section

variable (custody : host.Custody) (orderly : host.Orderly)
  (found : host.task? number = some task) (inside : task.state.inside = true)
  (handed : ∀ {stage : Stage} {running : Instance},
    task.state.charge? = some (stage, running) → host.Bears .ended running)

include custody orderly found inside handed

/-- A task with nothing left in hand waits for something else. -/
theorem Custody.waitFor {wait : Wait} (idle : (TaskState.waiting wait).charge? = none)
    (vacant : Task.vacant { task with state := .waiting wait } = true →
      host.running? task.bot = none) : (host.waitFor number wait).Custody := by
  refine custody.changeTask orderly found inside rfl vacant ?_ fun held => .inl (handed held)
  intro stage running held
  exact absurd (idle.symm.trans held) nofun

/-- Behind a stop the bot does not run, so that the task may begin anew. -/
theorem Custody.afterStop (vacant : host.running? task.bot = none)
    (result : Except ManagerFault Unit) : (host.afterStop number task result).Custody := by
  have ends := custody.finish orderly found inside handed
  have waits {wait : Wait} (idle : (TaskState.waiting wait).charge? = none) :=
    custody.waitFor orderly found inside handed idle fun _ => vacant
  unfold Host.afterStop
  split
  · exact waits rfl
  · exact waits rfl
  · exact waits rfl
  · exact waits rfl
  · exact ends _
  · exact ends _

/-- A task that connects has nothing in hand. -/
theorem Custody.connect (token : Option String) (answer : Except StoreFault (Option Bot)) :
    (host.connect number task token answer).Custody := by
  have ends := custody.finish orderly found inside handed
  unfold Host.connect
  split
  · exact ends _
  · exact ends _
  · split
    · exact ends _
    next idle =>
      exact custody.waitFor orderly found inside handed rfl fun _ =>
        Option.not_isSome_iff_eq_none.mp idle

end

/-- A task that has got its lock begins with what its operation asks for. -/
theorem Custody.begin (custody : host.Custody) (orderly : host.Orderly)
    (found : host.task? number = some task) (locked : task.state = .answered .locked) :
    (host.begin number task).Custody := by
  have inside : task.state.inside = true := by
    rw [locked]
    rfl
  have handed {stage : Stage} {running : Instance}
      (held : task.state.charge? = some (stage, running)) : host.Bears .ended running := by
    rw [locked] at held
    cases held
  have ends := custody.finish orderly found inside handed
  unfold Host.begin
  split
  next start =>
    refine custody.waitFor orderly found inside handed rfl fun vacant => ?_
    unfold Task.vacant at vacant
    simp [start] at vacant
  iterate 3
    split
    next registered => exact custody.tearDown_registered orderly found inside registered .stopping
    next gone => exact custody.waitFor orderly found inside handed rfl fun _ => gone
  · split
    · exact ends _
    next idle =>
      exact custody.waitFor orderly found inside handed rfl fun _ =>
        Option.not_isSome_iff_eq_none.mp idle
  · split
    next registered =>
      split
      · exact custody.tearDown_registered orderly found inside registered .reaping
      · exact ends _
    · exact ends _

/-- A task whose instance has come to its end waits for something else that concerns it. -/
theorem Custody.waitForEnd (custody : host.Custody) (orderly : host.Orderly)
    (found : host.task? number = some task) (inside : task.state.inside = true) {stage : Stage}
    {running : Instance} (charge : task.state.charge? = some (stage, running))
    (ended : stage = .ended) {wait : Wait}
    (charge' : (TaskState.waiting wait).charge? = some (.ended, running)) :
    (host.waitFor number wait).Custody := by
  subst ended
  have held := custody.charged found charge
  have gone := custody.vacant found (Task.vacant_of_charge charge)
  refine custody.changeTask orderly found inside rfl (fun _ => gone) ?_ ?_
  · intro stage other charged
    obtain ⟨rfl, rfl⟩ : Stage.ended = stage ∧ running = other := by
      simpa using charge'.symm.trans charged
    exact held
  · intro stage other charged
    obtain ⟨_, rfl⟩ : Stage.ended = stage ∧ running = other := by
      simpa using charge.symm.trans charged
    exact .inr ⟨.ended, charge'⟩

/-- However a task goes on, somebody answers for every loop. -/
theorem Custody.resume (custody : host.Custody) (orderly : host.Orderly)
    (found : host.task? number = some task) {answer : Answer}
    (answered : task.state = .answered answer) : (host.resume number task answer).Custody := by
  have inside : task.state.inside = true := by
    rw [answered]
    rfl
  have charged {stage : Stage} {running : Instance}
      (held : (TaskState.answered answer).charge? = some (stage, running)) :
      task.state.charge? = some (stage, running) := by
    rw [answered, held]
  have idle (none : (TaskState.answered answer).charge? = none) {stage : Stage}
      {running : Instance} (held : task.state.charge? = some (stage, running)) :
      host.Bears .ended running := by
    rw [answered, none] at held
    cases held
  have freed {running : Instance} (last : (TaskState.answered answer).charge? =
      some (.closed, running)) {stage : Stage} {other : Instance}
      (held : task.state.charge? = some (stage, other)) : host.Bears .ended other := by
    obtain ⟨rfl, rfl⟩ : Stage.closed = stage ∧ running = other := by
      simpa using (charged last).symm.trans held
    exact (custody.charged found held).2
  have gone (vacant : Task.vacant { task with state := .answered answer } = true) :=
    custody.vacant found (by
      obtain ⟨operation, bot, lock, state⟩ := task
      subst answered
      exact vacant)
  have ends (none : (TaskState.answered answer).charge? = none) :=
    custody.finish orderly found inside (idle none)
  cases answer with
  | locked => exact custody.begin orderly found answered
  | readToStop read =>
    rcases read with fault | _ | bot <;>
      exact custody.afterStop orderly found inside (idle rfl) (gone rfl) _
  | joined running ending finished =>
    cases finished with
    | false =>
      refine custody.advance orderly found inside (charged rfl) ?_ rfl
      intro _ _
      rfl
    | true => exact custody.waitForEnd orderly found inside (charged rfl) rfl rfl
  | joinedAborted running ending =>
    exact custody.waitForEnd orderly found inside (charged rfl) rfl rfl
  | closed running ending forced =>
    cases ending with
    | stopping => exact custody.waitFor orderly found inside (freed rfl) rfl fun _ => gone rfl
    | startFailed fault => exact custody.finish orderly found inside (freed rfl) _
    | reaping => exact custody.waitFor orderly found inside (freed rfl) rfl fun _ => gone rfl
  | recordedStopped result =>
    exact custody.afterStop orderly found inside (idle rfl) (gone rfl) result
  | recordedReaped => exact ends rfl _
  | removed present =>
    rcases present with fault | _ | _
    · exact ends rfl _
    · exact ends rfl _
    · exact custody.finishDeleted orderly found inside (idle rfl)
  | readToStart token read => exact custody.connect orderly found inside (idle rfl) token read
  | connected handlers session =>
    cases session with
    | error failure => exact custody.waitFor orderly found inside (idle rfl) rfl fun _ => gone rfl
    | ok session =>
      exact custody.launch orderly found inside (by rw [Task.vacant, answered])
        (by rw [answered]; rfl) handlers session
  | recordedFailed failure => exact ends rfl _
  | recordedRunning running result =>
    cases result with
    | error fault =>
      refine custody.advance orderly found inside (charged rfl) ?_ rfl
      intro _ shown
      exact ⟨rfl, shown.2⟩
    | ok done => exact custody.enroll orderly found inside (charged rfl) _
  | updated bot =>
    cases bot with
    | error fault => exact ends rfl _
    | ok bot => exact ends rfl _

/-! ### Every move -/

/-- With every step somebody answers for every loop. -/
theorem Custody.step (custody : host.Custody) (orderly : host.Orderly) {process : Process}
    (stepped : host.advance process = some next) : next.Custody := by
  cases process with
  | loop generation =>
    obtain ⟨loop, found, unfinished, waiting, state, recorded, sendsStarted, ⟨rfl, _⟩ | ⟨rfl, _⟩⟩ :=
      advance_loop_cases stepped
    · exact custody.moveLoop found unfinished _ _ _ _
    · exact (custody.moveLoop found unfinished _ _ _ _).addTask _ _
  | task number =>
    obtain ⟨task, found, ⟨created, rfl⟩ | ⟨wait, answer, answered, waiting, taken, rfl⟩ |
      ⟨answer, answered, rfl⟩⟩ := advance_task_cases stepped
    · exact custody.requestLock found created
    · exact custody.answer orderly found waiting taken
    · exact custody.resume orderly found answered

theorem Custody.move (custody : host.Custody) (orderly : host.Orderly) {move : Move}
    (made : host.after? move = some next) : next.Custody := by
  have both : next.Orderly ∧ next.Custody := by
    refine @after?_kept (fun host => host.Orderly ∧ host.Custody) ?_ ?_ ?_ ?_ _ _ _
      ⟨orderly, custody⟩ made
    · exact fun operation bot _ before =>
        ⟨before.1.addTask operation bot, before.2.addTask operation bot⟩
    · exact fun waiting before found unfinished =>
        ⟨before.1.congr rfl rfl, before.2.moveLoop found unfinished waiting _ _ _⟩
    · exact fun _ _ _ _ before _ => ⟨before.1.congr rfl rfl, before.2.congr rfl rfl rfl⟩
    · exact fun before stepped => ⟨before.1.step stepped, before.2.step before.1 stepped⟩
  exact both.2

theorem Custody.seeded (patterns : PatternEngine) (settings : ManagerSettings) (bots : List Bot) :
    (Host.seeded patterns settings bots).Custody where
  vacant := nofun
  charged := nofun
  registered := nofun
  owned there := absurd there (by simp [loop?, Host.seeded])

/-- Somebody answers for every loop of a reachable host. -/
theorem Reachable.custody (reachable : host.Reachable) : host.Custody :=
  reachable.invariant Custody.seeded fun before custody made => custody.move before.orderly made

end Host

end BotHost
