/-
At most one operation and at most one loop for each bot.

The lock of a bot is made on demand, and a delete that nobody else waits behind drops it. That never
splits the operations on a bot between two locks: whoever has asked for a lock and has not given it
back refers to the lock that the bot has now. So at most one operation has the lock, and since every
loop is answered for by the registry or by that operation, at most one loop is alive.
-/

import BotHost.Proofs.Manager.Custody

namespace BotHost

namespace Host

/-- Whether a task has the lock that it refers to. -/
def hasLock (host : Host) (number : TaskNumber) (task : Task) : Bool :=
  task.lock.any fun lock => host.locks.holds lock number

/-- Nobody is in the way of anybody else at this bot. -/
structure Exclusive (host : Host) (bot : String) : Prop where
  locked : ∀ {number : TaskNumber} {task : Task}, host.task? number = some task →
    task.bot = bot → task.state.inside = true → host.hasLock number task = true
  alone : ∀ {number other : TaskNumber} {task record : Task}, host.task? number = some task →
    host.task? other = some record → task.bot = bot → record.bot = bot →
      host.hasLock number task = true → host.hasLock other record = true → number = other
  alive : ∀ {generation other : Nat} {loop loop' : SessionLoop},
    host.loop? generation = some loop → host.loop? other = some loop' → loop.bot = bot →
      loop'.bot = bot → loop.state ≠ .finished → loop'.state ≠ .finished → generation = other

variable {host : Host}

theorem hasLock_iff {number : TaskNumber} {task : Task} :
    host.hasLock number task = true ↔ ∃ lock record, task.lock = some lock ∧
      host.locks.locks[lock]? = some record ∧ record.holder = some number := by
  obtain ⟨operation, bot, lock, state⟩ := task
  cases lock with
  | none => simp [hasLock]
  | some lock =>
    rw [hasLock, Option.any_some, LockTable.holds_iff]
    simp

/-- Two tasks that have the lock of one bot are one task. -/
theorem Orderly.single_holder (orderly : host.Orderly) {number other : TaskNumber}
    {task record : Task} (found : host.task? number = some task)
    (found' : host.task? other = some record) (sameBot : task.bot = record.bot)
    (locked : host.hasLock number task = true) (locked' : host.hasLock other record = true) :
    number = other := by
  obtain ⟨lock, held, refers, there, holder⟩ := hasLock_iff.mp locked
  obtain ⟨lock', held', refers', there', holder'⟩ := hasLock_iff.mp locked'
  have named := orderly.named found refers
  rw [sameBot, orderly.named found' refers'] at named
  obtain rfl : lock' = lock := Option.some.inj named
  rw [there] at there'
  obtain rfl : held = held' := Option.some.inj there'
  exact Option.some.inj (holder.symm.trans holder')

/-- Two loops of one bot that have not finished are one loop: a task that answers for a loop is past its lock
and has found the registry without the bot. -/
theorem Custody.single_loop (custody : host.Custody) (orderly : host.Orderly)
    {generation other : Nat} {loop loop' : SessionLoop} (there : host.loop? generation = some loop)
    (there' : host.loop? other = some loop') (sameBot : loop'.bot = loop.bot)
    (unfinished : loop.state ≠ .finished) (unfinished' : loop'.state ≠ .finished) :
    generation = other := by
  have charged {generation : Nat} {loop : SessionLoop} (there : host.loop? generation = some loop)
      {number : TaskNumber} {task : Task} {stage : Stage} {running : Instance}
      (found : host.task? number = some task)
      (charge : task.state.charge? = some (stage, running))
      (same : running.generation = generation) :
      task.bot = loop.bot ∧ task.state.inside = true ∧ host.running? loop.bot = none := by
    obtain ⟨ofTask, loop', there', ofLoop, _⟩ := custody.charged found charge
    rw [same, there] at there'
    obtain rfl : loop = loop' := Option.some.inj there'
    have vacant := Task.vacant_of_charge charge
    have ofBot : task.bot = loop.bot := ofTask.symm.trans ofLoop.symm
    exact ⟨ofBot, Task.inside_of_vacant vacant, ofBot ▸ custody.vacant found vacant⟩
  rcases custody.owned there unfinished with ⟨running, registered, same⟩ |
    ⟨number, task, stage, running, found, charge, same⟩ <;>
  rcases custody.owned there' unfinished' with ⟨running', registered', same'⟩ |
    ⟨number', task', stage', running', found', charge', same'⟩
  · rw [sameBot, registered] at registered'
    obtain rfl : running = running' := Option.some.inj registered'
    exact same.symm.trans same'
  · obtain ⟨_, _, gone⟩ := charged there' found' charge' same'
    rw [sameBot, registered] at gone
    cases gone
  · obtain ⟨_, _, gone⟩ := charged there found charge same
    rw [← sameBot, registered'] at gone
    cases gone
  · obtain ⟨ofBot, inside, _⟩ := charged there found charge same
    obtain ⟨ofBot', inside', _⟩ := charged there' found' charge' same'
    obtain rfl : number' = number :=
      orderly.alone found found' inside inside' (by rw [ofBot, ofBot', sameBot])
    rw [found] at found'
    obtain rfl : task = task' := Option.some.inj found'
    rw [charge] at charge'
    obtain ⟨rfl, rfl⟩ : stage = stage' ∧ running = running' := by simpa using charge'
    exact same.symm.trans same'

/-- In every run, at most one operation on a bot is past its lock, and at most one loop of the bot is
alive. -/
theorem Run.exclusive {patterns : PatternEngine} {settings : ManagerSettings} {bots : List Bot} {moves : List Move}
    (run : Run (seeded patterns settings bots) moves host) (bot : String) : host.Exclusive bot := by
  have reachable : host.Reachable := ⟨patterns, settings, bots, moves, run⟩
  have orderly := reachable.orderly
  have custody := reachable.custody
  constructor
  · intro number task found ofBot inside
    obtain ⟨lock, record, refers, there, holder⟩ := orderly.held found inside
    exact hasLock_iff.mpr ⟨lock, record, refers, there, holder⟩
  · intro number other task record found found' ofBot ofBot'
    exact orderly.single_holder found found' (ofBot.trans ofBot'.symm)
  · intro generation other loop loop' there there' ofBot ofBot'
    exact custody.single_loop orderly there there' (ofBot'.trans ofBot.symm)

/-- A delete waits behind a start and then has the instance that this has started; another start waits
behind the delete. -/
def startDeleteStart : List Move :=
  [.begin .start "bot", .begin .delete "bot", .step (.task 0), .step (.task 1)] ++
    .replicate 8 (.step (.task 0)) ++
    [.step (.task 1), .step (.task 1), .begin .start "bot", .step (.task 2)]

theorem exclusive_startDeleteStart : ∃ host,
    Run (seeded .unlimited {} [.plain "bot" "token"]) startDeleteStart host ∧ host.Exclusive "bot" := by
  have played : ((seeded .unlimited {} [.plain "bot" "token"]).play startDeleteStart).isSome = true := by rfl
  obtain ⟨host, played⟩ := Option.isSome_iff_exists.mp played
  have run := run_iff.mpr played
  exact ⟨host, run, run.exclusive "bot"⟩

end Host

end BotHost
