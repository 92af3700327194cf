/-
What a task that reaps can still do.

Between the end of a session and the reaping of its instance any number of operations may have had the
lock of the bot. What the reaping task goes by is the generation: when it gets the lock it looks
whether the registry still holds the instance whose loop has finished. If it does not, the task ends
and has done nothing. If it does, the task takes the instance out, and from then on it has the bot to
itself: until it has recorded the end nobody registers the bot again or writes to its record.
-/

import BotHost.Proofs.Manager.Compiling
import BotHost.Proofs.Manager.Exclusion
import BotHost.Proofs.Manager.Generations
import BotHost.Proofs.Manager.Ledger

namespace BotHost

namespace Host

/-- A task that has got the lock takes the instance of a generation out of the registry. -/
structure TakesOut (host : Host) (number : TaskNumber) (bot : String) (generation : Nat)
    (next : Host) : Prop where
  locked : ∃ task, host.task? number = some task ∧ task.state = .answered .locked ∧
    host.hasLock number task = true
  registered : ∃ running, host.running? bot = some running ∧ running.generation = generation
  made : host.after? (.step (.task number)) = some next
  gone : next.running? bot = none

/-- A task has taken the instance of a generation out of the registry, and since then the bot has not
been registered and its record has stayed as it was. -/
inductive TakenOut (first : Host) (number : TaskNumber) (bot : String) (generation : Nat) :
    List Move → Host → Prop
  | takes {moves : List Move} {host next : Host} (run : Run first moves host)
      (takes : host.TakesOut number bot generation next) :
      TakenOut first number bot generation (moves ++ [.step (.task number)]) next
  | stays {moves : List Move} {host next : Host} {move : Move}
      (since : TakenOut first number bot generation moves host)
      (made : host.after? move = some next) (out : next.running? bot = none)
      (still : next.store.find? bot = host.store.find? bot) :
      TakenOut first number bot generation (moves ++ [move]) next

/-- What a step of a task that reaps the instance of a generation does. All that others can see of it
has to do with the instance that the task takes out of the registry or has taken out. -/
structure Reaps (first : Host) (moves : List Move) (host : Host) (number : TaskNumber)
    (bot : String) (generation : Nat) (next : Host) : Prop where
  acts : host.TakesOut number bot generation next ∨ TakenOut first number bot generation moves host ∨
    ∃ tasks locks, next = { host with tasks, locks }
  tears : ∀ {running : Instance}, host.tornDown? (.step (.task number)) = some running →
    running.generation = generation ∧ host.TakesOut number bot generation next
  registry : ∀ other, next.running? other = host.running? other ∨
    other = bot ∧ host.TakesOut number bot generation next
  records : ∀ other, next.store.find? other = host.store.find? other ∨
    other = bot ∧ TakenOut first number bot generation moves host ∧
      next.store.find? other = (host.store.find? other).map fun stored =>
        { stored with status := .error }
  spares : ∀ {other : Nat} {loop : SessionLoop}, other ≠ generation →
    host.loop? other = some loop → next.loop? other = some loop

/-- A task that has taken out the instance that it is to reap has it in hand, and the bot is stored. -/
structure Undisturbed (first : Host) (moves : List Move) (host : Host) (number : TaskNumber)
    (task : Task) (generation : Nat) : Prop where
  out : TakenOut first number task.bot generation moves host
  own : ∀ {stage : Stage} {running : Instance}, task.state.charge? = some (stage, running) →
    running.generation = generation
  stored : (host.store.find? task.bot).isSome = true

variable {first host next : Host} {moves : List Move} {move : Move} {number : TaskNumber}
  {task : Task} {generation : Nat}

theorem vacant_of_owes (owes : task.state.owes = true) : task.vacant = true := by
  obtain ⟨operation, bot, lock, state⟩ := task
  cases state with
  | waiting wait => cases wait <;> first | rfl | cases owes
  | answered answer => cases answer <;> first | rfl | cases owes
  | created | finished => cases owes

/-! ### The steps of a task that reaps -/

/-- On the way to the end of its instance a task that reaps takes answers which write nothing, but for
the last. -/
theorem answer?_of_reaps {wait : Wait} {answer : Answer} {answered : Host}
    (taken : host.answer? number task wait = some (answer, answered))
    (reaps : (TaskState.waiting wait).reaps = true) :
    (wait = .lock ∧ answered = host) ∨ (wait = .recordReaped ∧ answer = .recordedReaped) ∨
      (TaskState.waiting wait).owes = true ∧ answered.store = host.store ∧
        ∀ {stage : Stage} {running : Instance},
          (TaskState.answered answer).charge? = some (stage, running) →
            ∃ before, (TaskState.waiting wait).charge? = some (before, running) := by
  have charge := answer?_charge taken
  have carried {stage : Stage} {running : Instance}
      (held : (TaskState.answered answer).charge? = some (stage, running)) :
      ∃ before, (TaskState.waiting wait).charge? = some (before, running) := by
    rcases charge with ⟨_, none⟩ | ⟨other, before, later, held', held'', _⟩
    · exact absurd (none.symm.trans held) nofun
    · rw [held''] at held
      cases held
      exact ⟨before, held'⟩
  cases answers_of_answer? taken with
  | locked => exact .inl ⟨rfl, rfl⟩
  | recordedReaped => exact .inr (.inl ⟨rfl, rfl⟩)
  | joined _ ending | unjoined _ ending | joinedAborted _ ending | closed _ ending
  | unclosed _ ending =>
    obtain rfl : ending = .reaping := by simpa [TaskState.reaps] using reaps
    exact .inr (.inr ⟨rfl, rfl, carried⟩)
  | _ => cases reaps

/-- A task that reaps and has something to end after its step has just taken it out of the registry,
or has had it before. -/
theorem ComesTo.of_reaps {answer : Answer} {wait : Wait} (comes : host.ComesTo task answer wait)
    (reaps : (TaskState.answered answer).reaps = true)
    (owes : (TaskState.waiting wait).owes = true) :
    (∃ running ending deadline, answer = .locked ∧ wait = .join running ending deadline ∧
      host.running? task.bot = some running ∧
        ∀ generation, task.operation = .reap generation → running.generation = generation) ∨
      (TaskState.answered answer).owes = true ∧ ∀ {stage : Stage} {running : Instance},
        (TaskState.waiting wait).charge? = some (stage, running) →
          ∃ before, (TaskState.answered answer).charge? = some (before, running) := by
  cases comes with
  | leads leads =>
    right
    cases leads with
    | closes | forces => exact ⟨owes, fun held => by cases held; exact ⟨_, rfl⟩⟩
    | reaped => exact ⟨rfl, nofun⟩
    | stopped => cases reaps
    | _ => cases owes
  | takes running ending deadline registered own =>
    exact .inl ⟨running, ending, deadline, rfl, rfl, registered, own⟩
  | withdraws => cases reaps
  | aborts running ending => exact .inr ⟨owes, fun held => by cases held; exact ⟨_, rfl⟩⟩
  | launches => cases owes

theorem takesOut_of_locked (reachable : host.Reachable) (found : host.task? number = some task)
    (locked : task.state = .answered .locked) {running : Instance}
    (registered : host.running? task.bot = some running) (own : running.generation = generation)
    (made : host.after? (.step (.task number)) = some next) (gone : next.running? task.bot = none) :
    host.TakesOut number task.bot generation next := by
  have inside : task.state.inside = true := by
    rw [locked]
    rfl
  obtain ⟨lock, record, refers, there, holder⟩ := reachable.orderly.held found inside
  exact ⟨⟨task, found, locked, hasLock_iff.mpr ⟨lock, record, refers, there, holder⟩⟩,
    ⟨running, registered, own⟩, made, gone⟩

/-! ### Nobody comes in between -/

/-- What others do does not reach the record of a bot whose lock a task has. -/
theorem find?_of_other (reachable : host.Reachable) (found : host.task? number = some task)
    (inside : task.state.inside = true) (stored : (host.store.find? task.bot).isSome = true)
    (made : host.after? move = some next) (other : move ≠ .step (.task number)) :
    next.store.find? task.bot = host.store.find? task.bot := by
  cases move with
  | step process =>
    rcases advance_store made with same |
      ⟨number', record, wait, answer, answered, rfl, found', waiting, taken, wrote⟩
    · rw [same]
    by_cases atLock : wait = .lock
    · subst atLock
      cases answers_of_answer? taken
      rw [wrote]
    · rw [wrote]
      refine answer?_find?_other taken fun sameBot => other ?_
      have inside' : record.state.inside = true := by
        rw [waiting]
        exact TaskState.inside_waiting atLock
      rw [reachable.orderly.alone found' found inside' inside sameBot]
  | begin operation bot =>
    simp only [after?] at made
    split at made <;> cases made
    rfl
  | shutdown =>
    cases made
    exact @stopAll_kept (fun next => next.store.find? task.bot = host.store.find? task.bot)
      (fun _ same => same) host rfl
  | register bot =>
    cases made
    obtain ⟨bot', there⟩ := Option.isSome_iff_exists.mp stored
    rw [host.find?_register there, there]
  | inject token event =>
    cases made
    rw [inject_eq]
  | endSession | reject | accept | clearSent | setDelays | setFaults | pass =>
    cases made
    rfl

namespace Undisturbed

/-- The instance of a bot that is out stays out, if nothing is written to the record of the bot. -/
theorem stays (undisturbed : Undisturbed first moves host number task generation)
    (made : host.after? move = some next) {record : Task} (sameBot : record.bot = task.bot)
    (out : next.running? task.bot = none)
    (still : next.store.find? task.bot = host.store.find? task.bot)
    (own : ∀ {stage : Stage} {running : Instance}, record.state.charge? = some (stage, running) →
      ∃ before, task.state.charge? = some (before, running)) :
    Undisturbed first (moves ++ [move]) next number record generation where
  out := by
    rw [sameBot]
    exact .stays undisturbed.out made out still
  own := by
    intro stage running held
    obtain ⟨before, held'⟩ := own held
    exact undisturbed.own held'
  stored := by
    rw [sameBot, still]
    exact undisturbed.stored

end Undisturbed

/-- Every task that has taken out the instance that it is to reap is left alone. -/
def LeavesReapers (first : Host) (moves : List Move) (host : Host) : Prop :=
  ∀ {number : TaskNumber} {task : Task} {generation : Nat}, host.task? number = some task →
    task.operation = .reap generation → task.state.owes = true →
      Undisturbed first moves host number task generation

namespace LeavesReapers

theorem undisturbed_after (leaves : LeavesReapers first moves host) (reachable : host.Reachable)
    (run : Run first moves host) (made : host.after? (.step (.task number)) = some next)
    (found : host.task? number = some task) {record : Task}
    (found' : next.task? number = some record) (sameBot : record.bot = task.bot)
    (operation : task.operation = .reap generation) (owes : record.state.owes = true) :
    Undisturbed first (moves ++ [.step (.task number)]) next number record generation := by
  have reachable' := reachable.run (.move made (.rest next))
  have out := reachable'.custody.vacant found' (vacant_of_owes owes)
  rw [sameBot] at out
  have reaps := reachable.reapers.reaps found operation
  obtain ⟨_, rfl⟩ | ⟨wait, answer, answered, waiting, taken, rfl⟩ | ⟨answer, answered, rfl⟩ :=
    advance_found_cases found made
  · have there : (host.requestLock number task).task? number = some _ := task?_changeTask_self found _
    obtain rfl := Option.some.inj (there.symm.trans found')
    cases owes
  · rw [waiting] at reaps
    have effect := answer?_of_reaps taken reaps
    have frame := answer?_eq taken
    have same : answered.task? number = some task := by
      obtain ⟨store, transport, rfl⟩ := frame
      exact found
    obtain rfl := Option.some.inj ((task?_changeTask_self same _).symm.trans found')
    rcases effect with ⟨rfl, _⟩ | ⟨_, rfl⟩ | ⟨owed, wrote, carried⟩
    · cases answers_of_answer? taken
      cases owes
    · cases owes
    · rw [← waiting] at owed
      refine (leaves found operation owed).stays made rfl out ?_ ?_
      · show answered.store.find? task.bot = _
        rw [wrote]
      · rw [waiting]
        exact carried
  · obtain ⟨result, finished⟩ | ⟨wait, waiting, comes⟩ := resume_comesTo found found'
    · rw [finished] at owes
      cases owes
    rw [answered] at reaps
    rw [waiting] at owes
    have still := (host.resume_frame number task answer).1
    rcases comes.of_reaps reaps owes with ⟨running, ending, deadline, rfl, rfl, registered, own⟩ |
      ⟨owed, carried⟩
    · constructor
      · rw [sameBot]
        exact .takes run (takesOut_of_locked reachable found answered registered
          (own generation operation) made out)
      · rw [waiting]
        rintro stage other ⟨rfl⟩
        exact own generation operation
      · have compiles := reachable.upToDate.registered registered
        obtain ⟨stored, there, _⟩ := Option.map_eq_some_iff.mp compiles
        rw [sameBot, still, there]
        rfl
    · rw [← answered] at owed
      refine (leaves found operation owed).stays made sameBot out (by rw [still]) ?_
      rw [waiting, answered]
      exact carried

theorem extend (leaves : LeavesReapers first moves host) (reachable : host.Reachable)
    (run : Run first moves host) (made : host.after? move = some next) :
    LeavesReapers first (moves ++ [move]) next := by
  intro number record generation found' operation owes
  by_cases own : move = .step (.task number)
  · subst own
    obtain ⟨task, found, _⟩ := advance_task_cases made
    obtain ⟨lock, state, after⟩ := task?_after made found
    obtain rfl : record = { task with lock, state } := Option.some.inj (found'.symm.trans after)
    exact leaves.undisturbed_after reachable run made found found' rfl operation owes
  · rcases task?_of_after made own found' with found | created
    · have undisturbed := leaves found operation owes
      have reachable' := reachable.run (.move made (.rest next))
      exact undisturbed.stays made rfl (reachable'.custody.vacant found' (vacant_of_owes owes))
        (find?_of_other reachable found (inside_of_owes owes) undisturbed.stored made own)
        fun held => ⟨_, held⟩
    · rw [created] at owes
      cases owes

theorem seeded (patterns : PatternEngine) (settings : ManagerSettings) (bots : List Bot) :
    LeavesReapers (Host.seeded patterns settings bots) [] (Host.seeded patterns settings bots) := by
  intro number task generation found
  cases found

end LeavesReapers

theorem Run.leaves_reapers {patterns : PatternEngine} {settings : ManagerSettings} {bots : List Bot}
    (run : Run (seeded patterns settings bots) moves host) :
    LeavesReapers (seeded patterns settings bots) moves host :=
  @Run.keeps_history _ _ _ (LeavesReapers (seeded patterns settings bots))
    (LeavesReapers.seeded patterns settings bots)
    (fun run leaves made => leaves.extend ⟨patterns, settings, bots, _, run⟩ run made) run

/-! ### What a task that reaps does -/

/-- A task that reaps tears down what it takes out of the registry, and nothing else. -/
theorem takesOut_of_tornDown (reachable : host.Reachable) (found : host.task? number = some task)
    (operation : task.operation = .reap generation)
    (made : host.after? (.step (.task number)) = some next) {running : Instance}
    (torn : host.tornDown? (.step (.task number)) = some running) :
    running.generation = generation ∧ host.TakesOut number task.bot generation next := by
  have reaps := reachable.reapers.reaps found operation
  have reachable' := reachable.run (.move made (.rest next))
  obtain ⟨wait, comes, torn⟩ := Option.bind_eq_some_iff.mp torn
  obtain ⟨number', next', record, same, stepped, found', waiting⟩ := comesTo?_eq_some.mp comes
  cases same
  obtain rfl : next' = next := Option.some.inj (stepped.symm.trans made)
  rcases comesTo_of_advance found stepped found' waiting with rfl | ⟨answer, answered, comes⟩
  · cases torn
  rw [answered] at reaps
  cases comes with
  | leads leads => cases leads <;> cases torn
  | takes _ ending deadline registered own =>
    cases torn
    have charge : record.state.charge? = some (.cancelled, running) := by
      rw [waiting]
      rfl
    have gone := reachable'.custody.vacant found' (Task.vacant_of_charge charge)
    obtain ⟨lock, state, after⟩ := task?_after made found
    rw [Option.some.inj (found'.symm.trans after)] at gone
    have same := own generation operation
    exact ⟨same, takesOut_of_locked reachable found answered registered same made gone⟩
  | withdraws => cases reaps
  | aborts | launches => cases torn

theorem reaps_of_answer (leaves : LeavesReapers first moves host) (reachable : host.Reachable)
    (found : host.task? number = some task) (operation : task.operation = .reap generation)
    {wait : Wait} (waiting : task.state = .waiting wait) {answer : Answer} {answered : Host}
    (taken : host.answer? number task wait = some (answer, answered))
    (made : host.after? (.step (.task number)) =
      some (answered.setTaskState number (.answered answer))) :
    Reaps first moves host number task.bot generation
      (answered.setTaskState number (.answered answer)) := by
  have reaps := reachable.reapers.reaps found operation
  have tears {running : Instance} := @takesOut_of_tornDown _ _ _ _ _ reachable found operation made
    running
  rw [waiting] at reaps
  have effect := answer?_of_reaps taken reaps
  have out (owes : (TaskState.waiting wait).owes = true) :=
    (leaves found operation (by rw [waiting]; exact owes)).out
  by_cases records : wait = .recordReaped
  · subst records
    cases answers_of_answer? taken
    have wrote := host.find?_storeSetStatus task.bot .error
    rw [storeSetStatus_eq] at tears ⊢
    exact ⟨.inr (.inl (out rfl)), tears, fun _ => .inl rfl,
      fun other => (wrote other).imp id fun ⟨own, wrote⟩ => ⟨own, out rfl, wrote⟩, fun _ there => there⟩
  have frame := answer?_eq taken
  rcases effect with ⟨rfl, rfl⟩ | ⟨records', _⟩ | ⟨owes, wrote, _⟩
  · exact ⟨.inr (.inr ⟨_, _, rfl⟩), tears, fun _ => .inl rfl, fun _ => .inl rfl, fun _ there => there⟩
  · exact absurd records' records
  · obtain ⟨store, transport, rfl⟩ := frame
    obtain rfl : store = host.store := wrote
    exact ⟨.inr (.inl (out owes)), tears, fun _ => .inl rfl, fun _ => .inl rfl, fun _ there => there⟩

theorem reaps_of_resume (leaves : LeavesReapers first moves host) (reachable : host.Reachable)
    (found : host.task? number = some task) (operation : task.operation = .reap generation)
    {answer : Answer} (answered : task.state = .answered answer)
    (made : host.after? (.step (.task number)) = some (host.resume number task answer)) :
    Reaps first moves host number task.bot generation (host.resume number task answer) := by
  have reaps := reachable.reapers.reaps found operation
  rw [answered] at reaps
  have tears {running : Instance} := @takesOut_of_tornDown _ _ _ _ _ reachable found operation made
    running
  have out (owes : (TaskState.answered answer).owes = true) :=
    (leaves found operation (by rw [answered]; exact owes)).out
  have goes := resume_continues host number task answer
  generalize host.resume number task answer = next at goes made tears
  cases goes with
  | waits leads =>
    have owes : (TaskState.answered answer).owes = true := by
      cases leads with
      | starts own | updates own | restarts own | removes own =>
        rw [operation] at own
        cases own
      | stops own =>
        rw [operation] at own
        cases own
      | closes running ending | forces running ending =>
        obtain rfl : ending = .reaping := by simpa [TaskState.reaps] using reaps
        rfl
      | reaped => rfl
      | stopped | connects | fails => cases reaps
    exact ⟨.inr (.inl (out owes)), tears, fun _ => .inl rfl, fun _ => .inl rfl, fun _ there => there⟩
  | takes running ending registered own =>
    have same := own generation operation
    obtain ⟨marked, there, _⟩ := reachable.custody.registered registered
    have gone : ((host.unregister task.bot).tearDown number running ending).running? task.bot =
        none := (running?_unregister host task.bot task.bot).trans (if_pos rfl)
    have takes := takesOut_of_locked reachable found answered registered same made gone
    refine ⟨.inl takes, tears, fun other => ?_, fun _ => .inl rfl, fun different there' => ?_⟩
    · by_cases ofBot : other = task.bot
      · exact .inr ⟨ofBot, takes⟩
      · exact .inl ((running?_unregister host task.bot other).trans (if_neg ofBot))
    · have loops := (host.unregister task.bot).loop?_changeLoop there fun loop =>
        { loop with cancelled := true }
      exact (loops _).trans ((if_neg (same ▸ different)).trans there')
  | aborts running ending =>
    obtain rfl : ending = .reaping := by simpa [TaskState.reaps] using reaps
    have undisturbed := leaves found operation (by rw [answered]; rfl)
    have charge : task.state.charge? = some (.cancelled, running) := by
      rw [answered]
      rfl
    obtain ⟨_, marked, there, _⟩ := reachable.custody.charged found charge
    refine ⟨.inr (.inl undisturbed.out), tears, fun _ => .inl rfl, fun _ => .inl rfl,
      fun different there' => ?_⟩
    have loops := host.loop?_changeLoop there fun loop => { loop with aborted := true }
    exact (loops _).trans ((if_neg (undisturbed.own charge ▸ different)).trans there')
  | ends _ result =>
    rw [finish_eq] at tears ⊢
    exact ⟨.inr (.inr ⟨_, _, rfl⟩), tears, fun _ => .inl rfl, fun _ => .inl rfl, fun _ there => there⟩
  | withdraws | launches | enrolls | deletes => cases reaps

theorem reaps_of_step (leaves : LeavesReapers first moves host) (reachable : host.Reachable)
    (found : host.task? number = some task) (operation : task.operation = .reap generation)
    (made : host.after? (.step (.task number)) = some next) :
    Reaps first moves host number task.bot generation next := by
  obtain ⟨_, rfl⟩ | ⟨wait, answer, answered, waiting, taken, rfl⟩ | ⟨answer, answered, rfl⟩ :=
    advance_found_cases found made
  · exact ⟨.inr (.inr ⟨_, _, rfl⟩), takesOut_of_tornDown reachable found operation made,
      fun _ => .inl rfl, fun _ => .inl rfl, fun _ there => there⟩
  · exact reaps_of_answer leaves reachable found operation waiting taken made
  · exact reaps_of_resume leaves reachable found operation answered made

/-- In every run, a task that reaps touches nothing but the instance of its generation, which it has to
find registered when it gets the lock of the bot. Each instance is torn down at most once, after it has
come about; generations ascend, and so do those of the instances that are registered for one bot after
another. -/
theorem Run.reaps_own_generation {patterns : PatternEngine} {settings : ManagerSettings} {bots : List Bot} {moves : List Move}
    (run : Run (seeded patterns settings bots) moves host) :
    (∀ {number : TaskNumber} {task : Task} {generation : Nat} {next : Host},
      host.task? number = some task → task.operation = .reap generation →
        host.after? (.step (.task number)) = some next →
          Reaps (seeded patterns settings bots) moves host number task.bot generation next) ∧
    ((along tornDown? (seeded patterns settings bots) moves).map Instance.generation).Nodup ∧
    (∀ running ∈ along tornDown? (seeded patterns settings bots) moves,
      running ∈ along created? (seeded patterns settings bots) moves) ∧
    ((along created? (seeded patterns settings bots) moves).map Instance.generation).Pairwise (· < ·) ∧
    ∀ {before later : List Move} {middle : Host} {bot : String} {running successor : Instance},
      Run (seeded patterns settings bots) before middle → Run middle later host →
        middle.running? bot = some running → host.running? bot = some successor →
          successor = running ∨ running.generation < successor.generation := by
  have succession := run.succession
  refine ⟨?_, succession.once, succession.existed, succession.ascending, ?_⟩
  · intro number task generation next found operation made
    exact reaps_of_step run.leaves_reapers ⟨patterns, settings, bots, moves, run⟩ found operation made
  · intro before later middle bot running successor early late registered registered'
    have reachable : middle.Reachable := ⟨patterns, settings, bots, before, early⟩
    have ofBot := middle.running?_bot registered
    have ofBot' := host.running?_bot registered'
    have present : middle.Present running := .inl (by rw [ofBot, registered])
    have present' : host.Present successor := .inl (by rw [ofBot', registered'])
    rcases late.present present' with already | new
    · exact .inl (reachable.custody.present_unique reachable.orderly already present
        (ofBot'.trans ofBot.symm))
    · obtain ⟨loop, there, _⟩ := reachable.custody.registered registered
      exact .inr (Nat.lt_of_lt_of_le (middle.loop?_lt there) new)

/-- A session ends before its instance is registered. A restart gets the lock before the task that is
to reap the instance, which then finds another one. -/
def endRestartReap : List Move :=
  [.begin .start "bot"] ++ .replicate 7 (.step (.task 0)) ++
    [.endSession "token", .step (.loop 1), .begin (.restart none) "bot", .step (.task 0),
      .step (.task 0), .step (.task 2), .step (.task 1)] ++
    .replicate 14 (.step (.task 2)) ++ [.step (.task 1)]

theorem reaps_own_generation_endRestartReap : ∃ host task next running,
    Run (seeded .unlimited {} [.plain "bot" "token"]) endRestartReap host ∧ host.task? 1 = some task ∧
      task.operation = .reap 1 ∧ host.after? (.step (.task 1)) = some next ∧
      running.generation = 2 ∧ host.running? "bot" = some running ∧
      next.running? "bot" = some running := by
  have played : (((seeded .unlimited {} [.plain "bot" "token"]).play endRestartReap).bind fun host =>
      (host.task? 1).bind fun task => (host.after? (.step (.task 1))).bind fun _ =>
        (host.running? "bot").map fun running => (task.operation, running.generation)) =
      some (.reap 1, 2) := by rfl
  simp only [Option.bind_eq_some_iff, Option.map_eq_some_iff, Prod.mk.injEq] at played
  obtain ⟨host, played, task, found, next, made, running, registered, operation, second⟩ := played
  have run := run_iff.mpr played
  refine ⟨host, task, next, running, run, found, operation, made, second, registered, ?_⟩
  rcases (run.reaps_own_generation.1 found operation made).registry "bot" with same | ⟨ofBot, takes⟩
  · rw [same, registered]
  · obtain ⟨other, registered', first⟩ := takes.registered
    rw [← ofBot, registered] at registered'
    obtain rfl := Option.some.inj registered'
    rw [second] at first
    cases first

end Host

end BotHost
