/-
What becomes of a restart.

A restart stops its bot and starts it, and has the lock of the bot from the one to the other. The stop
can overrun its times, but an end that was forced is an end: the start that follows finds that the bot
does not run. So while the store works there are only three ways to return. Either the bot runs again, as
an instance that is newer than all before it. Or no session was to be had for it, and it does not run. Or
there is no such bot, and then nothing has been done.

The given token is a token for this session alone. It is not written to the record, and the next restart
without one goes by the record again.
-/

import BotHost.Proofs.Manager.Attempting
import BotHost.Proofs.Manager.Overtaking

namespace BotHost

/-- Whether a restart has not learned whether its bot is stored. -/
def TaskState.inquires : TaskState → Bool
  | .created | .waiting .lock | .answered .locked | .waiting .readToStop => true
  | _ => false

/-- Whether a restart, which is to open a session for a token if one is given, stops its bot before. -/
def TaskState.halts (token : Option String) : TaskState → Prop
  | .waiting (.join _ ending _) | .answered (.joined _ ending _) | .waiting (.joinAborted _ ending)
  | .answered (.joinedAborted _ ending) | .waiting (.close _ ending _ _ _)
  | .answered (.closed _ ending _) => ending = .stopping
  | .waiting (.recordStopped result) | .answered (.recordedStopped result) =>
    result = .ok () ∨ ∃ bot timeout, result = .error (.closeTimeout bot timeout)
  | .answered (.readToStop found) => ∃ stored, found = .ok (some stored)
  | .waiting (.readToStart given) => given = token
  | _ => False

/-- Whether a restart has been refused a session. -/
def TaskState.refused (failure : StartFailure) : TaskState → Prop
  | .answered (.connected _ session) => session = .error failure
  | .waiting (.recordFailed reported) => reported = failure
  | _ => False

theorem TaskState.inside_of_halts {token : Option String} {state : TaskState} (halts : state.halts token) :
    state.inside = true := by
  cases state with
  | waiting wait => cases wait <;> first | rfl | cases halts
  | answered answer => rfl
  | created | finished => cases halts

theorem TaskState.inside_of_refused {failure : StartFailure} {state : TaskState}
    (refused : state.refused failure) : state.inside = true := by
  cases state with
  | waiting wait => cases wait <;> first | rfl | cases refused
  | answered answer => rfl
  | created | finished => cases refused

namespace Host

/-- The store answers whatever a restart asks of it. -/
structure Serves (host : Host) : Prop where
  reads : host.fails .get = false
  writes : host.fails .setStatus = false
  finds : host.fails .setStatusNotFound = false

instance (host : Host) : Decidable host.Serves :=
  decidable_of_iff (host.fails .get = false ∧ host.fails .setStatus = false ∧
      host.fails .setStatusNotFound = false)
    ⟨fun all => ⟨all.1, all.2.1, all.2.2⟩, fun serves => ⟨serves.reads, serves.writes, serves.finds⟩⟩

/-! ### What a restart comes to -/

section

variable (first : Host) (steps : List (Host × Host)) (host : Host) (bot : String)
  (token : Option String)

/-- Steps have opened one session, for this token. -/
structure Opens (session : Nat) (token : String) : Prop where
  opened : openedBy steps = [session]
  ofToken : ∃ record, host.transport.session? session = some record ∧ record.token = token

/-- A bot's record is this one. The bot has been launched, as an instance that is newer than all before,
with a session that was opened for the given token or else for the stored one. -/
structure Renewed (stored : Bot) (running : Instance) : Prop where
  there : host.store.find? bot = some stored
  opens : Opens steps host running.session (token.getD stored.token)
  launched : ∃ step ∈ steps, running.generation = step.1.nextGeneration
  newest : ∀ {generation : Nat} {loop : SessionLoop}, first.loop? generation = some loop →
    generation < running.generation

/-- A restart has seen that its bot neither is stored nor runs, and has done nothing. -/
structure Fruitless : Prop where
  still : ∀ step ∈ steps, step.1.Still step.2
  unknown : ∃ step ∈ steps, step.1.store.find? bot = none ∧ step.1.running? bot = none

/-- What a restart has come to when it returns, by what it returns. -/
inductive Restarted : Except ManagerFault Success → Prop
  | done {stored : Bot} {running : Instance} (renewed : Renewed first steps host bot token stored running)
      (recorded : stored.status = .running) (up : host.Up bot running)
      (sole : ∀ {generation : Nat} {loop : SessionLoop}, host.loop? generation = some loop →
        loop.bot = bot → loop.state ≠ .finished → generation = running.generation) :
      Restarted (.ok .done)
  | refused {stored : Bot} {failure : StartFailure} (idle : host.Idle bot stored)
      (recorded : stored.status = .error) : Restarted (.error (.startFailed bot failure))
  | unknown (fruitless : Fruitless steps bot) : Restarted (.error (.botNotFound bot))

/-- What a restart has come to, by where it is. -/
inductive Restarting : TaskState → Prop
  | inquires {state : TaskState} (inquires : state.inquires = true)
      (still : ∀ step ∈ steps, step.1.Still step.2) : Restarting state
  | misses (fruitless : Fruitless steps bot) : Restarting (.answered (.readToStop (.ok none)))
  | halts {state : TaskState} {stored : Bot} (halts : state.halts token)
      (there : host.store.find? bot = some stored) (unopened : openedBy steps = []) : Restarting state
  | reads {stored : Bot} (there : host.store.find? bot = some stored) (unopened : openedBy steps = []) :
      Restarting (.answered (.readToStart token (.ok (some stored))))
  | connects {stored : Bot} {handlers : List Handler} {due deadline : Nat}
      (there : host.store.find? bot = some stored) (unopened : openedBy steps = []) :
      Restarting (.waiting (.connect handlers (token.getD stored.token) due deadline))
  | refused {state : TaskState} {stored : Bot} {failure : StartFailure} (refused : state.refused failure)
      (there : host.store.find? bot = some stored) : Restarting state
  | blamed {stored : Bot} {failure : StartFailure} (there : host.store.find? bot = some stored)
      (recorded : stored.status = .error) : Restarting (.answered (.recordedFailed failure))
  | opened {stored : Bot} {handlers : List Handler} {session : Nat}
      (there : host.store.find? bot = some stored)
      (opens : Opens steps host session (token.getD stored.token)) :
      Restarting (.answered (.connected handlers (.ok session)))
  | launched {stored : Bot} {running : Instance}
      (renewed : Renewed first steps host bot token stored running) :
      Restarting (.waiting (.recordRunning running))
  | recorded {stored : Bot} {running : Instance}
      (renewed : Renewed first steps host bot token stored running) (recorded : stored.status = .running) :
      Restarting (.answered (.recordedRunning running (.ok ())))
  | ended {result : Except ManagerFault Success} (restarted : Restarted first steps host bot token result) :
      Restarting (.finished result)

end

variable {first host next last : Host} {steps : List (Host × Host)} {number : TaskNumber}
  {task record : Task} {bot : String} {token : Option String}

/-! ### A store that works -/

theorem Serves.storeFind (serves : host.Serves) (bot : String) :
    host.storeFind bot = .ok (host.store.find? bot) := by
  rw [Host.storeFind, serves.reads]
  rfl

/-- The status of a bot that is stored can be written. -/
theorem Serves.storeSetStatus (serves : host.Serves) {stored : Bot}
    (there : host.store.find? bot = some stored) (status : BotStatus) :
    (host.storeSetStatus bot status).1 = .ok () ∧
      (host.storeSetStatus bot status).2.store.find? bot = some { stored with status } := by
  rcases host.storeSetStatus_result bot status with ⟨written, marked⟩ | ⟨fault, failed, _⟩
  · exact ⟨written, marked there⟩
  · have known : host.store.contains bot = true := by
      rw [BotStore.contains, there]
      rfl
    simp [Host.storeSetStatus, serves.writes, serves.finds, BotStore.setStatus, known] at failed

/-! ### Sessions that have been opened -/

theorem Opens.aside {session : Nat} {own : String} (opens : Opens steps host session own)
    (changes : host.transport.Changes next.transport) : Opens steps next session own := by
  obtain ⟨record, there, ofToken⟩ := opens.ofToken
  obtain ⟨later, there', same, _⟩ := changes.session? there
  exact ⟨opens.opened, later, there', same.trans ofToken⟩

theorem Opens.concat {session : Nat} {own : String} (opens : Opens steps host session own)
    (changes : host.transport.Changes next.transport)
    (count : next.transport.openedCount = host.transport.openedCount) :
    Opens (steps ++ [(host, next)]) next session own :=
  ⟨(openedBy_concat_of_eq count).trans opens.opened, (opens.aside changes).ofToken⟩

/-! ### While others go on -/

/-- Others have not touched the record of the bot, and what is opened stays opened. -/
theorem Restarting.aside {state : TaskState} (phase : Restarting first steps host bot token state)
    (unended : state.ended = false)
    (same : state.inside = true → ∀ stored, host.store.find? bot = some stored →
      next.store.find? bot = some stored)
    (changes : host.transport.Changes next.transport) : Restarting first steps next bot token state := by
  cases phase with
  | inquires inquires still => exact .inquires inquires still
  | misses fruitless => exact .misses fruitless
  | halts halts there unopened =>
    exact .halts halts (same (TaskState.inside_of_halts halts) _ there) unopened
  | reads there unopened => exact .reads (same rfl _ there) unopened
  | connects there unopened => exact .connects (same rfl _ there) unopened
  | refused refused there => exact .refused refused (same (TaskState.inside_of_refused refused) _ there)
  | blamed there recorded => exact .blamed (same rfl _ there) recorded
  | opened there opens => exact .opened (same rfl _ there) (opens.aside changes)
  | launched renewed =>
    exact .launched { renewed with
      there := same rfl _ renewed.there
      opens := renewed.opens.aside changes }
  | recorded renewed recorded =>
    exact .recorded { renewed with
      there := same rfl _ renewed.there
      opens := renewed.opens.aside changes } recorded
  | ended => cases unended

/-! ### Answers to a restart -/

section

variable {answer : Answer} {answered : Host} {stored : Bot}

/-- On its way through the stop a restart gets answers with which it stays on that way. -/
theorem TaskState.halts_of_answer? {wait : Wait} (halts : (TaskState.waiting wait).halts token)
    (other : ∀ given, wait ≠ .readToStart given)
    (taken : host.answer? number task wait = some (answer, answered)) :
    (TaskState.answered answer).halts token := by
  cases answers_of_answer? taken with
  | joined | unjoined | joinedAborted | closed | unclosed | recordedStopped => exact halts
  | readToStart given => exact absurd rfl (other given)
  | _ => cases halts

/-- A bot whose record is neither changed nor removed is stored afterwards. -/
theorem exists_stored_of_answer? {wait : Wait} (plain : wait.rewrites = false)
    (there : host.store.find? task.bot = some stored)
    (taken : host.answer? number task wait = some (answer, answered)) :
    ∃ later, answered.store.find? task.bot = some later := by
  rcases answer?_store taken with same | ⟨status, _, same⟩ | ⟨patch, rfl, _⟩ | ⟨rfl, _⟩
  · exact ⟨stored, by rw [same, there]⟩
  · rcases host.find?_storeSetStatus task.bot status task.bot with kept | ⟨_, written⟩
    · exact ⟨stored, by rw [same, kept, there]⟩
    · exact ⟨{ stored with status }, by rw [same, written, there, Option.map_some]⟩
  · cases plain
  · cases plain

theorem openedCount_answer? {wait : Wait} (other : ∀ handlers token due deadline,
      wait ≠ .connect handlers token due deadline)
    (taken : host.answer? number task wait = some (answer, answered)) :
    answered.transport.openedCount = host.transport.openedCount := by
  rcases answer?_transport taken with ⟨_, same⟩ | ⟨handlers, token, due, deadline, _, rfl, _⟩ |
    ⟨running, _, _, _, _, _, _, same⟩
  · rw [same]
  · exact absurd rfl (other handlers token due deadline)
  · rw [same]
    exact host.transport.length_closeSession running.session

/-- The stop has led on to a state in which the bot is still stored. -/
theorem Restarting.halting {wait : Wait} (halts : (TaskState.waiting wait).halts token)
    (there : host.store.find? task.bot = some stored) (unopened : openedBy steps = [])
    (serves : host.Serves) (taken : host.answer? number task wait = some (answer, answered)) :
    Restarting first (steps ++ [(host, answered.setTaskState number (.answered answer))])
      (answered.setTaskState number (.answered answer)) task.bot token (.answered answer) := by
  by_cases reads : ∃ given, wait = .readToStart given
  · obtain ⟨given, rfl⟩ := reads
    obtain rfl : given = token := halts
    cases answers_of_answer? taken
    rw [serves.storeFind, there]
    exact .reads there ((openedBy_concat_of_eq (by rfl)).trans unopened)
  · have plain : wait.rewrites = false := by
      cases wait <;> first | rfl | cases halts
    obtain ⟨later, there'⟩ := exists_stored_of_answer? plain there taken
    have count : answered.transport.openedCount = host.transport.openedCount :=
      openedCount_answer? (by rintro _ _ _ _ rfl; cases halts) taken
    exact .halts (TaskState.halts_of_answer? halts (fun given same => reads ⟨given, same⟩) taken)
      there' ((openedBy_concat_of_eq (by exact count)).trans unopened)

/-- A restart learns whether its bot is stored. -/
theorem Restarting.learns (still : ∀ step ∈ steps, step.1.Still step.2) (serves : host.Serves)
    (gone : host.running? task.bot = none)
    (taken : host.answer? number task .readToStop = some (answer, answered)) :
    Restarting first (steps ++ [(host, answered.setTaskState number (.answered answer))])
      (answered.setTaskState number (.answered answer)) task.bot token (.answered answer) := by
  cases answers_of_answer? taken
  rw [serves.storeFind]
  cases there : host.store.find? task.bot with
  | none =>
    exact .misses ⟨List.forall_mem_append.mpr ⟨still, List.forall_mem_singleton.mpr rfl⟩,
      _, List.mem_append_right _ List.mem_cons_self, there, gone⟩
  | some stored =>
    exact .halts ⟨stored, rfl⟩ there
      ((openedBy_concat_of_eq (by rfl)).trans (openedBy_of_still still))

/-- A session is opened for the token, or it is refused and none is. -/
theorem Restarting.connected {handlers : List Handler} {due deadline : Nat}
    (there : host.store.find? bot = some stored) (unopened : openedBy steps = [])
    (taken : host.answer? number task (.connect handlers (token.getD stored.token) due deadline) =
      some (answer, answered)) :
    Restarting first (steps ++ [(host, answered.setTaskState number (.answered answer))])
      (answered.setTaskState number (.answered answer)) bot token (.answered answer) := by
  cases answers_of_answer? taken with
  | rejected | unopened => exact .refused rfl there
  | @opened _ _ _ _ _ transport _ opens =>
    obtain ⟨rfl, sessions, _⟩ := MemoryTransport.openSession_ok opens
    refine .opened there ⟨(openedBy_concat_of_lt ?_).trans ?_, ?_⟩
    · show host.transport.sessions.length < transport.sessions.length
      rw [sessions, List.length_append]
      exact Nat.lt_add_one _
    · rw [unopened]
      rfl
    · refine ⟨⟨token.getD stored.token, none, false, false⟩, ?_, rfl⟩
      show transport.sessions[host.transport.sessions.length]? = _
      rw [sessions, List.getElem?_concat_length]

theorem Renewed.concat {running : Instance} (renewed : Renewed first steps host bot token stored running)
    {status : BotStatus} (there : next.store.find? bot = some { stored with status })
    (changes : host.transport.Changes next.transport)
    (count : next.transport.openedCount = host.transport.openedCount) :
    Renewed first (steps ++ [(host, next)]) next bot token { stored with status } running where
  there := there
  opens := renewed.opens.concat changes count
  launched := renewed.launched.imp fun _ => And.imp_left (List.mem_append_left _)
  newest := renewed.newest

theorem Restarting.answers (phase : Restarting first steps host task.bot token task.state)
    (serves : host.Serves) (vacant : task.vacant = true → host.running? task.bot = none)
    {wait : Wait} (waiting : task.state = .waiting wait)
    (taken : host.answer? number task wait = some (answer, answered)) :
    Restarting first (steps ++ [(host, answered.setTaskState number (.answered answer))])
      (answered.setTaskState number (.answered answer)) task.bot token (.answered answer) := by
  generalize same : task.state = state at phase
  cases phase with
  | inquires inquires still =>
    rw [← same, waiting] at inquires
    cases wait with
    | lock =>
      cases answers_of_answer? taken
      exact .inquires rfl (List.forall_mem_append.mpr ⟨still, List.forall_mem_singleton.mpr rfl⟩)
    | readToStop => exact .learns still serves (vacant (by rw [Task.vacant, waiting])) taken
    | _ => cases inquires
  | halts halts there unopened =>
    rw [← same, waiting] at halts
    exact .halting halts there unopened serves taken
  | connects there unopened =>
    cases waiting.symm.trans same
    exact .connected there unopened taken
  | refused refused there =>
    rw [← same, waiting] at refused
    cases wait with
    | recordFailed failure =>
      cases answers_of_answer? taken
      exact .blamed (serves.storeSetStatus there .error).2 rfl
    | _ => cases refused
  | @launched stored running renewed =>
    cases waiting.symm.trans same
    cases answers_of_answer? taken
    obtain ⟨written, marked⟩ := serves.storeSetStatus renewed.there .running
    rw [written]
    refine .recorded (renewed.concat marked ?_ ?_) rfl
    · rw [storeSetStatus_eq]
      exact .refl _
    · rw [storeSetStatus_eq]
      rfl
  | misses | reads | blamed | opened | recorded | ended => cases waiting.symm.trans same

end

/-! ### A restart goes on -/

/-- A step has led a restart from one phase to another. -/
def CarriesOn (first : Host) (steps : List (Host × Host)) (host : Host) (number : TaskNumber) (task : Task)
    (token : Option String) (next : Host) : Prop :=
  ∃ lock state, next.task? number = some { task with lock, state } ∧
    Restarting first (steps ++ [(host, next)]) next task.bot token state

section

variable {answer : Answer} {stored : Bot} {running : Instance} (found : host.task? number = some task)

include found

theorem halts_of_resume (restarts : task.operation = .restart token)
    (halts : (TaskState.answered answer).halts token) :
    ∃ wait, (host.resume number task answer).task? number = some { task with state := .waiting wait } ∧
      (TaskState.waiting wait).halts token := by
  cases answer with
  | joined own ending finished => cases finished <;> exact ⟨_, waitFor_found found, halts⟩
  | joinedAborted => exact ⟨_, waitFor_found found, halts⟩
  | closed own ending forced =>
    obtain rfl : ending = .stopping := halts
    refine ⟨_, waitFor_found found, ?_⟩
    cases forced with
    | true => exact .inr ⟨_, _, rfl⟩
    | false => exact .inl rfl
  | recordedStopped result =>
    refine ⟨.readToStart token, ?_, rfl⟩
    have starts : host.afterStop number task result = host.waitFor number (.readToStart token) := by
      rcases halts with rfl | ⟨bot, timeout, rfl⟩ <;> simp only [Host.afterStop, restarts]
    rw [show host.resume number task (.recordedStopped result) = _ from starts]
    exact waitFor_found found
  | readToStop read =>
    obtain ⟨stored, rfl⟩ := halts
    refine ⟨.readToStart token, ?_, rfl⟩
    have starts : host.afterStop number task (.ok ()) = host.waitFor number (.readToStart token) := by
      simp only [Host.afterStop, restarts]
    rw [show host.resume number task (.readToStop (.ok (some stored))) = _ from starts]
    exact waitFor_found found
  | _ => cases halts

/-- The lock is there: the bot is told to stop if it runs, and then it is stored too. -/
theorem CarriesOn.begin (restarts : task.operation = .restart token) (upToDate : host.UpToDate)
    (still : ∀ step ∈ steps, step.1.Still step.2) :
    CarriesOn first steps host number task token (host.begin number task) := by
  cases registered : host.running? task.bot with
  | some running =>
    have begins : host.begin number task =
        (host.unregister task.bot).tearDown number running .stopping := by
      simp only [Host.begin, restarts, registered]
    obtain ⟨stored, there, _⟩ := Option.map_eq_some_iff.mp (upToDate.registered registered)
    rw [begins]
    exact ⟨task.lock, _, waitFor_found found, .halts rfl there
      ((openedBy_concat_of_eq (by rfl)).trans (openedBy_of_still still))⟩
  | none =>
    have begins : host.begin number task = host.waitFor number .readToStop := by
      simp only [Host.begin, restarts, registered]
    rw [begins]
    exact ⟨task.lock, _, waitFor_found found,
      .inquires rfl (List.forall_mem_append.mpr ⟨still, List.forall_mem_singleton.mpr rfl⟩)⟩

theorem CarriesOn.connect (gone : host.running? task.bot = none)
    (there : host.store.find? task.bot = some stored) (unopened : openedBy steps = []) :
    CarriesOn first steps host number task token
      (host.connect number task token (.ok (some stored))) := by
  have idle : ¬host.isRunning task.bot = true := by simp [isRunning, gone]
  unfold Host.connect
  dsimp only
  rw [if_neg idle]
  exact ⟨task.lock, _, waitFor_found found,
    .connects there ((openedBy_concat_of_eq (by rfl)).trans unopened)⟩

/-- The instance that is launched gets the next generation. -/
theorem CarriesOn.launch {handlers : List Handler} {session : Nat}
    (there : host.store.find? task.bot = some stored)
    (opens : Opens steps host session (token.getD stored.token))
    (later : first.nextGeneration ≤ host.nextGeneration) :
    CarriesOn first steps host number task token (host.launch number task handlers session) := by
  have renewed : Renewed first (steps ++ [(host, host.launch number task handlers session)])
      (host.launch number task handlers session) task.bot token stored
      ⟨task.bot, host.nextGeneration, session, handlers⟩ := by
    refine ⟨there, ?_, ?_, fun there => ?_⟩
    · exact opens.concat (.listens session host.nextGeneration) (MemoryTransport.length_change ..)
    · exact ⟨_, List.mem_append_right _ List.mem_cons_self, rfl⟩
    · exact Nat.lt_of_lt_of_le (first.loop?_lt there) later
  exact ⟨task.lock, _, waitFor_found found, .launched renewed⟩

/-- Of the loops of a bot that is registered only the new one is alive. -/
theorem CarriesOn.enroll (custody : host.CustodyOf task)
    (answered : task.state = .answered (.recordedRunning running (.ok ())))
    (reachable : ((host.enroll running).finish number task (.ok .done)).Reachable)
    (renewed : Renewed first steps host task.bot token stored running)
    (recorded : stored.status = .running) :
    CarriesOn first steps host number task token
      ((host.enroll running).finish number task (.ok .done)) := by
  have charge : task.state.charge? = some (.launched, running) := by
    rw [answered]
    rfl
  have still := still_finish (host.enroll running) number task (.ok .done)
  have registered : ((host.enroll running).finish number task (.ok .done)).running? task.bot =
      some running := by
    rw [still.running?, running?_enroll, if_pos (custody.charged charge).1.symm]
  have kept : Renewed first (steps ++ [(host, (host.enroll running).finish number task (.ok .done))])
      ((host.enroll running).finish number task (.ok .done)) task.bot token stored running := by
    refine renewed.concat ((still.find? task.bot).trans renewed.there) ?_ (congrArg _ still.transport)
    rw [still.transport]
    exact .refl _
  refine ⟨none, _, @task?_finish_self (host.enroll running) number task found (.ok .done),
    .ended (.done kept recorded (reachable.up registered) fun there ofBot unfinished => ?_)⟩
  rw [finish_eq] at there
  rcases custody.owned there ofBot unfinished with ⟨other, running', _⟩ | ⟨stage, other, held, same⟩
  · exact absurd ((custody.vacant (Task.vacant_of_charge charge)).symm.trans running') nofun
  · obtain ⟨_, rfl⟩ : Stage.launched = stage ∧ running = other := by
      simpa using charge.symm.trans held
    exact same.symm

theorem Restarting.resumes (phase : Restarting first steps host task.bot token task.state)
    (reachable : host.Reachable) (restarts : task.operation = .restart token)
    (answered : task.state = .answered answer) (reachable' : (host.resume number task answer).Reachable)
    (later : first.nextGeneration ≤ host.nextGeneration) :
    CarriesOn first steps host number task token (host.resume number task answer) := by
  have gone (vacant : task.vacant = true) := reachable.custody.vacant found vacant
  have vacant : (TaskState.answered answer).inquires = false → task.vacant = true := by
    obtain ⟨operation, bot, lock, state⟩ := task
    obtain rfl : operation = .restart token := restarts
    obtain rfl : state = .answered answer := answered
    intro informed
    cases answer <;> first | rfl | cases informed
  have store := (host.resume_frame number task answer).1
  have count := openedCount_resume host number task answer
  generalize same : task.state = state at phase
  cases phase with
  | inquires inquires still =>
    rw [← same, answered] at inquires
    cases answer with
    | locked => exact .begin found restarts reachable.upToDate still
    | _ => cases inquires
  | misses fruitless =>
    cases answered.symm.trans same
    have ends : host.afterStop number task (.error (.botNotFound task.bot)) =
        host.finish number task (.error (.botNotFound task.bot)) := by
      simp only [Host.afterStop, restarts]
    rw [show host.resume number task (.readToStop (.ok none)) = _ from ends]
    refine ⟨none, _, task?_finish_self found _, .ended (.unknown ⟨?_, ?_⟩)⟩
    · exact List.forall_mem_append.mpr
        ⟨fruitless.still, List.forall_mem_singleton.mpr (still_finish ..)⟩
    · exact fruitless.unknown.imp fun _ => And.imp_left (List.mem_append_left _)
  | halts halts there unopened =>
    rw [← same, answered] at halts
    obtain ⟨wait, found', halts'⟩ := halts_of_resume found restarts halts
    exact ⟨task.lock, _, found',
      .halts halts' (by rw [store]; exact there) ((openedBy_concat_of_eq count).trans unopened)⟩
  | reads there unopened =>
    cases answered.symm.trans same
    exact .connect found (gone (vacant rfl)) there unopened
  | refused refused there =>
    rw [← same, answered] at refused
    cases answer with
    | connected handlers session =>
      obtain rfl := refused
      exact ⟨task.lock, _, waitFor_found found, .refused rfl there⟩
    | _ => cases refused
  | @blamed stored failure there recorded =>
    cases answered.symm.trans same
    have idle : host.Idle task.bot stored := ⟨there, gone (vacant rfl)⟩
    have still := still_finish host number task (.error (.startFailed task.bot failure))
    exact ⟨none, _, task?_finish_self found _,
      .ended (.refused (idle.congr (still.running? task.bot) (still.find? task.bot)) recorded)⟩
  | opened there opens =>
    cases answered.symm.trans same
    exact .launch found there opens later
  | recorded renewed recorded =>
    cases answered.symm.trans same
    have custody := reachable.custody.at reachable.orderly found (by rw [same]; rfl)
    exact .enroll found custody same reachable' renewed recorded
  | connects | launched | ended => cases answered.symm.trans same

end

/-! ### A restart from its call to its return -/

theorem Restarting.carriesOn (phase : Restarting first steps host task.bot token task.state)
    (reachable : host.Reachable) (found : host.task? number = some task)
    (restarts : task.operation = .restart token) (serves : host.Serves)
    (later : first.nextGeneration ≤ host.nextGeneration)
    (stepped : host.advance (.task number) = some next) :
    CarriesOn first steps host number task token next := by
  have reachable' : next.Reachable :=
    reachable.run (.move (show host.after? (.step (.task number)) = some next from stepped) (.rest next))
  obtain ⟨created, rfl⟩ | ⟨wait, answer, answered, waiting, taken, rfl⟩ | ⟨answer, answered, rfl⟩ :=
    advance_found_cases found stepped
  · rw [created] at phase
    refine ⟨_, _, task?_changeTask_self found _, ?_⟩
    cases phase with
    | inquires inquires still =>
      exact .inquires rfl (List.forall_mem_append.mpr ⟨still, List.forall_mem_singleton.mpr rfl⟩)
    | halts halts => cases halts
    | refused refused => cases refused
  · exact ⟨task.lock, _, task?_answered found taken,
      phase.answers serves (reachable.custody.vacant found) waiting taken⟩
  · exact phase.resumes found reachable restarts answered reachable' later

/-- How far a restart has come in the course of a run. -/
structure OnItsWay (first : Host) (moves : List Move) (host : Host) (number : TaskNumber) (bot : String)
    (token : Option String) : Prop where
  phase : ∃ lock state, host.task? number = some ⟨.restart token, bot, lock, state⟩ ∧
    (state.ended = false → Restarting first (first.stepsOf number moves) host bot token state)
  keeps : ∀ step ∈ first.stepsOf number moves, step.2.store.records = step.1.store.records

/-- With each of its steps a restart keeps all of every record but the status. -/
theorem OnItsWay.concat_self {moves : List Move} (onItsWay : OnItsWay first moves host number bot token)
    (reachable : first.Reachable) (run : Run first moves host) (serves : host.Serves)
    (stepped : host.advance (.task number) = some next) :
    OnItsWay first (moves ++ [.step (.task number)]) next number bot token ∧
      ∃ lock state, next.task? number = some ⟨.restart token, bot, lock, state⟩ ∧
        Restarting first (first.stepsOf number (moves ++ [.step (.task number)])) next bot token state := by
  obtain ⟨⟨lock, state, found, phase⟩, keeps⟩ := onItsWay
  have reachable' := reachable.run run
  have unended : state.ended = false := unended_of_advance found stepped
  have later : first.nextGeneration ≤ host.nextGeneration :=
    run.keeps (fun before made => Nat.le_trans before (nextGeneration_le made)) (Nat.le_refl _)
  have records : next.store.records = host.store.records := by
    refine records_after reachable'
      (show host.after? (.step (.task number)) = some next from stepped) nofun ?_
    rintro other task ⟨rfl⟩ found'
    cases Option.some.inj (found.symm.trans found')
    rfl
  rw [run.stepsOf_self stepped]
  obtain ⟨lock', state', found', phase'⟩ :=
    (phase unended).carriesOn reachable' found rfl serves later stepped
  refine ⟨⟨?_, ?_⟩, lock', state', found', phase'⟩
  · rw [run.stepsOf_self stepped]
    exact ⟨lock', state', found', fun _ => phase'⟩
  · rw [run.stepsOf_self stepped]
    exact List.forall_mem_append.mpr ⟨keeps, List.forall_mem_singleton.mpr records⟩

theorem OnItsWay.concat_of_ne {moves : List Move} {move : Move}
    (onItsWay : OnItsWay first moves host number bot token) (reachable : first.Reachable)
    (run : Run first moves host) (made : host.after? move = some next)
    (other : move ≠ .step (.task number)) :
    OnItsWay first (moves ++ [move]) next number bot token := by
  obtain ⟨⟨lock, state, found, phase⟩, keeps⟩ := onItsWay
  constructor
  · rw [run.stepsOf_of_ne made other]
    refine ⟨lock, state, task?_after_of_ne made other found, fun unended => ?_⟩
    refine (phase unended).aside unended (fun inside stored there => ?_) (changes_of_after made)
    have stays := find?_of_other (reachable.run run) found inside
      (Option.isSome_iff_exists.mpr ⟨stored, there⟩) made other
    exact stays.trans there
  · rw [run.stepsOf_of_ne made other]
    exact keeps

/-- While the store works, a restart that returns has its bot run with a new session and nothing of the old
one alive, or reports why it got no session, or reports that there is no such bot and has done nothing.
Nothing else is ever reported, and no record has changed but for its status. -/
theorem Run.restarts {moves : List Move} {result : Except ManagerFault Success}
    (reachable : first.Reachable)
    (called : first.task? number = some ⟨.restart token, bot, none, .created⟩)
    (run : Run first moves host) (returns : host.advance (.task number) = some last)
    (serves : ∀ step ∈ first.stepsOf number (moves ++ [.step (.task number)]), step.1.Serves)
    (found : last.task? number = some record) (ended : record.state = .finished result) :
    Restarted first (first.stepsOf number (moves ++ [.step (.task number)])) last bot token result ∧
      ∀ step ∈ first.stepsOf number (moves ++ [.step (.task number)]),
        step.2.store.records = step.1.store.records := by
  have onItsWay : OnItsWay first moves host number bot token := by
    rw [run.stepsOf_self returns] at serves
    refine @keeps_history _ _ _ (fun moves host => (∀ step ∈ first.stepsOf number moves, step.1.Serves) →
      OnItsWay first moves host number bot token) ?_ ?_ run (List.forall_mem_append.mp serves).1
    · exact fun _ => ⟨⟨none, .created, called, fun _ => .inquires rfl nofun⟩, nofun⟩
    · intro moves host next move run earlier made serves
      by_cases own : move = .step (.task number)
      · subst own
        rw [run.stepsOf_self made] at serves
        obtain ⟨before, now⟩ := List.forall_mem_append.mp serves
        exact ((earlier before).concat_self reachable run (now _ List.mem_cons_self) made).1
      · rw [run.stepsOf_of_ne made own] at serves
        exact (earlier serves).concat_of_ne reachable run made own
  have now : host.Serves := by
    refine serves (host, last) ?_
    rw [run.stepsOf_self returns]
    exact List.mem_append_right _ List.mem_cons_self
  obtain ⟨⟨_, keeps⟩, lock, state, found', phase⟩ := onItsWay.concat_self reachable run now returns
  refine ⟨?_, keeps⟩
  cases Option.some.inj (found'.symm.trans found)
  obtain rfl : state = .finished result := ended
  cases phase with
  | ended restarted => exact restarted
  | inquires inquires => cases inquires
  | halts halts => cases halts
  | refused refused => cases refused

/-- A bot that runs is restarted with another token, and its old session does not close in time. -/
def startToRestart : List Move :=
  .begin .start "bot" :: .replicate 9 (.step (.task 0)) ++
    [.setDelays 0 60000 0, .begin (.restart (some "fresh")) "bot"]

/-- Only the last step of the restart is missing. -/
def restartOverdue : List Move :=
  .replicate 3 (.step (.task 1)) ++ [.step (.loop 1), .step (.task 1), .step (.task 1), .pass 5000] ++
    .replicate 9 (.step (.task 1))

theorem restarts_restartOverdue : ∃ first host last record,
    Run (seeded .unlimited {} [.plain "bot" "token"]) startToRestart first ∧
      first.task? 1 = some ⟨.restart (some "fresh"), "bot", none, .created⟩ ∧
      Run first restartOverdue host ∧ host.advance (.task 1) = some last ∧
      last.task? 1 = some record ∧ record.state = .finished (.ok .done) ∧
      Restarted first (first.stepsOf 1 (restartOverdue ++ [.step (.task 1)])) last "bot" (some "fresh")
        (.ok .done) ∧
      (last.store.find? "bot").map Bot.token = some "token" := by
  have played : ((seeded .unlimited {} [.plain "bot" "token"]).play startToRestart).bind (fun first =>
      (first.play restartOverdue).bind fun host => (host.advance (.task 1)).bind fun last =>
        (last.task? 1).map fun record => (first.task? 1, record.state,
          decide (∀ step ∈ first.stepsOf 1 (restartOverdue ++ [Move.step (.task 1)]), step.1.Serves),
          (last.store.find? "bot").map Bot.token)) =
      some (some ⟨.restart (some "fresh"), "bot", none, .created⟩, .finished (.ok .done), true,
        some "token") := by rfl
  simp only [Option.bind_eq_some_iff, Option.map_eq_some_iff, Prod.mk.injEq, decide_eq_true_eq]
    at played
  obtain ⟨first, begins, host, rest, last, returns, record, found, called, ended, serves, token⟩ := played
  have reachable : first.Reachable := ⟨_, _, _, _, run_iff.mpr begins⟩
  have run := run_iff.mpr rest
  have restarts := Run.restarts reachable called run returns serves found ended
  exact ⟨first, host, last, record, run_iff.mpr begins, called, run, returns, found, ended, restarts.1,
    Option.map_eq_some_iff.mpr token⟩

end Host

end BotHost
