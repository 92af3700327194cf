/-
What a stop reports.

A stop waits for the loop of its instance and then for the session, each time for the close timeout. It is
left open how much time passes between two of its steps, and so it may come to look later than that. What
it goes by then is what it finds: a loop that has finished by the time, and a close that is due, have come
in time. So a stop reports an overdue end exactly if it has looked after a timeout and has not found what
it waited for.

All this is told from the steps of the stop. The time for the loop counts from the one with which the stop
takes the instance out of the registry, the time for the session from the one with which it asks for the
close, and any step that follows may be the one that comes too late.
-/

import BotHost.Proofs.Manager.Deadlines
import BotHost.Proofs.Manager.Removal

namespace BotHost

/-- Whether a task waits for a session to close. -/
def TaskState.closing : TaskState → Bool
  | .waiting (.close _ _ _ _ _) => true
  | _ => false

namespace Host

/-! ### In time or overdue -/

/-- With this step a task asks for a session to be closed. -/
def AsksToClose (number : TaskNumber) (step : Host × Host) : Prop :=
  ∃ record, step.2.task? number = some record ∧ record.state.closing = true

section

variable (number : TaskNumber) (running : Instance) (steps : List (Host × Host))

/-- Once the close timeout has passed since an instance was taken out of the registry, no step finds its
loop going on. -/
def LoopInTime : Prop :=
  steps.Pairwise fun removal later => Unseats running removal →
    removal.1.now + removal.1.settings.closeTimeout ≤ later.1.now →
      later.1.loopFinished running.generation = true

/-- Once the close timeout has passed since the session was asked to close, no step finds that the close
takes longer. -/
def SessionInTime : Prop :=
  steps.Pairwise fun asking later => AsksToClose number asking →
    asking.1.now + asking.1.settings.closeTimeout ≤ later.1.now →
      asking.1.now + asking.1.transport.closeDelay ≤ later.1.now

/-- Neither the loop nor the session of an instance has been overdue when a task ended it. -/
def InTime : Prop := LoopInTime running steps ∧ SessionInTime number steps

/-- An instance is taken out of the registry with one of the steps, and none of the others changes whether
its bot runs. -/
structure UnseatedBy (removal : Host × Host) : Prop where
  member : removal ∈ steps
  unseats : Unseats running removal
  sole : ∀ step ∈ steps, step = removal ∨ step.2.running? running.bot = step.1.running? running.bot

/-- One of the steps asks for the session to be closed, and no other. -/
structure AskedBy (asking : Host × Host) : Prop where
  member : asking ∈ steps
  asks : AsksToClose number asking
  sole : ∀ step ∈ steps, AsksToClose number step → step = asking

/-- None of the steps asks for a session to be closed. -/
def Unasked : Prop := ∀ step ∈ steps, ¬AsksToClose number step

/-- None of the steps changes whether a bot runs. -/
def Unmoved (bot : String) : Prop := ∀ step ∈ steps, step.2.running? bot = step.1.running? bot

end

/-- What a stop has to report that was or was not forced to end an instance. -/
def stopReport (timeout : Nat) (bot : String) (forced : Bool) : Except ManagerFault Unit :=
  if forced then .error (.closeTimeout bot timeout) else .ok ()

section

variable (steps : List (Host × Host)) (host : Host) (number : TaskNumber) (bot : String) (timeout : Nat)

/-- What a stop that has found its bot in the store has come to when it returns, by what it returns. -/
inductive Reports : Except ManagerFault Success → Prop
  | nothing (unmoved : Unmoved steps bot) : Reports (.ok .done)
  | ended {running : Instance} {removal : Host × Host} {forced : Bool} (ofBot : running.bot = bot)
      (unseated : UnseatedBy running steps removal)
      (verdict : forced = true ↔ ¬InTime number running steps) :
      Reports ((stopReport timeout bot forced).map fun _ => .done)

/-- A stop has ended an instance, and it is settled whether that was in time. -/
structure Judged (running : Instance) (forced : Bool) : Prop where
  ofBot : running.bot = bot
  unseated : ∃ removal, UnseatedBy running steps removal
  verdict : forced = true ↔ ¬InTime number running steps
  finished : host.Bears .ended running
  due : SessionInTime number steps → ∀ step ∈ steps, AsksToClose number step →
    step.1.now + step.1.transport.closeDelay ≤ host.now

/-- How far a stop has come that finds its bot in the store. -/
inductive Pending : TaskState → Prop
  | inquires {state : TaskState} (inquires : state.inquires = true) (unmoved : Unmoved steps bot)
      (unasked : Unasked number steps) : Pending state
  | finds {stored : Bot} (unmoved : Unmoved steps bot) :
      Pending (.answered (.readToStop (.ok (some stored))))
  | joins {running : Instance} {removal : Host × Host} (ofBot : running.bot = bot)
      (unseated : UnseatedBy running steps removal) (unasked : Unasked number steps)
      (loop : LoopInTime running steps) :
      Pending (.waiting (.join running .stopping
        (removal.1.now + removal.1.settings.closeTimeout)))
  | joined {running : Instance} {removal : Host × Host} {finished : Bool} (ofBot : running.bot = bot)
      (unseated : UnseatedBy running steps removal) (unasked : Unasked number steps)
      (verdict : finished = true ↔ LoopInTime running steps) :
      Pending (.answered (.joined running .stopping finished))
  | aborts {running : Instance} {removal : Host × Host} (ofBot : running.bot = bot)
      (unseated : UnseatedBy running steps removal) (unasked : Unasked number steps)
      (late : ¬LoopInTime running steps) : Pending (.waiting (.joinAborted running .stopping))
  | aborted {running : Instance} {removal : Host × Host} (ofBot : running.bot = bot)
      (unseated : UnseatedBy running steps removal) (unasked : Unasked number steps)
      (late : ¬LoopInTime running steps) : Pending (.answered (.joinedAborted running .stopping))
  | closes {running : Instance} {removal asking : Host × Host} {forced : Bool} (ofBot : running.bot = bot)
      (unseated : UnseatedBy running steps removal) (asked : AskedBy number steps asking)
      (verdict : forced = true ↔ ¬LoopInTime running steps) (session : SessionInTime number steps) :
      Pending (.waiting (.close running .stopping forced
        (asking.1.now + asking.1.transport.closeDelay)
        (asking.1.now + asking.1.settings.closeTimeout)))
  | closed {running : Instance} {forced : Bool} (judged : Judged steps host number bot running forced) :
      Pending (.answered (.closed running .stopping forced))
  | records {running : Instance} {forced : Bool} (judged : Judged steps host number bot running forced) :
      Pending (.waiting (.recordStopped (stopReport timeout bot forced)))
  | recorded {running : Instance} {forced : Bool}
      (judged : Judged steps host number bot running forced) :
      Pending (.answered (.recordedStopped (stopReport timeout bot forced)))
  | ended {result : Except ManagerFault Success} (reports : Reports steps number bot timeout result) :
      Pending (.finished result)

end

variable {first second host next last : Host} {steps : List (Host × Host)} {step removal asking : Host × Host}
  {number : TaskNumber} {task record : Task} {bot : String} {timeout : Nat} {running : Instance}
  {forced : Bool} {move : Move} {moves : List Move}

/-! ### One more step -/

theorem loopInTime_concat : LoopInTime running (steps ++ [step]) ↔ LoopInTime running steps ∧
    ∀ removal ∈ steps, Unseats running removal →
      removal.1.now + removal.1.settings.closeTimeout ≤ step.1.now →
        step.1.loopFinished running.generation = true := by
  simp [LoopInTime, List.pairwise_append]

theorem sessionInTime_concat : SessionInTime number (steps ++ [step]) ↔ SessionInTime number steps ∧
    ∀ asking ∈ steps, AsksToClose number asking →
      asking.1.now + asking.1.settings.closeTimeout ≤ step.1.now →
        asking.1.now + asking.1.transport.closeDelay ≤ step.1.now := by
  simp [SessionInTime, List.pairwise_append]

theorem loopInTime_concat_of_finished (finished : step.1.loopFinished running.generation = true) :
    LoopInTime running (steps ++ [step]) ↔ LoopInTime running steps := by
  rw [loopInTime_concat, and_iff_left]
  exact fun _ _ _ _ => finished

/-- Before the session is asked to close, and with the step that does, it is not overdue. -/
theorem sessionInTime_of_unasked (unasked : Unasked number steps) (step : Host × Host) :
    SessionInTime number (steps ++ [step]) := by
  rw [sessionInTime_concat]
  refine ⟨List.pairwise_of_forall_mem_list fun asking member _ _ asks => ?_, fun asking member asks => ?_⟩
  · exact absurd asks (unasked asking member)
  · exact absurd asks (unasked asking member)

theorem not_unseats_of_unmoved (unmoved : Unmoved steps running.bot) (member : step ∈ steps) :
    ¬Unseats running step := by
  rintro ⟨registered, gone⟩
  cases ((unmoved step member).trans registered).symm.trans gone

/-- Before an instance is taken out, and with the step that does it, its loop is not overdue. -/
theorem loopInTime_of_unmoved (unmoved : Unmoved steps running.bot) (step : Host × Host) :
    LoopInTime running (steps ++ [step]) := by
  rw [loopInTime_concat]
  refine ⟨List.pairwise_of_forall_mem_list fun _ member _ _ unseats => ?_, fun _ member unseats => ?_⟩
  · exact absurd unseats (not_unseats_of_unmoved unmoved member)
  · exact absurd unseats (not_unseats_of_unmoved unmoved member)

theorem Unasked.concat (unasked : Unasked number steps) (asks : ¬AsksToClose number step) :
    Unasked number (steps ++ [step]) :=
  List.forall_mem_append.mpr ⟨unasked, List.forall_mem_singleton.mpr asks⟩

theorem Unmoved.concat (unmoved : Unmoved steps bot)
    (same : step.2.running? bot = step.1.running? bot) : Unmoved (steps ++ [step]) bot :=
  List.forall_mem_append.mpr ⟨unmoved, List.forall_mem_singleton.mpr same⟩

theorem UnseatedBy.concat (unseated : UnseatedBy running steps removal)
    (same : step.2.running? running.bot = step.1.running? running.bot) :
    UnseatedBy running (steps ++ [step]) removal where
  member := List.mem_append_left _ unseated.member
  unseats := unseated.unseats
  sole := List.forall_mem_append.mpr ⟨unseated.sole, List.forall_mem_singleton.mpr (.inr same)⟩

/-- The first step that changes whether a bot runs. -/
theorem Unmoved.unseated (unmoved : Unmoved steps running.bot) (unseats : Unseats running step) :
    UnseatedBy running (steps ++ [step]) step where
  member := List.mem_append_right _ List.mem_cons_self
  unseats := unseats
  sole := List.forall_mem_append.mpr
    ⟨fun step member => .inr (unmoved step member), List.forall_mem_singleton.mpr (.inl rfl)⟩

theorem AskedBy.of_unasked (unasked : Unasked number steps) (asks : AsksToClose number step) :
    AskedBy number (steps ++ [step]) step where
  member := List.mem_append_right _ List.mem_cons_self
  asks := asks
  sole := List.forall_mem_append.mpr
    ⟨fun step member asks => absurd asks (unasked step member),
      List.forall_mem_singleton.mpr fun _ => rfl⟩

theorem loopFinished_of_bears (bears : host.Bears .ended running) :
    host.loopFinished running.generation = true := by
  obtain ⟨loop, there, _, _, _, finished⟩ := bears
  have finished : loop.state = .finished := finished
  simp [loopFinished, there, finished]

/-- Nothing that comes later changes the verdict. -/
theorem Judged.concat (judged : Judged steps host number bot running forced)
    (same : next.running? bot = host.running? bot) (asks : ¬AsksToClose number (host, next))
    (bears : next.Bears .ended running) (now : host.now ≤ next.now) :
    Judged (steps ++ [(host, next)]) next number bot running forced where
  ofBot := judged.ofBot
  unseated := judged.unseated.imp fun _ unseated =>
    unseated.concat (by rw [judged.ofBot]; exact same)
  verdict := by
    have loop : LoopInTime running (steps ++ [(host, next)]) ↔ LoopInTime running steps :=
      loopInTime_concat_of_finished (loopFinished_of_bears judged.finished)
    have session : SessionInTime number (steps ++ [(host, next)]) ↔ SessionInTime number steps := by
      rw [sessionInTime_concat]
      exact ⟨And.left, fun inTime => ⟨inTime, fun asking member asks _ =>
        judged.due inTime asking member asks⟩⟩
    rw [InTime, loop, session]
    exact judged.verdict
  finished := bears
  due inTime := by
    refine List.forall_mem_append.mpr ⟨fun asking member asks => ?_,
      List.forall_mem_singleton.mpr fun asks' => absurd asks' asks⟩
    exact Nat.le_trans (judged.due (sessionInTime_concat.mp inTime).1 asking member asks) now

/-! ### While others go on -/

/-- A loop that has finished stays so. -/
theorem bears_after (made : host.after? move = some next) (bears : host.Bears .ended running) :
    next.Bears .ended running := by
  obtain ⟨loop, there, ofLoop, session, handlers, finished⟩ := bears
  have finished : loop.state = .finished := finished
  obtain ⟨later, there', same⟩ := (Run.move made (.rest next)).loop?_of_finished there finished
  have finished' : later.state = .finished := (congrArg (·.state) same).trans finished
  exact ⟨later, there', (congrArg (·.bot) same).trans ofLoop, (congrArg (·.session) same).trans session,
    (congrArg (·.handlers) same).trans handlers, finished'⟩

theorem now_le_of_after (made : host.after? move = some next) : host.now ≤ next.now := by
  by_cases passes : ∃ milliseconds, move = .pass milliseconds
  · obtain ⟨milliseconds, rfl⟩ := passes
    cases made
    exact Nat.le_add_right ..
  · exact Nat.le_of_eq (now_of_after made fun milliseconds same => passes ⟨milliseconds, same⟩).symm

theorem Judged.aside (judged : Judged steps host number bot running forced)
    (made : host.after? move = some next) : Judged steps next number bot running forced :=
  { judged with
    finished := bears_after made judged.finished
    due := fun inTime step member asks =>
      Nat.le_trans (judged.due inTime step member asks) (now_le_of_after made) }

/-- Whatever else happens, a stop is where it was. -/
theorem Pending.aside {state : TaskState} (pending : Pending steps host number bot timeout state)
    (made : host.after? move = some next) : Pending steps next number bot timeout state := by
  cases pending with
  | inquires inquires unmoved unasked => exact .inquires inquires unmoved unasked
  | finds unmoved => exact .finds unmoved
  | joins ofBot unseated unasked loop => exact .joins ofBot unseated unasked loop
  | joined ofBot unseated unasked verdict => exact .joined ofBot unseated unasked verdict
  | aborts ofBot unseated unasked late => exact .aborts ofBot unseated unasked late
  | aborted ofBot unseated unasked late => exact .aborted ofBot unseated unasked late
  | closes ofBot unseated asked verdict session => exact .closes ofBot unseated asked verdict session
  | closed judged => exact .closed (judged.aside made)
  | records judged => exact .records (judged.aside made)
  | recorded judged => exact .recorded (judged.aside made)
  | ended reports => exact .ended reports

/-! ### The steps of a stop -/

theorem not_asksToClose (found : next.task? number = some record)
    (other : record.state.closing = false) : ¬AsksToClose number (host, next) := by
  rintro ⟨record', found', closes⟩
  obtain rfl := Option.some.inj (found.symm.trans found')
  cases other.symm.trans closes

section

variable {answer : Answer} {answered : Host}

/-- The stop is done with the loop. -/
theorem Pending.joining (ofBot : running.bot = bot) (unseated : UnseatedBy running steps removal)
    (unasked : Unasked number steps) (loop : LoopInTime running steps)
    (taken : host.answer? number task (.join running .stopping
      (removal.1.now + removal.1.settings.closeTimeout)) = some (answer, answered))
    (same : (answered.setTaskState number (.answered answer)).running? bot = host.running? bot)
    (asks : ¬AsksToClose number (host, answered.setTaskState number (.answered answer))) :
    Pending (steps ++ [(host, answered.setTaskState number (.answered answer))])
      (answered.setTaskState number (.answered answer)) number bot timeout (.answered answer) := by
  have unseated' : UnseatedBy running
      (steps ++ [(host, answered.setTaskState number (.answered answer))]) removal :=
    unseated.concat (by rw [ofBot]; exact same)
  have unasked' := unasked.concat asks
  cases answers_of_answer? taken with
  | joined _ _ _ finished =>
    refine .joined ofBot unseated' unasked' ?_
    rw [loopInTime_concat_of_finished finished]
    exact iff_of_true rfl loop
  | unjoined _ _ unfinished late =>
    refine .joined ofBot unseated' unasked' (iff_of_false Bool.false_ne_true fun inTime => ?_)
    have finished := (loopInTime_concat.mp inTime).2 removal unseated.member unseated.unseats late
    exact absurd finished (Bool.eq_false_iff.mp unfinished)

/-- The stop is done with the session. -/
theorem Pending.closing (ofBot : running.bot = bot) (unseated : UnseatedBy running steps removal)
    (asked : AskedBy number steps asking) (verdict : forced = true ↔ ¬LoopInTime running steps)
    (session : SessionInTime number steps) (finished : host.Bears .ended running)
    (taken : host.answer? number task (.close running .stopping forced
      (asking.1.now + asking.1.transport.closeDelay)
      (asking.1.now + asking.1.settings.closeTimeout)) = some (answer, answered))
    (same : (answered.setTaskState number (.answered answer)).running? bot = host.running? bot)
    (asks : ¬AsksToClose number (host, answered.setTaskState number (.answered answer))) :
    Pending (steps ++ [(host, answered.setTaskState number (.answered answer))])
      (answered.setTaskState number (.answered answer)) number bot timeout (.answered answer) := by
  have unseated' : UnseatedBy running
      (steps ++ [(host, answered.setTaskState number (.answered answer))]) removal :=
    unseated.concat (by rw [ofBot]; exact same)
  have loop : LoopInTime running
      (steps ++ [(host, answered.setTaskState number (.answered answer))]) ↔ LoopInTime running steps :=
    loopInTime_concat_of_finished (loopFinished_of_bears finished)
  cases answers_of_answer? taken with
  | closed _ _ _ _ due =>
    have dues (step : Host × Host) (member : step ∈ steps) (asks : AsksToClose number step) :
        step.1.now + step.1.transport.closeDelay ≤ host.now := by
      rw [asked.sole step member asks]
      exact due
    have inTime (later : Host) : SessionInTime number (steps ++ [(host, later)]) :=
      sessionInTime_concat.mpr ⟨session, fun asking member asks _ => dues asking member asks⟩
    refine .closed ⟨ofBot, ⟨_, unseated'⟩, ?_, finished, fun _ => ?_⟩
    · rw [InTime, and_iff_left (inTime _), loop]
      exact verdict
    · exact List.forall_mem_append.mpr
        ⟨dues, List.forall_mem_singleton.mpr fun asks' => absurd asks' asks⟩
  | unclosed _ _ _ undue late =>
    have overdue (later : Host) : ¬SessionInTime number (steps ++ [(host, later)]) := fun inTime =>
      Nat.not_le_of_lt undue ((sessionInTime_concat.mp inTime).2 asking asked.member asked.asks late)
    exact .closed ⟨ofBot, ⟨_, unseated'⟩, iff_of_true rfl fun inTime => overdue _ inTime.2, finished,
      fun inTime => absurd inTime (overdue _)⟩

theorem Pending.answers (pending : Pending steps host number bot timeout task.state)
    (reachable : host.Reachable) (found : host.task? number = some task) (ofTask : task.bot = bot)
    (serves : host.Serves) (known : (host.store.find? bot).isSome = true) {wait : Wait}
    (waiting : task.state = .waiting wait)
    (taken : host.answer? number task wait = some (answer, answered))
    (made : host.after? (.step (.task number)) =
      some (answered.setTaskState number (.answered answer))) :
    Pending (steps ++ [(host, answered.setTaskState number (.answered answer))])
      (answered.setTaskState number (.answered answer)) number bot timeout (.answered answer) := by
  have same : (answered.setTaskState number (.answered answer)).running? bot = host.running? bot := by
    obtain ⟨store, transport, rfl⟩ := answer?_eq taken
    rfl
  have asks : ¬AsksToClose number (host, answered.setTaskState number (.answered answer)) :=
    not_asksToClose (task?_answered found taken) rfl
  generalize state : task.state = now at pending
  cases pending with
  | inquires inquires unmoved unasked =>
    rw [← state, waiting] at inquires
    have unmoved' : Unmoved (steps ++ [(host, answered.setTaskState number (.answered answer))]) bot :=
      unmoved.concat same
    cases wait with
    | lock =>
      cases answers_of_answer? taken
      exact .inquires rfl unmoved' (unasked.concat asks)
    | readToStop =>
      obtain ⟨stored, there⟩ := Option.isSome_iff_exists.mp known
      cases answers_of_answer? taken
      rw [ofTask, serves.storeFind, there] at unmoved' ⊢
      exact .finds unmoved'
    | _ => cases inquires
  | joins ofBot unseated unasked loop =>
    cases waiting.symm.trans state
    exact .joining ofBot unseated unasked loop taken same asks
  | aborts ofBot unseated unasked late =>
    cases waiting.symm.trans state
    cases answers_of_answer? taken
    exact .aborted ofBot (unseated.concat (by rw [ofBot]; exact same)) (unasked.concat asks)
      fun inTime => late (loopInTime_concat.mp inTime).1
  | @closes running removal asking forced ofBot unseated asked verdict session =>
    cases waiting.symm.trans state
    have charge : task.state.charge? = some (.ended, running) := by rw [state]; rfl
    have finished := (reachable.custody.charged found charge).2
    exact .closing ofBot unseated asked verdict session finished taken same asks
  | records judged =>
    cases waiting.symm.trans state
    have judged' := judged.concat same asks (bears_after made judged.finished) (now_le_of_after made)
    cases answers_of_answer? taken
    exact .recorded judged'
  | finds | joined | aborted | closed | recorded | ended => cases waiting.symm.trans state

end

/-! ### A stop goes on -/

/-- A step has led a stop on. -/
def MovesOn (steps : List (Host × Host)) (host : Host) (number : TaskNumber) (task : Task)
    (timeout : Nat) (next : Host) : Prop :=
  ∃ lock state, next.task? number = some { task with lock, state } ∧
    Pending (steps ++ [(host, next)]) next number task.bot timeout state

section

variable (found : host.task? number = some task) (ofBot : running.bot = task.bot)

include found

/-- The stop takes an instance out of the registry, or finds that there is none. -/
theorem MovesOn.begin (stops : task.operation = .stop) (unmoved : Unmoved steps task.bot)
    (unasked : Unasked number steps) : MovesOn steps host number task timeout (host.begin number task) := by
  cases registered : host.running? task.bot with
  | none =>
    have begins : host.begin number task = host.waitFor number .readToStop := by
      simp only [Host.begin, stops, registered]
    rw [begins]
    exact ⟨task.lock, _, waitFor_found found, .inquires rfl (unmoved.concat rfl)
      (unasked.concat (not_asksToClose (waitFor_found found) rfl))⟩
  | some running =>
    rw [begin_of_registered stops registered]
    have ofBot := host.running?_bot registered
    have gone : ((host.unregister task.bot).tearDown number running .stopping).running? task.bot =
        none := (running?_unregister host task.bot task.bot).trans (if_pos rfl)
    have there : ((host.unregister task.bot).tearDown number running .stopping).task? number = some _ :=
      waitFor_found found
    rw [← ofBot] at unmoved
    have unseats : Unseats running
        (host, (host.unregister task.bot).tearDown number running .stopping) := by
      rw [Unseats, ofBot]
      exact ⟨registered, gone⟩
    exact ⟨task.lock, _, there, .joins ofBot (unmoved.unseated unseats)
      (unasked.concat (not_asksToClose there rfl)) (loopInTime_of_unmoved unmoved _)⟩

include ofBot

/-- The stop asks for the session to be closed. -/
theorem MovesOn.close (unseated : UnseatedBy running steps removal) (unasked : Unasked number steps)
    (finished : host.Bears .ended running) (verdict : forced = true ↔ ¬LoopInTime running steps) :
    MovesOn steps host number task timeout (host.waitForClose number running .stopping forced) := by
  have asks : AsksToClose number (host, host.waitForClose number running .stopping forced) :=
    ⟨_, waitFor_found found, rfl⟩
  refine ⟨task.lock, _, waitFor_found found,
    .closes ofBot (unseated.concat rfl) (.of_unasked unasked asks) ?_ ?_⟩
  · rw [loopInTime_concat_of_finished (loopFinished_of_bears finished)]
    exact verdict
  · exact sessionInTime_of_unasked unasked _

end

theorem Pending.resumes {answer : Answer} (pending : Pending steps host number task.bot timeout task.state)
    (reachable : host.Reachable) (found : host.task? number = some task)
    (stops : task.operation = .stop) (settings : host.settings.closeTimeout = timeout)
    (answered : task.state = .answered answer)
    (made : host.after? (.step (.task number)) = some (host.resume number task answer)) :
    MovesOn steps host number task timeout (host.resume number task answer) := by
  have bears (stage : Stage) (running : Instance) (charge : task.state.charge? = some (stage, running)) :
      running.bot = task.bot ∧ host.Bears stage running := reachable.custody.charged found charge
  generalize state : task.state = now at pending
  cases pending with
  | inquires inquires unmoved unasked =>
    rw [← state, answered] at inquires
    cases answer with
    | locked => exact .begin found stops unmoved unasked
    | _ => cases inquires
  | @finds stored unmoved =>
    cases answered.symm.trans state
    have resumes : host.resume number task (.readToStop (.ok (some stored))) =
        host.finish number task (.ok .done) := afterStop_of_stop stops (.ok ())
    rw [resumes]
    have still := still_finish host number task (.ok .done)
    exact ⟨none, _, task?_finish_self found _, .ended (.nothing (unmoved.concat (still.running? _)))⟩
  | @joined running removal finished ofBot unseated unasked verdict =>
    cases answered.symm.trans state
    cases finished with
    | true =>
      have finished := (bears .ended running (by rw [state]; rfl)).2
      refine .close found ofBot unseated unasked finished (iff_of_false nofun fun late => late ?_)
      exact verdict.mp rfl
    | false =>
      have late : ¬LoopInTime running steps := fun inTime => nomatch verdict.mpr inTime
      refine ⟨task.lock, _, waitFor_found found, .aborts ofBot (unseated.concat rfl)
        (unasked.concat (not_asksToClose (waitFor_found found) rfl)) fun inTime => ?_⟩
      exact late (loopInTime_concat.mp inTime).1
  | @aborted running removal ofBot unseated unasked late =>
    cases answered.symm.trans state
    have finished := (bears .ended running (by rw [state]; rfl)).2
    exact .close found ofBot unseated unasked finished (iff_of_true rfl late)
  | @closed running forced judged =>
    cases answered.symm.trans state
    have resumes : host.resume number task (.closed running .stopping forced) =
        host.waitFor number (.recordStopped (stopReport timeout task.bot forced)) := by
      rw [stopReport, ← settings, ← judged.ofBot]
      rfl
    rw [resumes] at made ⊢
    exact ⟨task.lock, _, waitFor_found found, .records (judged.concat rfl
      (not_asksToClose (waitFor_found found) rfl) (bears_after made judged.finished) (Nat.le_refl _))⟩
  | @recorded running forced judged =>
    cases answered.symm.trans state
    have resumes : host.resume number task (.recordedStopped (stopReport timeout task.bot forced)) =
        host.finish number task ((stopReport timeout task.bot forced).map fun _ => .done) :=
      afterStop_of_stop stops _
    rw [resumes] at made ⊢
    have still := still_finish host number task ((stopReport timeout task.bot forced).map fun _ => .done)
    have there := task?_finish_self found ((stopReport timeout task.bot forced).map fun _ => .done)
    have judged' := judged.concat (still.running? _) (not_asksToClose there rfl)
      (bears_after made judged.finished) (now_le_of_after made)
    obtain ⟨removal, unseated⟩ := judged'.unseated
    exact ⟨none, _, there, .ended (.ended judged'.ofBot unseated judged'.verdict)⟩
  | joins | aborts | closes | records | ended => cases answered.symm.trans state

theorem Pending.movesOn (pending : Pending steps host number task.bot timeout task.state)
    (reachable : host.Reachable) (found : host.task? number = some task)
    (stops : task.operation = .stop) (settings : host.settings.closeTimeout = timeout)
    (serves : host.Serves) (known : (host.store.find? task.bot).isSome = true)
    (made : host.after? (.step (.task number)) = some next) :
    MovesOn steps host number task timeout next := by
  obtain ⟨created, rfl⟩ | ⟨wait, answer, answered, waiting, taken, rfl⟩ | ⟨answer, answered, rfl⟩ :=
    advance_found_cases found made
  · have there : (host.requestLock number task).task? number = some _ := task?_changeTask_self found _
    refine ⟨_, _, there, ?_⟩
    rw [created] at pending
    cases pending with
    | inquires _ unmoved unasked =>
      exact .inquires rfl (unmoved.concat rfl) (unasked.concat (not_asksToClose there rfl))
  · exact ⟨task.lock, _, task?_answered found taken,
      pending.answers reachable found rfl serves known waiting taken made⟩
  · exact pending.resumes reachable found stops settings answered made

/-! ### A stop from its call to its return -/

/-- What a stop reports when it returns, if its bot has been in the store at all its steps and the store
has worked: nothing, if there was nothing to end or it ended in time; and otherwise that it was overdue. -/
theorem Run.reports (reachable : first.Reachable)
    (called : first.task? number = some ⟨.stop, bot, none, .created⟩) (run : Run first moves host)
    (serves : ∀ step ∈ first.stepsOf number moves, step.1.Serves)
    (known : ∀ step ∈ first.stepsOf number moves, (step.1.store.find? bot).isSome = true)
    {result : Except ManagerFault Success} (found : host.task? number = some record)
    (ended : record.state = .finished result) :
    Reports (first.stepsOf number moves) number bot first.settings.closeTimeout result := by
  have pending : ∃ lock state, host.task? number = some ⟨.stop, bot, lock, state⟩ ∧
      Pending (first.stepsOf number moves) host number bot first.settings.closeTimeout state := by
    refine @keeps_history _ _ _ (fun moves host =>
      (∀ step ∈ first.stepsOf number moves, step.1.Serves ∧ (step.1.store.find? bot).isSome = true) →
        ∃ lock state, host.task? number = some ⟨.stop, bot, lock, state⟩ ∧
          Pending (first.stepsOf number moves) host number bot first.settings.closeTimeout state) ?_ ?_
      run fun step member => ⟨serves step member, known step member⟩
    · exact fun _ => ⟨none, .created, called, .inquires rfl nofun nofun⟩
    · intro moves host next move run earlier made works
      by_cases own : move = .step (.task number)
      · subst own
        rw [run.stepsOf_self made] at works ⊢
        obtain ⟨before, now⟩ := List.forall_mem_append.mp works
        obtain ⟨serves, known⟩ := List.forall_mem_singleton.mp now
        obtain ⟨lock, state, found, pending⟩ := earlier before
        exact @Pending.movesOn _ next _ _ ⟨.stop, bot, lock, state⟩ _ pending (reachable.run run) found rfl
          (by rw [run.settings]) serves known made
      · rw [run.stepsOf_of_ne made own] at works ⊢
        obtain ⟨lock, state, found, pending⟩ := earlier works
        exact ⟨lock, state, task?_after_of_ne made own found, pending.aside made⟩
  obtain ⟨lock, state, found', pending⟩ := pending
  obtain rfl := Option.some.inj (found.symm.trans found')
  obtain rfl : state = .finished result := ended
  cases pending with
  | ended reports => exact reports
  | inquires inquires => cases inquires

/-- A stop reports an overdue end exactly if it has ended an instance and not in time. -/
theorem Reports.cases {result : Except ManagerFault Success}
    (reports : Reports steps number running.bot timeout result)
    (sole : ∀ step ∈ steps, ∀ other, step.1.running? running.bot = some other → other = running) :
    ((∃ step ∈ steps, Unseats running step) ∧ ¬InTime number running steps) ∧
        result = .error (.closeTimeout running.bot timeout) ∨
      ¬((∃ step ∈ steps, Unseats running step) ∧ ¬InTime number running steps) ∧
        result = .ok .done := by
  cases reports with
  | nothing unmoved =>
    refine .inr ⟨?_, rfl⟩
    rintro ⟨⟨step, member, unseats⟩, _⟩
    exact not_unseats_of_unmoved unmoved member unseats
  | @ended ended removal forced ofBot unseated verdict =>
    obtain rfl : ended = running := sole removal unseated.member ended (ofBot ▸ unseated.unseats.1)
    cases forced with
    | true => exact .inl ⟨⟨⟨removal, unseated.member, unseated.unseats⟩, verdict.mp rfl⟩, rfl⟩
    | false =>
      refine .inr ⟨fun late => ?_, rfl⟩
      cases verdict.mpr late.2

/-! ### On a clock that waits -/

/-- The step with which a stop takes an instance out of the registry is the one after it got the lock. -/
theorem locked_of_unseats (reachable : host.Reachable) (found : host.task? number = some task)
    (stops : task.operation = .stop)
    (made : host.after? (.step (.task number)) = some next) (unseats : Unseats running (host, next)) :
    task.state = .answered .locked := by
  have moved (registry : next.registry = host.registry) : task.state = .answered .locked := by
    refine absurd unseats (not_unseats_of_same ?_)
    rw [running?, registry, running?]
  obtain ⟨_, rfl⟩ | ⟨wait, answer, answered, _, taken, rfl⟩ | ⟨answer, answered, rfl⟩ :=
    advance_found_cases found made
  · exact moved rfl
  · obtain ⟨store, transport, rfl⟩ := answer?_eq taken
    exact moved rfl
  · have far := reachable.endsBy found (show task.operation.ending? = some .stopping by rw [stops]; rfl)
    have registers := resume_registers found answer
    generalize host.resume number task answer = next at registers moved
    cases registers with
    | keeps _ lock state registry => exact moved registry
    | takes _ _ locked => rw [answered, locked]
    | enrolls _ recorded =>
      rw [answered, recorded] at far
      cases far

/-- What a stop returns that takes an instance out, if from then on the clock waits for it. -/
theorem Run.result_of_paced {lock : Option Nat} {result : Except ManagerFault Success}
    (reachable : first.Reachable)
    (locked : first.task? number = some ⟨.stop, running.bot, lock, .answered .locked⟩)
    (registered : first.running? running.bot = some running)
    (made : first.after? (.step (.task number)) = some second) (run : Run second moves last)
    (paced : Paced number running.generation first (.step (.task number) :: moves))
    (apart : first.busyFor running.generation ≠ first.settings.closeTimeout)
    (apart' : first.transport.closeDelay ≠ first.settings.closeTimeout)
    (found : last.task? number = some record) (ended : record.state = .finished result) :
    result = if first.busyFor running.generation < first.settings.closeTimeout ∧
        first.transport.closeDelay < first.settings.closeTimeout then .ok .done
      else .error (.closeTimeout running.bot first.settings.closeTimeout) := by
  obtain ⟨stored, still, _⟩ := Option.map_eq_some_iff.mp (reachable.upToDate.registered registered)
  have leaves : Leaves first running stored := ⟨still, apart, apart'⟩
  have begins := (Departing.begin reachable locked registered still made).1
  refine @keeps_history _ _ _ (fun moves host => Paced number running.generation second moves →
    ∀ {record : Task} {result : Except ManagerFault Success}, host.task? number = some record →
      record.state = .finished result → result =
        if first.busyFor running.generation < first.settings.closeTimeout ∧
          first.transport.closeDelay < first.settings.closeTimeout then .ok .done
        else .error (.closeTimeout running.bot first.settings.closeTimeout)) ?_ ?_ run (paced.2 _ made)
    record result found ended
  · intro _ record result found ended
    have begun : second = (first.unregister running.bot).tearDown number running .stopping := by
      rw [Option.some.inj (made.symm.trans (advance_of_answered locked rfl)),
        ← @begin_of_registered _ number ⟨.stop, running.bot, lock, _⟩ _ rfl registered]
      rfl
    rw [begun] at found
    obtain rfl := Option.some.inj ((waitFor_found locked).symm.trans found)
    cases ended
  · intro moves host next move run earlier made paced record result found ended
    obtain ⟨before, _⟩ := (Paced.append_iff run).mp paced
    by_cases own : move = .step (.task number)
    · subst own
      obtain ⟨_, lock, state, found', phase⟩ := (run.departing begins leaves before).advance leaves made
      obtain rfl := Option.some.inj (found.symm.trans found')
      obtain rfl : state = .finished result := ended
      cases phase with
      | ended stopped => exact stopped.result
    · rcases task?_of_after made own found with there | created
      · exact earlier before there ended
      · cases created.symm.trans ended

end Host

end BotHost
