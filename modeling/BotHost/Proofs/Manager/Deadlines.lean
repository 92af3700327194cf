/-
How long a stop takes.

A stop waits twice, until the loop of its bot has come to its end and until the session has been closed,
and each time no longer than the close timeout. On a clock that waits for the stop and for the loop it is
therefore known from the beginning when it returns and what: it depends on what the loop has still to do
for its event and on the delay of the close, and on nothing that the store does. What is overdue is ended
by force, which is reported, but the instance is gone all the same.

A stop of a bot that does not run only looks whether there is such a bot. For this it needs the store.
-/

import BotHost.Proofs.Manager.Inquiring
import BotHost.Proofs.Manager.Pacing

namespace BotHost

namespace Host

/-! ### What a stop comes to -/

section

variable (first : Host) (generation : Nat)

/-- When a stop that goes on from its lock is done with the loop of its bot. -/
def loopDone : Nat := first.now + min (first.busyFor generation) first.settings.closeTimeout

/-- When it is done with the session. -/
def sessionDone : Nat :=
  first.loopDone generation + min first.transport.closeDelay first.settings.closeTimeout

/-- Whether the loop has more to do than the stop waits for. -/
def loopOverdue : Bool := first.settings.closeTimeout < first.busyFor generation

/-- Whether the session takes longer to close than the stop waits for. -/
def sessionOverdue : Bool := first.settings.closeTimeout < first.transport.closeDelay

end

section

variable (first : Host) (steps : List (Host × Host)) (host : Host) (number : TaskNumber) (bot : String)

/-- With one of its steps a stop has had the status written to a record, which says since that the bot is
stopped; or the status could not be written, and the record is as it was. -/
def MarkedStopped (stored : Bot) : Prop :=
  ∃ step ∈ steps, (∃ record result, step.1.task? number = some record ∧
      record.state = .waiting (.recordStopped result)) ∧
    ((step.1.storeSetStatus bot .stopped).1 = .ok () ∧
        host.store.find? bot = some { stored with status := .stopped } ∨
      (∃ fault, (step.1.storeSetStatus bot .stopped).1 = .error fault) ∧
        host.store.find? bot = some stored)

/-- What a stop of a running instance has come to when it returns, by what it returns. -/
structure Stopped (generation : Nat) (result : Except ManagerFault Success) : Prop where
  result : result =
    if first.busyFor generation < first.settings.closeTimeout ∧
        first.transport.closeDelay < first.settings.closeTimeout then .ok .done
    else .error (.closeTimeout bot first.settings.closeTimeout)
  takes : host.now = first.now + min (first.busyFor generation) first.settings.closeTimeout +
    min first.transport.closeDelay first.settings.closeTimeout
  gone : host.running? bot = none
  marked : ∃ stored, first.store.find? bot = some stored ∧ MarkedStopped steps host number bot stored

/-- What a stop of a running instance returns, but for the case that a wait is as long as it may be. -/
def stopResult (generation : Nat) : Except ManagerFault Unit :=
  if first.loopOverdue generation || first.sessionOverdue then
    .error (.closeTimeout bot first.settings.closeTimeout)
  else .ok ()

variable (running : Instance) (stored : Bot)

/-- What a stop of a running instance has come to, by where it is. -/
inductive Leaving : TaskState → Prop
  | joins {loop : SessionLoop} (there : host.loop? running.generation = some loop)
      (left : host.now + host.handlingTime loop.state = first.now + first.busyFor running.generation)
      (early : host.now ≤ first.now + first.settings.closeTimeout)
      (still : host.store.find? running.bot = some stored) :
      Leaving (.waiting (.join running .stopping (first.now + first.settings.closeTimeout)))
  | joined {finished : Bool} (kept : finished = !first.loopOverdue running.generation)
      (now : host.now = first.loopDone running.generation)
      (still : host.store.find? running.bot = some stored) :
      Leaving (.answered (.joined running .stopping finished))
  | aborts (late : first.loopOverdue running.generation = true)
      (now : host.now = first.loopDone running.generation)
      (still : host.store.find? running.bot = some stored) :
      Leaving (.waiting (.joinAborted running .stopping))
  | aborted (late : first.loopOverdue running.generation = true)
      (now : host.now = first.loopDone running.generation)
      (still : host.store.find? running.bot = some stored) :
      Leaving (.answered (.joinedAborted running .stopping))
  | closes (early : host.now ≤ first.sessionDone running.generation)
      (still : host.store.find? running.bot = some stored) :
      Leaving (.waiting (.close running .stopping (first.loopOverdue running.generation)
        (first.loopDone running.generation + first.transport.closeDelay)
        (first.loopDone running.generation + first.settings.closeTimeout)))
  | closed {forced : Bool}
      (kept : forced = (first.loopOverdue running.generation || first.sessionOverdue))
      (now : host.now = first.sessionDone running.generation)
      (still : host.store.find? running.bot = some stored) :
      Leaving (.answered (.closed running .stopping forced))
  | records (now : host.now = first.sessionDone running.generation)
      (still : host.store.find? running.bot = some stored) :
      Leaving (.waiting (.recordStopped (first.stopResult running.bot running.generation)))
  | recorded (now : host.now = first.sessionDone running.generation)
      (marked : MarkedStopped steps host number running.bot stored) :
      Leaving (.answered (.recordedStopped (first.stopResult running.bot running.generation)))
  | ended {result : Except ManagerFault Success}
      (stopped : Stopped first steps host number running.bot running.generation result) :
      Leaving (.finished result)

end

variable {first second host next last : Host} {steps : List (Host × Host)} {number : TaskNumber}
  {task record : Task} {bot : String} {running : Instance} {stored : Bot} {move : Move}
  {moves : List Move}

theorem KeepsPace.trans (before : first.KeepsPace host) (after : host.KeepsPace next) :
    first.KeepsPace next where
  settings := after.settings.trans before.settings
  closing := after.closing.trans before.closing
  sending := after.sending.trans before.sending
  fails call := (after.fails call).trans (before.fails call)

/-- Steps of a task and of a loop, and time, lead to the return of the task. -/
def CanReturn (host : Host) (number : TaskNumber) (generation : Nat) : Prop :=
  ∃ rest last record, Run host rest last ∧ Paced number generation host rest ∧
    (∀ move ∈ rest, move.isStepOfEither number generation = true ∨
      ∃ milliseconds, move = .pass milliseconds) ∧
    last.task? number = some record ∧ record.state.ended = true

theorem CanReturn.of_move {generation : Nat} (returns : next.CanReturn number generation)
    (paces : host.Paces number generation move) (made : host.after? move = some next)
    (own : move.isStepOfEither number generation = true ∨ ∃ milliseconds, move = .pass milliseconds) :
    host.CanReturn number generation := by
  obtain ⟨rest, last, record, run, paced, owns, found, ended⟩ := returns
  refine ⟨move :: rest, last, record, .move made run, ⟨paces, fun other made' => ?_⟩,
    List.forall_mem_cons.mpr ⟨own, owns⟩, found, ended⟩
  cases made.symm.trans made'
  exact paced

/-! ### What a stop waits for -/

section

variable (found : host.task? number = some task)

include found

theorem ready_of_answered {answer : Answer} (answered : task.state = .answered answer) :
    host.ready (.task number) = true := by
  exact ready_of_advance (advance_of_answered found answered)

/-- A task that rests has no answer to take. -/
theorem not_answers_of_resting {wait : Wait} (waiting : task.state = .waiting wait)
    (resting : host.ready (.task number) = false) {answer : Answer} {answered : Host} :
    ¬Answers host number task wait answer answered := by
  intro answers
  rw [ready_of_advance (advance_of_answers found waiting answers)] at resting
  cases resting

theorem of_resting_join {ending : Ending} {deadline : Nat}
    (waiting : task.state = .waiting (.join running ending deadline))
    (resting : host.ready (.task number) = false) :
    host.loopFinished running.generation = false ∧ host.now < deadline := by
  have unfinished : host.loopFinished running.generation = false := Bool.eq_false_iff.mpr
    fun finished => not_answers_of_resting found waiting resting (.joined _ _ _ finished)
  exact ⟨unfinished, Nat.lt_of_not_le fun passed =>
    not_answers_of_resting found waiting resting (.unjoined _ _ unfinished passed)⟩

theorem of_resting_close {ending : Ending} {forced : Bool} {due deadline : Nat}
    (waiting : task.state = .waiting (.close running ending forced due deadline))
    (resting : host.ready (.task number) = false) : host.now < due ∧ host.now < deadline := by
  have undue : host.now < due := Nat.lt_of_not_le fun reached =>
    not_answers_of_resting found waiting resting (.closed _ _ _ _ reached)
  exact ⟨undue, Nat.lt_of_not_le fun passed =>
    not_answers_of_resting found waiting resting (.unclosed _ _ _ undue passed)⟩

/-- A loop that has been aborted, or else the task that waits for it, can take a step. -/
theorem ready_of_joinAborted (custody : host.Custody) {ending : Ending}
    (waiting : task.state = .waiting (.joinAborted running ending)) :
    host.ready (.task number) = true ∨ host.ready (.loop running.generation) = true := by
  obtain ⟨_, loop, there, _, _, _, aborted⟩ :=
    custody.charged found (show task.state.charge? = some (.aborted, running) by rw [waiting]; rfl)
  have aborted : loop.aborted = true := aborted
  by_cases finished : loop.state = .finished
  · have joined : host.loopFinished running.generation = true := by
      simp [loopFinished, there, finished]
    exact .inl (ready_of_advance (advance_of_answers found waiting (.joinedAborted _ _ joined)))
  · exact .inr (by simp [ready, advance, there, advanceLoop, finished, aborted])

end

/-! ### While others go on -/

theorem MarkedStopped.aside (marked : MarkedStopped steps host number bot stored)
    (same : ∀ record, host.store.find? bot = some record → next.store.find? bot = some record)
    (later : List (Host × Host)) : MarkedStopped (steps ++ later) next number bot stored := by
  obtain ⟨step, member, writes, holds⟩ := marked
  exact ⟨step, List.mem_append_left _ member, writes, holds.imp (And.imp_right (same _))
    (And.imp_right (same _))⟩

/-- Whatever else happens while the clock waits, a stop goes on as it was to. Once its loop has finished it
can take a step, and no time passes before it does. -/
theorem Leaving.aside (phase : Leaving first steps host number running stored task.state)
    (unended : task.state.ended = false) (reachable : host.Reachable)
    (found : host.task? number = some task) (ofBot : running.bot = task.bot)
    (paces : host.Paces number running.generation move) (made : host.after? move = some next)
    (other : move ≠ .step (.task number)) :
    Leaving first steps next number running stored task.state := by
  have inside : task.state.inside = true := by
    generalize task.state = state at phase unended
    cases phase <;> first | rfl | cases unended
  have same (record : Bot) (there : host.store.find? running.bot = some record) :
      next.store.find? running.bot = some record := by
    rw [ofBot] at there ⊢
    have isStored := Option.isSome_iff_exists.mpr ⟨record, there⟩
    exact (find?_of_other reachable found inside isStored made other).trans there
  have stands (ready : host.ready (.task number) = true ∨
      host.ready (.loop running.generation) = true) : next.now = host.now := paces.stands made ready
  generalize state : task.state = now at phase
  cases phase with
  | @joins loop there left early still =>
    obtain ⟨_, loop', there', _, _, _, cancelled, whole⟩ :=
      reachable.custody.charged found (show task.state.charge? = some (.cancelled, running) by
        rw [state]; rfl)
    obtain rfl : loop = loop' := Option.some.inj (there.symm.trans there')
    have busy (milliseconds : Nat) (passes : move = .pass milliseconds) : loop.state ≠ .finished := by
      subst passes
      intro finished
      have unfinished := (of_resting_join found state paces.1).1
      simp [loopFinished, there, finished] at unfinished
    obtain ⟨later, there', time⟩ := handlingTime_after there (.inl cancelled) whole paces busy made
    refine .joins there' (time.trans left) ?_ (same _ still)
    refine paces.now_le made found ?_ early fun resting => (of_resting_join found state resting).2
    rw [Task.times, state]
    exact List.mem_singleton_self _
  | joined kept now still =>
    exact .joined kept ((stands (.inl (ready_of_answered found state))).trans now) (same _ still)
  | aborts late now still =>
    have ready := ready_of_joinAborted found reachable.custody state
    exact .aborts late ((stands ready).trans now) (same _ still)
  | aborted late now still =>
    exact .aborted late ((stands (.inl (ready_of_answered found state))).trans now) (same _ still)
  | closes early still =>
    have times : Task.times task = [first.loopDone running.generation + first.transport.closeDelay,
        first.loopDone running.generation + first.settings.closeTimeout] := by
      rw [Task.times, state]
      rfl
    rw [sessionDone] at early
    have due := paces.now_le made found (times ▸ List.mem_cons_self) (by omega)
      fun resting => (of_resting_close found state resting).1
    have deadline := paces.now_le made found (times ▸ List.mem_cons_of_mem _ List.mem_cons_self)
      (by omega) fun resting => (of_resting_close found state resting).2
    refine .closes ?_ (same _ still)
    rw [sessionDone]
    omega
  | closed kept now still =>
    exact .closed kept ((stands (.inl (ready_of_answered found state))).trans now) (same _ still)
  | records now still =>
    have ready : host.ready (.task number) = true :=
      ready_of_advance (advance_of_answers found state (.recordedStopped _))
    exact .records ((stands (.inl ready)).trans now) (same _ still)
  | recorded now marked =>
    have marked' := marked.aside same []
    rw [List.append_nil] at marked'
    exact .recorded ((stands (.inl (ready_of_answered found state))).trans now) marked'
  | ended =>
    rw [state] at unended
    cases unended

/-! ### Answers to a stop -/

section

variable {answer : Answer} {answered : Host}

/-- The stop is done with the loop: the loop has finished in time, or it is overdue. -/
theorem Leaving.joining {loop : SessionLoop} (there : host.loop? running.generation = some loop)
    (left : host.now + host.handlingTime loop.state = first.now + first.busyFor running.generation)
    (early : host.now ≤ first.now + first.settings.closeTimeout)
    (still : host.store.find? running.bot = some stored)
    (apart : first.busyFor running.generation ≠ first.settings.closeTimeout)
    (taken : host.answer? number task (.join running .stopping
      (first.now + first.settings.closeTimeout)) = some (answer, answered)) :
    Leaving first (steps ++ [(host, answered.setTaskState number (.answered answer))])
      (answered.setTaskState number (.answered answer)) number running stored (.answered answer) := by
  cases answers_of_answer? taken with
  | joined _ _ _ finished =>
    have done : loop.state = .finished := by simpa [loopFinished, there] using finished
    rw [done] at left
    have time : host.now + 0 = first.now + first.busyFor running.generation := left
    refine .joined ?_ ?_ still
    · simp only [loopOverdue, Bool.true_eq, Bool.not_eq_true', decide_eq_false_iff_not]
      omega
    · show host.now = first.loopDone running.generation
      rw [loopDone]
      omega
  | unjoined _ _ unfinished late =>
    refine .joined ?_ ?_ still
    · simp only [loopOverdue, Bool.false_eq, Bool.not_eq_false', decide_eq_true_iff]
      refine Nat.lt_of_le_of_ne ?_ apart.symm
      omega
    · show host.now = first.loopDone running.generation
      rw [loopDone]
      omega

/-- The stop is done with the session: it has been closed in time, or it is overdue. -/
theorem Leaving.closing (early : host.now ≤ first.sessionDone running.generation)
    (still : host.store.find? running.bot = some stored)
    (taken : host.answer? number task (.close running .stopping (first.loopOverdue running.generation)
      (first.loopDone running.generation + first.transport.closeDelay)
      (first.loopDone running.generation + first.settings.closeTimeout)) = some (answer, answered)) :
    Leaving first (steps ++ [(host, answered.setTaskState number (.answered answer))])
      (answered.setTaskState number (.answered answer)) number running stored (.answered answer) := by
  have bound : host.now ≤ first.loopDone running.generation +
      min first.transport.closeDelay first.settings.closeTimeout := early
  cases answers_of_answer? taken with
  | closed _ _ _ _ reached =>
    have inTime : first.sessionOverdue = false := by
      simp only [sessionOverdue, decide_eq_false_iff_not]
      omega
    refine .closed (by rw [inTime, Bool.or_false]) ?_ still
    show host.now = first.sessionDone running.generation
    rw [sessionDone]
    omega
  | unclosed _ _ _ undue late =>
    have overdue : first.sessionOverdue = true := by
      simp only [sessionOverdue, decide_eq_true_iff]
      omega
    refine .closed (by rw [overdue, Bool.or_true]) ?_ still
    show host.now = first.sessionDone running.generation
    rw [sessionDone]
    omega

theorem Leaving.answers (phase : Leaving first steps host number running stored task.state)
    (found : host.task? number = some task) (ofBot : running.bot = task.bot)
    (apart : first.busyFor running.generation ≠ first.settings.closeTimeout)
    {wait : Wait} (waiting : task.state = .waiting wait)
    (taken : host.answer? number task wait = some (answer, answered)) :
    Leaving first (steps ++ [(host, answered.setTaskState number (.answered answer))])
      (answered.setTaskState number (.answered answer)) number running stored (.answered answer) := by
  generalize state : task.state = now at phase
  cases phase with
  | joins there left early still =>
    cases waiting.symm.trans state
    exact .joining there left early still apart taken
  | aborts late now still =>
    cases waiting.symm.trans state
    cases answers_of_answer? taken
    exact .aborted late now still
  | closes early still =>
    cases waiting.symm.trans state
    exact .closing early still taken
  | records now still =>
    cases waiting.symm.trans state
    cases answers_of_answer? taken
    have now' : (host.storeSetStatus task.bot .stopped).2.now = host.now := by rw [storeSetStatus_eq]
    refine .recorded (now'.trans now) ?_
    rw [ofBot] at still ⊢
    refine ⟨_, List.mem_append_right _ List.mem_cons_self, ⟨task, _, found, state⟩, ?_⟩
    rcases host.storeSetStatus_result task.bot .stopped with ⟨done, written⟩ | ⟨fault, failed, same⟩
    · exact .inl ⟨done, written still⟩
    · refine .inr ⟨⟨fault, failed⟩, ?_⟩
      rw [same]
      exact still
  | joined | aborted | closed | recorded | ended => cases waiting.symm.trans state

end

/-! ### A stop goes on -/

/-- A step has led a stop from one phase to another. -/
def Departs (first : Host) (steps : List (Host × Host)) (host : Host) (number : TaskNumber) (task : Task)
    (running : Instance) (stored : Bot) (next : Host) : Prop :=
  ∃ lock state, next.task? number = some { task with lock, state } ∧
    Leaving first (steps ++ [(host, next)]) next number running stored state

section

variable (found : host.task? number = some task)

include found

omit found in
theorem begin_of_registered (stops : task.operation = .stop)
    (registered : host.running? task.bot = some running) : host.begin number task =
      (host.unregister task.bot).tearDown number running .stopping := by
  simp only [Host.begin, stops, registered]

omit found in
theorem loop?_begin (stops : task.operation = .stop)
    (registered : host.running? task.bot = some running) {loop : SessionLoop}
    (there : host.loop? running.generation = some loop) :
    (host.begin number task).loop? running.generation = some { loop with cancelled := true } := by
  rw [begin_of_registered stops registered]
  exact ((host.unregister task.bot).loop?_changeLoop there _ _).trans (if_pos rfl)

/-- The instance is taken out of the registry, and its loop is told to stop. -/
theorem Departs.begin (stops : task.operation = .stop) (custody : host.Custody)
    (registered : host.running? task.bot = some running)
    (still : host.store.find? running.bot = some stored) :
    Departs host steps host number task running stored (host.begin number task) := by
  obtain ⟨loop, there, _⟩ := custody.registered registered
  have there' := @loop?_begin _ number _ _ stops registered _ there
  rw [begin_of_registered stops registered] at there' ⊢
  refine ⟨task.lock, _, waitFor_found found, .joins there' ?_ (Nat.le_add_right ..) still⟩
  rw [busyFor, there]
  rfl

theorem Departs.close (keeps : first.KeepsPace host)
    (now : host.now = first.loopDone running.generation)
    (still : host.store.find? running.bot = some stored) :
    Departs first steps host number task running stored
      (host.waitForClose number running .stopping (first.loopOverdue running.generation)) := by
  have waits : host.waitForClose number running .stopping (first.loopOverdue running.generation) =
      host.waitFor number (.close running .stopping (first.loopOverdue running.generation)
        (first.loopDone running.generation + first.transport.closeDelay)
        (first.loopDone running.generation + first.settings.closeTimeout)) := by
    rw [waitForClose, now, keeps.closing, keeps.settings]
  rw [waits]
  refine ⟨task.lock, _, waitFor_found found, .closes ?_ still⟩
  show host.now ≤ first.loopDone running.generation + _
  omega

theorem Departs.finish (now : host.now = first.sessionDone running.generation)
    (marked : MarkedStopped steps host number running.bot stored)
    (before : first.store.find? running.bot = some stored) (gone : host.running? running.bot = none)
    (apart : first.busyFor running.generation ≠ first.settings.closeTimeout)
    (apart' : first.transport.closeDelay ≠ first.settings.closeTimeout) :
    Departs first steps host number task running stored (host.finish number task
      ((first.stopResult running.bot running.generation).map fun _ => .done)) := by
  refine ⟨none, _, task?_finish_self found _, .ended ⟨?_, ?_, ?_, stored, before, ?_⟩⟩
  · rw [stopResult]
    simp only [loopOverdue, sessionOverdue, Bool.or_eq_true, decide_eq_true_iff]
    split
    next overdue => rw [if_neg (by omega)]; rfl
    next inTime => rw [if_pos (by omega)]; rfl
  · rw [finish_eq]
    exact now
  · rw [finish_eq]
    exact gone
  · have still := still_finish host number task
      ((first.stopResult running.bot running.generation).map fun _ => .done)
    exact marked.aside (fun record there => (still.find? _).trans there) _

theorem Leaving.resumes {answer : Answer}
    (phase : Leaving first steps host number running stored task.state) (custody : host.Custody)
    (keeps : first.KeepsPace host) (ofBot : running.bot = task.bot) (stops : task.operation = .stop)
    (before : first.store.find? running.bot = some stored)
    (apart : first.busyFor running.generation ≠ first.settings.closeTimeout)
    (apart' : first.transport.closeDelay ≠ first.settings.closeTimeout)
    (answered : task.state = .answered answer) :
    Departs first steps host number task running stored (host.resume number task answer) := by
  generalize state : task.state = current at phase
  cases phase with
  | @joined finished kept now still =>
    cases answered.symm.trans state
    cases finished with
    | true =>
      have inTime : first.loopOverdue running.generation = false := by simpa using kept
      have closes : Departs first steps host number task running stored _ :=
        .close found keeps now still
      rwa [inTime] at closes
    | false =>
      have late : first.loopOverdue running.generation = true := by simpa using kept
      exact ⟨task.lock, _, waitFor_found found, .aborts late now still⟩
  | aborted late now still =>
    cases answered.symm.trans state
    have closes : Departs first steps host number task running stored _ := .close found keeps now still
    rwa [late] at closes
  | @closed forced kept now still =>
    cases answered.symm.trans state
    have same : host.resume number task (.closed running .stopping forced) =
        host.waitFor number (.recordStopped (first.stopResult running.bot running.generation)) := by
      rw [stopResult, ← kept, ← keeps.settings]
      rfl
    rw [same]
    exact ⟨task.lock, _, waitFor_found found, .records now still⟩
  | recorded now marked =>
    cases answered.symm.trans state
    have same : host.resume number task
        (.recordedStopped (first.stopResult running.bot running.generation)) =
          host.finish number task
            ((first.stopResult running.bot running.generation).map fun _ => .done) := by
      show host.afterStop number task _ = _
      cases first.stopResult running.bot running.generation <;> simp only [afterStop, stops] <;> rfl
    rw [same]
    have gone : host.running? running.bot = none := by
      rw [ofBot]
      refine custody.vacant found ?_
      rw [Task.vacant, state]
    exact .finish found now marked before gone apart apart'
  | joins | aborts | closes | records | ended => cases answered.symm.trans state

end

/-! ### A stop comes to its end -/

/-- A stop that has not returned can go on, or its loop can, or both wait for a time that the clock may come to.
A loop in a call waits for the end of that, and whichever is due first can go on then. -/
theorem Leaving.stirs (phase : Leaving first steps host number running stored task.state)
    (unended : task.state.ended = false) (custody : host.Custody)
    (found : host.task? number = some task) :
    host.ready (.task number) = true ∨ host.ready (.loop running.generation) = true ∨
      ∃ milliseconds, host.Paces number running.generation (.pass milliseconds) ∧
        ({ host with now := host.now + milliseconds }.ready (.task number) = true ∨
          { host with now := host.now + milliseconds }.ready (.loop running.generation) = true) := by
  by_cases ready : host.ready (.task number) = true
  · exact .inl ready
  by_cases ready' : host.ready (.loop running.generation) = true
  · exact .inr (.inl ready')
  have resting : host.ready (.task number) = false := by simpa using ready
  have resting' : host.ready (.loop running.generation) = false := by simpa using ready'
  refine .inr (.inr ?_)
  generalize state : task.state = now at phase
  cases phase with
  | @joins loop there =>
    obtain ⟨unfinished, inTime⟩ := of_resting_join found state resting
    have unfinished : loop.state ≠ .finished := by simpa [loopFinished, there] using unfinished
    obtain ⟨_, loop', there', _, _, _, cancelled, _⟩ :=
      custody.charged found (show task.state.charge? = some (.cancelled, running) by rw [state]; rfl)
    obtain rfl : loop = loop' := Option.some.inj (there.symm.trans there')
    obtain ⟨call, rest, due, sending, undue⟩ :=
      sending_of_resting there (.inl cancelled) unfinished resting'
    have times : host.timesOf number running.generation =
        [first.now + first.settings.closeTimeout, due] := by
      simp [timesOf, found, there, Task.times, state, Wait.times, SessionLoop.times, sending]
    generalize first.now + first.settings.closeTimeout = deadline at inTime state times
    refine ⟨_, paces_of_two resting resting' times, ?_⟩
    have found' : { host with now := host.now + (min deadline due - host.now) }.task? number =
        some task := found
    have there' : { host with now := host.now + (min deadline due - host.now) }.loop?
        running.generation = some loop := there
    rcases Nat.le_total deadline due with first | first
    · refine .inl ?_
      by_contra stuck
      have early := (of_resting_join found' state (by simpa using stuck)).2
      dsimp only at early
      omega
    · refine .inr ?_
      by_contra stuck
      obtain ⟨_, _, due', sending', early⟩ :=
        sending_of_resting there' (.inl cancelled) unfinished (by simpa using stuck)
      cases sending.symm.trans sending'
      dsimp only at early
      omega
  | closes =>
    obtain ⟨undue, inTime⟩ := of_resting_close found state resting
    obtain ⟨_, loop, there, _, _, _, finished⟩ :=
      custody.charged found (show task.state.charge? = some (.ended, running) by rw [state]; rfl)
    have finished : loop.state = .finished := finished
    have times : host.timesOf number running.generation =
        [first.loopDone running.generation + first.transport.closeDelay,
          first.loopDone running.generation + first.settings.closeTimeout] := by
      simp [timesOf, found, there, Task.times, state, Wait.times, SessionLoop.times, finished]
    generalize first.loopDone running.generation + first.transport.closeDelay = due
      at undue state times
    generalize first.loopDone running.generation + first.settings.closeTimeout = deadline
      at inTime state times
    refine ⟨_, paces_of_two resting resting' times, .inl ?_⟩
    have found' : { host with now := host.now + (min due deadline - host.now) }.task? number =
        some task := found
    by_contra stuck
    obtain ⟨undue', inTime'⟩ := of_resting_close found' state (by simpa using stuck)
    dsimp only at undue' inTime'
    omega
  | aborts => exact absurd (ready_of_joinAborted found custody state) (by simp [resting, resting'])
  | joined | aborted | closed | recorded =>
    exact absurd (ready_of_answered found state) ready
  | records =>
    exact absurd (ready_of_advance (advance_of_answers found state (.recordedStopped _))) ready
  | ended =>
    rw [state] at unended
    cases unended

/-- How far a stop has come that has taken its instance out of the registry. -/
structure Departing (first : Host) (steps : List (Host × Host)) (host : Host) (number : TaskNumber)
    (running : Instance) (stored : Bot) : Prop where
  reachable : host.Reachable
  keeps : first.KeepsPace host
  told : host.Told running.generation
  phase : ∃ lock state, host.task? number = some ⟨.stop, running.bot, lock, state⟩ ∧
    (state.ended = false → Leaving first steps host number running stored state)

/-- What is known of the host in which a stop goes on from its lock: the record of the bot, and that
neither wait is just as long as it may be. -/
structure Leaves (first : Host) (running : Instance) (stored : Bot) : Prop where
  before : first.store.find? running.bot = some stored
  busy : first.busyFor running.generation ≠ first.settings.closeTimeout
  closing : first.transport.closeDelay ≠ first.settings.closeTimeout

namespace Departing

variable (departing : Departing first steps host number running stored)

include departing

theorem after_of_ne (paces : host.Paces number running.generation move) (made : host.after? move = some next)
    (other : move ≠ .step (.task number)) : Departing first steps next number running stored := by
  obtain ⟨reachable, keeps, told, lock, state, found, phase⟩ := departing
  refine ⟨reachable.run (.move made (.rest next)), keeps.trans (keepsPace_of_paces paces made),
    told.kept made, lock, state, task?_after_of_ne made other found, fun unended => ?_⟩
  exact (phase unended).aside unended reachable found rfl paces made other

/-- A stop that can take a step has not returned, and its step leads it on. -/
theorem advance (leaves : Leaves first running stored) (stepped : host.advance (.task number) = some next) :
    Departing first (steps ++ [(host, next)]) next number running stored ∧
      ∃ lock state, next.task? number = some ⟨.stop, running.bot, lock, state⟩ ∧
        Leaving first (steps ++ [(host, next)]) next number running stored state := by
  obtain ⟨reachable, keeps, told, lock, state, found, phase⟩ := departing
  have made : host.after? (.step (.task number)) = some next := stepped
  have unended : state.ended = false := unended_of_advance found stepped
  have departs : Departs first steps host number ⟨.stop, running.bot, lock, state⟩ running stored
      next := by
    obtain ⟨created, rfl⟩ | ⟨wait, answer, answered, waiting, taken, rfl⟩ | ⟨answer, answered, rfl⟩ :=
      advance_found_cases found stepped
    · have created : state = .created := created
      subst created
      cases phase rfl
    · exact ⟨lock, _, task?_answered found taken,
        (phase unended).answers found rfl leaves.busy waiting taken⟩
    · exact Leaving.resumes found (phase unended) reachable.custody keeps rfl rfl leaves.before
        leaves.busy leaves.closing answered
  obtain ⟨lock', state', found', phase'⟩ := departs
  have paces : host.Paces number running.generation (.step (.task number)) := trivial
  have keeps' := keeps.trans (keepsPace_of_paces paces made)
  exact ⟨⟨reachable.run (.move made (.rest next)), keeps', told.kept made, lock', state', found',
    fun _ => phase'⟩, lock', state', found', phase'⟩

/-- Steps of its own and of its loop, and time, lead a stop to its end: a step lessens what is left, and time
makes one of the two ready. -/
theorem completes (leaves : Leaves first running stored) :
    host.CanReturn number running.generation := by
  induction amount : host.workLeft number running.generation using Nat.strong_induction_on
    generalizing host steps with
  | _ total inductionHypothesis =>
    obtain ⟨lock, state, found, phase⟩ := departing.phase
    by_cases ended : state.ended = true
    · exact ⟨[], host, _, .rest host, trivial, by simp, found, ended⟩
    have unended : state.ended = false := by simpa using ended
    have goesOn {middle : Host} (departing : Departing first steps middle number running stored)
        (work : middle.workLeft number running.generation = total) {process : Process}
        (ready : middle.ready process = true)
        (own : (Move.step process).isStepOfEither number running.generation = true) :
        middle.CanReturn number running.generation := by
      obtain ⟨next, stepped⟩ := Option.isSome_iff_exists.mp ready
      have made : middle.after? (.step process) = some next := stepped
      have paces : middle.Paces number running.generation (.step process) := trivial
      obtain ⟨_, _, found, _⟩ := departing.phase
      have less := departing.told.workLeft_lt found made own
      obtain ⟨steps', departing'⟩ : ∃ steps', Departing first steps' next number running stored := by
        by_cases same : process = .task number
        · subst same
          exact ⟨_, (departing.advance leaves stepped).1⟩
        · exact ⟨_, departing.after_of_ne paces made (by simpa using same)⟩
      exact (inductionHypothesis _ (work ▸ less) departing' rfl).of_move paces made (.inl own)
    rcases (phase unended).stirs unended departing.reachable.custody found with ready | ready |
      ⟨milliseconds, paces, ready⟩
    · exact goesOn departing amount ready (by simp [Move.isStepOfEither])
    · exact goesOn departing amount ready (by simp [Move.isStepOfEither])
    · have made : host.after? (.pass milliseconds) =
          some { host with now := host.now + milliseconds } := rfl
      have later := departing.after_of_ne paces made (by simp)
      have returns := ready.elim (goesOn later amount · (by simp [Move.isStepOfEither]))
        (goesOn later amount · (by simp [Move.isStepOfEither]))
      exact returns.of_move paces made (.inr ⟨_, rfl⟩)

end Departing

/-! ### A stop from its lock to its return -/

/-- Between its lock and its next step a stop keeps the clock from going on. -/
theorem Run.stands_of_locked {granted : Host} {before : List Move} {generation : Nat}
    (waits : Run granted before first) (unmoved : .step (.task number) ∉ before)
    (paced : Paced number generation granted before) (reachable : granted.Reachable)
    (found : granted.task? number = some task) (locked : task.state = .answered .locked) :
    first.Reachable ∧ first.task? number = some task ∧
      first.running? task.bot = granted.running? task.bot ∧ first.now = granted.now := by
  induction waits with
  | rest => exact ⟨reachable, found, rfl, rfl⟩
  | @move host next last move moves made run inductionHypothesis =>
    have other : move ≠ .step (.task number) := fun same => unmoved (same ▸ List.mem_cons_self)
    have now : next.now = host.now := paced.1.stands made (.inl (ready_of_answered found locked))
    obtain ⟨reachable', found', same, now'⟩ := inductionHypothesis
      (fun member => unmoved (List.mem_cons_of_mem _ member)) (paced.2 _ made)
      (reachable.run (.move made (.rest next))) (task?_after_of_ne made other found)
    have inside : task.state.inside = true := by rw [locked]; rfl
    have patient : task.state.patient = true := by rw [locked]; rfl
    exact ⟨reachable', found',
      same.trans (running?_of_other reachable found inside patient made other), now'.trans now⟩

/-- With its step after the lock a stop takes its instance out of the registry. -/
theorem Departing.begin {lock : Option Nat} (reachable : first.Reachable)
    (found : first.task? number = some ⟨.stop, running.bot, lock, .answered .locked⟩)
    (registered : first.running? running.bot = some running)
    (still : first.store.find? running.bot = some stored)
    (stepped : first.advance (.task number) = some next) :
    Departing first [(first, next)] next number running stored ∧
      next.workLeft number running.generation < first.workLeft number running.generation := by
  have made : first.after? (.step (.task number)) = some next := stepped
  have paces : first.Paces number running.generation (.step (.task number)) := trivial
  obtain ⟨loop, there, _⟩ := reachable.custody.registered registered
  have begins : next = first.begin number ⟨.stop, running.bot, lock, .answered .locked⟩ :=
    Option.some.inj (stepped.symm.trans (advance_of_answered found rfl))
  have there' : next.loop? running.generation = some { loop with cancelled := true } :=
    begins ▸ @loop?_begin _ number ⟨.stop, running.bot, lock, _⟩ _ rfl registered _ there
  obtain ⟨lock', state, found', phase⟩ : Departs first [] first number
      ⟨.stop, running.bot, lock, .answered .locked⟩ running stored next :=
    begins ▸ .begin found rfl reachable.custody registered still
  refine ⟨⟨reachable.run (.move made (.rest next)), keepsPace_of_paces paces made, ⟨_, there', rfl⟩,
    lock', state, found', fun _ => phase⟩, ?_⟩
  obtain ⟨_, _, found'', less⟩ := advance_stepsLeft found stepped
  rw [workLeft_eq found there, workLeft_eq found'' there']
  exact Nat.add_lt_add_right less _

/-- How far such a stop has come at the end of a run that begins with this step. -/
theorem Run.departing (run : Run second moves host)
    (begins : Departing first [(first, second)] second number running stored)
    (leaves : Leaves first running stored)
    (paced : Paced number running.generation second moves) :
    Departing first ((first, second) :: second.stepsOf number moves) host number running stored := by
  refine @keeps_history _ _ _ (fun moves host => Paced number running.generation second moves →
    Departing first ((first, second) :: second.stepsOf number moves) host number running stored)
      (fun _ => begins) ?_ run paced
  intro moves host next move run earlier made paced
  obtain ⟨before, paces, _⟩ := (Paced.append_iff run).mp paced
  by_cases own : move = .step (.task number)
  · subst own
    rw [run.stepsOf_self made, ← List.cons_append]
    exact ((earlier before).advance leaves made).1
  · rw [run.stepsOf_of_ne made own]
    exact (earlier before).after_of_ne paces made own

/-- While the clock waits for it, a stop of a running bot takes as long as the loop of the bot needs for
its event and the session to close, each up to the close timeout. It returns; in any case the instance
is gone then, and the status is written if the store allows it. If nothing was overdue, it is successful.
A stop of a bot that does not run returns by steps of its own. It changes nothing, and it is successful if
it finds the bot in the store. -/
theorem Run.stops_in_time {granted : Host} {lock : Option Nat} (reachable : granted.Reachable)
    (locked : granted.task? number = some ⟨.stop, bot, lock, .answered .locked⟩) :
    (∀ {running : Instance} {before moves : List Move} {first host : Host},
      granted.running? bot = some running → Run granted before first →
        .step (.task number) ∉ before → Run first (.step (.task number) :: moves) host →
          Paced number running.generation granted (before ++ .step (.task number) :: moves) →
            first.busyFor running.generation ≠ first.settings.closeTimeout →
              first.transport.closeDelay ≠ first.settings.closeTimeout →
      first.now = granted.now ∧
        moves.countP (Move.isStepOfEither number running.generation) <
          first.workLeft number running.generation ∧
        host.CanReturn number running.generation ∧
        ∀ {last : Host} {record : Task} {result : Except ManagerFault Success},
          host.advance (.task number) = some last → last.task? number = some record →
            record.state = .finished result →
              Stopped first (first.stepsOf number (.step (.task number) :: moves ++
                [.step (.task number)])) last number bot running.generation result) ∧
      ∀ {moves : List Move} {host : Host}, granted.running? bot = none → Run granted moves host →
        (∃ count last record, Run host (.replicate count (.step (.task number))) last ∧
          last.task? number = some record ∧ record.state.ended = true) ∧
        ∀ {last : Host} {record : Task} {result : Except ManagerFault Success},
          host.advance (.task number) = some last → last.task? number = some record →
            record.state = .finished result →
              LookedUp granted (moves ++ [.step (.task number)])
                (granted.stepsOf number (moves ++ [.step (.task number)])) bot result := by
  constructor
  · intro running before moves first host registered waits unmoved run paced apart apart'
    obtain rfl : running.bot = bot := granted.running?_bot registered
    obtain ⟨paced, paces⟩ := (Paced.append_iff waits).mp paced
    obtain ⟨reachable', found, same, now⟩ :=
      waits.stands_of_locked unmoved paced reachable locked rfl
    have registered' : first.running? running.bot = some running := same.trans registered
    obtain ⟨stored, still, _⟩ := Option.map_eq_some_iff.mp (reachable'.upToDate.registered registered')
    cases run with
    | @move _ second _ _ _ made run =>
    obtain ⟨begins, less⟩ := Departing.begin reachable' found registered' still made
    have leaves : Leaves first running stored := ⟨still, apart, apart'⟩
    have departing := run.departing begins leaves (paces.2 _ made)
    refine ⟨now, ?_, departing.completes leaves, ?_⟩
    · obtain ⟨_, _, found', _⟩ := begins.phase
      have bound := run.countP_le begins.told found'
      omega
    · intro last record result returns found' ended
      obtain ⟨_, lock', state, found'', phase⟩ := departing.advance leaves returns
      cases Option.some.inj (found''.symm.trans found')
      obtain rfl : state = .finished result := ended
      rw [List.cons_append, stepsOf_cons_self made, run.stepsOf_self returns]
      cases phase with
      | ended stopped => exact stopped
  · intro moves host gone run
    have inquiring : Inquiring granted moves host number bot := by
      refine @keeps_history _ _ _ (fun moves host => Inquiring granted moves host number bot) ?_ ?_ run
      · have still : ∀ step ∈ granted.stepsOf number [], step.1.Still step.2 :=
          fun _ member => absurd member List.not_mem_nil
        exact ⟨reachable, still, lock, _, locked, .locked, fun _ => ⟨gone, fun _ => rfl⟩⟩
      · intro moves host next move run earlier made
        by_cases own : move = .step (.task number)
        · subst own
          exact earlier.advance run made
        · exact earlier.after_of_ne run made own
    refine ⟨inquiring.completes run, fun returns found ended => ?_⟩
    obtain ⟨_, still, lock', state, found', looking, _⟩ := inquiring.advance run returns
    cases Option.some.inj (found'.symm.trans found)
    obtain rfl : state = .finished _ := ended
    cases looking with
    | ended reads => exact ⟨still, _, reads, rfl⟩

/-- A bot is started, and while it replies, which takes longer than a stop waits, a stop gets its lock. -/
def startToOverdueStop : List Move :=
  [.setDelays 0 2000 60000, .begin .start "bot"] ++ .replicate 9 (.step (.task 0)) ++
    [.inject "token" (.ofText 7 "one"), .step (.loop 1), .step (.loop 1), .begin .stop "bot",
      .step (.task 1), .step (.task 1)]

/-- Another event comes before the stop goes on. -/
def eventBeforeStop : List Move := [.inject "token" (.ofText 7 "two")]

/-- The stop waits for the loop until it is overdue, and then for the session. Only its last step is
missing. -/
def overdueStop : List Move :=
  [.pass 5000, .step (.task 1), .step (.task 1), .step (.loop 1), .step (.task 1), .step (.task 1),
    .pass 2000, .step (.task 1), .step (.task 1), .setFaults [.setStatus], .step (.task 1)]

/-- Another stop gets its lock. -/
def nextStop : List Move := [.setFaults [], .begin .stop "bot", .step (.task 2), .step (.task 2)]

theorem stops_overdueStop : ∃ granted first host last again looked returned,
    Run (seeded .unlimited {} [.plain "bot" "token"]) startToOverdueStop granted ∧
      Run granted eventBeforeStop first ∧ Run first (.step (.task 1) :: overdueStop) host ∧
      host.advance (.task 1) = some last ∧ first.busyFor 1 = 60000 ∧ first.now = granted.now ∧
      Stopped first (first.stepsOf 1 (.step (.task 1) :: overdueStop ++ [.step (.task 1)])) last 1 "bot" 1
        (.error (.closeTimeout "bot" 5000)) ∧
      Run last nextStop again ∧ Run again (.replicate 2 (.step (.task 2))) looked ∧
      looked.advance (.task 2) = some returned ∧
      LookedUp again (.replicate 2 (.step (.task 2)) ++ [.step (.task 2)])
        (again.stepsOf 2 (.replicate 2 (.step (.task 2)) ++ [.step (.task 2)])) "bot" (.ok .done) := by
  have played : ((seeded .unlimited {} [.plain "bot" "token"]).play startToOverdueStop).bind (fun granted =>
      (granted.running? "bot").bind fun running => (granted.play eventBeforeStop).bind fun first =>
        (first.play (.step (.task 1) :: overdueStop)).bind fun host =>
          (host.advance (.task 1)).bind fun last => (last.task? 1).bind fun record =>
            (last.play nextStop).bind fun again =>
              (again.play (.replicate 2 (.step (.task 2)))).bind fun looked =>
                (looked.advance (.task 2)).bind fun returned => (returned.task? 2).map fun record' =>
                  ((granted.task? 1, running.generation, first.busyFor 1,
                    first.transport.closeDelay, first.settings.closeTimeout, record.state,
                    decide (Paced 1 1 granted (eventBeforeStop ++ .step (.task 1) :: overdueStop))),
                    again.task? 2, again.running? "bot", record'.state)) =
      some ((some ⟨.stop, "bot", some 0, .answered .locked⟩, 1, 60000, 2000, 5000,
        .finished (.error (.closeTimeout "bot" 5000)), true),
        some ⟨.stop, "bot", some 0, .answered .locked⟩, none, .finished (.ok .done)) := by rfl
  simp only [Option.bind_eq_some_iff, Option.map_eq_some_iff, Prod.mk.injEq, decide_eq_true_eq]
    at played
  obtain ⟨granted, begins, running, registered, first, waits, host, goes, last, returns, record, found,
    again, rests, looked, looks, returned, returns', record', found', ⟨locked, same, busy, closing,
    timeout, ended, paced⟩, locked', gone, ended'⟩ := played
  have reachable : granted.Reachable := ⟨_, _, _, _, run_iff.mpr begins⟩
  have returning : Run host [.step (.task 1)] last := .move returns (.rest last)
  have reachable' : again.Reachable := (((reachable.run (run_iff.mpr waits)).run
    (run_iff.mpr goes)).run returning).run (run_iff.mpr rests)
  have unmoved : Move.step (.task 1) ∉ eventBeforeStop := by simp [eventBeforeStop]
  obtain ⟨now, _, _, stopped⟩ := (Run.stops_in_time reachable locked).1 registered
    (run_iff.mpr waits) unmoved (run_iff.mpr goes) (same.symm ▸ paced)
    (by rw [same, busy, timeout]; decide) (by rw [closing, timeout]; decide)
  have lookedUp := ((Run.stops_in_time reachable' locked').2 gone (run_iff.mpr looks)).2
    returns' found' ended'
  exact ⟨granted, first, host, last, again, looked, returned, run_iff.mpr begins, run_iff.mpr waits,
    run_iff.mpr goes, returns, busy, now, same ▸ stopped returns found ended, run_iff.mpr rests,
    run_iff.mpr looks, returns', lookedUp⟩

/-- The store cannot be read while a bot is stopped that does not run. -/
def stopUnread : List Move :=
  [.setFaults [.get], .begin .stop "bot"] ++ .replicate 5 (.step (.task 0))

theorem fault_of_stopUnread : ∃ host record,
    Run (seeded .unlimited {} [.plain "bot" "token"]) stopUnread host ∧
      host.store.find? "bot" = some (.plain "bot" "token") ∧ host.running? "bot" = none ∧
      host.task? 0 = some record ∧
      record.state = .finished (.error (.store FaultPoint.get.unavailable)) := by
  have played : ((seeded .unlimited {} [.plain "bot" "token"]).play stopUnread).bind (fun host =>
      (host.task? 0).map fun record => (host.store.find? "bot", host.running? "bot", record.state)) =
      some (some (.plain "bot" "token"), none,
        .finished (.error (.store FaultPoint.get.unavailable))) := by rfl
  simp only [Option.bind_eq_some_iff, Option.map_eq_some_iff, Prod.mk.injEq] at played
  obtain ⟨host, run, record, found, stored, gone, ended⟩ := played
  exact ⟨host, record, run_iff.mpr run, stored, gone, found, ended⟩

end Host

end BotHost
