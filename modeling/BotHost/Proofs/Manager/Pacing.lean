/-
A clock that waits.

Nothing is said elsewhere about how much time passes between two steps. Here the clock stands still as
long as a task or a loop that one looks at can take a step, and it does not pass over a time that one of
them waits for, whatever else goes on. If besides the delays stay as they are, then it is known in advance
how long a loop takes to handle the event that it is busy with: as long as the calls which are still to be
made.
-/

import BotHost.Proofs.Manager.Completion
import BotHost.Proofs.Manager.Scheduling

namespace BotHost

/-- The points that calls through a session pass. -/
def FaultPoint.sends : List FaultPoint := [.sendMessage, .sendPhoto, .sendKeyboard, .answerCallback]

theorem FaultPoint.ofCall_mem_sends (call : Call) : FaultPoint.ofCall call ∈ FaultPoint.sends := by
  cases call <;> simp [FaultPoint.ofCall, sends]

/-- Whether a move is a step of a task or of a loop. -/
def Move.isStepOfEither (number : TaskNumber) (generation : Nat) : Move → Bool
  | .step (.task other) => other == number
  | .step (.loop other) => other == generation
  | _ => false

/-- How many steps a loop has left at most that takes no other event. -/
@[simp]
def LoopState.stepsLeft : LoopState → Nat
  | .finished => 0
  | .idle => 1
  | .replying calls => 2 * calls.length + 2
  | .sending _ rest _ => 2 * rest.length + 3

theorem LoopState.stepsLeft_pos (state : LoopState) (unfinished : state ≠ .finished) :
    0 < state.stepsLeft := by
  cases state with
  | finished => exact absurd rfl unfinished
  | idle | replying | sending => simp

namespace Host

/-- How long calls take one after another. One that fails takes no time. -/
def callsTime (host : Host) (calls : List Call) : Nat :=
  (calls.countP fun call => !host.fails (FaultPoint.ofCall call)) * host.transport.sendDelay

/-- How long it takes from here to handle an event. -/
def handlingTime (host : Host) : LoopState → Nat
  | .idle | .finished => 0
  | .replying calls => host.callsTime calls
  | .sending _ rest due => due - host.now + host.callsTime rest

/-- How long a loop still takes to handle the event that it is busy with. -/
def busyFor (host : Host) (generation : Nat) : Nat :=
  ((host.loop? generation).map fun loop => host.handlingTime loop.state).getD 0

/-- How many steps a task, and a loop that takes no other event, have left at most. -/
def workLeft (host : Host) (number : TaskNumber) (generation : Nat) : Nat :=
  ((host.task? number).map fun task => task.state.stepsLeft).getD 0 +
    ((host.loop? generation).map fun loop => loop.state.stepsLeft).getD 0

/-- The times that a task or a loop waits for. -/
def timesOf (host : Host) (number : TaskNumber) (generation : Nat) : List Nat :=
  (host.task? number).toList.flatMap Task.times ++
    (host.loop? generation).toList.flatMap SessionLoop.times

/-- The clock waits for a task and a loop, and what a call and a close take stays as it is. -/
def Paces (host : Host) (number : TaskNumber) (generation : Nat) : Move → Prop
  | .setDelays _ closing sending =>
    closing = host.transport.closeDelay ∧ sending = host.transport.sendDelay
  | .setFaults points => ∀ point ∈ FaultPoint.sends, points.contains point = host.fails point
  | .pass milliseconds => host.ready (.task number) = false ∧ host.ready (.loop generation) = false ∧
      ∀ time ∈ host.timesOf number generation, host.now < time → host.now + milliseconds ≤ time
  | _ => True

instance (host : Host) (number : TaskNumber) (generation : Nat) :
    (move : Move) → Decidable (host.Paces number generation move)
  | .setDelays _ _ _ => inferInstanceAs (Decidable (_ ∧ _))
  | .setFaults points =>
    inferInstanceAs (Decidable (∀ point ∈ FaultPoint.sends, points.contains point = host.fails point))
  | .pass milliseconds =>
    inferInstanceAs (Decidable (host.ready (.task number) = false ∧
      host.ready (.loop generation) = false ∧ ∀ time ∈ host.timesOf number generation,
        host.now < time → host.now + milliseconds ≤ time))
  | .step _ | .begin _ _ | .shutdown | .register _ | .inject _ _ | .endSession _ | .reject _
  | .accept _ | .clearSent => .isTrue trivial

/-- The clock waits for a task and a loop in the course of a run. -/
def Paced (number : TaskNumber) (generation : Nat) : Host → List Move → Prop
  | _, [] => True
  | host, move :: moves =>
    host.Paces number generation move ∧
      ∀ next, host.after? move = some next → Paced number generation next moves

instance decidablePaced (number : TaskNumber) (generation : Nat) :
    (host : Host) → (moves : List Move) → Decidable (Paced number generation host moves)
  | _, [] => .isTrue trivial
  | host, move :: moves =>
    match made : host.after? move with
    | none => decidable_of_iff (host.Paces number generation move) (by simp [Paced, made])
    | some next =>
      have := decidablePaced number generation next moves
      decidable_of_iff (host.Paces number generation move ∧ Paced number generation next moves)
        (by simp [Paced, made])

/-- What times depend on is as it was. -/
structure KeepsPace (host next : Host) : Prop where
  settings : next.settings = host.settings
  closing : next.transport.closeDelay = host.transport.closeDelay
  sending : next.transport.sendDelay = host.transport.sendDelay
  fails : ∀ call, next.fails (FaultPoint.ofCall call) = host.fails (FaultPoint.ofCall call)

variable {host next middle last : Host} {number : TaskNumber} {generation : Nat} {move : Move}
  {moves others : List Move} {loop : SessionLoop} {task : Task}

/-! ### Runs under such a clock -/

theorem Paced.append_iff (run : Run host moves middle) :
    Paced number generation host (moves ++ others) ↔
      Paced number generation host moves ∧ Paced number generation middle others := by
  induction run with
  | rest => simp [Paced]
  | @move host next middle move moves made run inductionHypothesis =>
    rw [List.cons_append]
    simp only [Paced, made, Option.some.injEq, forall_eq']
    rw [inductionHypothesis, and_assoc]

/-- A clock that jumps to the next time when nothing can take a step waits for every task and loop. -/
theorem paces_of_nextTime (still : ∀ process, host.ready process = false) {errands : List Errand}
    {time : Nat} (due : host.nextTime? errands = some time) (number : TaskNumber) (generation : Nat) :
    host.Paces number generation (.pass (time - host.now)) := by
  refine ⟨still _, still _, fun other member later => ?_⟩
  have first : time ≤ other := by
    refine (List.min?_eq_some_iff.mp due).2 other (List.mem_filter.mpr ⟨?_, by simpa using later⟩)
    rcases List.mem_append.mp member with ofTask | ofLoop
    · obtain ⟨task, found, waits⟩ := List.mem_flatMap.mp ofTask
      have there := host.mem_tasks.mpr ⟨number, by simpa using found⟩
      exact List.mem_append_left _ (List.mem_append_right _ (List.mem_flatMap.mpr ⟨task, there, waits⟩))
    · obtain ⟨loop, found, waits⟩ := List.mem_flatMap.mp ofLoop
      have there := host.mem_loops.mpr ⟨generation, by simpa using found⟩
      exact List.mem_append_right _ (List.mem_flatMap.mpr ⟨loop, there, waits⟩)
  have later := lt_of_nextTime due
  omega

/-- Unless it is set or passes, no time changes. -/
theorem frame_of_after (made : host.after? move = some next)
    (unset : ∀ opening closing sending, move ≠ .setDelays opening closing sending)
    (unfaulted : ∀ points, move ≠ .setFaults points)
    (stands : ∀ milliseconds, move ≠ .pass milliseconds) :
    next.now = host.now ∧ next.faults = host.faults ∧
      next.transport.closeDelay = host.transport.closeDelay ∧
        next.transport.sendDelay = host.transport.sendDelay := by
  cases move with
  | step process =>
    obtain ⟨_, faults, now, _, _, closing, sending⟩ := advance_frame made
    exact ⟨now, faults, closing, sending⟩
  | begin operation bot =>
    simp only [after?] at made
    split at made <;> cases made
    exact ⟨rfl, rfl, rfl, rfl⟩
  | shutdown =>
    cases made
    exact @stopAll_kept (fun next => next.now = host.now ∧ next.faults = host.faults ∧
      next.transport.closeDelay = host.transport.closeDelay ∧
        next.transport.sendDelay = host.transport.sendDelay) (fun _ same => same) host
          ⟨rfl, rfl, rfl, rfl⟩
  | register bot =>
    cases made
    rw [register_eq]
    exact ⟨rfl, rfl, rfl, rfl⟩
  | inject token event =>
    cases made
    rw [inject_eq]
    exact ⟨rfl, rfl, rfl, rfl⟩
  | endSession token =>
    cases made
    refine ⟨rfl, rfl, ?_⟩
    show (host.transport.endSession token).2.closeDelay = _ ∧
      (host.transport.endSession token).2.sendDelay = _
    unfold MemoryTransport.endSession
    split <;> exact ⟨rfl, rfl⟩
  | reject | accept | clearSent =>
    cases made
    exact ⟨rfl, rfl, rfl, rfl⟩
  | setDelays opening closing sending => exact absurd rfl (unset opening closing sending)
  | setFaults points => exact absurd rfl (unfaulted points)
  | pass milliseconds => exact absurd rfl (stands milliseconds)

theorem keepsPace_of_paces (paces : host.Paces number generation move)
    (made : host.after? move = some next) : host.KeepsPace next := by
  have settings := settings_after made
  cases move with
  | setDelays opening closing sending =>
    cases made
    exact ⟨settings, paces.1, paces.2, fun _ => rfl⟩
  | setFaults points =>
    cases made
    exact ⟨settings, rfl, rfl, fun call => paces _ (FaultPoint.ofCall_mem_sends call)⟩
  | pass milliseconds =>
    cases made
    exact ⟨settings, rfl, rfl, fun _ => rfl⟩
  | _ =>
    obtain ⟨_, faults, closing, sending⟩ := frame_of_after made (by simp) (by simp) (by simp)
    exact ⟨settings, closing, sending, fun _ => by rw [Host.fails, faults, Host.fails]⟩

theorem now_of_after (made : host.after? move = some next)
    (stands : ∀ milliseconds, move ≠ .pass milliseconds) : next.now = host.now := by
  cases move with
  | setDelays | setFaults =>
    cases made
    rfl
  | pass milliseconds => exact absurd rfl (stands milliseconds)
  | _ => exact (frame_of_after made (by simp) (by simp) (by simp)).1

/-- Time stands still as long as either of the two can take a step. -/
theorem Paces.stands (paces : host.Paces number generation move) (made : host.after? move = some next)
    (ready : host.ready (.task number) = true ∨ host.ready (.loop generation) = true) :
    next.now = host.now := by
  refine now_of_after made ?_
  rintro milliseconds rfl
  obtain ⟨resting, resting', _⟩ := paces
  rcases ready with ready | ready
  · cases ready.symm.trans resting
  · cases ready.symm.trans resting'

/-- Time does not pass what a task waits for. -/
theorem Paces.now_le (paces : host.Paces number generation move) (made : host.after? move = some next)
    (found : host.task? number = some task) {time : Nat} (waits : time ∈ Task.times task)
    (early : host.now ≤ time) (undue : host.ready (.task number) = false → host.now < time) :
    next.now ≤ time := by
  by_cases passes : ∃ milliseconds, move = .pass milliseconds
  · obtain ⟨milliseconds, rfl⟩ := passes
    cases made
    refine paces.2.2 time (List.mem_append_left _ ?_) (undue paces.1)
    simpa [found] using waits
  · rw [now_of_after made fun milliseconds same => passes ⟨milliseconds, same⟩]
    exact early

/-- The clock may come to the earlier one of two times that are waited for. -/
theorem paces_of_two {one two : Nat} (resting : host.ready (.task number) = false)
    (resting' : host.ready (.loop generation) = false)
    (times : host.timesOf number generation = [one, two]) :
    host.Paces number generation (.pass (min one two - host.now)) := by
  refine ⟨resting, resting', ?_⟩
  rw [times]
  simp only [List.forall_mem_cons, List.not_mem_nil, false_imp_iff, implies_true, and_true]
  omega

theorem KeepsPace.callsTime (keeps : host.KeepsPace next) (calls : List Call) :
    next.callsTime calls = host.callsTime calls := by
  unfold Host.callsTime
  rw [keeps.sending]
  simp only [keeps.fails]

theorem KeepsPace.handlingTime (keeps : host.KeepsPace next) (same : next.now = host.now)
    (state : LoopState) : next.handlingTime state = host.handlingTime state := by
  cases state with
  | idle | finished => rfl
  | replying calls => exact keeps.callsTime calls
  | sending call rest due =>
    unfold Host.handlingTime
    dsimp only
    rw [same, keeps.callsTime]

/-! ### The time of calls -/

theorem callsTime_nil : host.callsTime [] = 0 := Nat.zero_mul _

theorem callsTime_of_refused {call : Call} (refused : host.fails (FaultPoint.ofCall call) = true)
    (rest : List Call) : host.callsTime (call :: rest) = host.callsTime rest := by
  simp [callsTime, refused]

theorem callsTime_of_accepted {call : Call} (accepted : host.fails (FaultPoint.ofCall call) = false)
    (rest : List Call) :
    host.callsTime (call :: rest) = host.transport.sendDelay + host.callsTime rest := by
  simp [callsTime, accepted, Nat.add_mul, Nat.add_comm]

/-! ### A loop that has been told to stop -/

section

variable (found : host.loop? generation = some loop)
  (told : loop.cancelled = true ∨ loop.aborted = true)

include found told

/-- With each step such a loop has fewer steps left. And unless it is aborted, its step neither hastens
nor delays the end of its event. -/
theorem loop_of_told (stepped : host.advance (.loop generation) = some next) :
    ∃ state, next.loop? generation = some { loop with state } ∧
      state.stepsLeft < loop.state.stepsLeft ∧
      (loop.aborted = false → host.handlingTime state = host.handlingTime loop.state) := by
  have becomes {changed : Host} (same : changed.loops = host.loops) (state : LoopState) :
      (changed.setLoopState generation state).loop? generation = some { loop with state } := by
    have there : changed.loop? generation = some loop := by rw [loop?, same]; exact found
    exact (changed.loop?_changeLoop there _ generation).trans (if_pos rfl)
  simp only [advance, found, Option.bind_some, advanceLoop] at stepped
  split at stepped
  · cases stepped
  next unfinished =>
  split at stepped
  next aborted =>
    cases stepped
    refine ⟨.finished, becomes rfl _, ?_, fun whole => by cases aborted.symm.trans whole⟩
    exact loop.state.stepsLeft_pos unfinished
  next whole =>
  have cancelled := told.resolve_right whole
  unfold stepLoop at stepped
  split at stepped
  · cases stepped
  next idle =>
    rw [if_pos cancelled] at stepped
    cases stepped
    exact ⟨.finished, becomes rfl _, by simp [idle], fun _ => by rw [idle]; rfl⟩
  next replying =>
    cases stepped
    exact ⟨.idle, becomes rfl _, by simp [replying], fun _ => by rw [replying]; exact callsTime_nil.symm⟩
  next call rest replying =>
    split at stepped
    next refused =>
      cases stepped
      refine ⟨.replying rest, becomes rfl _, by simp [replying], fun _ => ?_⟩
      rw [replying]
      exact (callsTime_of_refused refused rest).symm
    next accepted =>
      cases stepped
      refine ⟨.sending call rest (host.now + host.transport.sendDelay), becomes rfl _, ?_, fun _ => ?_⟩
      · rw [replying]
        simp only [LoopState.stepsLeft, List.length_cons]
        omega
      · rw [replying, handlingTime, handlingTime, Nat.add_sub_cancel_left]
        exact (callsTime_of_accepted (by simpa using accepted) rest).symm
  next call rest due sending =>
    split at stepped
    next passed =>
      cases stepped
      refine ⟨.replying rest, becomes rfl _, by simp [sending], fun _ => ?_⟩
      rw [sending, handlingTime, handlingTime, Nat.sub_eq_zero_of_le passed, Nat.zero_add]
    · cases stepped

/-- When such a loop can take no step, it waits for a call to come to its end. -/
theorem sending_of_resting (unfinished : loop.state ≠ .finished)
    (resting : host.ready (.loop generation) = false) :
    ∃ call rest due, loop.state = .sending call rest due ∧ host.now < due := by
  simp only [ready, advance, found, Option.bind_some, advanceLoop, if_neg unfinished] at resting
  split at resting
  · cases resting
  next whole =>
  have cancelled := told.resolve_right whole
  unfold stepLoop at resting
  split at resting
  next finished => exact absurd finished unfinished
  · rw [if_pos cancelled] at resting
    cases resting
  · cases resting
  · split at resting <;> cases resting
  next call rest due sending =>
    split at resting
    · cases resting
    next early => exact ⟨call, rest, due, sending, Nat.lt_of_not_le early⟩

/-- While the clock waits for such a loop, what passes is taken from the time that its event still
takes. -/
theorem handlingTime_of_pass {milliseconds : Nat} (unfinished : loop.state ≠ .finished)
    (paces : host.Paces number generation (.pass milliseconds)) :
    milliseconds + { host with now := host.now + milliseconds }.handlingTime loop.state =
      host.handlingTime loop.state := by
  obtain ⟨_, resting, bounded⟩ := paces
  obtain ⟨call, rest, due, sending, early⟩ := sending_of_resting found told unfinished resting
  have bound : host.now + milliseconds ≤ due := by
    refine bounded due (List.mem_append_right _ ?_) early
    simp [found, SessionLoop.times, sending]
  rw [sending]
  show milliseconds + (due - (host.now + milliseconds) + host.callsTime rest) =
    due - host.now + host.callsTime rest
  omega

/-- The time at which the event of such a loop comes to its end stays the same, whatever happens while the
clock waits. -/
theorem handlingTime_after (whole : loop.aborted = false) (paces : host.Paces number generation move)
    (busy : ∀ milliseconds, move = .pass milliseconds → loop.state ≠ .finished)
    (made : host.after? move = some next) :
    ∃ later, next.loop? generation = some later ∧
      next.now + next.handlingTime later.state = host.now + host.handlingTime loop.state := by
  have keeps := keepsPace_of_paces paces made
  by_cases own : move = .step (.loop generation)
  · subst own
    obtain ⟨state, there, _, same⟩ := loop_of_told found told made
    have now := now_of_after made (by simp)
    exact ⟨_, there, by rw [keeps.handlingTime now, same whole, now]⟩
  by_cases passes : ∃ milliseconds, move = .pass milliseconds
  · obtain ⟨milliseconds, rfl⟩ := passes
    have taken := handlingTime_of_pass found told (busy milliseconds rfl) paces
    cases made
    refine ⟨loop, found, ?_⟩
    show host.now + milliseconds + _ = _
    omega
  · obtain ⟨waiting, cancelled, aborted, there⟩ := loop?_after_other made own found
    have now := now_of_after made fun milliseconds same => passes ⟨milliseconds, same⟩
    exact ⟨_, there, by rw [keeps.handlingTime now, now]⟩

end

/-! ### What is left to do -/

theorem workLeft_eq (found : host.task? number = some task) (there : host.loop? generation = some loop) :
    host.workLeft number generation = task.state.stepsLeft + loop.state.stepsLeft := by
  rw [workLeft, found, there]
  rfl

namespace Told

variable (told : host.Told generation) (found : host.task? number = some task)
  (made : host.after? move = some next)

include told found made

/-- With each step of the two less is left. -/
theorem workLeft_lt (own : move.isStepOfEither number generation = true) :
    next.workLeft number generation < host.workLeft number generation := by
  obtain ⟨loop, there, cancelled⟩ := told
  rw [workLeft_eq found there]
  cases move with
  | step process =>
    cases process with
    | task other =>
      obtain rfl : other = number := by simpa [Move.isStepOfEither] using own
      obtain ⟨lock, state, found', less⟩ := advance_stepsLeft found made
      obtain ⟨waiting, cancelled, aborted, there'⟩ := loop?_after_other made (by simp) there
      rw [workLeft_eq found' there']
      exact Nat.add_lt_add_right less _
    | loop other =>
      obtain rfl : other = generation := by simpa [Move.isStepOfEither] using own
      obtain ⟨state, there', less, _⟩ := loop_of_told there (.inl cancelled) made
      rw [workLeft_eq (task?_after_of_ne made (by simp) found) there']
      exact Nat.add_lt_add_left less _
  | _ => cases own

theorem workLeft_of_other (other : move.isStepOfEither number generation = false) :
    next.workLeft number generation = host.workLeft number generation := by
  obtain ⟨loop, there, _⟩ := told
  have notTask : move ≠ .step (.task number) := by
    rintro rfl
    simp [Move.isStepOfEither] at other
  have notLoop : move ≠ .step (.loop generation) := by
    rintro rfl
    simp [Move.isStepOfEither] at other
  obtain ⟨waiting, cancelled, aborted, there'⟩ := loop?_after_other made notLoop there
  rw [workLeft_eq found there, workLeft_eq (task?_after_of_ne made notTask found) there']

end Told

/-- In no run do a task and a loop that has been told to stop take more steps than they have left. -/
theorem Run.countP_le (run : Run host moves last) (told : host.Told generation)
    (found : host.task? number = some task) :
    moves.countP (Move.isStepOfEither number generation) + last.workLeft number generation ≤
      host.workLeft number generation := by
  induction run generalizing task with
  | rest => simp
  | @move host next last move moves made run inductionHypothesis =>
    obtain ⟨lock, state, found'⟩ := task?_after made found
    have bound := inductionHypothesis (told.kept made) found'
    by_cases own : move.isStepOfEither number generation = true
    · have less := told.workLeft_lt found made own
      rw [List.countP_cons_of_pos own]
      omega
    · have same := told.workLeft_of_other found made (by simpa using own)
      rw [List.countP_cons_of_neg own]
      omega

end Host

end BotHost
