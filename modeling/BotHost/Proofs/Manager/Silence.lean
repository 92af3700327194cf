/-
Nothing is done for a bot that has been stopped.

A loop that has finished takes no step any more, so what waits for it waits for ever, and since no
other loop has its session, no call is made through the session either. It remains to see that an
operation which ends the instances of a bot has seen their loops finish when it returns, whatever it
returns.
-/

import BotHost.Proofs.Manager.Pairing

namespace BotHost

namespace Host

variable {host next : Host}

/-! ### A loop that has finished -/

theorem advance_loop_of_finished {generation : Nat} {loop : SessionLoop}
    (there : host.loop? generation = some loop) (finished : loop.state = .finished) :
    host.advance (.loop generation) = none := by
  simp [advance, there, advanceLoop, finished]

/-- What a step of a task leaves of the loops: they are the same but for marks, and one may come
behind them. -/
theorem advance_task_loop? {number : TaskNumber} (stepped : host.advance (.task number) = some next)
    {generation : Nat} {loop : SessionLoop} (there : host.loop? generation = some loop) :
    ∃ later, next.loop? generation = some later ∧ later.unmarked = loop.unmarked := by
  obtain ⟨task, found, ⟨created, rfl⟩ | ⟨wait, answer, answered, waiting, taken, rfl⟩ |
    ⟨answer, answered, rfl⟩⟩ := advance_task_cases stepped
  · exact ⟨loop, there, rfl⟩
  · obtain ⟨store, transport, rfl⟩ := answer?_eq taken
    exact ⟨loop, there, rfl⟩
  · rcases host.resume_launches number task answer with ⟨_, marked⟩ | ⟨_, _, _, launched⟩
    · exact loop?_unmarked marked.symm there
    · rw [launched]
      refine ⟨loop, (host.loop?_append _ generation).trans ?_, rfl⟩
      rw [if_neg (Nat.ne_of_lt (host.loop?_lt there)), there]

/-- Unless it is its own, a step leaves a loop as it is but for marks. -/
theorem advance_loop?_of_ne {generation other : Nat}
    (stepped : host.advance (.loop other) = some next) (different : generation ≠ other) :
    next.loop? generation = host.loop? generation := by
  obtain ⟨loop, found, _, waiting, state, recorded, sendsStarted, ⟨rfl, _⟩ | ⟨rfl, _⟩⟩ :=
    advance_loop_cases stepped
  · rw [loop?_moveLoop found, if_neg different]
  · show (host.moveLoop other waiting state recorded sendsStarted).loop? generation = _
    rw [loop?_moveLoop found, if_neg different]

/-- A loop that has finished stays as it is. -/
theorem Run.loop?_of_finished {moves : List Move} (run : Run host moves next) {generation : Nat}
    {loop : SessionLoop} (there : host.loop? generation = some loop)
    (finished : loop.state = .finished) :
    ∃ later, next.loop? generation = some later ∧ later.unmarked = loop.unmarked := by
  have still {later : SessionLoop} (same : later.unmarked = loop.unmarked) :
      later.state = .finished :=
    (congrArg (·.state) same).trans finished
  refine @Run.keeps (fun host => ∃ later, host.loop? generation = some later ∧
    later.unmarked = loop.unmarked) ?_ _ _ _ run ⟨loop, there, rfl⟩
  intro host next move before made
  refine @after?_kept (fun host => ∃ later, host.loop? generation = some later ∧
    later.unmarked = loop.unmarked) ?_ ?_ ?_ ?_ _ _ _ before made
  · exact fun operation bot _ before => before
  · rintro host other loop' waiting ⟨later, there, same⟩ found unfinished
    refine ⟨later, ?_, same⟩
    rw [loop?_moveLoop found, if_neg, there]
    rintro rfl
    rw [found] at there
    obtain rfl := Option.some.inj there
    exact unfinished (still same)
  · exact fun store transport faults now before _ => before
  · rintro host next (number | other) ⟨later, there, same⟩ stepped
    · obtain ⟨last, there', same'⟩ := advance_task_loop? stepped there
      exact ⟨last, there', same'.trans same⟩
    · refine ⟨later, (advance_loop?_of_ne stepped ?_).trans there, same⟩
      rintro rfl
      rw [advance_loop_of_finished there (still same)] at stepped
      cases stepped

/-! ### Who makes calls -/

/-- With the change from one host to the other a call is begun or recorded. -/
def Sends (host next : Host) : Prop :=
  next.transport.sendsStarted ≠ host.transport.sendsStarted ∨
    host.transport.recorded.length < next.transport.recorded.length

theorem not_sends (same : next.transport.calls = host.transport.calls) : ¬host.Sends next := by
  obtain ⟨recorded, started⟩ := Prod.mk.inj same
  rintro (more | longer)
  · exact more started
  · rw [recorded] at longer
    exact Nat.lt_irrefl _ longer

/-- Tasks make no calls. -/
theorem calls_advance_task {number : TaskNumber}
    (stepped : host.advance (.task number) = some next) :
    next.transport.calls = host.transport.calls := by
  obtain ⟨task, found, ⟨created, rfl⟩ | ⟨wait, answer, answered, waiting, taken, rfl⟩ |
    ⟨answer, answered, rfl⟩⟩ := advance_task_cases stepped
  · rfl
  · show answered.transport.calls = _
    rcases answer?_transport taken with ⟨_, same⟩ | ⟨_, token, _, _, _, _, _, opened⟩ |
      ⟨running, _, _, _, _, _, _, same⟩
    · rw [same]
    · rw [← host.transport.calls_openSession token, opened]
    · rw [same]
      exact host.transport.calls_closeSession running.session
  · rcases host.resume_launches number task answer with ⟨same, _⟩ | ⟨_, _, _, launched⟩
    · rw [same]
    · rw [launched]
      rfl

/-- Calls are begun and recorded by loops that have not finished, and by nobody else. -/
theorem loop_of_sends {move : Move} (made : host.after? move = some next)
    (sends : host.Sends next) :
    ∃ generation loop, move = .step (.loop generation) ∧ host.loop? generation = some loop ∧
      loop.state ≠ .finished := by
  cases move with
  | step process =>
    cases process with
    | task number => exact absurd sends (not_sends (calls_advance_task made))
    | loop generation =>
      obtain ⟨loop, found, unfinished, _⟩ := advance_loop_cases made
      exact ⟨generation, loop, rfl, found, unfinished⟩
  | begin operation bot =>
    simp only [after?] at made
    split at made
    · cases made
      exact absurd sends (not_sends rfl)
    · cases made
  | shutdown =>
    cases made
    have same : host.stopAll.transport.calls = host.transport.calls :=
      @stopAll_kept (fun next => next.transport.calls = host.transport.calls)
        (fun _ before => before) host rfl
    exact absurd sends (not_sends same)
  | register bot =>
    cases made
    rw [register_eq] at sends
    exact absurd sends (not_sends rfl)
  | inject token event =>
    cases made
    rw [inject_eq] at sends
    exact absurd sends (not_sends rfl)
  | endSession token =>
    cases made
    exact absurd sends (not_sends (host.transport.calls_endSession token))
  | clearSent =>
    cases made
    rcases sends with more | longer
    · exact absurd rfl more
    · exact absurd longer (Nat.not_lt_zero _)
  | reject | accept | setDelays | setFaults | pass =>
    cases made
    exact absurd sends (not_sends rfl)

/-! ### An instance that is over -/

/-- The loop of an instance has finished. It keeps the events that wait for it, takes no step, and no
call is made through its session. -/
structure Over (host : Host) (generation : Nat) (loop : SessionLoop) : Prop where
  kept : ∃ now, host.loop? generation = some now ∧ now.state = .finished ∧
    now.session = loop.session ∧ now.waiting = loop.waiting
  still : host.advance (.loop generation) = none
  silent : ∀ {move : Move} {next : Host}, host.after? move = some next → host.Sends next →
    ∃ other speaker, move = .step (.loop other) ∧ host.loop? other = some speaker ∧
      speaker.session ≠ loop.session

/-- An instance whose loop has finished is over for ever. -/
theorem Reachable.stays_over (reachable : host.Reachable) {generation : Nat} {loop : SessionLoop}
    (there : host.loop? generation = some loop) (finished : loop.state = .finished)
    {moves : List Move} {last : Host} (run : Run host moves last) : last.Over generation loop := by
  obtain ⟨now, found, same⟩ := run.loop?_of_finished there finished
  have ended : now.state = .finished := (congrArg (·.state) same).trans finished
  have session : now.session = loop.session := congrArg (·.session) same
  refine ⟨⟨now, found, ended, session, congrArg (·.waiting) same⟩,
    advance_loop_of_finished found ended, ?_⟩
  intro move next made sends
  obtain ⟨other, speaker, rfl, there', unfinished⟩ := loop_of_sends made sends
  refine ⟨other, speaker, rfl, there', fun shared => ?_⟩
  obtain rfl := (reachable.run run).paired.single there' found (shared.trans session.symm)
  rw [found] at there'
  obtain rfl := Option.some.inj there'
  exact unfinished ended

end Host

end BotHost
