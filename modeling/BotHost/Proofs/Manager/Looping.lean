/-
What becomes of a loop.

A loop goes on by its own steps. Others mark it, or hand it events, and nobody changes what it was
launched with: its bot, its session and its handlers. So whoever listens to a session is the loop that
has been launched for it, and events that are injected for a token come to the loop of its session.
-/

import BotHost.Proofs.Manager.Continuing
import BotHost.Proofs.Manager.Silence

namespace BotHost

theorem SessionLoop.eq_of_unmarked {loop later : SessionLoop}
    (same : later.unmarked = loop.unmarked) :
    later = { loop with cancelled := later.cancelled, aborted := later.aborted } := by
  obtain ⟨bot, session, handlers, waiting, cancelled, aborted, state⟩ := later
  simp only [unmarked, mk.injEq] at same
  obtain ⟨rfl, rfl, rfl, rfl, _, _, rfl⟩ := same
  rfl

namespace Host

variable {host next : Host} {move : Move} {generation : Nat} {loop : SessionLoop}

/-- A loop's step leaves the registry, the store and the locks alone. -/
theorem advance_loop_frame (stepped : host.advance (.loop generation) = some next) :
    next.registry = host.registry ∧ next.store = host.store ∧ next.locks = host.locks := by
  obtain ⟨loop, found, _, waiting, state, recorded, sendsStarted, ⟨rfl, _⟩ | ⟨rfl, _⟩⟩ :=
    advance_loop_cases stepped
  · exact ⟨rfl, rfl, rfl⟩
  · exact ⟨rfl, rfl, rfl⟩

/-! ### What others do to a loop -/

/-- A move that is not a step keeps all loops, unless an event is injected. -/
theorem loops_after_aside (made : host.after? move = some next)
    (isStep : ∀ process, move ≠ .step process)
    (injects : ∀ token event, move ≠ .inject token event) : next.loops = host.loops := by
  cases move with
  | step process => exact absurd rfl (isStep process)
  | inject token event => exact absurd rfl (injects token event)
  | begin operation bot =>
    simp only [after?] at made
    split at made <;> cases made
    rfl
  | shutdown =>
    cases made
    exact @stopAll_kept (fun next => next.loops = host.loops) (fun _ same => same) host rfl
  | register bot =>
    cases made
    rw [register_eq]
  | endSession | reject | accept | clearSent | setDelays | setFaults | pass =>
    cases made
    rfl

/-- The events that have come to a loop and that it has not taken. -/
def waiting (host : Host) (generation : Nat) : List Event :=
  ((host.loop? generation).map SessionLoop.waiting).getD []

theorem waiting_of_found (found : host.loop? generation = some loop) :
    host.waiting generation = loop.waiting := by
  rw [waiting, found]
  rfl

theorem waiting_of_loops (same : next.loops = host.loops) :
    next.waiting generation = host.waiting generation := by
  rw [waiting, waiting, loop?, loop?, same]

theorem waiting_of_unmarked
    (marked : next.loops.map SessionLoop.unmarked = host.loops.map SessionLoop.unmarked) :
    next.waiting generation = host.waiting generation := by
  rw [waiting, waiting]
  cases there : next.loop? generation with
  | some later =>
    obtain ⟨before, found, same⟩ := loop?_unmarked marked there
    rw [found]
    exact (congrArg (·.waiting) same).symm
  | none =>
    cases found : host.loop? generation with
    | none => rfl
    | some before =>
      obtain ⟨later, there', _⟩ := loop?_unmarked marked.symm found
      rw [there] at there'
      cases there'

/-- Tasks give no events to a loop and take none from it; a loop that they launch has none. -/
theorem waiting_advance_task {number : TaskNumber}
    (stepped : host.advance (.task number) = some next) :
    next.waiting generation = host.waiting generation := by
  obtain ⟨task, found, ⟨_, rfl⟩ | ⟨wait, answer, answered, _, taken, rfl⟩ | ⟨answer, _, rfl⟩⟩ :=
    advance_task_cases stepped
  · rfl
  · obtain ⟨store, transport, rfl⟩ := answer?_eq taken
    rfl
  · rcases host.resume_launches number task answer with ⟨_, marked⟩ | ⟨_, _, _, launched⟩
    · exact waiting_of_unmarked marked
    · rw [launched]
      show { host with loops := host.loops ++ [_] }.waiting generation = host.waiting generation
      rw [waiting, waiting, loop?_append]
      split
      next last =>
        cases found : host.loop? generation with
        | none => rfl
        | some loop => exact absurd (host.loop?_lt found) (by rw [last]; exact Nat.lt_irrefl _)
      next => rfl

/-- Whatever else happens, only its own step makes a loop go on. -/
theorem loop?_after_other (made : host.after? move = some next)
    (other : move ≠ .step (.loop generation)) (found : host.loop? generation = some loop) :
    ∃ waiting cancelled aborted,
      next.loop? generation = some { loop with waiting, cancelled, aborted } := by
  by_cases isStep : ∀ process, move ≠ .step process
  · refine @after?_kept_aside (fun next => ∃ waiting cancelled aborted,
      next.loop? generation = some { loop with waiting, cancelled, aborted }) ?_ ?_ ?_ _ _ _
      ⟨_, _, _, found⟩ made isStep
    · exact fun _ _ _ before => before
    · rintro middle moved loop' waiting ⟨waiting', cancelled, aborted, there⟩ there' unfinished
      by_cases same : generation = moved
      · subst same
        rw [there] at there'
        obtain rfl := Option.some.inj there'
        exact ⟨waiting, cancelled, aborted, (loop?_moveLoop there ..).trans (if_pos rfl)⟩
      · exact ⟨waiting', cancelled, aborted,
          (loop?_moveLoop there' ..).trans ((if_neg same).trans there)⟩
    · exact fun _ _ _ _ before _ => before
  obtain ⟨process, rfl⟩ : ∃ process, move = .step process := by simpa using isStep
  cases process with
  | loop moved =>
    refine ⟨_, _, _, (advance_loop?_of_ne made ?_).trans found⟩
    rintro rfl
    exact other rfl
  | task number =>
    obtain ⟨later, there, same⟩ := advance_task_loop? made found
    exact ⟨loop.waiting, later.cancelled, later.aborted,
      there.trans (congrArg some (SessionLoop.eq_of_unmarked same))⟩

/-- A loop keeps what it was launched with. -/
theorem loop?_after (made : host.after? move = some next)
    (found : host.loop? generation = some loop) :
    ∃ later, next.loop? generation = some later ∧ later.bot = loop.bot ∧
      later.session = loop.session ∧ later.handlers = loop.handlers := by
  by_cases own : move = .step (.loop generation)
  · subst own
    obtain ⟨_, there, _, waiting, state, recorded, sendsStarted, moved⟩ := advance_loop_cases made
    obtain rfl := Option.some.inj (found.symm.trans there)
    rcases moved with ⟨rfl, _⟩ | ⟨rfl, _⟩
    · exact ⟨_, (loop?_moveLoop found ..).trans (if_pos rfl), rfl, rfl, rfl⟩
    · exact ⟨_, (loop?_moveLoop found ..).trans (if_pos rfl), rfl, rfl, rfl⟩
  · obtain ⟨waiting, cancelled, aborted, there⟩ := loop?_after_other made own found
    exact ⟨_, there, rfl, rfl, rfl⟩

/-! ### Who listens to a session -/

/-- Whoever listens to a session is the loop that has it. -/
def Listening (host : Host) : Prop :=
  ∀ session generation, host.transport.listener? session = some generation →
    ∃ loop, host.loop? generation = some loop ∧ loop.session = session

/-- Whoever comes to listen to a session is a loop that is launched for it. -/
theorem listener?_after (made : host.after? move = some next) {session : Nat}
    (listens : next.transport.listener? session = some generation) :
    host.transport.listener? session = some generation ∨
      ∃ loop, next.loop? generation = some loop ∧ loop.session = session := by
  cases move with
  | step process =>
    cases process with
    | loop moved =>
      obtain ⟨loop, found, _, waiting, state, recorded, sendsStarted, ⟨rfl, _⟩ | ⟨rfl, _⟩⟩ :=
        advance_loop_cases made
      · exact .inl listens
      · exact .inl listens
    | task number =>
      obtain ⟨task, found, ⟨_, rfl⟩ | ⟨wait, answer, answered, _, taken, rfl⟩ | ⟨answer, _, rfl⟩⟩ :=
        advance_task_cases made
      · exact .inl listens
      · change answered.transport.listener? session = some generation at listens
        left
        rcases answer?_transport taken with ⟨_, same⟩ | ⟨_, token, _, _, _, _, _, opened⟩ |
          ⟨running, _, _, _, _, _, _, closed⟩
        · rwa [same] at listens
        · exact host.transport.listener?_openSession token (by rw [opened]; exact listens)
        · rw [closed] at listens
          exact host.transport.listener?_closeSession running.session listens
      · rcases host.resume_launches number task answer with ⟨same, _⟩ |
          ⟨handlers, opened, _, launched⟩
        · rw [same] at listens
          exact .inl listens
        · rw [launched] at listens ⊢
          change (host.transport.listen opened host.nextGeneration).listener? session = _ at listens
          rcases host.transport.listener?_listen opened _ listens with before | ⟨rfl, rfl⟩
          · exact .inl before
          · exact .inr ⟨⟨task.bot, session, handlers, [], false, false, .idle⟩,
              (host.loop?_append _ _).trans (if_pos rfl), rfl⟩
  | begin operation bot =>
    simp only [after?] at made
    split at made <;> cases made
    exact .inl listens
  | shutdown =>
    cases made
    have same : host.stopAll.transport = host.transport :=
      @stopAll_kept (fun next => next.transport = host.transport) (fun _ same => same) host rfl
    exact .inl (same ▸ listens)
  | register bot =>
    cases made
    rw [register_eq] at listens
    exact .inl listens
  | inject token event =>
    cases made
    rw [inject_eq] at listens
    exact .inl listens
  | endSession token =>
    cases made
    exact .inl (host.transport.listener?_endSession token listens)
  | reject | accept | clearSent | setDelays | setFaults | pass =>
    cases made
    exact .inl listens

theorem Reachable.listening (reachable : host.Reachable) : host.Listening := by
  refine reachable.invariant (fun patterns settings bots => ?_) fun _ listening made => ?_
  · intro session generation listens
    cases listens
  · intro session generation listens
    rcases listener?_after made listens with before | launched
    · obtain ⟨loop, found, same⟩ := listening session generation before
      obtain ⟨later, there, _, same', _⟩ := loop?_after made found
      exact ⟨later, there, same'.trans same⟩
    · exact launched

end Host

end BotHost
