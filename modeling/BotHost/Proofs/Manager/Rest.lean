/-
A host at rest.

A host is at rest when nothing can take a step and no time is waited for. There is no deadlock: at
rest every task has come to its end. A task that waits for its lock waits for the one that has it, one
that has its lock waits for a call, for a time or for a loop, and a loop that a task waits for without
a limit has been aborted and can take a step. Loops that have not finished are idle and hear.
-/

import BotHost.Manager.Schedule
import BotHost.Proofs.Manager.Custody

namespace BotHost

namespace Host

/-- Nothing can take a step, and no time is waited for. -/
structure AtRest (host : Host) : Prop where
  still : ∀ process, host.advance process = none
  timeless : host.nextTime? [] = none

variable {host : Host} {number : TaskNumber} {task : Task}

/-- No time is waited for when all times that were have come. -/
theorem nextTime?_eq_none :
    host.nextTime? [] = none ↔
      (∀ task ∈ host.tasks, ∀ time ∈ Task.times task, time ≤ host.now) ∧
        ∀ loop ∈ host.loops, ∀ time ∈ SessionLoop.times loop, time ≤ host.now := by
  simp only [nextTime?, List.filterMap_nil, List.nil_append, List.min?_eq_none_iff,
    List.filter_eq_nil_iff, List.mem_append, List.mem_flatMap, decide_eq_true_eq, Nat.not_lt]
  constructor
  · intro all
    exact ⟨fun task member time waits => all time (.inl ⟨task, member, waits⟩),
      fun loop member time waits => all time (.inr ⟨loop, member, waits⟩)⟩
  · rintro ⟨tasks, loops⟩ time (⟨task, member, waits⟩ | ⟨loop, member, waits⟩)
    · exact tasks task member time waits
    · exact loops loop member time waits

/-- Only tasks and loops that there are can take a step. -/
theorem atRest_iff : host.AtRest ↔
    (∀ number < host.tasks.length, host.ready (.task number) = false) ∧
      (∀ generation < host.nextGeneration, host.ready (.loop generation) = false) ∧
        host.nextTime? [] = none := by
  have idle (process : Process) : host.ready process = false ↔ host.advance process = none := by
    rw [ready, Option.isSome_eq_false_iff, Option.isNone_iff_eq_none]
  simp only [idle]
  constructor
  · rintro ⟨still, timeless⟩
    exact ⟨fun number _ => still (.task number), fun generation _ => still (.loop generation),
      timeless⟩
  · rintro ⟨tasks, loops, timeless⟩
    refine ⟨fun process => ?_, timeless⟩
    cases process with
    | task number =>
      cases found : host.task? number with
      | none => rw [advance, found, Option.bind_none]
      | some task => exact tasks number (host.task?_lt found)
    | loop generation =>
      cases there : host.loop? generation with
      | none => rw [advance, there, Option.bind_none]
      | some loop => exact loops generation (host.loop?_lt there)

instance (host : Host) : Decidable host.AtRest := decidable_of_iff _ atRest_iff.symm

/-! ### Going on -/

/-- Once the times it waits for have come, a task that is past its lock can take a step, or waits for
a loop that has been aborted and can take its last one. -/
theorem Custody.unhindered (custody : host.Custody) (found : host.task? number = some task)
    (inside : task.state.inside = true) (passed : ∀ time ∈ Task.times task, time ≤ host.now) :
    host.ready (.task number) = true ∨ ∃ running ending,
      task.state = .waiting (.joinAborted running ending) ∧
        host.advance (.loop running.generation) =
          some (host.setLoopState running.generation .finished) := by
  cases state : task.state with
  | created => exact .inl (ready_of_advance (advance_of_created found state))
  | answered answer => exact .inl (ready_of_advance (advance_of_answered found state))
  | finished result =>
    rw [state] at inside
    cases inside
  | waiting wait =>
    have come {time : Nat} (waits : time ∈ Wait.times wait) : time ≤ host.now :=
      passed time (by rw [Task.times, state]; exact waits)
    have takes {answer : Answer} {answered : Host}
        (answers : Answers host number task wait answer answered) :
        host.ready (.task number) = true :=
      ready_of_advance (advance_of_answers found state answers)
    cases wait with
    | lock =>
      rw [state] at inside
      cases inside
    | join running ending deadline =>
      have passed : deadline ≤ host.now := come (List.mem_singleton_self deadline)
      cases finished : host.loopFinished running.generation with
      | true => exact .inl (takes (.joined running ending deadline finished))
      | false => exact .inl (takes (.unjoined running ending finished passed))
    | joinAborted running ending =>
      have charge : task.state.charge? = some (.aborted, running) := by rw [state]; rfl
      obtain ⟨_, loop, there, _, _, _, shown⟩ := custody.charged found charge
      have aborted : loop.aborted = true := shown
      by_cases last : loop.state = .finished
      · have finished : host.loopFinished running.generation = true := by
          simp [loopFinished, there, last]
        exact .inl (takes (.joinedAborted running ending finished))
      · refine .inr ⟨running, ending, rfl, ?_⟩
        rw [Host.advance, there, Option.bind_some, advanceLoop, if_neg last, if_pos aborted]
    | close running ending forced due deadline =>
      exact .inl (takes (.closed running ending forced deadline (come List.mem_cons_self)))
    | connect handlers token due deadline =>
      have reached : due ≤ host.now := come List.mem_cons_self
      rcases opens : host.transport.openSession token with ⟨fault | session, transport⟩
      · exact .inl (takes (.rejected handlers deadline reached (by rw [opens])))
      · exact .inl (takes (.opened handlers deadline reached opens))
    | _ => exact .inl (takes (by constructor))

/-- As long as a task has not ended, it can take a step, or the task that has its lock can take one
or is past the lock. -/
theorem Orderly.ahead (orderly : host.Orderly) (found : host.task? number = some task)
    (unended : task.state.ended = false) : ∃ other record, host.task? other = some record ∧
      (host.ready (.task other) = true ∨ record.state.inside = true) := by
  by_cases inside : task.state.inside = true
  · exact ⟨number, task, found, .inr inside⟩
  cases state : task.state with
  | created =>
    exact ⟨number, task, found, .inl (ready_of_advance (advance_of_created found state))⟩
  | answered answer =>
    rw [state] at inside
    exact absurd rfl inside
  | finished result =>
    rw [state] at unended
    cases unended
  | waiting wait =>
    obtain rfl : wait = .lock := by
      by_contra other
      rw [state, TaskState.inside_waiting other] at inside
      exact inside rfl
    obtain ⟨lock, refers⟩ := orderly.exists_lock found (by rw [state]; rfl)
    obtain ⟨holder, record, found', refers', holds⟩ := orderly.holder found refers
    refine ⟨holder, record, found', ?_⟩
    have begun : record.state.outside = false := by
      by_contra outside
      have none := (orderly.refers found').mpr (by simpa using outside)
      rw [refers'] at none
      cases none
    by_cases queues : record.state = .waiting .lock
    · exact .inl (ready_of_advance (advance_of_answers found' queues (.locked refers' holds)))
    · refine .inr ?_
      generalize record.state = state' at begun queues
      cases state' with
      | created | finished => cases begun
      | answered => rfl
      | waiting wait' => exact TaskState.inside_waiting fun same => queues (by rw [same])

namespace AtRest

theorem task_times (rest : host.AtRest) (found : host.task? number = some task) {time : Nat}
    (waits : time ∈ Task.times task) : time ≤ host.now :=
  (nextTime?_eq_none.mp rest.timeless).1 task (List.mem_of_getElem? found) time waits

theorem loop_times (rest : host.AtRest) {generation : Nat} {loop : SessionLoop}
    (there : host.loop? generation = some loop) {time : Nat}
    (waits : time ∈ SessionLoop.times loop) : time ≤ host.now :=
  (nextTime?_eq_none.mp rest.timeless).2 loop
    (List.mem_of_getElem? (host.loop?_eq_some.mp there).2) time waits

/-- No task is past its lock. -/
theorem not_inside (rest : host.AtRest) (custody : host.Custody)
    (found : host.task? number = some task) : task.state.inside = false := by
  by_contra inside
  have stuck (process : Process) : host.ready process = false := by
    rw [ready, rest.still process]
    rfl
  rcases custody.unhindered found (by simpa using inside) fun _ => rest.task_times found with
    goesOn | ⟨running, _, _, steps⟩
  · rw [stuck] at goesOn
    cases goesOn
  · rw [rest.still] at steps
    cases steps

/-- At rest every task has ended. -/
theorem finished (rest : host.AtRest) (orderly : host.Orderly) (custody : host.Custody)
    (found : host.task? number = some task) : ∃ result, task.state = .finished result := by
  cases state : task.state with
  | finished result => exact ⟨result, rfl⟩
  | created | waiting | answered =>
    obtain ⟨other, record, found', goesOn | inside⟩ := orderly.ahead found (by rw [state]; rfl)
    · rw [ready, rest.still] at goesOn
      cases goesOn
    · rw [rest.not_inside custody found'] at inside
      cases inside

/-- At rest a loop that has not finished waits for events that can come. -/
theorem idle (rest : host.AtRest) {generation : Nat} {loop : SessionLoop}
    (there : host.loop? generation = some loop) (unfinished : loop.state ≠ .finished) :
    loop.state = .idle ∧ loop.waiting = [] ∧ loop.cancelled = false ∧ loop.aborted = false ∧
      host.hears generation loop = true := by
  have still := rest.still (.loop generation)
  simp only [advance, there, Option.bind_some, advanceLoop, if_neg unfinished] at still
  split at still
  · cases still
  next whole =>
  unfold stepLoop at still
  split at still
  next finished => exact absurd finished unfinished
  next idle =>
    split at still
    · cases still
    next active =>
      split at still
      · cases still
      next empty =>
        split at still
        next hears => exact ⟨idle, empty, by simpa using active, by simpa using whole, hears⟩
        · cases still
  · cases still
  · split at still <;> cases still
  next call later due sending =>
    have passed : due ≤ host.now :=
      rest.loop_times there (by rw [SessionLoop.times, sending]; exact List.mem_singleton_self due)
    rw [if_pos passed] at still
    cases still

end AtRest

end Host

end BotHost
