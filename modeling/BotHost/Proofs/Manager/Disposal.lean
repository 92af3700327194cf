/-
What is left of an instance that has been ended.

Whoever begins to tear an instance down is the only one who ever does, and so the only one who can close
its session. If the session closes in time, nothing is left of it: it is closed and stays closed,
nobody listens to it, and no event reaches it. If it does not, the task that waits for it gives it up
and goes on as if it had been closed. From then on the session is nobody's and stays open.
-/

import BotHost.Proofs.Manager.Generations
import BotHost.Proofs.Manager.Holding
import BotHost.Proofs.Manager.Looping
import BotHost.Proofs.Manager.Transport

namespace BotHost

namespace Host

/-- Nothing is left of the session of an instance: it is closed, it is the current one of no token,
nobody listens to it, and whatever event is injected does not come to the instance. -/
structure Disposed (host : Host) (running : Instance) : Prop where
  closed : ∃ session, host.transport.session? running.session = some session ∧
    session.closed = true
  detached : ∀ token, host.transport.current? token ≠ some running.session
  silent : host.transport.Silent running.session
  unreached : ∀ token event,
    (host.inject token event).2.loop? running.generation = host.loop? running.generation

/-- An instance has been told to stop, and only one task can have it in hand. -/
structure EndedBy (host : Host) (running : Instance) (number : TaskNumber) : Prop where
  told : host.Told running.generation
  launched : ∃ loop, host.loop? running.generation = some loop ∧ loop.session = running.session
  alone : ∀ {other : TaskNumber} {task : Task} {stage : Stage} {again : Instance},
    host.task? other = some task → task.state.charge? = some (stage, again) →
      again.generation = running.generation → other = number

variable {host next : Host} {move : Move} {number : TaskNumber} {task : Task} {running : Instance}

/-! ### Who can have an instance in hand -/

/-- What a task comes to have in hand it had before, or it was in the registry, or it has just come
about. -/
theorem charge_of_move (made : host.after? move = some next)
    (found : next.task? number = some task) {stage : Stage}
    (charge : task.state.charge? = some (stage, running)) :
    (∃ record before, host.task? number = some record ∧
        record.state.charge? = some (before, running)) ∨
      host.Present running ∨ running.generation = host.nextGeneration := by
  by_cases own : move = .step (.task number)
  · subst own
    obtain ⟨record, found', ⟨_, rfl⟩ | ⟨wait, answer, answered, waiting, taken, rfl⟩ |
      ⟨answer, answered, rfl⟩⟩ := advance_task_cases made
    · have there : (host.requestLock number record).task? number = some _ :=
        task?_changeTask_self found' _
      obtain rfl := Option.some.inj (there.symm.trans found)
      cases charge
    · obtain rfl := Option.some.inj ((task?_answered found' taken).symm.trans found)
      rcases answer?_charge taken with ⟨_, none⟩ | ⟨again, before, later, held, held', _⟩
      · exact absurd (none.symm.trans charge) nofun
      · obtain ⟨_, rfl⟩ : later = stage ∧ again = running := by
          simpa using held'.symm.trans charge
        exact .inl ⟨record, before, found', by rw [waiting, held]⟩
    · rcases resume_comesTo found' found with ⟨result, finished⟩ | ⟨wait, waiting, comes⟩
      · rw [finished] at charge
        cases charge
      rw [waiting] at charge
      cases comes with
      | leads leads =>
        cases leads with
        | closes | forces =>
          cases charge
          exact .inl ⟨record, _, found', by rw [answered]; rfl⟩
        | _ => cases charge
      | takes again ending deadline registered =>
        cases charge
        refine .inr (.inl (.inl ?_))
        rw [host.running?_bot registered, registered]
      | withdraws | aborts =>
        cases charge
        exact .inl ⟨record, _, found', by rw [answered]; rfl⟩
      | launches handlers session =>
        cases charge
        exact .inr (.inr rfl)
  · rcases task?_of_after made own found with before | created
    · exact .inl ⟨task, stage, before, charge⟩
    · rw [created] at charge
      cases charge

namespace EndedBy

/-- Whoever begins to tear an instance down is from then on the only one who can have it in hand. -/
theorem of_tornDown (reachable : next.Reachable)
    (torn : host.tornDown? (.step (.task number)) = some running)
    (made : host.after? (.step (.task number)) = some next) : next.EndedBy running number := by
  obtain ⟨wait, comes, torn'⟩ := Option.bind_eq_some_iff.mp torn
  obtain ⟨_, next', record, same, stepped, found, waiting⟩ := comesTo?_eq_some.mp comes
  cases same
  obtain rfl : next' = next := Option.some.inj (stepped.symm.trans made)
  have charge : record.state.charge? = some (.cancelled, running) := by
    rw [waiting]
    cases wait <;> cases torn'
    rfl
  obtain ⟨ofBot, loop, there, ofLoop, session, _⟩ := reachable.custody.charged found charge
  refine ⟨told_of_tornDown reachable made torn, ⟨loop, there, session⟩, ?_⟩
  intro other task stage again found' charge' same
  obtain ⟨ofBot', loop', there', ofLoop', _⟩ := reachable.custody.charged found' charge'
  rw [same, there] at there'
  obtain rfl : loop = loop' := Option.some.inj there'
  exact reachable.orderly.alone found found' (Task.inside_of_vacant (Task.vacant_of_charge charge))
    (Task.inside_of_vacant (Task.vacant_of_charge charge'))
    (ofBot'.symm.trans (ofLoop'.symm.trans (ofLoop.trans ofBot)))

theorem kept (ended : host.EndedBy running number) (reachable : host.Reachable)
    (made : host.after? move = some next) : next.EndedBy running number where
  told := ended.told.kept made
  launched := by
    obtain ⟨loop, there, session⟩ := ended.launched
    obtain ⟨later, there', _, session', _⟩ := loop?_after made there
    exact ⟨later, there', session'.trans session⟩
  alone := by
    intro other task stage again found charge same
    rcases charge_of_move made found charge with ⟨record, before, found', charge'⟩ | present | new
    · exact ended.alone found' charge' same
    · exact absurd (same ▸ ended.told) (not_told_of_present reachable present)
    · obtain ⟨loop, there, _⟩ := ended.launched
      have earlier := host.loop?_lt there
      omega

/-- When the task that has torn an instance down has let go of it, nobody has its session. -/
theorem not_held (ended : host.EndedBy running number) (reachable : host.Reachable)
    (released : host.holds? number ≠ some running.session) : ¬host.Held running.session := by
  obtain ⟨loop, there, session⟩ := ended.launched
  have sameLoop {stage : Stage} {other : Instance} (bears : host.Bears stage other)
      (shared : other.session = running.session) : other.generation = running.generation := by
    obtain ⟨loop', there', _, session', _⟩ := bears
    exact reachable.paired.single there' there (session'.trans (shared.trans session.symm))
  rintro (⟨bot, other, registered, shared⟩ | ⟨other, holds⟩)
  · have same := sameLoop (reachable.custody.registered registered) shared
    refine not_told_of_present reachable (.inl ?_) (same ▸ ended.told)
    rw [host.running?_bot registered, registered]
  · obtain ⟨record, found, has⟩ := Option.bind_eq_some_iff.mp holds
    rcases TaskState.holds?_cases has with fresh | ⟨stage, again, charge, shared⟩
    · exact (reachable.paired.fresh found fresh).2 there session
    · have same := sameLoop (reachable.custody.charged found charge).2 shared
      obtain rfl := ended.alone found charge same
      exact released holds

end EndedBy

/-! ### What is left -/

/-- Somebody has the session of an instance that is present. -/
theorem Present.held (present : host.Present running) : host.Held running.session := by
  rcases present with registered | ⟨number, task, found, charge⟩
  · exact .inl ⟨_, running, registered, rfl⟩
  · refine .inr ⟨number, ?_⟩
    rw [holds?_eq found]
    cases state : task.state with
    | created | finished =>
      rw [state] at charge
      cases charge
    | waiting wait =>
      rw [state] at charge
      cases wait <;> cases charge
      rfl
    | answered answer =>
      rw [state] at charge
      cases answer with
      | joined _ _ finished => cases finished <;> cases charge
      | recordedRunning =>
        cases charge
        rfl
      | _ => cases charge

theorem Reachable.disposed (reachable : host.Reachable)
    (launched : ∃ loop, host.loop? running.generation = some loop ∧ loop.session = running.session)
    {session : MemorySession Nat} (there : host.transport.session? running.session = some session)
    (closed : session.closed = true) : host.Disposed running := by
  have gone : session.gone = true := by rw [MemorySession.gone, closed, Bool.true_or]
  have silent := MemoryTransport.silent_of_gone reachable.sound reachable.indexed there gone
  refine ⟨⟨session, there, closed⟩, fun token current => ?_, silent, fun token event => ?_⟩
  · obtain ⟨other, found, _, open'⟩ := reachable.indexed token _ current
    obtain rfl := Option.some.inj (there.symm.trans found)
    cases gone.symm.trans open'
  · rw [inject_eq_reached]
    split
    next number generation reached =>
      obtain ⟨current, here, listens⟩ := Option.bind_eq_some_iff.mp reached
      obtain ⟨_, heard, same⟩ := Option.map_eq_some_iff.mp listens
      obtain ⟨rfl, rfl⟩ := Prod.mk.inj same
      obtain ⟨loop, found, ofLoop⟩ := reachable.listening _ _ heard
      refine (host.loop?_changeLoop found _ running.generation).trans (if_neg ?_)
      rintro rfl
      obtain ⟨loop', found', ofLoop'⟩ := launched
      obtain rfl := Option.some.inj (found.symm.trans found')
      exact silent.unreached token _ (by rw [← ofLoop', ofLoop]; exact reached)
    next => rfl

/-- After a run the open sessions are those that somebody has and those that were given up. -/
theorem Run.accounted {patterns : PatternEngine} {settings : ManagerSettings} {bots : List Bot} {moves : List Move}
    (run : Run (seeded patterns settings bots) moves host) :
    host.Accounted (along givenUp? (seeded patterns settings bots) moves) := by
  refine @Run.keeps_history _ _ _
    (fun moves host => host.Accounted (along givenUp? (seeded patterns settings bots) moves)) ?_ ?_ run
  · exact .seeded patterns settings bots
  · intro moves host next move before accounted made
    rw [before.along_concat made]
    exact accounted.move ⟨patterns, settings, bots, moves, before⟩ made

/-- When an operation has torn an instance down and is done with it, nothing is left of its session,
unless the operation gave up waiting for the session to close: then the session stays open. And there
are no other sessions that are open and that nobody has. -/
theorem Run.disposed_iff {patterns : PatternEngine} {settings : ManagerSettings} {bots : List Bot} {before after : List Move}
    {middle last : Host} (start : Run (seeded patterns settings bots) before middle)
    (torn : middle.tornDown? (.step (.task number)) = some running)
    (run : Run middle (.step (.task number) :: after) last)
    (released : last.holds? number ≠ some running.session) :
    (last.Disposed running ↔
        running.session ∉ along givenUp? middle (.step (.task number) :: after)) ∧
      ∀ {other : Nat} {session : MemorySession Nat},
        last.transport.session? other = some session → session.closed = false →
          last.Held other ∨ other ∈ along givenUp? (seeded patterns settings bots)
            (before ++ .step (.task number) :: after) := by
  have whole := start.append run
  have reachable : last.Reachable := ⟨patterns, settings, bots, _, whole⟩
  have first : middle.Reachable := ⟨patterns, settings, bots, before, start⟩
  have ended : last.EndedBy running number := by
    cases run with
    | @move _ next _ _ _ made run =>
      have second := first.run (.move made (.rest next))
      have both : last.Reachable ∧ last.EndedBy running number := by
        refine @Run.keeps (fun host => host.Reachable ∧ host.EndedBy running number) ?_ _ _ _ run
          ⟨second, .of_tornDown second torn made⟩
        intro host next move kept made
        exact ⟨kept.1.run (.move made (.rest next)), kept.2.kept kept.1 made⟩
      exact both.2
  have nobody := ended.not_held reachable released
  have accounted := whole.accounted
  refine ⟨?_, fun there => (accounted.open_iff there).mp⟩
  rw [start.along_append] at accounted
  constructor
  · rintro ⟨⟨session, there, closed⟩, _⟩ given
    have open' := (accounted.open_iff there).mpr (.inr (List.mem_append_right _ given))
    exact absurd (closed.symm.trans open') nofun
  · intro kept
    obtain ⟨loop, found, ofLoop⟩ := ended.launched
    have bound : running.session < last.transport.sessions.length :=
      ofLoop ▸ reachable.paired.opened found
    refine reachable.disposed ended.launched (List.getElem?_eq_getElem bound) ?_
    by_contra unclosed
    rcases (accounted.open_iff (List.getElem?_eq_getElem bound)).mp (by simpa using unclosed) with
      held | given
    · exact nobody held
    · rcases List.mem_append.mp given with earlier | later
      · exact (start.accounted.lost _ earlier).2 (present_of_tornDown torn).held
      · exact kept later

/-- A bot is started, and is to be stopped when closing a session takes as long as given. -/
def startToStop (closing : Nat) : List Move :=
  .begin .start "bot" :: .replicate 9 (.step (.task 0)) ++
    [.setDelays 0 closing 0, .begin .stop "bot", .step (.task 1), .step (.task 1)]

/-- The stop waits for the loop and then for the session, for five seconds. -/
def waitToStop : List Move :=
  [.step (.loop 1), .step (.task 1), .step (.task 1), .pass 5000] ++ .replicate 4 (.step (.task 1))

theorem disposed_iff_startStop : ∃ middle last running,
    Run (seeded .unlimited {} [.plain "bot" "token"]) (startToStop 3000) middle ∧
      Run middle (.step (.task 1) :: waitToStop) last ∧
      last.holds? 1 ≠ some running.session ∧ last.Disposed running := by
  have played : ((seeded .unlimited {} [.plain "bot" "token"]).play (startToStop 3000)).bind (fun middle =>
      (middle.tornDown? (.step (.task 1))).bind fun running =>
        (middle.play (.step (.task 1) :: waitToStop)).map fun last =>
          (last.holds? 1 == some running.session,
            along givenUp? middle (.step (.task 1) :: waitToStop))) = some (false, []) := by rfl
  simp only [Option.bind_eq_some_iff, Option.map_eq_some_iff, Prod.mk.injEq] at played
  obtain ⟨middle, first, running, torn, last, rest, released, given⟩ := played
  have released : last.holds? 1 ≠ some running.session := by simpa using released
  have disposed := (run_iff.mpr first).disposed_iff torn (run_iff.mpr rest) released
  exact ⟨middle, last, running, run_iff.mpr first, run_iff.mpr rest, released,
    disposed.1.mpr (by rw [given]; exact List.not_mem_nil)⟩

/-- A stop that has reported that the session did not close in time leaves it as it was. -/
theorem not_disposed_of_closeTimeout : ∃ middle last running,
    Run (seeded .unlimited {} [.plain "bot" "token"]) (startToStop 60000) middle ∧
      middle.tornDown? (.step (.task 1)) = some running ∧
      Run middle (.step (.task 1) :: waitToStop) last ∧
      (∃ task, last.task? 1 = some task ∧
        task.state = .finished (.error (.closeTimeout "bot" 5000))) ∧
      last.running? "bot" = none ∧ last.transport.isOpen "token" = true ∧
      (last.inject "token" (.ofText 7 "hi")).1 = true ∧ ¬last.Disposed running := by
  have played : ((seeded .unlimited {} [.plain "bot" "token"]).play (startToStop 60000)).bind (fun middle =>
      (middle.tornDown? (.step (.task 1))).bind fun running =>
        (middle.play (.step (.task 1) :: waitToStop)).map fun last =>
          ((last.task? 1).map Task.state, last.running? "bot",
            last.transport.isOpen "token", (last.inject "token" (.ofText 7 "hi")).1,
            last.transport.current? "token" == some running.session)) =
      some (some (.finished (.error (.closeTimeout "bot" 5000))), none, true, true, true) := by rfl
  simp only [Option.bind_eq_some_iff, Option.map_eq_some_iff, Prod.mk.injEq] at played
  obtain ⟨middle, first, running, torn, last, rest, result, gone, open', reached, current⟩ := played
  exact ⟨middle, last, running, run_iff.mpr first, torn, run_iff.mpr rest, result, gone, open',
    reached, fun disposed => disposed.detached "token" (by simpa using current)⟩

end Host

end BotHost
