/-
Events on their way to the handlers.

The events of a loop are a queue. What its listener is handed comes behind the others, unless the
queue is full or the loop has finished; the loop takes from the front; nobody else touches the queue.
So at any time the events that have been accepted are those that have been dispatched, followed by
those that wait. A loop reports the end of its session only when nothing waits, and what it is handed
from then on is refused.
-/

import BotHost.Proofs.Manager.History
import BotHost.Proofs.Manager.Looping
import BotHost.Proofs.Manager.Reaping
import BotHost.Proofs.Manager.Starting

namespace BotHost

namespace Host

/-- The event that a loop's listener is handed with a move. -/
def heard? (generation : Nat) (host : Host) : Move → Option Event
  | .inject token event =>
    if (host.transport.current? token).bind host.transport.listener? = some generation then some event
    else none
  | _ => none

/-- The event that a loop's listener is handed with a move and that then waits for the loop. -/
def accepted? (generation : Nat) (host : Host) (move : Move) : Option Event :=
  (host.heard? generation move).filter fun event =>
    (host.after? move).any fun next =>
      next.waiting generation = host.waiting generation ++ [event]

/-- The event that a loop takes with a move, to go on with the calls of its handlers. -/
def dispatched? (generation : Nat) (host : Host) : Move → Option Event
  | .step (.loop moved) =>
    if moved = generation then
      (host.loop? generation).bind fun loop => loop.waiting.head?.filter fun event =>
        loop.state = .idle ∧ ((host.advance (.loop generation)).bind (·.loop? generation)).any
          fun later => later.state = .replying (Dispatch.calls loop.handlers event)
    else none
  | _ => none

/-- What becomes of the events that the listener of a loop is handed. -/
structure Delivers (first : Host) (moves : List Move) (host : Host) (generation : Nat)
    (loop : SessionLoop) : Prop where
  received : (along (accepted? generation) first moves).Sublist (along (heard? generation) first moves)
  ordered : along (dispatched? generation) first moves <+: along (accepted? generation) first moves
  queued : along (accepted? generation) first moves =
    along (dispatched? generation) first moves ++ loop.waiting
  refuses : ∀ {move : Move} {event : Event}, host.heard? generation move = some event →
    (host.accepted? generation move = none ↔
      loop.waiting.length = first.settings.eventBuffer ∨ loop.state = .finished)
  ends : ∀ {move : Move} {next : Host} {later : SessionLoop}, host.after? move = some next →
    loop.state ≠ .finished → next.loop? generation = some later → later.state = .finished →
      loop.cancelled = true ∨ loop.aborted = true ∨
        (loop.state = .idle ∧ host.hears generation loop = false ∧
          along (dispatched? generation) first moves = along (accepted? generation) first moves ∧
          ∃ number, next.task? number = some ⟨.reap generation, loop.bot, none, .created⟩)
  reported : ∀ {number : TaskNumber} {task : Task}, host.task? number = some task →
    task.operation = .reap generation → loop.state = .finished ∧
      along (dispatched? generation) first moves = along (accepted? generation) first moves

variable {host next : Host} {move : Move} {generation : Nat} {loop : SessionLoop}

/-! ### The queue -/

theorem waiting_deliver (found : host.loop? generation = some loop) (event : Event) :
    (host.deliver generation event).waiting generation =
      if loop.state = .finished ∨ host.settings.eventBuffer ≤ loop.waiting.length then loop.waiting
      else loop.waiting ++ [event] := by
  have there := host.loop?_changeLoop found (fun loop =>
    if loop.state = .finished ∨ host.settings.eventBuffer ≤ loop.waiting.length then loop
    else { loop with waiting := loop.waiting ++ [event] }) generation
  rw [if_pos rfl] at there
  rw [deliver, waiting_of_found there]
  split <;> rfl

/-- What a listener is handed waits for the loop, if the loop has room and has not finished. -/
theorem accepted?_of_heard (listening : host.Listening) {event : Event}
    (heard : host.heard? generation move = some event) (made : host.after? move = some next) :
    ∃ loop, host.loop? generation = some loop ∧
      (((loop.state = .finished ∨ host.settings.eventBuffer ≤ loop.waiting.length) ∧
          host.accepted? generation move = none ∧ next.waiting generation = loop.waiting) ∨
        (¬(loop.state = .finished ∨ host.settings.eventBuffer ≤ loop.waiting.length) ∧
          host.accepted? generation move = some event ∧
            next.waiting generation = loop.waiting ++ [event])) := by
  have accepts : host.accepted? generation move =
      if next.waiting generation = host.waiting generation ++ [event] then some event else none := by
    rw [accepted?, heard, made]
    simp [Option.filter]
  cases move with
  | inject token injected =>
    simp only [heard?] at heard
    split at heard
    next listens =>
      obtain rfl := Option.some.inj heard
      cases made
      obtain ⟨session, current, listener⟩ := Option.bind_eq_some_iff.mp listens
      obtain ⟨loop, found, _⟩ := listening session generation listener
      refine ⟨loop, found, ?_⟩
      have waits := waiting_deliver found injected
      rw [inject, listens] at accepts ⊢
      rw [waits, waiting_of_found found] at accepts
      rw [waits]
      split at accepts
      next drops =>
        rw [if_neg (by simp)] at accepts
        exact .inl ⟨drops, accepts, if_pos drops⟩
      next room =>
        rw [if_pos rfl] at accepts
        exact .inr ⟨room, accepts, if_neg room⟩
    · cases heard
  | _ => cases heard

/-- What is injected for another session does not come to a loop. -/
theorem waiting_inject_of_not_heard (listening : host.Listening) {token : String} {event : Event}
    (unheard : host.heard? generation (.inject token event) = none) :
    (host.inject token event).2.waiting generation = host.waiting generation := by
  unfold inject
  split
  next other listens =>
    obtain ⟨session, current, listener⟩ := Option.bind_eq_some_iff.mp listens
    obtain ⟨loop, found, _⟩ := listening session other listener
    have different : generation ≠ other := by
      rintro rfl
      rw [heard?, if_pos listens] at unheard
      cases unheard
    rw [deliver, waiting, waiting, loop?_changeLoop host found, if_neg different]
  · rfl

/-- A loop that takes a step dispatches the first of the events that wait, or takes none. -/
theorem waiting_advance_loop (stepped : host.advance (.loop generation) = some next) :
    (host.dispatched? generation (.step (.loop generation))).toList ++ next.waiting generation =
      host.waiting generation := by
  have made := stepped
  simp only [advance, Option.bind_eq_some_iff] at stepped
  obtain ⟨loop, found, stepped⟩ := stepped
  have dispatches {later : SessionLoop} (there : next.loop? generation = some later) :
      host.dispatched? generation (.step (.loop generation)) =
        loop.waiting.head?.filter fun event => loop.state = .idle ∧
          later.state = .replying (Dispatch.calls loop.handlers event) := by
    simp [dispatched?, found, made, there]
  have moved (waiting : List Event) (state : LoopState) (recorded : List (String × Call))
      (sendsStarted : Nat) := (loop?_moveLoop found waiting state recorded sendsStarted generation).trans
        (if_pos rfl)
  obtain ⟨_, steps⟩ := advanceLoop_steps found stepped
  cases steps with
  | takes event rest idle waits =>
    rw [dispatches (moved ..), waiting_of_found (moved ..), waiting_of_found found, waits]
    simp [idle, Option.filter]
  | replies state recorded sendsStarted busy =>
    rw [dispatches (moved ..), waiting_of_found (moved ..), waiting_of_found found]
    simp [busy]
  | stops =>
    rw [dispatches (moved ..), waiting_of_found (moved ..), waiting_of_found found]
    simp
  | reports idle empty =>
    have there := moved [] .finished host.transport.recorded host.transport.sendsStarted
    rw [dispatches there, waiting_of_found found, empty]
    exact waiting_of_found there

/-- The law of the queue: what is accepted comes behind what waits, and what is dispatched has been in
front. -/
theorem waiting_after (listening : host.Listening) (made : host.after? move = some next) :
    (host.dispatched? generation move).toList ++ next.waiting generation =
      host.waiting generation ++ (host.accepted? generation move).toList := by
  have unheard (silent : host.heard? generation move = none) :
      host.accepted? generation move = none := by
    rw [accepted?, silent]
    rfl
  by_cases isStep : ∀ process, move ≠ .step process
  · have undispatched : host.dispatched? generation move = none := by
      cases move with
      | step process => exact absurd rfl (isStep process)
      | _ => rfl
    rw [undispatched]
    by_cases injects : ∀ token event, move ≠ .inject token event
    · have silent : host.heard? generation move = none := by
        cases move with
        | inject token event => exact absurd rfl (injects token event)
        | _ => rfl
      rw [unheard silent, waiting_of_loops (loops_after_aside made isStep injects)]
      simp
    · obtain ⟨token, event, rfl⟩ : ∃ token event, move = .inject token event := by simpa using injects
      cases heard : host.heard? generation (.inject token event) with
      | none =>
        cases made
        rw [unheard heard, waiting_inject_of_not_heard listening heard]
        simp
      | some handed =>
        obtain ⟨loop, found, ⟨_, accepts, waits⟩ | ⟨_, accepts, waits⟩⟩ :=
          accepted?_of_heard listening heard made
        · rw [accepts, waits, waiting_of_found found]
          simp
        · rw [accepts, waits, waiting_of_found found]
          simp
  obtain ⟨process, rfl⟩ : ∃ process, move = .step process := by simpa using isStep
  rw [unheard rfl]
  change host.advance process = some next at made
  cases process with
  | task number =>
    rw [waiting_advance_task made]
    simp [dispatched?]
  | loop moved =>
    by_cases own : moved = generation
    · subst own
      rw [waiting_advance_loop made]
      exact (List.append_nil _).symm
    · rw [waiting, waiting, advance_loop?_of_ne made (Ne.symm own), dispatched?, if_neg own]
      exact (List.append_nil _).symm

theorem waiting_seeded (patterns : PatternEngine) (settings : ManagerSettings) (bots : List Bot) :
    (seeded patterns settings bots).waiting generation = [] := by
  simp [waiting, loop?, seeded]

/-- In the course of a run what has been accepted is what has been dispatched, and what waits. -/
theorem Run.queue {patterns : PatternEngine} {settings : ManagerSettings} {bots : List Bot} {moves : List Move}
    (run : Run (seeded patterns settings bots) moves host) (generation : Nat) :
    along (accepted? generation) (seeded patterns settings bots) moves =
      along (dispatched? generation) (seeded patterns settings bots) moves ++ host.waiting generation := by
  refine @Run.keeps_history _ _ _ (fun moves host =>
    along (accepted? generation) (seeded patterns settings bots) moves =
      along (dispatched? generation) (seeded patterns settings bots) moves ++ host.waiting generation)
    ?_ ?_ run
  · simp [along, waiting_seeded]
  · intro moves host next move run before made
    have listening := Reachable.listening ⟨patterns, settings, bots, moves, run⟩
    rw [run.along_concat made, run.along_concat made, before, List.append_assoc,
      ← waiting_after listening made, List.append_assoc]

/-! ### Room in the queue -/

theorem settings_after (made : host.after? move = some next) : next.settings = host.settings := by
  refine @after?_kept (fun next => next.settings = host.settings) ?_ ?_ ?_ ?_ _ _ _ rfl made
  · exact fun _ _ _ same => same
  · exact fun _ same _ _ => same
  · exact fun _ _ _ _ same _ => same
  · exact fun same stepped => (advance_frame stepped).1.trans same

theorem Run.settings {moves : List Move} (run : Run host moves next) :
    next.settings = host.settings :=
  @Run.keeps (fun next => next.settings = host.settings)
    (fun same made => (settings_after made).trans same) _ _ _ run rfl

/-- No more events wait for a loop than may. -/
theorem Reachable.waiting_le (reachable : host.Reachable) (generation : Nat) :
    (host.waiting generation).length ≤ host.settings.eventBuffer := by
  refine @Reachable.invariant
    (fun host => (host.waiting generation).length ≤ host.settings.eventBuffer) ?_ ?_ _ reachable
  · intro patterns settings bots
    rw [waiting_seeded]
    exact Nat.zero_le _
  · intro host next move reachable before made
    rw [settings_after made]
    have law := congrArg List.length (@waiting_after _ _ _ generation reachable.listening made)
    rw [List.length_append, List.length_append] at law
    cases accepts : host.accepted? generation move with
    | none =>
      rw [accepts, Option.toList_none, List.length_nil] at law
      omega
    | some event =>
      have heard := (Option.filter_eq_some_iff.mp accepts).1
      obtain ⟨loop, found, ⟨_, refuses, _⟩ | ⟨room, _, waits⟩⟩ :=
        accepted?_of_heard reachable.listening heard made
      · rw [refuses] at accepts
        cases accepts
      · rw [waits, List.length_append, List.length_singleton]
        omega

/-! ### The end of a session -/

/-- A task that is to reap was there before, or the loop that it is to reap has just found that nothing
waits for it. -/
theorem reap_of_after (made : host.after? move = some next) {number : TaskNumber} {record : Task}
    (found' : next.task? number = some record) (operation : record.operation = .reap generation) :
    (∃ task, host.task? number = some task ∧ task.operation = .reap generation) ∨
      ∃ loop, next.loop? generation = some loop ∧ loop.state = .finished ∧ loop.waiting = [] := by
  by_cases isStep : ∀ process, move ≠ .step process
  · left
    have known : record.operation.isCall = true ∨ host.task? number = some record := by
      refine @after?_kept_aside (fun next => ∀ record, next.task? number = some record →
        record.operation.isCall = true ∨ host.task? number = some record) ?_ ?_ ?_ _ _ _
        (fun _ found => .inr found) made isStep record found'
      · intro middle operation bot isCall before record found
        obtain ⟨rfl, rfl⟩ | found := task?_addTask_cases found
        · exact .inl isCall
        · exact before record found
      · exact fun _ before _ _ => before
      · exact fun _ _ _ _ before _ => before
    rcases known with isCall | found
    · rw [operation] at isCall
      cases isCall
    · exact ⟨record, found, operation⟩
  obtain ⟨process, rfl⟩ : ∃ process, move = .step process := by simpa using isStep
  change host.advance process = some next at made
  cases process with
  | task changed =>
    left
    by_cases own : number = changed
    · subst own
      obtain ⟨task, found, _⟩ := advance_task_cases made
      obtain ⟨lock, state, there⟩ := task?_after
        (show host.after? (.step (.task number)) = some next from made) found
      rw [Option.some.inj (found'.symm.trans there)] at operation
      exact ⟨task, found, operation⟩
    · exact ⟨record, (advance_task_other made own).symm.trans found', operation⟩
  | loop moved =>
    simp only [Host.advance, Option.bind_eq_some_iff] at made
    obtain ⟨loop, found, stepped⟩ := made
    obtain ⟨_, steps⟩ := advanceLoop_steps found stepped
    cases steps with
    | takes | replies | stops => exact .inl ⟨record, found', operation⟩
    | reports =>
      obtain ⟨rfl, rfl⟩ | found' := task?_addTask_cases found'
      · cases operation
        exact .inr ⟨_, (loop?_moveLoop found ..).trans (if_pos rfl), rfl, rfl⟩
      · exact .inl ⟨record, found', operation⟩

/-- A loop whose end has been reported has finished, and nothing waits for it. -/
theorem Reachable.drained (reachable : host.Reachable) {number : TaskNumber} {task : Task}
    (found : host.task? number = some task) (operation : task.operation = .reap generation) :
    ∃ loop, host.loop? generation = some loop ∧ loop.state = .finished ∧ loop.waiting = [] := by
  refine @Reachable.invariant (fun host => ∀ task, host.task? number = some task →
    task.operation = .reap generation →
      ∃ loop, host.loop? generation = some loop ∧ loop.state = .finished ∧ loop.waiting = [])
    ?_ ?_ _ reachable task found operation
  · intro patterns settings bots task found
    cases found
  · intro host next move _ before made record found' operation
    rcases reap_of_after made found' operation with ⟨task, found, same⟩ | new
    · obtain ⟨loop, there, finished, empty⟩ := before task found same
      obtain ⟨later, there', marked⟩ := Run.loop?_of_finished (.move made (.rest next)) there finished
      exact ⟨later, there', (congrArg (·.state) marked).trans finished,
        (congrArg (·.waiting) marked).trans empty⟩
    · exact new

/-- A loop that has finished with a move was told to stop, or has taken all its events and reports the
end of its session. -/
theorem ends_of_finished (made : host.after? move = some next)
    (found : host.loop? generation = some loop) (unfinished : loop.state ≠ .finished)
    {later : SessionLoop} (there : next.loop? generation = some later)
    (finished : later.state = .finished) :
    loop.cancelled = true ∨ loop.aborted = true ∨
      (loop.state = .idle ∧ host.hears generation loop = false ∧ loop.waiting = [] ∧
        ∃ number, next.task? number = some ⟨.reap generation, loop.bot, none, .created⟩) := by
  by_cases own : move = .step (.loop generation)
  · subst own
    simp only [after?, Host.advance, found, Option.bind_some] at made
    obtain ⟨_, steps⟩ := advanceLoop_steps found made
    have moved (waiting : List Event) (state : LoopState) (recorded : List (String × Call))
        (sendsStarted : Nat) := (loop?_moveLoop found waiting state recorded sendsStarted
          generation).trans (if_pos rfl)
    cases steps with
    | takes =>
      rw [moved] at there
      obtain rfl := Option.some.inj there
      cases finished
    | replies state recorded sendsStarted busy on =>
      rw [moved] at there
      obtain rfl := Option.some.inj there
      exact absurd finished on
    | stops told => exact told.imp id .inl
    | reports idle empty deaf =>
      refine .inr (.inr ⟨idle, deaf, empty, host.tasks.length, ?_⟩)
      exact task?_addTask_self ..
  · obtain ⟨_, _, _, same⟩ := loop?_after_other made own found
    rw [there] at same
    obtain rfl := Option.some.inj same
    exact absurd finished unfinished

/-- In every run and for every loop, events are dispatched in the order in which they were accepted,
each once. An event is refused if and only if as many wait as may or the loop has finished. A loop that
is not told to stop finishes when everything that was accepted has been dispatched and its session can
hand it nothing more, and only then is its end reported. -/
theorem Run.dispatches_in_order {patterns : PatternEngine} {settings : ManagerSettings} {bots : List Bot} {moves : List Move}
    (run : Run (seeded patterns settings bots) moves host) (found : host.loop? generation = some loop) :
    Delivers (seeded patterns settings bots) moves host generation loop := by
  have reachable : host.Reachable := ⟨patterns, settings, bots, moves, run⟩
  have queued := run.queue generation
  rw [waiting_of_found found] at queued
  constructor
  · refine along_sublist (fun host move => ?_) _ _
    unfold accepted?
    cases host.heard? generation move with
    | none => exact .slnil
    | some event =>
      rw [Option.filter]
      split
      · exact .refl _
      · exact List.nil_sublist _
  · rw [queued]
    exact List.prefix_append ..
  · exact queued
  · intro move event heard
    have bound := reachable.waiting_le generation
    rw [waiting_of_found found, run.settings] at bound
    obtain ⟨next, made⟩ : ∃ next, host.after? move = some next := by
      cases move with
      | inject => exact ⟨_, rfl⟩
      | _ => cases heard
    obtain ⟨loop', found', accepts⟩ := accepted?_of_heard reachable.listening heard made
    obtain rfl : loop = loop' := Option.some.inj (found.symm.trans found')
    rw [run.settings] at accepts
    rcases accepts with ⟨finished | full, refused, _⟩ | ⟨room, accepted, _⟩
    · exact ⟨fun _ => .inr finished, fun _ => refused⟩
    · exact ⟨fun _ => .inl (Nat.le_antisymm bound full), fun _ => refused⟩
    · refine ⟨fun refused => absurd (refused.symm.trans accepted) nofun, fun or => ?_⟩
      exact absurd (or.symm.imp id fun full => Nat.le_of_eq full.symm) room
  · intro move next later made unfinished there finished
    refine (ends_of_finished made found unfinished there finished).imp id fun or => ?_
    refine or.imp id fun ⟨idle, deaf, empty, reports⟩ => ⟨idle, deaf, ?_, reports⟩
    rw [queued, empty, List.append_nil]
  · intro number task found' operation
    obtain ⟨loop', there, finished, empty⟩ := reachable.drained found' operation
    obtain rfl : loop = loop' := Option.some.inj (found.symm.trans there)
    exact ⟨finished, by rw [queued, empty, List.append_nil]⟩

/-- Of three messages the second finds the buffer full. The session ends while the loop replies to the
first, and the loop reports that after it has replied to the third. -/
def secondRefused : List Move :=
  [.begin .start "bot"] ++ .replicate 9 (.step (.task 0)) ++
    [.inject "token" (.ofText 1 "first"), .inject "token" (.ofText 1 "second"), .step (.loop 1),
      .inject "token" (.ofText 1 "third"), .endSession "token"] ++
    .replicate 8 (.step (.loop 1))

theorem dispatches_in_order_secondRefused : ∃ host loop,
    Run (seeded .unlimited { eventBuffer := 1 } [.plain "bot" "token"]) secondRefused host ∧
      host.loop? 1 = some loop ∧ loop.state = .finished ∧
      along (dispatched? 1) (seeded .unlimited { eventBuffer := 1 } [.plain "bot" "token"]) secondRefused =
        [.ofText 1 "first", .ofText 1 "third"] := by
  have played : (((seeded .unlimited { eventBuffer := 1 } [.plain "bot" "token"]).play secondRefused).bind
      fun host => (host.loop? 1).bind fun _ => (host.task? 1).map Task.operation) =
        some (.reap 1) := by rfl
  have accepted : along (accepted? 1) (seeded .unlimited { eventBuffer := 1 } [.plain "bot" "token"])
      secondRefused = [.ofText 1 "first", .ofText 1 "third"] := by rfl
  simp only [Option.bind_eq_some_iff, Option.map_eq_some_iff] at played
  obtain ⟨host, played, loop, there, task, found, operation⟩ := played
  have run := run_iff.mpr played
  obtain ⟨finished, all⟩ := (run.dispatches_in_order there).reported found operation
  exact ⟨host, loop, run, there, finished, all.trans accepted⟩

end Host

end BotHost
