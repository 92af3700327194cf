/-
How polling goes on after a reply.

A session depends on the replies that it has had only through the failures in a row at their end: the wait
after the next failure is one second, doubled for each of them, up to a minute. A reply that grants updates
sets the count back, and one that rejects the token ends the session for good. Between a failure and the
next request there is nothing but the wait, so that request is the one that has failed. A session that is
being closed looks at no reply: it hands over the rest of the batch that it is at, and then stops where it
would wait or ask.
-/

import BotHost.Proofs.Telegram.Exchange
import BotHost.Proofs.Telegram.Verdicts

namespace BotHost.Telegram

variable {Listener : Type}

/-! ### Counting failures -/

/-- The replies among moves. -/
def repliesOf (moves : List (ConductMove Listener)) : List Reply :=
  moves.filterMap fun
    | .receive reply => some reply
    | _ => none

/-- How many replies in a row have failed at the end. -/
def failuresInARow (replies : List Reply) : Nat :=
  (replies.reverse.takeWhile (Reply.fails updatesOfJson?)).length

theorem failuresInARow_of_fails {reply : Reply} (fails : reply.fails updatesOfJson? = true)
    (replies : List Reply) : failuresInARow (replies ++ [reply]) = failuresInARow replies + 1 := by
  simp [failuresInARow, fails]

theorem failuresInARow_of_not_fails {reply : Reply} (other : reply.fails updatesOfJson? = false)
    (replies : List Reply) : failuresInARow (replies ++ [reply]) = 0 := by
  simp [failuresInARow, other]

/-- The wait after the next failure goes by the failures so far. -/
def Polling.Counts (polling : Polling) (failures : Nat) : Prop :=
  polling.failures = failures ∧ polling.delay = min (2 ^ failures) Polling.longestDelay

/-- A failure counts as one more, and doubles the wait up to the longest. -/
theorem Polling.Counts.fail {polling : Polling} {failures : Nat} (counts : polling.Counts failures) :
    polling.fail.Counts (failures + 1) := by
  obtain ⟨rfl, delay⟩ := counts
  refine ⟨rfl, ?_⟩
  show min (2 * polling.delay) longestDelay = _
  rw [delay, pow_succ, longestDelay]
  omega

theorem Polling.counts_reset (polling : Polling) : polling.reset.Counts 0 := ⟨rfl, rfl⟩

/-! ### Going on alone -/

/-- What polling does by itself: it stops where it would wait or ask, because the session is being closed,
begins as soon as somebody listens, takes an update, or is done with a batch. -/
inductive Advances (session : Session Listener) : Session Listener → Prop
  | stops (cancelled : session.cancelled = true)
      (waiting : session.state = .unheard ∨ session.state = .requesting ∨
        ∃ seconds, session.state = .pausing seconds) :
      Advances session { session with state := .finished }
  | begins (going : session.cancelled = false) (unheard : session.state = .unheard) :
      Advances session { session with state := .requesting }
  | takes {update : Update} {rest : List Update}
      (delivering : session.state = .delivering (update :: rest)) :
      Advances session
        { session with polling := session.polling.take update, state := .delivering rest }
  | ends (delivered : session.state = .delivering []) :
      Advances session { session with state := .requesting }

/-- What a session does by itself is one of the four things it can do. -/
theorem advances_of_advance {session stepped : Session Listener} {handed : Option (Listener × Event)}
    (advanced : session.advance = some (handed, stepped)) : Advances session stepped := by
  unfold Session.advance at advanced
  split at advanced
  next unheard =>
    split at advanced
    next cancelled =>
      cases advanced
      exact .stops cancelled (.inl unheard)
    next going =>
      split at advanced <;> cases advanced
      exact .begins (by simpa using going) unheard
  next requesting =>
    split at advanced <;> cases advanced
    next cancelled => exact .stops cancelled (.inr (.inl requesting))
  next seconds pausing =>
    split at advanced <;> cases advanced
    next cancelled => exact .stops cancelled (.inr (.inr ⟨seconds, pausing⟩))
  next delivered =>
    cases advanced
    exact .ends delivered
  next update rest delivering =>
    split at advanced <;> cases advanced <;> exact .takes delivering
  next => cases advanced

namespace Conduct

variable {conduct next later : Conduct Listener} {move : ConductMove Listener}

/-! ### Who moves polling -/

/-- The moves of polling itself. -/
def Polls : ConductMove Listener → Prop
  | .advance | .receive _ | .wake => True
  | _ => False

/-- Nothing else moves polling. -/
theorem polling_aside (made : conduct.after? move = some next) (aside : ¬Polls move) :
    next.session.state = conduct.session.state ∧ next.session.polling = conduct.session.polling ∧
      next.session.pollTimeout = conduct.session.pollTimeout := by
  cases move with
  | listen listener =>
    cases made
    dsimp only
    unfold Session.listen
    split <;> exact ⟨rfl, rfl, rfl⟩
  | advance | receive | wake => exact absurd trivial aside
  | beginClose =>
    cases made
    exact ⟨rfl, rfl, rfl⟩
  | endClose closing =>
    obtain ⟨_, _, _, rfl⟩ := endClose_cases made
    exact ⟨rfl, rfl, rfl⟩
  | beginSend call =>
    simp only [after?] at made
    split at made <;> cases made <;> exact ⟨rfl, rfl, rfl⟩
  | endSend sending reply =>
    simp only [after?] at made
    split at made <;> cases made
    exact ⟨rfl, rfl, rfl⟩

/-- A session that moves by itself advances, and nothing else changes. -/
theorem advance_cases (made : conduct.after? .advance = some next) :
    ∃ stepped, Advances conduct.session stepped ∧ next = { conduct with session := stepped } := by
  obtain ⟨⟨_, stepped⟩, advanced, rfl⟩ := Option.map_eq_some_iff.mp made
  exact ⟨stepped, advances_of_advance advanced, rfl⟩

/-- A reply is received only while the session asks for updates. -/
theorem receive_cases {reply : Reply} (made : conduct.after? (.receive reply) = some next) :
    conduct.session.state = .requesting ∧
      next = { conduct with session := conduct.session.receive reply } := by
  simp only [after?] at made
  split at made <;> cases made
  next requesting => exact ⟨requesting, rfl⟩

theorem wake_cases (made : conduct.after? .wake = some next) :
    (∃ seconds, conduct.session.state = .pausing seconds) ∧
      next = { conduct with session := { conduct.session with
        state := if conduct.session.cancelled then .finished else .requesting } } := by
  simp only [after?] at made
  split at made <;> cases made
  next seconds pausing =>
    refine ⟨⟨seconds, pausing⟩, ?_⟩
    rw [Session.wake, pausing]

/-- A move is a step of polling, a reply, the end of a wait, or leaves polling alone. -/
theorem polling_cases (made : conduct.after? move = some next) :
    (move = .advance ∧ ∃ stepped, Advances conduct.session stepped ∧ next.session = stepped) ∨
    (∃ reply, move = .receive reply ∧ conduct.session.state = .requesting ∧
      next.session = conduct.session.receive reply) ∨
    (move = .wake ∧ (∃ seconds, conduct.session.state = .pausing seconds) ∧
      next.session = { conduct.session with
        state := if conduct.session.cancelled then .finished else .requesting }) ∨
    ¬Polls move ∧ next.session.state = conduct.session.state ∧
      next.session.polling = conduct.session.polling ∧
      next.session.pollTimeout = conduct.session.pollTimeout := by
  by_cases polls : Polls move
  · cases move with
    | advance =>
      obtain ⟨stepped, advances, rfl⟩ := advance_cases made
      exact .inl ⟨rfl, stepped, advances, rfl⟩
    | receive reply =>
      obtain ⟨requesting, rfl⟩ := receive_cases made
      exact .inr (.inl ⟨reply, rfl, requesting, rfl⟩)
    | wake =>
      obtain ⟨pausing, rfl⟩ := wake_cases made
      exact .inr (.inr (.inl ⟨rfl, pausing, rfl⟩))
    | _ => exact polls.elim
  · exact .inr (.inr (.inr ⟨polls, polling_aside made polls⟩))

/-- Nothing is set going again that has finished. -/
theorem finished_after (finished : conduct.session.state = .finished)
    (made : conduct.after? move = some next) : next.session.state = .finished := by
  rcases polling_cases made with
    ⟨-, stepped, advances, advanced⟩ | ⟨_, -, requesting, -⟩ | ⟨-, ⟨_, pausing⟩, -⟩ | ⟨-, state, -⟩
  · rw [advanced]
    cases advances with
    | stops => rfl
    | begins _ there | takes there | ends there => cases finished.symm.trans there
  · cases finished.symm.trans requesting
  · cases finished.symm.trans pausing
  · exact state.trans finished

/-! ### What always holds -/

/-- The count of failures and the wait go by the replies, as long as polling goes on. -/
def Tracks (replies : List Reply) (session : Session Listener) : Prop :=
  session.state ≠ .finished → session.polling.Counts (failuresInARow replies)

/-- With a reply the count of failures goes on by it. -/
theorem Tracks.receive {replies : List Reply} {session : Session Listener}
    (tracks : Tracks replies session) (requesting : session.state = .requesting) (reply : Reply) :
    Tracks (replies ++ [reply]) (session.receive reply) := by
  have counts := tracks (by rw [requesting]; nofun)
  cases going : session.cancelled with
  | true =>
    intro unfinished
    rw [Session.receive, requesting, going] at unfinished
    exact absurd rfl unfinished
  | false =>
    rcases reply.outcome_cases updatesOfJson? with
      ⟨rejects, -⟩ | ⟨updates, granted, -⟩ | ⟨fails, -⟩
    · rw [Session.receive_of_rejects requesting going rejects]
      exact fun unfinished => absurd rfl unfinished
    · have other : reply.fails updatesOfJson? = false := by simp [Reply.fails, granted]
      rw [Session.receive_of_granted requesting going granted, Tracks,
        failuresInARow_of_not_fails other]
      exact fun _ => Polling.counts_reset _
    · rw [Session.receive_of_fails requesting going fails, Tracks, failuresInARow_of_fails fails]
      exact fun _ => counts.fail

theorem Tracks.advance {replies : List Reply} {session stepped : Session Listener}
    (tracks : Tracks replies session) (advances : Advances session stepped) :
    Tracks replies stepped := by
  cases advances with
  | stops => exact fun unfinished => absurd rfl unfinished
  | begins _ there | takes there | ends there => exact fun _ => tracks (by rw [there]; nofun)

/-- No move but a reply changes the count of failures. -/
theorem Tracks.aside {replies : List Reply} (tracks : Tracks replies conduct.session)
    (made : conduct.after? move = some next) (unanswered : ∀ reply, move ≠ .receive reply) :
    Tracks replies next.session := by
  rcases polling_cases made with
    ⟨-, stepped, advances, advanced⟩ | ⟨reply, rfl, -⟩ | ⟨-, ⟨_, pausing⟩, woken⟩ |
      ⟨-, state, polling, -⟩
  · exact advanced ▸ tracks.advance advances
  · exact absurd rfl (unanswered reply)
  · rw [woken]
    exact fun _ => tracks (by rw [pausing]; nofun)
  · rw [Tracks, state, polling]
    exact tracks

/-- No move but a reply adds to the replies. -/
theorem repliesOf_aside (unanswered : ∀ reply, move ≠ .receive reply)
    (moves : List (ConductMove Listener)) : repliesOf (move :: moves) = repliesOf moves := by
  cases move with
  | receive reply => exact absurd rfl (unanswered reply)
  | _ => rfl

/-- Over a run the count of failures goes by the replies in it. -/
theorem Tracks.run {moves : List (ConductMove Listener)} {replies : List Reply}
    (tracks : Tracks replies conduct.session) (made : moves.foldlM after? conduct = some later) :
    Tracks (replies ++ repliesOf moves) later.session := by
  induction moves generalizing conduct replies with
  | nil =>
    cases made
    rwa [repliesOf, List.filterMap_nil, List.append_nil]
  | cons move moves inductionHypothesis =>
    simp only [List.foldlM_cons, Option.bind_eq_bind, Option.bind_eq_some_iff] at made
    obtain ⟨next, made, rest⟩ := made
    by_cases answered : ∃ reply, move = .receive reply
    · obtain ⟨reply, rfl⟩ := answered
      obtain ⟨requesting, rfl⟩ := receive_cases made
      have split : replies ++ repliesOf (.receive reply :: moves) =
          replies ++ [reply] ++ repliesOf moves := by
        rw [List.append_assoc]
        rfl
      rw [split]
      exact inductionHypothesis (tracks.receive requesting reply) rest
    · have unanswered := not_exists.mp answered
      rw [repliesOf_aside unanswered]
      exact inductionHypothesis (tracks.aside made unanswered) rest

/-! ### The wait -/

/-- Between a failure and the next request: the wait, or behind it the request. -/
structure Waits (failed : Session Listener) (woken : Prop) (session : Session Listener) : Prop where
  offset : session.polling.offset = failed.polling.offset
  pollTimeout : session.pollTimeout = failed.pollTimeout
  state : (∃ seconds, session.state = .pausing seconds) ∨ session.state = .requesting ∧ woken ∨
    session.state = .finished

/-- Between a failure and the next request a session waits, and asks only after it has been woken.
-/
theorem Waits.after {failed : Session Listener} {woken : Prop}
    (waits : Waits failed woken conduct.session) (made : conduct.after? move = some next)
    (unanswered : ∀ reply, move ≠ .receive reply) :
    Waits failed (woken ∨ move = .wake) next.session := by
  obtain ⟨offset, pollTimeout, state⟩ := waits
  rcases polling_cases made with
    ⟨-, stepped, advances, advanced⟩ | ⟨reply, rfl, -⟩ | ⟨rfl, -, woken⟩ |
      ⟨-, state', polling, pollTimeout'⟩
  · have idle : ∀ updates, conduct.session.state ≠ .delivering updates := by
      rintro updates delivering
      simp [delivering] at state
    have begun : conduct.session.state ≠ .unheard := by
      intro unheard
      simp [unheard] at state
    rw [advanced]
    cases advances with
    | stops => exact ⟨offset, pollTimeout, .inr (.inr rfl)⟩
    | begins _ unheard => exact absurd unheard begun
    | takes delivering | ends delivering => exact absurd delivering (idle _)
  · exact absurd rfl (unanswered reply)
  · rw [woken]
    refine ⟨offset, pollTimeout, .inr ?_⟩
    dsimp only
    split
    · exact .inr rfl
    · exact .inl ⟨rfl, .inr rfl⟩
  · refine ⟨polling ▸ offset, pollTimeout'.trans pollTimeout, ?_⟩
    rw [state']
    exact state.imp_right (Or.imp_left (And.imp_right .inl))

/-- Over a run without replies a session that has failed waits until it is woken. -/
theorem Waits.run {failed : Session Listener} {woken : Prop} {moves : List (ConductMove Listener)}
    (waits : Waits failed woken conduct.session) (made : moves.foldlM after? conduct = some later)
    (unanswered : repliesOf moves = []) : Waits failed (woken ∨ .wake ∈ moves) later.session := by
  induction moves generalizing conduct woken with
  | nil =>
    cases made
    simpa using waits
  | cons move moves inductionHypothesis =>
    simp only [List.foldlM_cons, Option.bind_eq_bind, Option.bind_eq_some_iff] at made
    obtain ⟨next, made, rest⟩ := made
    have unanswered' : ∀ reply, move ≠ .receive reply := by
      rintro reply rfl
      cases unanswered
    rw [repliesOf_aside unanswered'] at unanswered
    have waits' := inductionHypothesis (waits.after made unanswered') rest unanswered
    rwa [or_assoc, eq_comm, ← List.mem_cons] at waits'

/-! ### The end -/

/-- A session that asks for nothing more, hands nothing over, and that nobody listens to. -/
structure Over (conduct : Conduct Listener) : Prop where
  finished : conduct.session.state = .finished
  unheard : conduct.session.listener = none
  unasked : conduct.session.request? = none
  unanswered : ∀ reply, conduct.after? (.receive reply) = none
  unreached : ∀ move, conduct.handed? move = none
  deaf : ∀ listener, conduct.after? (.listen listener) = some conduct

/-- A session that has stopped and takes no listener is over. -/
theorem over_of_hushed (finished : conduct.session.state = .finished) (hushed : Hushed conduct.session) :
    conduct.Over where
  finished := finished
  unheard := hushed.1
  unasked := by rw [Session.request?, finished]
  unanswered reply := by rw [after?, finished]
  unreached := (quiet_of_hushed hushed).unreached
  deaf := (quiet_of_hushed hushed).deaf

/-- Once the token has been rejected there is nothing more. -/
theorem over_of_rejects {reply : Reply} (going : conduct.session.cancelled = false)
    (received : conduct.after? (.receive reply) = some next)
    (rejects : reply.rejects updatesOfJson? = true) (leads : Leads after? next later) : later.Over := by
  obtain ⟨requesting, rfl⟩ := receive_cases received
  have kept : later.session.state = .finished ∧ Hushed later.session := by
    refine leads.keeps (fun later => later.session.state = .finished ∧ Hushed later.session) ?_ ?_
    · exact fun gone made => ⟨finished_after gone.1 made, gone.2.goes (goes_of_after made)⟩
    · dsimp only
      rw [Session.receive_of_rejects requesting going rejects]
      exact ⟨rfl, rfl, Bool.or_true _⟩
  exact over_of_hushed kept.1 kept.2

/-! ### Being closed -/

/-- A session that is being closed stays so. -/
theorem cancelled_of_goes {session next : Session Listener} (goes : Goes session next)
    (cancelled : session.cancelled = true) : next.cancelled = true := by
  cases goes with
  | listens listener =>
    unfold Session.listen
    split <;> exact cancelled
  | polls _ same | ends _ _ same => exact same.trans cancelled
  | closes => rfl
  | closed => exact cancelled

/-- How a session goes on that is being closed: it asks for nothing and looks at no reply, hands over what
was left of the batch that it was at, and stops where it would wait or ask. -/
structure WindsUp (conduct later : Conduct Listener) : Prop where
  unasked : later.session.request? = none
  unbrought : ∀ move, later.brought move = []
  remaining : later.session.remaining <:+ conduct.session.remaining
  handed : ∀ {move listener event}, later.handed? move = some (listener, event) →
    ∃ update ∈ later.session.remaining, update.event = some event
  advances : later.session.state ≠ .finished → ∃ next, later.after? .advance = some next
  stops : (∀ updates, later.session.state ≠ .delivering updates) → ∀ {move next}, Polls move →
    later.after? move = some next → next.session.state = .finished

/-- What is handed over is the event of an update that was left. -/
theorem event_of_progress {session next : Session Listener} {handed : Option (Listener × Event)}
    {brought : List Update} {listener : Listener} {event : Event}
    (progress : Exchange.Progress session next handed brought) (hands : handed = some (listener, event)) :
    ∃ update ∈ session.remaining, update.event = some event := by
  cases progress with
  | keeps | brings => cases hands
  | @takes update rest delivering =>
    simp only [Option.bind_eq_some_iff, Option.map_eq_some_iff, Prod.mk.injEq] at hands
    obtain ⟨_, -, _, told, -, rfl⟩ := hands
    exact ⟨update, by simp [Session.remaining, delivering], told⟩

/-- What is handed over comes from the batch that is being handed over. -/
theorem event_of_handed {listener : Listener} {event : Event}
    (hands : conduct.handed? move = some (listener, event)) :
    ∃ update ∈ conduct.session.remaining, update.event = some event := by
  cases move with
  | advance =>
    obtain ⟨⟨_, stepped⟩, advanced, rfl⟩ := Option.bind_eq_some_iff.mp hands
    exact event_of_progress (Exchange.progress_of_advance advanced) rfl
  | _ => cases hands

/-- While a session is being closed nothing is added to what is left. -/
theorem remaining_of_progress {session next : Session Listener} {handed : Option (Listener × Event)}
    {brought : List Update} (cancelled : session.cancelled = true)
    (progress : Exchange.Progress session next handed brought) :
    next.remaining <:+ session.remaining := by
  cases progress with
  | keeps _ remaining => exact remaining ▸ List.suffix_rfl
  | @takes update rest delivering taken =>
    rw [taken, Session.remaining, Session.remaining, delivering]
    exact List.suffix_cons update rest
  | brings _ going => cases cancelled.symm.trans going

/-- A session that is being closed and has not stopped can go on by itself. -/
theorem advance_isSome (cancelled : conduct.session.cancelled = true)
    (going : conduct.session.state ≠ .finished) : ∃ next, conduct.after? .advance = some next := by
  have advanced : conduct.session.advance.isSome = true := by
    unfold Session.advance
    split
    · rw [if_pos cancelled]
      rfl
    · rw [if_pos cancelled]
      rfl
    · rw [if_pos cancelled]
      rfl
    · rfl
    · split <;> rfl
    next finished => exact absurd finished going
  obtain ⟨step, advanced⟩ := Option.isSome_iff_exists.mp advanced
  exact ⟨_, Option.map_eq_some_iff.mpr ⟨step, advanced, rfl⟩⟩

/-- Where it would wait or ask, a session that is being closed stops. -/
theorem finished_of_cancelled (cancelled : conduct.session.cancelled = true)
    (idle : ∀ updates, conduct.session.state ≠ .delivering updates) (polls : Polls move)
    (made : conduct.after? move = some next) : next.session.state = .finished := by
  rcases polling_cases made with
    ⟨-, stepped, advances, advanced⟩ | ⟨reply, -, requesting, received⟩ | ⟨-, -, woken⟩ | ⟨aside, -⟩
  · rw [advanced]
    cases advances with
    | stops => rfl
    | begins going => cases cancelled.symm.trans going
    | takes delivering | ends delivering => exact absurd delivering (idle _)
  · rw [received, Session.receive, requesting, cancelled]
    rfl
  · rw [woken, cancelled]
    rfl
  · exact absurd polls aside

/-- A session that is being closed winds up, however far it has come. -/
theorem windsUp (cancelled : conduct.session.cancelled = true) (leads : Leads after? conduct later) :
    WindsUp conduct later := by
  have kept : later.session.cancelled = true ∧
      later.session.remaining <:+ conduct.session.remaining := by
    refine leads.keeps (fun later => later.session.cancelled = true ∧
      later.session.remaining <:+ conduct.session.remaining) ?_ ⟨cancelled, List.suffix_rfl⟩
    rintro state next move ⟨cancelled, suffix⟩ made
    exact ⟨cancelled_of_goes (goes_of_after made) cancelled,
      (remaining_of_progress cancelled (Exchange.progress_of_after made)).trans suffix⟩
  obtain ⟨cancelled, remaining⟩ := kept
  exact {
    unasked := by
      refine Option.eq_none_iff_forall_ne_some.mpr fun request asked => ?_
      cases cancelled.symm.trans (Session.request?_eq_some asked).2.1
    unbrought := by
      intro move
      cases move with
      | receive reply => exact if_pos cancelled
      | _ => rfl
    remaining
    handed := event_of_handed
    advances := advance_isSome cancelled
    stops := fun idle _ _ polls made => finished_of_cancelled cancelled idle polls made }

/-! ### All that comes of a reply -/

/-- What a session does with a reply after earlier ones. -/
structure Heeds (earlier : List Reply) (conduct : Conduct Listener) (reply : Reply)
    (next : Conduct Listener) : Prop where
  delivers : ∀ updates, reply.granted? updatesOfJson? = some updates →
    next.session.state = .delivering updates
  waits : reply.fails updatesOfJson? = true →
    next.session.state = .pausing (min (2 ^ (failuresInARow (earlier ++ [reply]) - 1)) 60)
  wakes : reply.fails updatesOfJson? = true → ∃ woken, next.after? .wake = some woken ∧
    woken.session.request? = conduct.session.request?
  repeats : reply.fails updatesOfJson? = true → ∀ {moves later request},
    moves.foldlM after? next = some later → repliesOf moves = [] →
      later.session.request? = some request →
        .wake ∈ moves ∧ conduct.session.request? = some request
  ends : reply.rejects updatesOfJson? = true → ∀ {later}, Leads after? next later → later.Over

/-- A reply that comes while the session is not being closed is heeded. -/
theorem heeds_of_received {earlier : List Reply} {reply : Reply}
    (tracks : Tracks earlier conduct.session) (going : conduct.session.cancelled = false)
    (received : conduct.after? (.receive reply) = some next) : Heeds earlier conduct reply next := by
  obtain ⟨requesting, same⟩ := receive_cases received
  have asks : conduct.session.request? =
      some (.getUpdates conduct.session.polling.offset conduct.session.pollTimeout) := by
    rw [Session.request?, requesting, going]
    rfl
  refine ⟨fun updates granted => ?_, fun fails => ?_, fun fails => ?_, fun fails moves later request
    made unanswered asked => ?_, fun rejects later => over_of_rejects going received rejects⟩
  · rw [same, Session.receive_of_granted requesting going granted]
  · have polling : conduct.session.state ≠ .finished := by simp [requesting]
    have counts := tracks polling
    rw [same, Session.receive_of_fails requesting going fails, failuresInARow_of_fails fails,
      Nat.add_sub_cancel, counts.2]
    rfl
  · rw [same, Session.receive_of_fails requesting going fails, asks]
    refine ⟨_, rfl, ?_⟩
    simp only [Session.wake, Session.request?, going]
    rfl
  · have waits : Waits conduct.session False next.session := by
      rw [same, Session.receive_of_fails requesting going fails]
      exact ⟨rfl, rfl, .inl ⟨_, rfl⟩⟩
    have later' := waits.run made unanswered
    obtain ⟨requesting', -, rfl⟩ := Session.request?_eq_some asked
    rw [asks, later'.offset, later'.pollTimeout]
    refine ⟨?_, rfl⟩
    rcases later'.state with ⟨_, pausing⟩ | ⟨-, woken⟩ | finished
    · cases requesting'.symm.trans pausing
    · exact woken.resolve_left id
    · cases requesting'.symm.trans finished

/-- A reply counts as what it says, and what a session does with it goes by that and by the failures in a
row before it; and a session that is being closed does nothing with replies but stops. -/
theorem polls_as_replied {opened : Conduct Listener} {moves : List (ConductMove Listener)}
    (opens : opened.Opened) (made : moves.foldlM after? opened = some conduct) :
    (∀ reply : Reply,
      ((∃ reason, reply.outcome updatesOfJson? = .error (.unauthorized reason)) ↔
        reply.rejects updatesOfJson? = true) ∧
      (∀ updates, reply.outcome updatesOfJson? = .ok updates ↔
        reply.granted? updatesOfJson? = some updates) ∧
      ((∃ fault, reply.outcome updatesOfJson? = .error fault ∧ ∀ reason, fault ≠ .unauthorized reason) ↔
        reply.fails updatesOfJson? = true)) ∧
    (conduct.session.cancelled = false → ∀ {reply next},
      conduct.after? (.receive reply) = some next → Heeds (repliesOf moves) conduct reply next) ∧
    (conduct.session.cancelled = true → ∀ {later}, Leads after? conduct later →
      WindsUp conduct later) := by
  refine ⟨fun reply => ⟨Reply.outcome_eq_unauthorized_iff, fun updates => Reply.outcome_eq_ok_iff,
    Reply.outcome_eq_other_iff⟩, fun going reply next received => ?_,
    fun cancelled later leads => windsUp cancelled leads⟩
  obtain ⟨id, base, pollTimeout, rfl⟩ := opens.fresh
  have tracks : Tracks [] ({ id, base, pollTimeout } : Session Listener) := fun _ => ⟨rfl, rfl⟩
  exact heeds_of_received (tracks.run made) going received

/-- A failure, a batch, and then one more failure. -/
def failedAgain : List (ConductMove Nat) :=
  [.listen 1, .advance, .receive .lost, .wake, .receive Exchange.greetingReply, .advance, .advance,
    .advance, .receive .lost, .wake]

/-- The second failure in a row, the failure before the batch not counted, is followed by two seconds. -/
theorem polls_as_replied_failedAgain : ∃ conduct next : Conduct Nat,
    (begun Nat).Opened ∧ failedAgain.foldlM after? (begun Nat) = some conduct ∧
      conduct.session.request? = some (.getUpdates 6 30) ∧
      conduct.after? (.receive .lost) = some next ∧ next.session.state = .pausing 2 := by
  have played : (failedAgain.foldlM after? (begun Nat)).map (fun conduct =>
      (conduct.session.request?, conduct.session.cancelled, conduct.session.state)) =
      some (some (.getUpdates 6 30), false, .requesting) := by decide +kernel
  simp only [Option.map_eq_some_iff, Prod.mk.injEq] at played
  obtain ⟨conduct, made, asked, going, requesting⟩ := played
  have received : conduct.after? (.receive .lost) =
      some { conduct with session := conduct.session.receive .lost } := by
    rw [after?, requesting]
  have heeds := (polls_as_replied begun_opened made).2.1 going received
  have second : failuresInARow (repliesOf failedAgain ++ [.lost]) = 2 := by decide +kernel
  refine ⟨conduct, _, begun_opened, made, asked, received, (heeds.waits rfl).trans ?_⟩
  rw [second]
  rfl

end Conduct

end BotHost.Telegram
