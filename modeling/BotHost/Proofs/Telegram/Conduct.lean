/-
A session of the Telegram transport among everything that can happen to it.

Polling takes its own steps, replies come or are lost, and closes overlap: each has a beginning and an
end, and the ends may come in another order. What a session needs to stay silent is only that its
listener is gone and that it takes no other, because it is being closed or has ended. Fetching the listener
and handing an event to it are one step here, so a close that ends between the two on another thread is
left out.
-/

import BotHost.Proofs.Session.Contract
import BotHost.Telegram.Session

namespace BotHost.Telegram

/-- A close that has begun: whether it has to wait for polling to stop, and whether it has returned. -/
structure Closing where
  waits : Bool
  returned : Bool
deriving DecidableEq, Repr

/-- What can happen to a session. Closes and calls are told apart by the order in which they begin. -/
inductive ConductMove (Listener : Type) where
  | listen (listener : Listener)
  | advance
  | receive (reply : Reply)
  | wake
  | beginClose
  | endClose (closing : Nat)
  | beginSend (call : Call)
  | endSend (sending : Nat) (reply : Reply)
deriving Repr

/-- A session, with the closes and the calls that have begun and the requests made for the calls. -/
structure Conduct (Listener : Type) where
  session : Session Listener
  closings : List Closing := []
  sendings : List Sending := []
  requested : List Request := []

namespace Conduct

variable {Listener : Type}

/-- A session that has just been opened. -/
def Opened (conduct : Conduct Listener) : Prop :=
  ∃ (transport next : Transport) (token : String) (reply : Reply),
    transport.openSession token reply = (.ok conduct.session, next) ∧
      conduct = { session := conduct.session }

/-- The session after a move. -/
def after? (conduct : Conduct Listener) : ConductMove Listener → Option (Conduct Listener)
  | .listen listener => some { conduct with session := conduct.session.listen listener }
  | .advance => conduct.session.advance.map fun (_, session) => { conduct with session }
  | .receive reply =>
    match conduct.session.state with
    | .requesting => some { conduct with session := conduct.session.receive reply }
    | _ => none
  | .wake =>
    match conduct.session.state with
    | .pausing _ => some { conduct with session := conduct.session.wake }
    | _ => none
  | .beginClose =>
    let (waits, session) := conduct.session.beginClose
    some { conduct with session, closings := conduct.closings ++ [⟨waits, false⟩] }
  | .endClose closing =>
    match conduct.closings[closing]? with
    | some ⟨waits, false⟩ =>
      if conduct.session.canEndClose waits then
        some { conduct with
          session := conduct.session.endClose
          closings := conduct.closings.set closing ⟨waits, true⟩ }
      else none
    | _ => none
  | .beginSend call =>
    match conduct.session.requestOf call with
    | .ok request =>
      some { conduct with
        sendings := conduct.sendings ++ [⟨call, none⟩]
        requested := conduct.requested ++ [request] }
    | .error fault =>
      some { conduct with sendings := conduct.sendings ++ [⟨call, some (.error fault)⟩] }
  | .endSend sending reply =>
    match conduct.sendings[sending]? with
    | some ⟨call, none⟩ =>
      some { conduct with
        sendings := conduct.sendings.set sending ⟨call, some (Session.sent reply)⟩ }
    | _ => none

/-- The event that a move hands over, and to whom. -/
def handed? (conduct : Conduct Listener) : ConductMove Listener → Option (Listener × Event)
  | .advance => conduct.session.advance.bind Prod.fst
  | _ => none

/-- The course of a session from its opening. -/
def course (Listener : Type) :
    SessionCourse (Conduct Listener) (ConductMove Listener) Listener Request where
  begins := Opened
  after? := after?
  listener? conduct := conduct.session.listener
  handed? := handed?
  listen := .listen
  closes move := ∃ closing, move = .endClose closing
  ends conduct move := ∃ reply, move = .receive reply ∧ (conduct.session.receive reply).ended = true
  send := .beginSend
  answers sending move := ∃ reply, move = .endSend sending reply
  sendings := sendings
  marks := requested

variable {conduct next later : Conduct Listener} {move : ConductMove Listener}

/-! ### What moves keep -/

/-- Nobody listens to a session, and it takes no other listener. -/
def Hushed (session : Session Listener) : Prop :=
  session.listener = none ∧ (session.cancelled || session.ended) = true

/-- What a move does to the session: it gets a listener, goes on polling, or is closed further. -/
inductive Goes (session : Session Listener) : Session Listener → Prop
  | listens (listener : Listener) : Goes session (session.listen listener)
  | polls {next : Session Listener} (listener : next.listener = session.listener)
      (cancelled : next.cancelled = session.cancelled) (ended : next.ended = session.ended)
      (closed : next.closed = session.closed) : Goes session next
  | ends {next : Session Listener} (listener : next.listener = none) (ended : next.ended = true)
      (cancelled : next.cancelled = session.cancelled) (closed : next.closed = session.closed) :
      Goes session next
  | closes : Goes session session.beginClose.2
  | closed : Goes session session.endClose

/-- A close ends only if one has begun and nothing keeps it waiting. -/
theorem endClose_cases {closing : Nat} (made : conduct.after? (.endClose closing) = some next) :
    conduct.closings ≠ [] ∧ ∃ waits, conduct.session.canEndClose waits = true ∧
      next = { conduct with
        session := conduct.session.endClose
        closings := conduct.closings.set closing ⟨waits, true⟩ } := by
  simp only [after?] at made
  split at made
  next waits there =>
    split at made
    next can =>
      cases made
      refine ⟨?_, waits, can, rfl⟩
      rintro none
      rw [none] at there
      cases there
    next => cases made
  next => cases made

/-- A step of its own lets a session poll on or end. -/
theorem goes_of_advance {session next : Session Listener} {handed : Option (Listener × Event)}
    (stepped : session.advance = some (handed, next)) : Goes session next := by
  unfold Session.advance at stepped
  split at stepped
  · split at stepped
    · cases stepped
      exact .polls rfl rfl rfl rfl
    · split at stepped <;> cases stepped
      exact .polls rfl rfl rfl rfl
  · split at stepped <;> cases stepped
    exact .polls rfl rfl rfl rfl
  · split at stepped <;> cases stepped
    exact .polls rfl rfl rfl rfl
  · cases stepped
    exact .polls rfl rfl rfl rfl
  · split at stepped <;> cases stepped <;> exact .polls rfl rfl rfl rfl
  · cases stepped

theorem goes_of_receive (session : Session Listener) (reply : Reply) :
    Goes session (session.receive reply) := by
  unfold Session.receive
  split
  · split
    · exact .polls rfl rfl rfl rfl
    · split
      · exact .polls rfl rfl rfl rfl
      · exact .polls rfl rfl rfl rfl
      · exact .ends rfl rfl rfl rfl
  · exact .polls rfl rfl rfl rfl

theorem goes_of_wake (session : Session Listener) : Goes session session.wake := by
  unfold Session.wake
  split <;> exact .polls rfl rfl rfl rfl

/-- Every move brings a listener, polls, or is a part of a close. -/
theorem goes_of_after (made : conduct.after? move = some next) :
    Goes conduct.session next.session := by
  cases move with
  | listen listener =>
    cases made
    exact .listens listener
  | advance =>
    obtain ⟨⟨handed, session⟩, stepped, rfl⟩ := Option.map_eq_some_iff.mp made
    exact goes_of_advance stepped
  | receive reply =>
    simp only [after?] at made
    split at made <;> cases made
    exact goes_of_receive conduct.session reply
  | wake =>
    simp only [after?] at made
    split at made <;> cases made
    exact goes_of_wake conduct.session
  | beginClose =>
    cases made
    exact .closes
  | endClose closing =>
    obtain ⟨_, _, _, rfl⟩ := endClose_cases made
    exact .closed
  | beginSend call =>
    simp only [after?] at made
    split at made <;> cases made <;> exact .polls rfl rfl rfl rfl
  | endSend sending reply =>
    simp only [after?] at made
    split at made <;> cases made
    exact .polls rfl rfl rfl rfl

/-- A hushed session takes no listener. -/
theorem listen_of_hushed {session : Session Listener} (hushed : Hushed session)
    (listener : Listener) : session.listen listener = session :=
  if_pos hushed.2

/-- A session that is hushed stays so. -/
theorem Hushed.goes {session next : Session Listener} (hushed : Hushed session)
    (goes : Goes session next) : Hushed next := by
  cases goes with
  | listens listener =>
    rw [listen_of_hushed hushed]
    exact hushed
  | polls listener cancelled ended =>
    rw [Hushed, listener, cancelled, ended]
    exact hushed
  | ends listener ended =>
    rw [Hushed, ended]
    exact ⟨listener, Bool.or_true _⟩
  | closes => exact ⟨hushed.1, rfl⟩
  | closed => exact ⟨rfl, hushed.2⟩

/-- A close that has dropped the listener is not taken back. -/
theorem dropped_of_goes {session next : Session Listener} (goes : Goes session next)
    (dropped : session.cancelled = true ∧ session.listener = none) :
    next.cancelled = true ∧ next.listener = none := by
  obtain ⟨cancelled, unheard⟩ := dropped
  refine ⟨?_, (Hushed.goes ⟨unheard, by rw [cancelled, Bool.true_or]⟩ goes).1⟩
  cases goes with
  | listens listener =>
    rw [listen_of_hushed ⟨unheard, by rw [cancelled, Bool.true_or]⟩]
    exact cancelled
  | polls _ same | ends _ _ same => exact same.trans cancelled
  | closes => rfl
  | closed => exact cancelled

/-- Who closes a session has cancelled polling and marked the session, and a session that has ended
has dropped its listener. -/
structure Orderly (conduct : Conduct Listener) : Prop where
  closing : conduct.closings ≠ [] →
    conduct.session.closed = true ∧ conduct.session.cancelled = true
  ended : conduct.session.ended = true → conduct.session.listener = none

/-- A session that is closed stays closed. -/
theorem closed_of_goes {session next : Session Listener} (goes : Goes session next)
    (marked : session.closed = true ∧ session.cancelled = true) :
    next.closed = true ∧ next.cancelled = true := by
  obtain ⟨closed, cancelled⟩ := marked
  cases goes with
  | listens listener =>
    unfold Session.listen
    split <;> exact ⟨closed, cancelled⟩
  | polls _ cancelled' _ closed' | ends _ _ cancelled' closed' =>
    exact ⟨closed'.trans closed, cancelled'.trans cancelled⟩
  | closes => exact ⟨rfl, rfl⟩
  | closed => exact ⟨closed, cancelled⟩

/-- A session that has ended has dropped its listener for good. -/
theorem ended_of_goes {session next : Session Listener} (goes : Goes session next)
    (dropped : session.ended = true → session.listener = none) (ended : next.ended = true) :
    next.listener = none := by
  cases goes with
  | listens listener =>
    unfold Session.listen at ended ⊢
    split
    next gone =>
      rw [if_pos gone] at ended
      exact dropped ended
    next going =>
      rw [if_neg going] at ended
      exact absurd (by rw [show session.ended = true from ended, Bool.or_true]) going
  | polls listener _ ended' =>
    rw [listener]
    exact dropped (ended'.symm.trans ended)
  | ends listener => exact listener
  | closes => exact dropped ended
  | closed => rfl

/-- Whatever begins a close marks the session, and nothing else begins one. -/
theorem closings_after (made : conduct.after? move = some next) (closing : next.closings ≠ []) :
    conduct.closings ≠ [] ∨ next.session.closed = true ∧ next.session.cancelled = true := by
  cases move with
  | listen listener =>
    cases made
    exact .inl closing
  | advance =>
    obtain ⟨_, _, rfl⟩ := Option.map_eq_some_iff.mp made
    exact .inl closing
  | beginClose =>
    cases made
    exact .inr ⟨rfl, rfl⟩
  | endClose number => exact .inl (endClose_cases made).1
  | receive | wake | beginSend | endSend =>
    simp only [after?] at made
    split at made <;> cases made <;> exact .inl closing

/-- Every move keeps a session and its closes in order. -/
theorem Orderly.after (orderly : conduct.Orderly) (made : conduct.after? move = some next) :
    next.Orderly where
  closing closing := by
    rcases closings_after made closing with before | now
    · exact closed_of_goes (goes_of_after made) (orderly.closing before)
    · exact now
  ended := ended_of_goes (goes_of_after made) orderly.ended

/-- A session is opened as soon as the service says who the bot is. -/
theorem opened_of_outcome {reply : Reply} {user : User}
    (told : (reply.outcome User.ofJson?).toOption = some user) (transport : Transport)
    (token : String) (session : Session Listener)
    (fresh : session = { id := Transport.sessionId user transport.nextSession
                         base := methodBase transport.apiBase token
                         pollTimeout := transport.pollTimeout }) :
    Opened { session } := by
  refine ⟨transport, { transport with nextSession := transport.nextSession + 1 }, token, reply, ?_,
    rfl⟩
  unfold Transport.openSession
  cases outcome : reply.outcome User.ofJson? with
  | error fault =>
    rw [outcome] at told
    cases told
  | ok answered =>
    rw [outcome] at told
    obtain rfl := Option.some.inj told
    rw [fresh]

/-- A session opened for the bot that the service takes for number one. -/
def begun (Listener : Type) : Conduct Listener where
  session :=
    { id := Transport.sessionId ⟨1, none⟩ 1
      base := methodBase "https://api.telegram.org" "token"
      pollTimeout := 30 }

theorem begun_opened : (begun Listener).Opened := by
  have told : ((Reply.received 200 "\x7b\"ok\":true,\"result\":\x7b\"id\":1\x7d\x7d").outcome
      User.ofJson?).toOption = some ⟨1, none⟩ := by decide +kernel
  exact opened_of_outcome told { apiBase := "https://api.telegram.org" } "token" _ rfl

/-- A session that has just been opened has done nothing. -/
theorem Opened.fresh (opened : conduct.Opened) :
    ∃ id base pollTimeout, conduct = { session := { id, base, pollTimeout } } := by
  obtain ⟨transport, next, token, reply, opened, whole⟩ := opened
  unfold Transport.openSession at opened
  split at opened
  · cases congrArg Prod.fst opened
  · have same := Except.ok.inj (congrArg Prod.fst opened)
    refine ⟨conduct.session.id, conduct.session.base, conduct.session.pollTimeout, whole.trans ?_⟩
    rw [← same]

theorem orderly_of_opened (opened : conduct.Opened) : conduct.Orderly := by
  obtain ⟨_, _, _, rfl⟩ := opened.fresh
  exact ⟨fun closing => absurd rfl closing, nofun⟩

/-- The sessions that a course can reach are in order. -/
theorem orderly_of_reachable (reachable : (course Listener).Reachable conduct) : conduct.Orderly :=
  reachable.keeps Orderly (fun _ opened => orderly_of_opened opened)
    fun orderly made => orderly.after made

/-! ### The contract -/

/-- A session that is being closed has no listener once a close has returned, nor has one that has
ended. -/
theorem hushed_of_finish (orderly : conduct.Orderly) (made : conduct.after? move = some next)
    (finishes : (course Listener).closes move ∨ (course Listener).ends conduct move) :
    Hushed next.session := by
  rcases finishes with ⟨closing, rfl⟩ | ⟨reply, rfl, ended⟩
  · obtain ⟨closing, _, _, rfl⟩ := endClose_cases made
    exact ⟨rfl, by rw [Bool.or_eq_true]; exact .inl (orderly.closing closing).2⟩
  · have later := orderly.after made
    simp only [after?] at made
    split at made <;> cases made
    exact ⟨later.ended ended, by rw [Bool.or_eq_true]; exact .inr ended⟩

/-- An event is handed to whoever listens. -/
theorem heard_of_advance {session next : Session Listener} {listener : Listener} {event : Event}
    (stepped : session.advance = some (some (listener, event), next)) :
    session.listener = some listener := by
  unfold Session.advance at stepped
  split at stepped
  · split at stepped
    · cases stepped
    · split at stepped <;> cases stepped
  · split at stepped <;> cases stepped
  · split at stepped <;> cases stepped
  · cases stepped
  · split at stepped
    next heard _ =>
      cases stepped
      exact heard
    next => cases stepped
  · cases stepped

/-- A hushed session calls nobody any more. -/
theorem quiet_of_hushed (hushed : Hushed conduct.session) : (course Listener).Quiet conduct where
  unheard := hushed.1
  unreached move := by
    cases move with
    | advance =>
      refine Option.eq_none_iff_forall_ne_some.mpr fun handed hands => ?_
      obtain ⟨⟨_, next⟩, stepped, rfl⟩ := Option.bind_eq_some_iff.mp hands
      exact absurd (hushed.1.symm.trans (heard_of_advance stepped)) nofun
    | _ => rfl
  deaf listener := by
    show some _ = some conduct
    rw [listen_of_hushed hushed]

/-- An answer is given once. -/
theorem sendings_after (made : conduct.after? move = some next) {number : Nat} {sending : Sending}
    (there : conduct.sendings[number]? = some sending) (answered : sending.answer.isSome = true) :
    next.sendings[number]? = some sending := by
  cases move with
  | listen | beginClose =>
    cases made
    exact there
  | advance =>
    obtain ⟨_, _, rfl⟩ := Option.map_eq_some_iff.mp made
    exact there
  | receive | wake =>
    simp only [after?] at made
    split at made <;> cases made
    exact there
  | endClose closing =>
    obtain ⟨_, _, _, rfl⟩ := endClose_cases made
    exact there
  | beginSend call =>
    have bound := (List.getElem?_eq_some_iff.mp there).1
    simp only [after?] at made
    split at made <;> cases made <;> exact (List.getElem?_append_left bound).trans there
  | endSend other reply =>
    simp only [after?] at made
    split at made <;> cases made
    next call pending =>
    refine (List.getElem?_set_ne ?_).trans there
    rintro rfl
    obtain rfl := Option.some.inj (pending.symm.trans there)
    cases answered

/-- The sessions of the Telegram transport keep the contract. -/
theorem fallsSilent (Listener : Type) : (course Listener).FallsSilent where
  quiet := by
    intro state next later move reachable made finishes leads
    have hushed : Hushed later.session := by
      refine leads.keeps (fun later => Hushed later.session) ?_ ?_
      · exact fun hushed made => hushed.goes (goes_of_after made)
      · exact hushed_of_finish (orderly_of_reachable reachable) made finishes
    exact quiet_of_hushed hushed
  refused := by
    rintro state next later begun last _ call reachable made ⟨closing, rfl⟩ leads begins
    have made : state.after? (.endClose closing) = some next := made
    have closed : later.session.closed = true ∧ later.session.cancelled = true := by
      refine leads.keeps (fun later => later.session.closed = true ∧
        later.session.cancelled = true) ?_ ?_
      · exact fun marked made => closed_of_goes (goes_of_after made) marked
      · exact closed_of_goes (goes_of_after made)
          ((orderly_of_reachable reachable).closing (endClose_cases made).1)
    have refuses : later.session.requestOf call = .error .sessionClosed := if_pos closed.1
    have begins : later.after? (.beginSend call) = some begun := begins
    simp only [after?, refuses] at begins
    cases begins
    refine ⟨rfl, fun leads => ?_⟩
    have answered : last.sendings[later.sendings.length]? =
        some ⟨call, some (.error .sessionClosed)⟩ := by
      refine leads.keeps (fun last => last.sendings[later.sendings.length]? =
        some ⟨call, some (.error .sessionClosed)⟩) ?_ ?_
      · exact fun there made => sendings_after made there rfl
      · exact List.getElem?_concat_length
    refine ⟨.inl answered, ?_⟩
    rintro _ next ⟨reply, rfl⟩ made
    have made : last.after? (.endSend later.sendings.length reply) = some next := made
    simp only [after?, answered] at made
    cases made

end Conduct

end BotHost.Telegram
