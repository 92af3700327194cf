/-
A session of the in-memory transport among everything that can happen to the transport.

Delays only decide when a call or a close takes effect, so that is left open: a call that has begun
gets its answer at some later time or never, and a close has its effect when it returns, for after its
delay it waits for nothing. Marking the session and dropping its listener are one step of a close here, and
so are fetching the listener and calling it when an event is injected: what happens between the two on
another thread is left out.
-/

import BotHost.Proofs.Session.Contract
import BotHost.Proofs.Session.Lifetime

namespace BotHost

/-- What can happen to the transport. A call is answered by the number under which it has begun. -/
inductive TrafficMove (Listener : Type) where
  | openSession (token : String)
  | listen (number : Nat) (listener : Listener)
  | inject (token : String) (event : Event)
  | endSession (token : String)
  | closeSession (number : Nat)
  | beginSend (number : Nat) (call : Call)
  | endSend (sending : Nat)
  | reject (token : String)
  | accept (token : String)
  | clearSent
  | setDelays (opening closing sending : Nat)
deriving Repr

/-- The transport, with the calls that have begun and the sessions that they go through. -/
structure Traffic (Listener : Type) where
  transport : MemoryTransport Listener := {}
  sendings : List (Nat × Sending) := []

namespace Traffic

variable {Listener : Type}

/-- The transport after a move. Sessions that have not been opened are not listened to or closed, and
no call is made through them. -/
def after? (traffic : Traffic Listener) : TrafficMove Listener → Option (Traffic Listener)
  | .openSession token =>
    some { traffic with transport := (traffic.transport.openSession token).2 }
  | .listen number listener =>
    (traffic.transport.session? number).map fun _ =>
      { traffic with transport := traffic.transport.listen number listener }
  | .inject _ _ => some traffic
  | .endSession token => some { traffic with transport := (traffic.transport.endSession token).2 }
  | .closeSession number =>
    (traffic.transport.session? number).map fun _ =>
      { traffic with transport := traffic.transport.closeSession number }
  | .beginSend number call =>
    (traffic.transport.session? number).map fun _ =>
      ⟨traffic.transport.beginSend, traffic.sendings ++ [(number, ⟨call, none⟩)]⟩
  | .endSend sending =>
    match traffic.sendings[sending]? with
    | some (number, ⟨call, none⟩) =>
      let (answer, transport) := traffic.transport.record number call
      some ⟨transport, traffic.sendings.set sending (number, ⟨call, some answer⟩)⟩
    | _ => none
  | .reject token => some { traffic with transport := traffic.transport.reject token }
  | .accept token => some { traffic with transport := traffic.transport.accept token }
  | .clearSent => some { traffic with transport := traffic.transport.clearSent }
  | .setDelays opening closing sending =>
    some { traffic with transport := { traffic.transport with
      openDelay := opening, closeDelay := closing, sendDelay := sending } }

/-- The event that a move hands over through a session, and to whom. -/
def handed? (traffic : Traffic Listener) (number : Nat) :
    TrafficMove Listener → Option (Listener × Event)
  | .inject token event =>
    match traffic.transport.reached? token with
    | some (reached, listener) => if reached = number then some (listener, event) else none
    | none => none
  | _ => none

/-- The course of one of the sessions of the transport. -/
def course (Listener : Type) (number : Nat) :
    SessionCourse (Traffic Listener) (TrafficMove Listener) Listener (String × Call) where
  begins traffic := traffic = {}
  after? := after?
  listener? traffic := traffic.transport.listener? number
  handed? traffic := traffic.handed? number
  listen := .listen number
  closes move := move = .closeSession number
  ends traffic move :=
    ∃ token, move = .endSession token ∧ traffic.transport.current? token = some number
  send := .beginSend number
  answers sending move := move = .endSend sending
  sendings traffic := traffic.sendings.map Prod.snd
  marks traffic := traffic.transport.recorded

variable {traffic next later : Traffic Listener} {move : TrafficMove Listener} {number : Nat}

/-! ### What moves keep -/

theorem after?_endSend {sending : Nat} {call : Call}
    (pending : traffic.sendings[sending]? = some (number, ⟨call, none⟩)) :
    traffic.after? (.endSend sending) = some ⟨(traffic.transport.record number call).2,
      traffic.sendings.set sending
        (number, ⟨call, some (traffic.transport.record number call).1⟩)⟩ := by
  simp only [after?, pending]

theorem endSend_cases {sending : Nat} (made : traffic.after? (.endSend sending) = some next) :
    ∃ number call, traffic.sendings[sending]? = some (number, ⟨call, none⟩) ∧
      next = ⟨(traffic.transport.record number call).2, traffic.sendings.set sending
        (number, ⟨call, some (traffic.transport.record number call).1⟩)⟩ := by
  simp only [after?] at made
  split at made
  next number call pending =>
    cases made
    exact ⟨number, call, pending, rfl⟩
  next => cases made

theorem changes_of_record (transport : MemoryTransport Listener) (number : Nat) (call : Call) :
    transport.Changes (transport.record number call).2 := by
  unfold MemoryTransport.record
  split
  · exact .refl _
  · split
    · exact .refl _
    · exact .spares rfl rfl rfl

/-- Every move changes sessions only in the ways a transport may. -/
theorem changes_of_after (made : traffic.after? move = some next) :
    traffic.transport.Changes next.transport := by
  cases move with
  | endSend sending =>
    obtain ⟨number, call, _, rfl⟩ := endSend_cases made
    exact changes_of_record traffic.transport number call
  | listen number listener =>
    obtain ⟨_, _, rfl⟩ := Option.map_eq_some_iff.mp made
    exact .listens number listener
  | closeSession number =>
    obtain ⟨_, _, rfl⟩ := Option.map_eq_some_iff.mp made
    exact .closes number
  | beginSend number call =>
    obtain ⟨_, _, rfl⟩ := Option.map_eq_some_iff.mp made
    exact .spares rfl rfl rfl
  | openSession token =>
    cases made
    exact .opens token
  | endSession token =>
    cases made
    exact .ends token
  | inject | reject | accept | clearSent | setDelays =>
    cases made
    exact .spares rfl rfl rfl

/-- Calls do not go away, and an answer is given once. -/
theorem sendings_after (made : traffic.after? move = some next) {sending : Nat}
    {entry : Nat × Sending} (there : traffic.sendings[sending]? = some entry) :
    next.sendings[sending]? = some entry ∨ move = .endSend sending := by
  cases move with
  | endSend answered =>
    obtain ⟨number, call, _, rfl⟩ := endSend_cases made
    by_cases same : answered = sending
    · exact .inr (congrArg _ same)
    · exact .inl ((List.getElem?_set_ne same).trans there)
  | listen | closeSession =>
    obtain ⟨_, _, rfl⟩ := Option.map_eq_some_iff.mp made
    exact .inl there
  | beginSend number call =>
    obtain ⟨_, _, rfl⟩ := Option.map_eq_some_iff.mp made
    refine .inl ((List.getElem?_append_left ?_).trans there)
    exact (List.getElem?_eq_some_iff.mp there).1
  | _ =>
    cases made
    exact .inl there

/-- The sessions that a token reaches are open, and only open sessions have listeners. -/
def Orderly (traffic : Traffic Listener) : Prop :=
  traffic.transport.Sound ∧ traffic.transport.Indexed

theorem Orderly.after (orderly : traffic.Orderly) (made : traffic.after? move = some next) :
    next.Orderly :=
  ⟨orderly.1.after (changes_of_after made), orderly.2.after (changes_of_after made)⟩

theorem orderly_of_reachable (reachable : (course Listener number).Reachable traffic) :
    traffic.Orderly := by
  refine reachable.keeps Orderly ?_ fun orderly made => orderly.after made
  rintro _ rfl
  exact ⟨⟨nofun, rfl⟩, nofun⟩

/-- A session has been closed. -/
def Closed (traffic : Traffic Listener) (number : Nat) : Prop :=
  ∃ session, traffic.transport.session? number = some session ∧ session.closed = true

theorem Closed.after (closed : traffic.Closed number) (made : traffic.after? move = some next) :
    next.Closed number := by
  obtain ⟨session, there, closed⟩ := closed
  obtain ⟨later, there', _, stays, _⟩ := (changes_of_after made).session? there
  exact ⟨later, there', stays closed⟩

/-- A session is closed once it has been told to close. -/
theorem closed_of_close (made : traffic.after? (.closeSession number) = some next) :
    next.Closed number := by
  obtain ⟨session, there, rfl⟩ := Option.map_eq_some_iff.mp made
  have closed := traffic.transport.session?_closeSession number number
  rw [if_pos rfl, there, Option.map_some] at closed
  refine ⟨_, closed, ?_⟩
  split
  next already => exact already
  next => rfl

/-- The session is gone that a close closes or that the transport ends. -/
theorem gone_of_finish (orderly : traffic.Orderly) (made : traffic.after? move = some next)
    (finishes : (course Listener number).closes move ∨ (course Listener number).ends traffic move) :
    ∃ session, next.transport.session? number = some session ∧ session.gone = true := by
  rcases finishes with rfl | ⟨token, rfl, current⟩
  · obtain ⟨session, there, closed⟩ := closed_of_close made
    exact ⟨session, there, by rw [MemorySession.gone, closed, Bool.true_or]⟩
  · cases made
    obtain ⟨session, there, _⟩ := orderly.2 token number current
    have ended := (traffic.transport.forget token).session?_change number
      (fun session => { session with ended := true, listener := none }) number
    have there' : (traffic.transport.forget token).session? number = some session := there
    rw [if_pos rfl, there', Option.map_some] at ended
    refine ⟨{ session with ended := true, listener := none }, ?_, Bool.or_true session.closed⟩
    rw [← ended, MemoryTransport.endSession, current]

/-! ### The contract -/

/-- A session that is gone calls nobody any more. -/
theorem quiet_of_gone (orderly : traffic.Orderly) {session : MemorySession Listener}
    (there : traffic.transport.session? number = some session) (gone : session.gone = true) :
    (course Listener number).Quiet traffic := by
  obtain ⟨unheard, unreached, deaf⟩ :=
    MemoryTransport.silent_of_gone orderly.1 orderly.2 there gone
  refine ⟨unheard, fun move => ?_, fun listener => ?_⟩
  · cases move with
    | inject token event =>
      show (match traffic.transport.reached? token with
        | some (reached, listener) => if reached = number then some (listener, event) else none
        | none => none) = none
      split
      next reached listener goes =>
        refine if_neg ?_
        rintro rfl
        exact unreached token listener goes
      next => rfl
    | _ => rfl
  · show (traffic.transport.session? number).map _ = some traffic
    rw [there, Option.map_some, deaf]

/-- A call has begun, and if it has been answered, then by saying that the session is closed. -/
def Pending (traffic : Traffic Listener) (number sending : Nat) (call : Call) : Prop :=
  traffic.sendings[sending]? = some (number, ⟨call, none⟩) ∨
    traffic.sendings[sending]? = some (number, ⟨call, some (.error .sessionClosed)⟩)

/-- A call through a closed session is refused and leaves no trace. -/
theorem record_of_closed (closed : traffic.Closed number) (call : Call) :
    traffic.transport.record number call = (.error .sessionClosed, traffic.transport) := by
  obtain ⟨session, there, closed⟩ := closed
  unfold MemoryTransport.record
  rw [there]
  exact if_pos closed

/-- A call through a closed session is refused, and nothing is recorded. -/
theorem Pending.answer {sending : Nat} {call : Call} (pending : traffic.Pending number sending call)
    (closed : traffic.Closed number) (made : traffic.after? (.endSend sending) = some next) :
    next.transport = traffic.transport ∧
      next.sendings[sending]? = some (number, ⟨call, some (.error .sessionClosed)⟩) := by
  obtain ⟨number', call', there, rfl⟩ := endSend_cases made
  rcases pending with unanswered | answered
  · obtain ⟨rfl, rfl⟩ : number' = number ∧ call' = call := by
      simpa using there.symm.trans unanswered
    rw [record_of_closed closed]
    exact ⟨rfl, List.getElem?_set_self (List.getElem?_eq_some_iff.mp there).1⟩
  · exact absurd (there.symm.trans answered) (by simp)

/-- A call that is under way through a closed session stays so until it ends. -/
theorem Pending.after {sending : Nat} {call : Call} (pending : traffic.Pending number sending call)
    (closed : traffic.Closed number) (made : traffic.after? move = some next) :
    next.Pending number sending call := by
  by_cases own : move = .endSend sending
  · subst own
    exact .inr (pending.answer closed made).2
  · exact pending.imp (fun there => (sendings_after made there).resolve_right own)
      fun there => (sendings_after made there).resolve_right own

/-- The sessions of the in-memory transport keep the contract. -/
theorem fallsSilent (Listener : Type) (number : Nat) : (course Listener number).FallsSilent where
  quiet := by
    intro state next later move reachable made finishes leads
    have orderly := orderly_of_reachable reachable
    have both : later.Orderly ∧
        ∃ session, later.transport.session? number = some session ∧ session.gone = true := by
      refine leads.keeps (fun later => later.Orderly ∧
        ∃ session, later.transport.session? number = some session ∧ session.gone = true) ?_ ?_
      · rintro state next move ⟨orderly, session, there, gone⟩ made
        exact ⟨orderly.after made, (changes_of_after made).gone there gone⟩
      · exact ⟨orderly.after made, gone_of_finish orderly made finishes⟩
    obtain ⟨orderly, session, there, gone⟩ := both
    exact quiet_of_gone orderly there gone
  refused := by
    rintro state next later begun last _ call reachable made rfl leads begins
    have closed : later.Closed number :=
      leads.keeps (fun later => later.Closed number) (fun closed made => closed.after made)
        (closed_of_close made)
    have begins : later.after? (.beginSend number call) = some begun := begins
    have closed' := closed.after begins
    obtain ⟨session, _, rfl⟩ := Option.map_eq_some_iff.mp begins
    refine ⟨rfl, fun leads => ?_⟩
    obtain ⟨closed, pending⟩ : last.Closed number ∧
        last.Pending number later.sendings.length call := by
      refine leads.keeps (fun last => last.Closed number ∧
        last.Pending number later.sendings.length call) ?_ ?_
      · rintro state next move ⟨closed, pending⟩ made
        exact ⟨closed.after made, pending.after closed made⟩
      · exact ⟨closed', .inl List.getElem?_concat_length⟩
    have length : ((course Listener number).sendings later).length = later.sendings.length :=
      List.length_map Prod.snd
    have entry {traffic : Traffic Listener} {sending : Sending}
        (there : traffic.sendings[later.sendings.length]? = some (number, sending)) :
        ((course Listener number).sendings traffic)[later.sendings.length]? = some sending := by
      show (traffic.sendings.map Prod.snd)[later.sendings.length]? = some sending
      rw [List.getElem?_map, there, Option.map_some]
    rw [length]
    constructor
    · rcases pending with unanswered | answered
      · exact .inr ⟨entry unanswered, _, _, rfl, after?_endSend unanswered⟩
      · exact .inl (entry answered)
    · rintro _ next rfl made
      obtain ⟨same, refused⟩ := pending.answer closed made
      exact ⟨congrArg MemoryTransport.recorded same, entry refused⟩

end Traffic

end BotHost
