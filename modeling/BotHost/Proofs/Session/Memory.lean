/-
The sessions of the in-memory transport.

What is said here about the calls of the transport is what they do to its sessions. Two facts about
these always hold: a session that has a listener has neither been closed nor ended, and the transport
has counted each session that is closed once.
-/

import BotHost.Session.Memory
import Mathlib.Data.List.Basic

namespace BotHost

/-- The numbers of the entries of a list that a test accepts are as many as the test counts. -/
theorem length_eq_countP {Entry : Type} {entries : List Entry} {accepts : Entry → Bool}
    {numbers : List Nat} (nodup : numbers.Nodup)
    (accepted : ∀ number, number ∈ numbers ↔
      ∃ entry, entries[number]? = some entry ∧ accepts entry = true) :
    numbers.length = entries.countP accepts := by
  have range : (List.range entries.length).map (entries[·]?) = entries.map some := by
    refine List.ext_getElem? fun number => ?_
    rw [List.getElem?_map, List.getElem?_map]
    by_cases bound : number < entries.length
    · rw [List.getElem?_range bound]
      simp [bound]
    · rw [List.getElem?_eq_none (by simpa using bound), List.getElem?_eq_none (by simpa using bound)]
      rfl
  have perm : numbers.Perm
      ((List.range entries.length).filter fun number => (entries[number]?).any accepts) := by
    refine (List.perm_ext_iff_of_nodup nodup (List.nodup_range.filter _)).mpr fun number => ?_
    rw [accepted, List.mem_filter, List.mem_range, Option.any_eq_true]
    constructor
    · rintro ⟨entry, there, good⟩
      exact ⟨(List.getElem?_eq_some_iff.mp there).1, entry, there, good⟩
    · rintro ⟨_, entry, there, good⟩
      exact ⟨entry, there, good⟩
  have counts := congrArg (List.countP (Option.any accepts)) range
  rw [List.countP_map, List.countP_map] at counts
  rw [perm.length_eq, ← List.countP_eq_length_filter]
  exact counts

namespace MemoryTransport

variable {Listener : Type}

/-- Only open sessions are listened to, and those that are closed have been counted. -/
structure Sound (transport : MemoryTransport Listener) : Prop where
  listening : ∀ {number : Nat} {session : MemorySession Listener},
    transport.session? number = some session → session.listener.isSome = true →
      session.closed = false ∧ session.ended = false
  counted : transport.closedCount = transport.sessions.countP MemorySession.closed

/-- Changing a session changes that one only. -/
theorem session?_change (transport : MemoryTransport Listener) (changed : Nat)
    (change : MemorySession Listener → MemorySession Listener) (number : Nat) :
    (transport.change changed change).session? number =
      if number = changed then (transport.session? number).map change
      else transport.session? number := by
  simp only [session?, MemoryTransport.change, List.getElem?_modify]
  grind

theorem length_change (transport : MemoryTransport Listener) (changed : Nat)
    (change : MemorySession Listener → MemorySession Listener) :
    (transport.change changed change).sessions.length = transport.sessions.length :=
  List.length_modify change transport.sessions changed

/-- Changing a session changes the number of closed sessions by what it changes there. -/
theorem countP_change (transport : MemoryTransport Listener) {number : Nat}
    {session : MemorySession Listener} (there : transport.session? number = some session)
    (change : MemorySession Listener → MemorySession Listener) :
    (transport.change number change).sessions.countP MemorySession.closed +
        (if session.closed then 1 else 0) =
      transport.sessions.countP MemorySession.closed +
        (if (change session).closed then 1 else 0) := by
  obtain ⟨bound, found⟩ := List.getElem?_eq_some_iff.mp there
  have before := congrArg (List.countP MemorySession.closed)
    (List.take_append_drop number transport.sessions)
  rw [List.drop_eq_getElem_cons bound, found] at before
  rw [MemoryTransport.change, List.modify_eq_take_cons_drop bound, found]
  simp only [List.countP_append, List.countP_cons] at before ⊢
  omega

/-! ### Opening and closing -/

/-- A session that is opened comes last, with nobody listening. -/
theorem openSession_ok {transport next : MemoryTransport Listener} {token : String} {number : Nat}
    (opened : transport.openSession token = (.ok number, next)) :
    number = transport.sessions.length ∧
      next.sessions = transport.sessions ++ [⟨token, none, false, false⟩] ∧
      next.closedCount = transport.closedCount := by
  unfold openSession at opened
  split at opened
  · cases opened
  · cases opened
    exact ⟨rfl, rfl, rfl⟩

/-- A session that is refused leaves the transport as it was. -/
theorem openSession_error {transport next : MemoryTransport Listener} {token : String}
    {fault : TransportFault} (refused : transport.openSession token = (.error fault, next)) :
    next = transport := by
  unfold openSession at refused
  split at refused <;> cases refused
  rfl

/-- Closing a session that is open counts it, and drops its listener. -/
theorem closeSession_eq (transport : MemoryTransport Listener) {number : Nat}
    {session : MemorySession Listener} (there : transport.session? number = some session)
    (unclosed : session.closed = false) :
    ∃ current, transport.closeSession number =
      { transport.change number fun session => { session with closed := true, listener := none } with
        current, closedCount := transport.closedCount + 1 } := by
  unfold closeSession
  rw [there]
  dsimp only
  rw [if_neg (by rw [unclosed]; exact Bool.false_ne_true)]
  split
  · exact ⟨_, rfl⟩
  · exact ⟨_, rfl⟩

/-- Closing a session twice is closing it once. -/
theorem closeSession_of_closed (transport : MemoryTransport Listener) {number : Nat}
    (closed : ∀ session, transport.session? number = some session → session.closed = true) :
    transport.closeSession number = transport := by
  unfold closeSession
  split
  · rfl
  next session there => rw [if_pos (closed session there)]

/-- Closing a session marks it and drops its listener, once. -/
theorem session?_closeSession (transport : MemoryTransport Listener) (closed number : Nat) :
    (transport.closeSession closed).session? number =
      if number = closed then (transport.session? number).map fun session =>
        if session.closed then session else { session with closed := true, listener := none }
      else transport.session? number := by
  by_cases unclosed : ∃ session, transport.session? closed = some session ∧ session.closed = false
  · obtain ⟨session, there, unclosed⟩ := unclosed
    obtain ⟨current, equal⟩ := transport.closeSession_eq there unclosed
    rw [equal]
    refine (transport.session?_change closed _ number).trans ?_
    split
    next same =>
      subst same
      rw [there, Option.map_some, Option.map_some,
        if_neg (by rw [unclosed]; exact Bool.false_ne_true)]
    next => rfl
  · have already (session : MemorySession Listener)
        (there : transport.session? closed = some session) : session.closed = true := by
      by_contra other
      exact unclosed ⟨session, there, by simpa using other⟩
    rw [transport.closeSession_of_closed already]
    split
    next same =>
      subst same
      cases there : transport.session? number with
      | none => rfl
      | some session => rw [Option.map_some, if_pos (already session there)]
    next => rfl

theorem length_closeSession (transport : MemoryTransport Listener) (closed : Nat) :
    (transport.closeSession closed).sessions.length = transport.sessions.length := by
  unfold closeSession
  split
  · rfl
  · split
    · rfl
    · dsimp only
      split <;> exact transport.length_change closed _

/-! ### Listeners -/

/-- A session that is opened comes behind the others, and nobody listens to it. -/
theorem session?_openSession (transport : MemoryTransport Listener) (token : String)
    (number : Nat) :
    (transport.openSession token).2.session? number = transport.session? number ∨
      number = transport.sessions.length ∧
        (transport.openSession token).2.session? number = some ⟨token, none, false, false⟩ := by
  unfold openSession session?
  split
  · exact .inl rfl
  · simp only [List.getElem?_append, List.getElem?_singleton]
    grind

theorem listener?_openSession (transport : MemoryTransport Listener) (token : String)
    {number : Nat} {listener : Listener}
    (listens : (transport.openSession token).2.listener? number = some listener) :
    transport.listener? number = some listener := by
  obtain ⟨session, there, listens⟩ := Option.bind_eq_some_iff.mp listens
  rcases transport.session?_openSession token number with same | ⟨_, new⟩
  · exact Option.bind_eq_some_iff.mpr ⟨session, same.symm.trans there, listens⟩
  · rw [new] at there
    cases there
    cases listens

/-- Whoever listens to a session after it has been changed listened to it before, or the change has
made it so. -/
theorem listener?_change (transport : MemoryTransport Listener) (changed : Nat)
    (change : MemorySession Listener → MemorySession Listener) {number : Nat} {listener : Listener}
    (listens : (transport.change changed change).listener? number = some listener) :
    transport.listener? number = some listener ∨ number = changed ∧
      ∃ session, transport.session? number = some session ∧
        (change session).listener = some listener := by
  obtain ⟨session, there, listens⟩ := Option.bind_eq_some_iff.mp listens
  rw [session?_change] at there
  split at there
  next same =>
    obtain ⟨before, found, rfl⟩ := Option.map_eq_some_iff.mp there
    exact .inr ⟨same, before, found, listens⟩
  next => exact .inl (Option.bind_eq_some_iff.mpr ⟨session, there, listens⟩)

/-- Who listens to a session is the newcomer, or listened to it before. -/
theorem listener?_listen (transport : MemoryTransport Listener) (heard : Nat) (newcomer : Listener)
    {number : Nat} {listener : Listener}
    (listens : (transport.listen heard newcomer).listener? number = some listener) :
    transport.listener? number = some listener ∨ number = heard ∧ listener = newcomer := by
  rcases transport.listener?_change heard _ listens with before | ⟨same, session, there, listens⟩
  · exact .inl before
  · split at listens
    · exact .inl (Option.bind_eq_some_iff.mpr ⟨session, there, listens⟩)
    · exact .inr ⟨same, (Option.some.inj listens).symm⟩

theorem listener?_endSession (transport : MemoryTransport Listener) (token : String) {number : Nat}
    {listener : Listener}
    (listens : (transport.endSession token).2.listener? number = some listener) :
    transport.listener? number = some listener := by
  unfold endSession at listens
  split at listens
  · exact listens
  · rcases (transport.forget token).listener?_change _ _ listens with before | ⟨_, _, _, none⟩
    · exact before
    · cases none

theorem listener?_closeSession (transport : MemoryTransport Listener) (closed : Nat) {number : Nat}
    {listener : Listener}
    (listens : (transport.closeSession closed).listener? number = some listener) :
    transport.listener? number = some listener := by
  obtain ⟨session, there, listens⟩ := Option.bind_eq_some_iff.mp listens
  rw [session?_closeSession] at there
  split at there
  · obtain ⟨before, found, rfl⟩ := Option.map_eq_some_iff.mp there
    split at listens
    · exact Option.bind_eq_some_iff.mpr ⟨before, found, listens⟩
    · cases listens
  · exact Option.bind_eq_some_iff.mpr ⟨session, there, listens⟩

/-! ### Tokens -/

/-- A token that is forgotten reaches no session. -/
theorem current?_forget (transport : MemoryTransport Listener) (gone token : String) :
    (transport.forget gone).current? token =
      if token = gone then none else transport.current? token := by
  unfold current? forget
  rw [List.find?_filter]
  split
  next same =>
    subst same
    simp
  next other =>
    congr 2
    grind

/-- Opening a session concerns its token alone. -/
theorem current?_openSession_other (transport : MemoryTransport Listener) {opened token : String}
    (different : token ≠ opened) :
    (transport.openSession opened).2.current? token = transport.current? token := by
  have others := transport.current?_forget opened token
  rw [if_neg different] at others
  unfold openSession
  split
  · rfl
  · rw [← others, current?, current?, List.find?_cons_of_neg]
    simpa using Ne.symm different

/-- Closing a session concerns its token alone. -/
theorem current?_closeSession_other (transport : MemoryTransport Listener) {number : Nat}
    {session : MemorySession Listener} (there : transport.session? number = some session)
    {token : String} (different : token ≠ session.token) :
    (transport.closeSession number).current? token = transport.current? token := by
  unfold closeSession
  rw [there]
  dsimp only
  split
  · rfl
  · split
    · exact (current?_forget _ session.token token).trans (if_neg different)
    · rfl

/-! ### Calls -/

/-- The calls that have been recorded, and how many have begun. -/
def calls (transport : MemoryTransport Listener) : List (String × Call) × Nat :=
  (transport.recorded, transport.sendsStarted)

/-- Closing a session changes nothing that is set from outside. -/
theorem closeSession_frame (transport : MemoryTransport Listener) (closed : Nat) :
    (transport.closeSession closed).rejected = transport.rejected ∧
      (transport.closeSession closed).openDelay = transport.openDelay ∧
      (transport.closeSession closed).closeDelay = transport.closeDelay ∧
      (transport.closeSession closed).sendDelay = transport.sendDelay := by
  unfold closeSession
  split
  · exact ⟨rfl, rfl, rfl, rfl⟩
  · split
    · exact ⟨rfl, rfl, rfl, rfl⟩
    · dsimp only
      split <;> exact ⟨rfl, rfl, rfl, rfl⟩

theorem calls_openSession (transport : MemoryTransport Listener) (token : String) :
    (transport.openSession token).2.calls = transport.calls := by
  unfold openSession
  split <;> rfl

theorem calls_closeSession (transport : MemoryTransport Listener) (number : Nat) :
    (transport.closeSession number).calls = transport.calls := by
  unfold closeSession
  split
  · rfl
  · split
    · rfl
    · dsimp only
      split <;> rfl

theorem calls_endSession (transport : MemoryTransport Listener) (token : String) :
    (transport.endSession token).2.calls = transport.calls := by
  unfold endSession
  split <;> rfl

/-! ### What always holds -/

namespace Sound

variable {transport next : MemoryTransport Listener}

theorem congr (sound : transport.Sound) (sessions : next.sessions = transport.sessions)
    (count : next.closedCount = transport.closedCount) : next.Sound := by
  obtain ⟨listening, counted⟩ := sound
  constructor
  · intro number session there
    rw [session?, sessions] at there
    exact listening there
  · rw [count, sessions, counted]

theorem openSession (sound : transport.Sound) {token : String} {number : Nat}
    (opened : transport.openSession token = (.ok number, next)) : next.Sound := by
  obtain ⟨_, sessions, count⟩ := openSession_ok opened
  constructor
  · intro other session there listens
    rw [session?, sessions, List.getElem?_append, List.getElem?_singleton] at there
    split at there
    · exact sound.listening there listens
    · split at there
      · obtain rfl := Option.some.inj there
        cases listens
      · cases there
  · rw [count, sessions, List.countP_append, sound.counted]
    rfl

/-- A change that closes no session keeps the count. -/
theorem change (sound : transport.Sound) (number : Nat)
    {change : MemorySession Listener → MemorySession Listener}
    (same : ∀ session, (change session).closed = session.closed)
    (listening : ∀ session, (session.listener.isSome = true →
      session.closed = false ∧ session.ended = false) → (change session).listener.isSome = true →
        (change session).closed = false ∧ (change session).ended = false) :
    (transport.change number change).Sound := by
  constructor
  · intro other session there listens
    rw [session?_change] at there
    split at there
    · obtain ⟨before, found, rfl⟩ := Option.map_eq_some_iff.mp there
      exact listening before (sound.listening found) listens
    · exact sound.listening there listens
  · show transport.closedCount = _
    rw [sound.counted]
    cases there : transport.session? number with
    | none =>
      have beyond : transport.sessions.length ≤ number := List.getElem?_eq_none_iff.mp there
      rw [MemoryTransport.change, List.modify_eq_self beyond]
    | some session =>
      have counts := transport.countP_change there change
      rw [same] at counts
      omega

theorem listen (sound : transport.Sound) (number : Nat) (listener : Listener) :
    (transport.listen number listener).Sound := by
  refine sound.change number ?_ ?_
  · intro session
    split <;> rfl
  · intro session before
    split
    · exact before
    next unclosed => exact fun _ => by simpa using unclosed

theorem endSession (sound : transport.Sound) (token : String) :
    (transport.endSession token).2.Sound := by
  unfold MemoryTransport.endSession
  split
  · exact sound
  next number _ =>
    have forgot : (transport.forget token).Sound := sound.congr rfl rfl
    exact forgot.change number (fun _ => rfl) fun _ _ => nofun

theorem closeSession (sound : transport.Sound) (number : Nat) :
    (transport.closeSession number).Sound := by
  constructor
  · intro other session there listens
    rw [session?_closeSession] at there
    split at there
    · obtain ⟨before, found, changed⟩ := Option.map_eq_some_iff.mp there
      split at changed <;> subst changed
      · exact sound.listening found listens
      · cases listens
    · exact sound.listening there listens
  · by_cases unclosed : ∃ session, transport.session? number = some session ∧ session.closed = false
    · obtain ⟨session, there, unclosed⟩ := unclosed
      obtain ⟨current, equal⟩ := transport.closeSession_eq there unclosed
      rw [equal]
      have counts := transport.countP_change there
        fun session => { session with closed := true, listener := none }
      rw [unclosed] at counts
      show transport.closedCount + 1 = _
      rw [sound.counted]
      simpa using counts.symm
    · rw [transport.closeSession_of_closed, sound.counted]
      intro session there
      by_contra other
      exact unclosed ⟨session, there, by simpa using other⟩

end Sound

end MemoryTransport

end BotHost
