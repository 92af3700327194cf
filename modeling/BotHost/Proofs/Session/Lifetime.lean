/-
The life of a session.

A session that has been opened is gone once it has been closed or has ended by itself, and there is no
way back. Since the current session of a token is never one that is gone, and whoever listens to a
session is dropped with it, no event goes through such a session any more.
-/

import BotHost.Proofs.Session.Memory

namespace BotHost

variable {Listener : Type}

/-- A session is gone when it has been closed or has ended by itself. -/
def MemorySession.gone (session : MemorySession Listener) : Bool := session.closed || session.ended

namespace MemoryTransport

/-- Where an event for a token goes: the session and whoever listens to it. -/
def reached? (transport : MemoryTransport Listener) (token : String) : Option (Nat × Listener) :=
  (transport.current? token).bind fun number => (transport.listener? number).map (number, ·)

/-- The current session of a token is one of its own that is not gone. -/
def Indexed (transport : MemoryTransport Listener) : Prop :=
  ∀ token number, transport.current? token = some number →
    ∃ session, transport.session? number = some session ∧ session.token = token ∧
      session.gone = false

/-- Nobody listens to a session, no event goes through it, and who wants to listen is turned away. -/
structure Silent (transport : MemoryTransport Listener) (number : Nat) : Prop where
  unheard : transport.listener? number = none
  unreached : ∀ token listener, transport.reached? token ≠ some (number, listener)
  deaf : ∀ listener, transport.listen number listener = transport

/-- What can become of the sessions of a transport at once. -/
inductive Changes (transport : MemoryTransport Listener) : MemoryTransport Listener → Prop
  | opens (token : String) : Changes transport (transport.openSession token).2
  | listens (number : Nat) (listener : Listener) :
      Changes transport (transport.listen number listener)
  | ends (token : String) : Changes transport (transport.endSession token).2
  | closes (number : Nat) : Changes transport (transport.closeSession number)
  | spares {next : MemoryTransport Listener} (sessions : next.sessions = transport.sessions)
      (current : next.current = transport.current)
      (closedCount : next.closedCount = transport.closedCount) : Changes transport next

theorem Changes.refl (transport : MemoryTransport Listener) : transport.Changes transport :=
  .spares rfl rfl rfl

variable {transport next : MemoryTransport Listener}

/-! ### Sessions that stay -/

/-- A session stays in the list, and what has been done to it stays done. -/
theorem Changes.session? (changes : transport.Changes next) {number : Nat}
    {session : MemorySession Listener} (there : transport.session? number = some session) :
    ∃ later, next.session? number = some later ∧ later.token = session.token ∧
      (session.closed = true → later.closed = true) ∧ (session.ended = true → later.ended = true) := by
  have unchanged (same : next.session? number = some session) : ∃ later,
      next.session? number = some later ∧ later.token = session.token ∧
        (session.closed = true → later.closed = true) ∧
          (session.ended = true → later.ended = true) :=
    ⟨session, same, rfl, id, id⟩
  cases changes with
  | opens token =>
    rcases transport.session?_openSession token number with same | ⟨last, _⟩
    · exact unchanged (same.trans there)
    · have bound := (List.getElem?_eq_some_iff.mp there).1
      omega
  | listens heard listener =>
    have changed := transport.session?_change heard (fun session =>
      if session.closed || session.ended then session
      else { session with listener := some listener }) number
    split at changed
    · rw [there, Option.map_some] at changed
      refine ⟨_, changed, ?_⟩
      split <;> exact ⟨rfl, id, id⟩
    · exact unchanged (changed.trans there)
  | ends token =>
    unfold endSession at unchanged ⊢
    split
    next => exact ⟨session, there, rfl, id, id⟩
    next current _ =>
      have changed := (transport.forget token).session?_change current
        (fun session => { session with ended := true, listener := none }) number
      have there' : (transport.forget token).session? number = some session := there
      split at changed
      · rw [there', Option.map_some] at changed
        exact ⟨_, changed, rfl, id, fun _ => rfl⟩
      · exact ⟨session, changed.trans there', rfl, id, id⟩
  | closes closed =>
    have changed := transport.session?_closeSession closed number
    split at changed
    · rw [there, Option.map_some] at changed
      refine ⟨_, changed, ?_⟩
      split
      · exact ⟨rfl, id, id⟩
      · exact ⟨rfl, fun _ => rfl, id⟩
    · exact unchanged (changed.trans there)
  | spares sessions =>
    refine unchanged ?_
    rw [MemoryTransport.session?, sessions]
    exact there

theorem Changes.gone (changes : transport.Changes next) {number : Nat}
    {session : MemorySession Listener} (there : transport.session? number = some session)
    (gone : session.gone = true) :
    ∃ later, next.session? number = some later ∧ later.gone = true := by
  obtain ⟨later, there', _, closed, ended⟩ := changes.session? there
  refine ⟨later, there', ?_⟩
  simp only [MemorySession.gone, Bool.or_eq_true] at gone ⊢
  exact gone.imp closed ended

/-! ### What always holds -/

theorem Sound.after (sound : transport.Sound) (changes : transport.Changes next) : next.Sound := by
  cases changes with
  | opens token =>
    rcases opened : transport.openSession token with ⟨fault | number, later⟩
    · rw [openSession_error opened]
      exact sound
    · exact sound.openSession opened
  | listens number listener => exact sound.listen number listener
  | ends token => exact sound.endSession token
  | closes number => exact sound.closeSession number
  | spares sessions _ closedCount => exact sound.congr sessions closedCount

namespace Indexed

theorem congr (indexed : transport.Indexed) (sessions : next.sessions = transport.sessions)
    (current : next.current = transport.current) : next.Indexed := by
  intro token number there
  rw [current?, current] at there
  rw [session?, sessions]
  exact indexed token number there

/-- If fewer sessions are current and those are not changed, or not in what matters. -/
theorem fewer (indexed : transport.Indexed)
    (fewer : ∀ token number, next.current? token = some number →
      transport.current? token = some number)
    (same : ∀ token number session, next.current? token = some number →
      transport.session? number = some session →
        ∃ later, next.session? number = some later ∧ later.token = session.token ∧
          later.gone = session.gone) : next.Indexed := by
  intro token number there
  obtain ⟨session, found, own, open'⟩ := indexed token number (fewer token number there)
  obtain ⟨later, found', token', gone⟩ := same token number session there found
  exact ⟨later, found', token'.trans own, gone.trans open'⟩

theorem openSession (indexed : transport.Indexed) (opened : String) :
    (transport.openSession opened).2.Indexed := by
  intro token number there
  by_cases other : token = opened
  · subst other
    unfold MemoryTransport.openSession at there ⊢
    split at there
    next rejected =>
      rw [if_pos rejected]
      exact indexed token number there
    next accepted =>
      rw [if_neg accepted]
      have last : number = transport.sessions.length := by
        simpa [current?, eq_comm] using there
      subst last
      exact ⟨_, List.getElem?_concat_length, rfl, rfl⟩
  · rw [current?_openSession_other _ other] at there
    obtain ⟨session, found, own, open'⟩ := indexed token number there
    rcases transport.session?_openSession opened number with same | ⟨last, _⟩
    · exact ⟨session, same.trans found, own, open'⟩
    · have bound := (List.getElem?_eq_some_iff.mp found).1
      omega

theorem listen (indexed : transport.Indexed) (heard : Nat) (listener : Listener) :
    (transport.listen heard listener).Indexed := by
  refine indexed.fewer (fun _ _ => id) fun token number session _ found => ?_
  have changed := transport.session?_change heard (fun session =>
    if session.closed || session.ended then session
    else { session with listener := some listener }) number
  split at changed
  · rw [found, Option.map_some] at changed
    refine ⟨_, changed, ?_⟩
    split <;> exact ⟨rfl, rfl⟩
  · exact ⟨session, changed.trans found, rfl, rfl⟩

/-- The session that ends is the current one of its own token alone. -/
theorem endSession (indexed : transport.Indexed) (ended : String) :
    (transport.endSession ended).2.Indexed := by
  unfold MemoryTransport.endSession
  split
  next => exact indexed
  next last current =>
    have forgets (token : String) := transport.current?_forget ended token
    refine indexed.fewer (fun token number there => ?_) fun token number session there found => ?_
    · have before := forgets token
      split at before
      · exact absurd (there.symm.trans before) nofun
      · exact before.symm.trans there
    · have before := forgets token
      split at before
      · exact absurd (there.symm.trans before) nofun
      next different =>
      have changed := (transport.forget ended).session?_change last
        (fun session => { session with ended := true, listener := none }) number
      rw [if_neg] at changed
      · exact ⟨session, changed.trans found, rfl, rfl⟩
      · rintro rfl
        obtain ⟨_, found', own, _⟩ := indexed _ _ current
        obtain ⟨_, found'', own', _⟩ := indexed _ _ (before.symm.trans there)
        rw [found'] at found''
        cases found''
        exact different (own'.symm.trans own)

theorem closeSession (indexed : transport.Indexed) (closed : Nat) :
    (transport.closeSession closed).Indexed := by
  cases there : transport.session? closed with
  | none =>
    rw [transport.closeSession_of_closed fun _ found => absurd (there.symm.trans found) nofun]
    exact indexed
  | some session =>
    cases unclosed : session.closed with
    | true =>
      rw [transport.closeSession_of_closed]
      · exact indexed
      · intro other found
        obtain rfl := Option.some.inj (there.symm.trans found)
        exact unclosed
    | false =>
      have detached {token : String} {number : Nat}
          (still : (transport.closeSession closed).current? token = some number) :
          transport.current? token = some number ∧ number ≠ closed := by
        by_cases own : token = session.token
        · subst own
          unfold MemoryTransport.closeSession at still
          simp only [there, unclosed, Bool.false_eq_true, if_false] at still
          split at still
          · have gone := (transport.change closed fun session =>
              { session with closed := true, listener := none }).current?_forget session.token
                session.token
            rw [if_pos rfl] at gone
            exact absurd (still.symm.trans gone) nofun
          next other =>
            refine ⟨still, ?_⟩
            rintro rfl
            exact other still
        · have before := transport.current?_closeSession_other there own
          refine ⟨before.symm.trans still, ?_⟩
          rintro rfl
          obtain ⟨_, found, own', _⟩ := indexed _ _ (before.symm.trans still)
          obtain rfl := Option.some.inj (there.symm.trans found)
          exact own own'.symm
      refine indexed.fewer (fun _ _ still => (detached still).1) fun _ number other still found => ?_
      have changed := transport.session?_closeSession closed number
      rw [if_neg (detached still).2] at changed
      exact ⟨other, changed.trans found, rfl, rfl⟩

theorem after (indexed : transport.Indexed) (changes : transport.Changes next) : next.Indexed := by
  cases changes with
  | opens token => exact indexed.openSession token
  | listens number listener => exact indexed.listen number listener
  | ends token => exact indexed.endSession token
  | closes number => exact indexed.closeSession number
  | spares sessions current => exact indexed.congr sessions current

end Indexed

/-! ### Sessions that are gone -/

theorem listen_of_gone {number : Nat} {session : MemorySession Listener}
    (there : transport.session? number = some session) (gone : session.gone = true)
    (listener : Listener) : transport.listen number listener = transport := by
  obtain ⟨bound, found⟩ := List.getElem?_eq_some_iff.mp there
  have same : (if session.closed || session.ended then session
      else { session with listener := some listener }) = session := if_pos gone
  rw [listen, change, List.modify_eq_take_cons_drop bound, found, same, ← found,
    ← List.drop_eq_getElem_cons bound, List.take_append_drop]

/-- No event goes through a session that is gone. -/
theorem silent_of_gone (sound : transport.Sound) (indexed : transport.Indexed) {number : Nat}
    {session : MemorySession Listener} (there : transport.session? number = some session)
    (gone : session.gone = true) : transport.Silent number where
  unheard := by
    rw [listener?, there, Option.bind_some]
    by_contra heard
    obtain ⟨unclosed, unended⟩ := sound.listening there (Option.isSome_iff_ne_none.mpr heard)
    rw [MemorySession.gone, unclosed, unended] at gone
    cases gone
  unreached := by
    intro token listener reached
    obtain ⟨current, here, listens⟩ := Option.bind_eq_some_iff.mp reached
    obtain ⟨_, _, same⟩ := Option.map_eq_some_iff.mp listens
    obtain rfl : current = number := congrArg Prod.fst same
    obtain ⟨other, found, _, open'⟩ := indexed _ _ here
    obtain rfl := Option.some.inj (there.symm.trans found)
    rw [gone] at open'
    cases open'
  deaf := listen_of_gone there gone

end MemoryTransport

end BotHost
