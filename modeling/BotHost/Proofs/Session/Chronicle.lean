/-
The in-memory transport beside what those who use it have seen.

A chronicle writes down what anybody who deals with the transport can tell: which sessions they were
given, with whom they registered, which closes have returned and which sessions the transport has said
that it ended. An open or a close takes effect when its delay has passed, or never if it was given up
before, and anything can happen in between.

What the transport does can be told from the chronicle alone. The session of a token is the one that was
opened last for it, as long as that has been neither closed nor ended; older ones are never taken for it
again, and to close them, once or again, does nothing to it. What carries the proof is that a session
that is over drops out under its token and nothing else changes there.
-/

import BotHost.Proofs.Session.Contract
import BotHost.Proofs.Session.Lifetime
import Mathlib.Data.List.Dedup

namespace BotHost

/-! ### Sessions that drop out under their token -/

namespace MemoryTransport

variable {Listener : Type} {transport : MemoryTransport Listener}

theorem filter_bne_eq_self {found : Option Nat} {gone : Nat} (other : found ≠ some gone) :
    found.filter (· != gone) = found := by
  cases found with
  | none => rfl
  | some number => exact Option.filter_some_pos (by simpa using other)

theorem filter_bne_self (gone : Nat) : (some gone).filter (· != gone) = none :=
  Option.filter_some_neg (by simp)

/-- Closing a session takes it away under its token, and no other one under any token. -/
theorem Indexed.current?_closeSession (indexed : transport.Indexed) (closed : Nat) (token : String) :
    (transport.closeSession closed).current? token =
      (transport.current? token).filter (· != closed) := by
  by_cases unclosed : ∃ session, transport.session? closed = some session ∧ session.closed = false
  · obtain ⟨session, there, unclosed⟩ := unclosed
    by_cases own : token = session.token
    · subst own
      unfold MemoryTransport.closeSession
      simp only [there, unclosed, Bool.false_eq_true, if_false]
      split
      next current =>
        refine (current?_forget _ session.token session.token).trans ?_
        rw [if_pos rfl, current, filter_bne_self]
      next other => exact (filter_bne_eq_self other).symm
    · rw [transport.current?_closeSession_other there own, filter_bne_eq_self]
      intro current
      obtain ⟨_, found, own', _⟩ := indexed _ _ current
      obtain rfl := Option.some.inj (there.symm.trans found)
      exact own own'.symm
  · rw [transport.closeSession_of_closed, filter_bne_eq_self]
    · intro current
      obtain ⟨session, there, _, present⟩ := indexed _ _ current
      refine unclosed ⟨session, there, ?_⟩
      exact (Bool.or_eq_false_iff.mp present).1
    · intro session there
      by_contra other
      exact unclosed ⟨session, there, by simpa using other⟩

/-- A token reaches the session that was opened with it last. -/
theorem current?_of_opened {next : MemoryTransport Listener} {opened : String} {number : Nat}
    (opens : transport.openSession opened = (.ok number, next)) (token : String) :
    next.current? token = if opened = token then some number else transport.current? token := by
  split
  next same =>
    subst same
    unfold openSession at opens
    split at opens <;> cases opens
    simp [current?]
  next different =>
    have others := transport.current?_openSession_other (Ne.symm different)
    rwa [opens] at others

theorem session?_of_opened {next : MemoryTransport Listener} {token : String} {fresh : Nat}
    (opened : transport.openSession token = (.ok fresh, next)) (number : Nat) :
    next.session? number =
      if number = transport.sessions.length then some ⟨token, none, false, false⟩
      else transport.session? number := by
  obtain ⟨_, sessions, _⟩ := openSession_ok opened
  rw [session?, sessions, List.getElem?_append, List.getElem?_singleton]
  unfold session?
  grind

/-- A session that ends drops out under its token, and no other one under any token. -/
theorem Indexed.current?_endSession (indexed : transport.Indexed) {ended : String} {last : Nat}
    (current : transport.current? ended = some last) (token : String) :
    (transport.endSession ended).2.current? token =
      (transport.current? token).filter (· != last) := by
  unfold MemoryTransport.endSession
  rw [current]
  refine (transport.current?_forget ended token).trans ?_
  split
  next same =>
    subst same
    rw [current, filter_bne_self]
  next different =>
    refine (filter_bne_eq_self fun there => ?_).symm
    obtain ⟨_, found, own, _⟩ := indexed _ _ current
    obtain ⟨_, found', own', _⟩ := indexed _ _ there
    rw [found] at found'
    cases found'
    exact different (own'.symm.trans own)

theorem sessionId_injective : Function.Injective sessionId := by
  intro one other same
  have digits := (String.append_right_inj _).mp same
  rw [Nat.toString_eq_ofList_toDigits, Nat.toString_eq_ofList_toDigits] at digits
  have numbers := congrArg (Nat.ofDigitChars 10 · 0) (String.ofList_injective digits)
  simpa only [Nat.ofDigitChars_ten_toDigits] using numbers

/-- One session has been changed, and the others are as they were. -/
def Differs (transport next : MemoryTransport Listener) (changed : Nat)
    (change : MemorySession Listener → MemorySession Listener) : Prop :=
  ∀ number, next.session? number =
    if number = changed then (transport.session? number).map change
    else transport.session? number

/-- A mark that the change leaves alone stands where it stood. -/
theorem Differs.marked {next : MemoryTransport Listener} {changed : Nat}
    {change : MemorySession Listener → MemorySession Listener}
    (differs : transport.Differs next changed change) {mark : MemorySession Listener → Bool}
    (kept : ∀ session, mark (change session) = mark session) (number : Nat) :
    (∃ session, transport.session? number = some session ∧ mark session = true) ↔
      ∃ session, next.session? number = some session ∧ mark session = true := by
  rw [differs]
  split
  · simp only [Option.map_eq_some_iff]
    constructor
    · rintro ⟨session, there, marked⟩
      exact ⟨_, ⟨session, there, rfl⟩, (kept session).trans marked⟩
    · rintro ⟨_, ⟨session, there, rfl⟩, marked⟩
      exact ⟨session, there, (kept session).symm.trans marked⟩
  · rfl

theorem differs_endSession {ended : String} {last : Nat}
    (current : transport.current? ended = some last) :
    transport.Differs (transport.endSession ended).2 last fun session =>
      { session with ended := true, listener := none } := by
  unfold MemoryTransport.endSession
  rw [current]
  exact (transport.forget ended).session?_change last _

end MemoryTransport

/-! ### What is written down -/

/-- What takes effect when a delay has passed. -/
inductive Delayed where
  | opening (token : String)
  | closing (number : Nat)
deriving DecidableEq, Repr

/-- What can happen to the transport. A delayed call is named by the number under which it has begun. -/
inductive ChronicleMove (Listener : Type) where
  | beginOpen (token : String)
  | beginClose (number : Nat)
  | takeEffect (call : Nat)
  | giveUp (call : Nat)
  | listen (number : Nat) (listener : Listener)
  | inject (token : String) (event : Event)
  | endSession (token : String)
  | reject (token : String)
  | accept (token : String)
  | setDelays (opening closing sending : Nat)
  | pass (milliseconds : Nat)
deriving Repr

/-- The transport and its clock, with the calls that wait and when they are due, and what has been seen of
it: the tokens and numbers of the sessions that were opened, the sessions a close of which has returned,
those that the transport has ended, who has been registered with which session, and what has been
handed to whom through which session. -/
structure Chronicle (Listener : Type) where
  transport : MemoryTransport Listener := {}
  now : Nat := 0
  waiting : List (Option (Delayed × Nat)) := []
  opened : List (String × Nat) := []
  closed : List Nat := []
  ended : List Nat := []
  registered : List (Nat × Listener) := []
  delivered : List (Nat × Listener × Event) := []

namespace Chronicle

variable {Listener : Type}

/-! ### What can be told -/

/-- The session that was opened last for a token. -/
def latest? (chronicle : Chronicle Listener) (token : String) : Option Nat :=
  (chronicle.opened.reverse.find? fun entry => entry.1 == token).map Prod.snd

/-- A session has been closed, or the transport has ended it. -/
def isOver (chronicle : Chronicle Listener) (number : Nat) : Bool :=
  chronicle.closed.contains number || chronicle.ended.contains number

/-- The session that was opened last for a token, unless it is over. -/
def live? (chronicle : Chronicle Listener) (token : String) : Option Nat :=
  (chronicle.latest? token).filter fun number => !chronicle.isOver number

/-- Who was registered last with a session. -/
def heard? (chronicle : Chronicle Listener) (number : Nat) : Option Listener :=
  (chronicle.registered.reverse.find? fun entry => entry.1 == number).map Prod.snd

/-! ### What happens -/

/-- A session is opened, if the token is accepted. -/
def openSession (chronicle : Chronicle Listener) (token : String) : Chronicle Listener :=
  match chronicle.transport.openSession token with
  | (.ok number, transport) =>
    { chronicle with transport, opened := chronicle.opened ++ [(token, number)] }
  | (.error _, transport) => { chronicle with transport }

/-- A session is closed, perhaps not for the first time. -/
def closeSession (chronicle : Chronicle Listener) (number : Nat) : Chronicle Listener :=
  { chronicle with
    transport := chronicle.transport.closeSession number
    closed := chronicle.closed ++ [number] }

/-- The transport ends the session of a token that is current there. -/
def endSession (chronicle : Chronicle Listener) (token : String) : Chronicle Listener :=
  { chronicle with
    transport := (chronicle.transport.endSession token).2
    ended := chronicle.ended ++ (chronicle.transport.current? token).toList }

/-- Somebody is registered with a session. -/
def listen (chronicle : Chronicle Listener) (number : Nat) (listener : Listener) :
    Chronicle Listener :=
  { chronicle with
    transport := chronicle.transport.listen number listener
    registered := chronicle.registered ++ [(number, listener)] }

/-- A call that waits takes effect. -/
def perform (chronicle : Chronicle Listener) : Delayed → Chronicle Listener
  | .opening token => chronicle.openSession token
  | .closing number => chronicle.closeSession number

/-- The chronicle after a move. Nobody is registered with a session that has not been opened, nor is it
closed. -/
def after? (chronicle : Chronicle Listener) : ChronicleMove Listener → Option (Chronicle Listener)
  | .beginOpen token =>
    some { chronicle with
      waiting := chronicle.waiting ++
        [some (.opening token, chronicle.now + chronicle.transport.openDelay)] }
  | .beginClose number =>
    (chronicle.transport.session? number).map fun _ => { chronicle with
      waiting := chronicle.waiting ++
        [some (.closing number, chronicle.now + chronicle.transport.closeDelay)] }
  | .takeEffect call =>
    match chronicle.waiting[call]? with
    | some (some (delayed, due)) =>
      if due ≤ chronicle.now then
        some ({ chronicle with waiting := chronicle.waiting.set call none }.perform delayed)
      else none
    | _ => none
  | .giveUp call => some { chronicle with waiting := chronicle.waiting.set call none }
  | .listen number listener =>
    (chronicle.transport.session? number).map fun _ => chronicle.listen number listener
  | .inject token event => some { chronicle with
      delivered := chronicle.delivered ++
        ((chronicle.transport.reached? token).map fun reached => (reached.1, reached.2, event)).toList }
  | .endSession token => some (chronicle.endSession token)
  | .reject token => some { chronicle with transport := chronicle.transport.reject token }
  | .accept token => some { chronicle with transport := chronicle.transport.accept token }
  | .setDelays opening closing sending =>
    some { chronicle with transport := { chronicle.transport with
      openDelay := opening, closeDelay := closing, sendDelay := sending } }
  | .pass milliseconds => some { chronicle with now := chronicle.now + milliseconds }

variable {chronicle next : Chronicle Listener} {move : ChronicleMove Listener} {token : String}
  {number : Nat}

/-- A delayed operation takes effect once. -/
theorem takeEffect_cases {call : Nat} (made : chronicle.after? (.takeEffect call) = some next) :
    ∃ delayed due, some (delayed, due) ∈ chronicle.waiting ∧
      next = { chronicle with waiting := chronicle.waiting.set call none }.perform delayed := by
  simp only [after?] at made
  split at made
  next delayed due waits =>
    split at made
    next passed =>
      cases made
      exact ⟨delayed, due, List.mem_of_getElem? waits, rfl⟩
    next => cases made
  next => cases made

/-! ### The session opened last -/

/-- The latest session of a token is the one opened last with it. -/
theorem latest?_append {opened : String × Nat}
    (later : next.opened = chronicle.opened ++ [opened]) (token : String) :
    next.latest? token =
      if opened.1 = token then some opened.2 else chronicle.latest? token := by
  unfold latest?
  rw [later, List.reverse_append, List.reverse_singleton, List.singleton_append, List.find?_cons]
  split <;> simp_all

/-- A session hears the listener that was registered last for it. -/
theorem heard?_append {registered : Nat × Listener}
    (later : next.registered = chronicle.registered ++ [registered]) (number : Nat) :
    next.heard? number =
      if registered.1 = number then some registered.2 else chronicle.heard? number := by
  unfold heard?
  rw [later, List.reverse_append, List.reverse_singleton, List.singleton_append, List.find?_cons]
  split <;> simp_all

/-- A session is unheard while listeners have been registered for earlier ones only. -/
theorem heard?_eq_none (unheard : ∀ entry ∈ chronicle.registered, entry.1 < number) :
    chronicle.heard? number = none := by
  rw [heard?, Option.map_eq_none_iff, List.find?_eq_none]
  intro entry member
  simpa using Nat.ne_of_lt (unheard entry (List.mem_reverse.mp member))

/-- If one more session is over, it drops out under its token. -/
theorem live?_of_over {later : Chronicle Listener} {gone : Nat}
    (latest : later.latest? token = chronicle.latest? token)
    (isOver : ∀ number, later.isOver number = (chronicle.isOver number || number == gone)) :
    later.live? token = (chronicle.live? token).filter (· != gone) := by
  rw [live?, live?, latest, Option.filter_filter]
  congr 1
  funext number
  rw [isOver, Bool.not_or]
  rfl

/-! ### What the transport knows of it -/

/-- The transport and what has been seen of it agree. -/
structure Faithful (chronicle : Chronicle Listener) : Prop where
  sound : chronicle.transport.Sound
  indexed : chronicle.transport.Indexed
  opened : ∀ number, chronicle.opened[number]? =
    (chronicle.transport.session? number).map fun session => (session.token, number)
  closed : ∀ number, number ∈ chronicle.closed ↔
    ∃ session, chronicle.transport.session? number = some session ∧ session.closed = true
  ended : ∀ number, number ∈ chronicle.ended ↔
    ∃ session, chronicle.transport.session? number = some session ∧ session.ended = true
  registered : ∀ entry ∈ chronicle.registered, entry.1 < chronicle.transport.sessions.length
  awaited : ∀ number due, some (Delayed.closing number, due) ∈ chronicle.waiting →
    number < chronicle.transport.sessions.length
  heard : ∀ number session, chronicle.transport.session? number = some session →
    session.gone = false → session.listener = chronicle.heard? number
  current : ∀ token, chronicle.transport.current? token = chronicle.live? token

namespace Faithful

theorem start : ({} : Chronicle Listener).Faithful where
  sound := ⟨nofun, rfl⟩
  indexed := nofun
  opened := fun _ => rfl
  closed := fun _ => ⟨nofun, nofun⟩
  ended := fun _ => ⟨nofun, nofun⟩
  registered := nofun
  awaited := nofun
  heard := nofun
  current := fun _ => rfl

/-- A move that concerns no session, and makes nobody wait to close one that is not there. -/
theorem congr (faithful : chronicle.Faithful)
    (sessions : next.transport.sessions = chronicle.transport.sessions)
    (current : next.transport.current = chronicle.transport.current)
    (closedCount : next.transport.closedCount = chronicle.transport.closedCount)
    (opened : next.opened = chronicle.opened) (closed : next.closed = chronicle.closed)
    (ended : next.ended = chronicle.ended) (registered : next.registered = chronicle.registered)
    (awaited : ∀ number due, some (Delayed.closing number, due) ∈ next.waiting →
      number < chronicle.transport.sessions.length) : next.Faithful where
  sound := faithful.sound.congr sessions closedCount
  indexed := faithful.indexed.congr sessions current
  opened := by simpa only [MemoryTransport.session?, sessions, opened] using faithful.opened
  closed := by simpa only [MemoryTransport.session?, sessions, closed] using faithful.closed
  ended := by simpa only [MemoryTransport.session?, sessions, ended] using faithful.ended
  registered := by simpa only [sessions, registered] using faithful.registered
  awaited := by simpa only [sessions] using awaited
  heard := by
    simpa only [MemoryTransport.session?, sessions, heard?, registered] using faithful.heard
  current := by
    simpa only [MemoryTransport.current?, current, live?, latest?, isOver, opened, closed, ended] using
      faithful.current

/-- As many sessions have been opened as the transport has. -/
theorem length_opened (faithful : chronicle.Faithful) :
    chronicle.opened.length = chronicle.transport.sessions.length := by
  have tokens : chronicle.opened.map Prod.fst = chronicle.transport.sessions.map (·.token) := by
    refine List.ext_getElem? fun number => ?_
    rw [List.getElem?_map, List.getElem?_map, faithful.opened, Option.map_map]
    rfl
  simpa using congrArg List.length tokens

/-- Nothing has been seen of the session that is opened next. -/
theorem unseen (faithful : chronicle.Faithful) :
    chronicle.transport.sessions.length ∉ chronicle.closed ∧
      chronicle.transport.sessions.length ∉ chronicle.ended := by
  rw [faithful.closed, faithful.ended]
  simp [MemoryTransport.session?]

/-- A session that is opened is the last one of its token, and nothing has been seen of it yet. -/
theorem openSession (faithful : chronicle.Faithful) (token : String) :
    (chronicle.openSession token).Faithful := by
  unfold Chronicle.openSession
  split
  next number transport opened =>
    have current := MemoryTransport.current?_of_opened opened
    have grown := MemoryTransport.session?_of_opened opened
    obtain ⟨rfl, sessions, _⟩ := MemoryTransport.openSession_ok opened
    have length : transport.sessions.length = chronicle.transport.sessions.length + 1 := by
      rw [sessions, List.length_append, List.length_singleton]
    refine
      { sound := faithful.sound.openSession opened
        indexed := by simpa only [opened] using faithful.indexed.openSession token
        opened := fun number => ?opened
        closed := fun number => (faithful.closed number).trans ?closed
        ended := fun number => (faithful.ended number).trans ?ended
        registered := fun entry member => ?registered
        awaited := fun number due member => ?awaited
        heard := fun number session there present => ?heard
        current := fun other => ?current }
    case opened =>
      show (chronicle.opened ++ [_])[number]? = (transport.session? number).map _
      rw [grown, List.getElem?_append, List.getElem?_singleton, faithful.opened,
        faithful.length_opened]
      grind [MemoryTransport.session?]
    case closed =>
      show _ ↔ ∃ session, transport.session? number = some session ∧ _
      rw [grown]
      grind [MemoryTransport.session?]
    case ended =>
      show _ ↔ ∃ session, transport.session? number = some session ∧ _
      rw [grown]
      grind [MemoryTransport.session?]
    case registered =>
      have before := faithful.registered entry member
      show entry.1 < transport.sessions.length
      omega
    case awaited =>
      have before := faithful.awaited number due member
      show number < transport.sessions.length
      omega
    case heard =>
      replace there : transport.session? number = some session := there
      rw [grown] at there
      split at there
      next last =>
        subst last
        cases there
        exact (heard?_eq_none faithful.registered).symm
      next => exact faithful.heard number session there present
    case current =>
      show transport.current? other = _
      rw [current, live?, latest?_append rfl]
      split
      next => exact (Option.filter_some_pos (by simpa [isOver] using faithful.unseen)).symm
      next => exact faithful.current other
  next fault transport refused =>
    obtain rfl := MemoryTransport.openSession_error refused
    exact faithful

/-- A change of one session that keeps its token is told of all sessions in the same way. -/
theorem opened_of_change (faithful : chronicle.Faithful) {changed : Nat}
    {change : MemorySession Listener → MemorySession Listener}
    {transport : MemoryTransport Listener}
    (differs : chronicle.transport.Differs transport changed change)
    (kept : ∀ session, (change session).token = session.token) (number : Nat) :
    chronicle.opened[number]? =
      (transport.session? number).map fun session => (session.token, number) := by
  rw [faithful.opened, differs]
  split
  · rw [Option.map_map]
    congr 1
    funext session
    exact congrArg (·, number) (kept session).symm
  · rfl

/-- A session that is closed drops out under its token, unless it is over already. -/
theorem closeSession (faithful : chronicle.Faithful) {closed : Nat}
    (there : closed < chronicle.transport.sessions.length) :
    (chronicle.closeSession closed).Faithful := by
  have differs : chronicle.transport.Differs (chronicle.transport.closeSession closed) closed _ :=
    chronicle.transport.session?_closeSession closed
  have length := chronicle.transport.length_closeSession closed
  have found : chronicle.transport.session? closed = some _ := List.getElem?_eq_getElem there
  refine
    { sound := faithful.sound.closeSession closed
      indexed := faithful.indexed.closeSession closed
      opened := faithful.opened_of_change differs (by intro session; split <;> rfl)
      closed := fun number => ?closed
      ended := fun number =>
        (faithful.ended number).trans (differs.marked (by intro session; split <;> rfl) number)
      registered := fun entry member => length.symm ▸ faithful.registered entry member
      awaited := fun number due member => length.symm ▸ faithful.awaited number due member
      heard := fun number session present open' => ?heard
      current := fun token => ?current }
  case closed =>
    show number ∈ chronicle.closed ++ [closed] ↔
      ∃ session, (chronicle.transport.closeSession closed).session? number = some session ∧ _
    rw [differs, List.mem_append, List.mem_singleton, faithful.closed]
    grind
  case heard =>
    replace present : (chronicle.transport.closeSession closed).session? number = some session :=
      present
    rw [differs] at present
    split at present
    · obtain ⟨_, _, rfl⟩ := Option.map_eq_some_iff.mp present
      exfalso
      revert open'
      simp only [MemorySession.gone]
      grind
    · exact faithful.heard number session present open'
  case current =>
    show (chronicle.transport.closeSession closed).current? token = _
    rw [faithful.indexed.current?_closeSession, faithful.current]
    symm
    refine live?_of_over rfl fun number => ?_
    rw [Bool.eq_iff_iff]
    simp [Chronicle.closeSession, isOver, or_right_comm]

/-- A session that the transport ends is the last one of its token, and drops out there. -/
theorem endSession (faithful : chronicle.Faithful) (token : String) :
    (chronicle.endSession token).Faithful := by
  unfold Chronicle.endSession
  cases current : chronicle.transport.current? token with
  | none =>
    have same : (chronicle.transport.endSession token).2 = chronicle.transport := by
      unfold MemoryTransport.endSession
      rw [current]
    rw [same]
    exact faithful.congr rfl rfl rfl rfl rfl (List.append_nil _) rfl faithful.awaited
  | some last =>
    have differs := MemoryTransport.differs_endSession current
    have length : (chronicle.transport.endSession token).2.sessions.length =
        chronicle.transport.sessions.length := by
      unfold MemoryTransport.endSession
      rw [current]
      exact List.length_modify _ _ _
    obtain ⟨before, found, _⟩ := faithful.indexed _ _ current
    refine
      { sound := faithful.sound.endSession token
        indexed := faithful.indexed.endSession token
        opened := faithful.opened_of_change differs fun _ => rfl
        closed := fun number => (faithful.closed number).trans (differs.marked (fun _ => rfl) number)
        ended := fun number => ?ended
        registered := fun entry member => length.symm ▸ faithful.registered entry member
        awaited := fun number due member => length.symm ▸ faithful.awaited number due member
        heard := fun number session present open' => ?heard
        current := fun other => ?current }
    case ended =>
      show number ∈ chronicle.ended ++ [last] ↔
        ∃ session, (chronicle.transport.endSession token).2.session? number = some session ∧ _
      rw [differs, List.mem_append, List.mem_singleton, faithful.ended]
      grind
    case heard =>
      replace present : (chronicle.transport.endSession token).2.session? number = some session :=
        present
      rw [differs] at present
      split at present
      · obtain ⟨ended, _, rfl⟩ := Option.map_eq_some_iff.mp present
        rw [MemorySession.gone, Bool.or_true] at open'
        cases open'
      · exact faithful.heard number session present open'
    case current =>
      show (chronicle.transport.endSession token).2.current? other = _
      rw [faithful.indexed.current?_endSession current, faithful.current]
      symm
      refine live?_of_over rfl fun number => ?_
      rw [Bool.eq_iff_iff]
      simp [isOver, or_assoc]

/-- Whoever is registered with a session that is not over is heard from then on. -/
theorem listen (faithful : chronicle.Faithful) {heard : Nat} (listener : Listener)
    (there : heard < chronicle.transport.sessions.length) :
    (chronicle.listen heard listener).Faithful := by
  have differs : chronicle.transport.Differs (chronicle.transport.listen heard listener) heard _ :=
    chronicle.transport.session?_change heard _
  have length : (chronicle.transport.listen heard listener).sessions.length = _ :=
    chronicle.transport.length_change heard _
  refine
    { sound := faithful.sound.listen heard listener
      indexed := faithful.indexed.listen heard listener
      opened := faithful.opened_of_change differs (by intro session; split <;> rfl)
      closed := fun number =>
        (faithful.closed number).trans (differs.marked (by intro session; split <;> rfl) number)
      ended := fun number =>
        (faithful.ended number).trans (differs.marked (by intro session; split <;> rfl) number)
      registered := fun entry member => length.symm ▸ ?registered
      awaited := fun number due member => length.symm ▸ faithful.awaited number due member
      heard := fun number session present open' => ?heard
      current := faithful.current }
  case registered =>
    rcases List.mem_append.mp member with before | now
    · exact faithful.registered entry before
    · rw [List.mem_singleton] at now
      exact now ▸ there
  case heard =>
    replace present : (chronicle.transport.listen heard listener).session? number = some session :=
      present
    rw [differs] at present
    rw [heard?_append rfl]
    split at present
    next same =>
      obtain ⟨before, found, rfl⟩ := Option.map_eq_some_iff.mp present
      rw [if_pos same.symm]
      split
      next isOver =>
        rw [if_pos isOver, MemorySession.gone, isOver] at open'
        cases open'
      next => rfl
    next different =>
      rw [if_neg (Ne.symm different)]
      exact faithful.heard number session present open'

/-- Every move keeps what is seen in agreement with the transport. -/
theorem after (faithful : chronicle.Faithful) (made : chronicle.after? move = some next) :
    next.Faithful := by
  cases move with
  | takeEffect call =>
    obtain ⟨delayed, due, waits, rfl⟩ := takeEffect_cases made
    have rest : { chronicle with waiting := chronicle.waiting.set call none }.Faithful := by
      refine faithful.congr rfl rfl rfl rfl rfl rfl rfl fun number due member => ?_
      rcases List.mem_or_eq_of_mem_set member with member | same
      · exact faithful.awaited number due member
      · cases same
    cases delayed with
    | opening token => exact rest.openSession token
    | closing number => exact rest.closeSession (faithful.awaited number due waits)
  | beginClose number =>
    obtain ⟨session, there, rfl⟩ := Option.map_eq_some_iff.mp made
    refine faithful.congr rfl rfl rfl rfl rfl rfl rfl fun other due member => ?_
    rcases List.mem_append.mp member with member | now
    · exact faithful.awaited other due member
    · cases List.mem_singleton.mp now
      exact (List.getElem?_eq_some_iff.mp there).1
  | listen number listener =>
    obtain ⟨session, there, rfl⟩ := Option.map_eq_some_iff.mp made
    exact faithful.listen listener (List.getElem?_eq_some_iff.mp there).1
  | endSession token =>
    cases made
    exact faithful.endSession token
  | beginOpen token =>
    cases made
    refine faithful.congr rfl rfl rfl rfl rfl rfl rfl fun other due member => ?_
    rcases List.mem_append.mp member with member | now
    · exact faithful.awaited other due member
    · cases List.mem_singleton.mp now
  | giveUp call =>
    cases made
    refine faithful.congr rfl rfl rfl rfl rfl rfl rfl fun number due member => ?_
    rcases List.mem_or_eq_of_mem_set member with member | same
    · exact faithful.awaited number due member
    · cases same
  | inject | pass | reject | accept | setDelays =>
    cases made
    exact faithful.congr rfl rfl rfl rfl rfl rfl rfl faithful.awaited

/-- The sessions that were opened are numbered in order. -/
theorem numbers_opened (faithful : chronicle.Faithful) :
    chronicle.opened.map Prod.snd = List.range chronicle.transport.sessions.length := by
  refine List.ext_getElem? fun number => ?_
  rw [List.getElem?_map, faithful.opened, Option.map_map, MemoryTransport.session?]
  by_cases bound : number < chronicle.transport.sessions.length
  · rw [List.getElem?_range bound, List.getElem?_eq_getElem bound]
    rfl
  · rw [List.getElem?_eq_none (by omega), List.getElem?_eq_none (by simpa using bound)]
    rfl

/-- A token reaches the listener of its live session. -/
theorem reached (faithful : chronicle.Faithful) (token : String) :
    chronicle.transport.reached? token =
      (chronicle.live? token).bind fun number => (chronicle.heard? number).map (number, ·) := by
  rw [MemoryTransport.reached?, ← faithful.current]
  refine Option.bind_congr fun number current => ?_
  obtain ⟨session, there, _, present⟩ := faithful.indexed token number current
  rw [MemoryTransport.listener?, there, ← faithful.heard number session there present]
  rfl

/-- A session of which another one has been opened for its token is current nowhere. -/
theorem not_current_of_older (faithful : chronicle.Faithful)
    (opened : (token, number) ∈ chronicle.opened) (older : chronicle.latest? token ≠ some number)
    (other : String) : chronicle.transport.current? other ≠ some number := by
  intro current
  obtain ⟨session, there, own, _⟩ := faithful.indexed other number current
  obtain ⟨position, found⟩ := List.mem_iff_getElem?.mp opened
  rw [faithful.opened] at found
  obtain ⟨session', there', same⟩ := Option.map_eq_some_iff.mp found
  cases same
  obtain rfl := Option.some.inj (there.symm.trans there')
  subst own
  rw [faithful.current] at current
  exact older (Option.eq_some_of_filter_eq_some current)

end Faithful

/-! ### What can be relied on -/

/-- What is seen of the transport decides what it says and does. -/
structure Accounted (chronicle : Chronicle Listener) : Prop where
  /-- The sessions that were opened have different identifiers. -/
  identified : (chronicle.opened.map fun entry => MemoryTransport.sessionId entry.2).Nodup
  /-- A token is open when its last session is not over. -/
  isOpen : ∀ token, chronicle.transport.isOpen token = (chronicle.live? token).isSome
  /-- An event is handed to whoever was registered last with that session, and to nobody else. -/
  handed : ∀ token event, chronicle.after? (.inject token event) = some { chronicle with
    delivered := chronicle.delivered ++ ((chronicle.live? token).bind fun number =>
      (chronicle.heard? number).map fun listener => (number, listener, event)).toList }
  /-- Closing a session that is not the last one of its token takes nothing from any other. -/
  spared : ∀ token number, (token, number) ∈ chronicle.opened →
    chronicle.latest? token ≠ some number →
      (∀ other, (chronicle.closeSession number).transport.isOpen other =
        chronicle.transport.isOpen other) ∧
      (∀ other, (chronicle.closeSession number).transport.reached? other =
        chronicle.transport.reached? other) ∧
      ∀ other, other ≠ number → (chronicle.closeSession number).transport.session? other =
        chronicle.transport.session? other
  /-- A session is marked as closed when a close of it has taken effect, and as ended when the transport
  has ended it. -/
  marked : ∀ number session, chronicle.transport.session? number = some session →
    (session.closed = true ↔ number ∈ chronicle.closed) ∧
      (session.ended = true ↔ number ∈ chronicle.ended)
  openedCount : chronicle.transport.openedCount = chronicle.opened.length
  /-- Each session that has been closed is counted once. -/
  closedCount : chronicle.transport.closedCount = chronicle.closed.dedup.length
  bounded : chronicle.transport.closedCount ≤ chronicle.transport.openedCount

/-- Whoever keeps a faithful chronicle can account for the transport. -/
theorem Faithful.accounted (faithful : chronicle.Faithful) : chronicle.Accounted where
  identified := by
    have numbered := congrArg (List.map MemoryTransport.sessionId) faithful.numbers_opened
    rw [List.map_map] at numbered
    exact numbered ▸ List.nodup_range.map MemoryTransport.sessionId_injective
  isOpen := fun token => congrArg Option.isSome (faithful.current token)
  handed := by
    intro token event
    rw [after?, faithful.reached, Option.map_bind]
    simp only [Option.map_map, Function.comp_def]
  spared := by
    intro token number opened older
    have still (other : String) :
        (chronicle.transport.closeSession number).current? other =
          chronicle.transport.current? other := by
      rw [faithful.indexed.current?_closeSession,
        MemoryTransport.filter_bne_eq_self (faithful.not_current_of_older opened older other)]
    have others (other : Nat) (different : other ≠ number) :
        (chronicle.transport.closeSession number).session? other =
          chronicle.transport.session? other := by
      rw [chronicle.transport.session?_closeSession, if_neg different]
    refine ⟨fun other => congrArg Option.isSome (still other), fun other => ?_, others⟩
    show (chronicle.transport.closeSession number).reached? other = _
    rw [MemoryTransport.reached?, MemoryTransport.reached?, still]
    refine Option.bind_congr fun current there => ?_
    have different : current ≠ number := by
      rintro rfl
      exact faithful.not_current_of_older opened older other there
    rw [MemoryTransport.listener?, MemoryTransport.listener?, others current different]
  marked := by
    intro number session there
    rw [faithful.closed, faithful.ended, there]
    simp
  openedCount := faithful.length_opened.symm
  closedCount := by
    rw [faithful.sound.counted]
    refine (length_eq_countP chronicle.closed.nodup_dedup fun number => ?_).symm
    rw [List.mem_dedup, faithful.closed]
    rfl
  bounded := by
    rw [faithful.sound.counted]
    exact List.countP_le_length

/-- Whatever is done with the transport in whatever order, what is seen of it decides what it does. -/
theorem accounted_of_moves {moves : List (ChronicleMove Listener)}
    (made : moves.foldlM after? {} = some chronicle) : chronicle.Accounted :=
  ((Leads.of_foldlM made).keeps Faithful Faithful.after Faithful.start).accounted

/-- Two sessions of a token, of which the first is closed twice while the second is open, with an open and
a close that are given up and a token that is turned away. -/
def twoSessions : List (ChronicleMove Nat) :=
  [.beginOpen "a", .takeEffect 0, .listen 0 1, .beginOpen "a", .takeEffect 1, .listen 1 2,
    .setDelays 5 5 0, .beginOpen "a", .giveUp 2, .beginClose 0, .beginClose 0, .beginClose 1,
    .pass 5, .takeEffect 3, .takeEffect 4, .giveUp 5, .reject "a", .beginOpen "a", .pass 5,
    .takeEffect 6]

theorem accounted_twoSessions : ∃ chronicle, twoSessions.foldlM after? {} = some chronicle ∧
    (chronicle.opened.length = 2 ∧ chronicle.live? "a" = some 1 ∧ chronicle.heard? 1 = some 2) ∧
      chronicle.Accounted := by
  have played : ((twoSessions.foldlM after? {}).any fun chronicle =>
      chronicle.opened.length = 2 ∧ chronicle.live? "a" = some 1 ∧
        chronicle.heard? 1 = some 2) = true := by decide +kernel
  obtain ⟨chronicle, made, seen⟩ := (Option.any_eq_true _ _).mp played
  exact ⟨chronicle, made, of_decide_eq_true seen, accounted_of_moves made⟩

end Chronicle

end BotHost
