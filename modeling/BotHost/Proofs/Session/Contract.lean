/-
What those who deal with a session may rely on.

Listeners are registered with a session, it hands them events, and calls are made through it. It is over
when a close of it has returned, or when it has ended by itself. What is then asked of it is the same for
every transport: it has dropped its listener and takes no other, it hands nothing over, and after a
close it refuses calls that are begun. What somebody does between two waits is one step, and the steps
of all who deal with the session can follow one another in any order.
-/

import BotHost.Event
import BotHost.Outbound
import Mathlib.Logic.Relation

namespace BotHost

variable {State Action Listener Mark : Type}

/-! ### What can follow -/

/-- One state leads to another by things that can happen one after another. -/
def Leads (after? : State → Action → Option State) : State → State → Prop :=
  Relation.ReflTransGen fun state next => ∃ action, after? state action = some next

namespace Leads

variable {after? : State → Action → Option State} {state later : State}

/-- What everything that can happen keeps is kept for good. -/
theorem keeps (leads : Leads after? state later) (kept : State → Prop)
    (each : ∀ {state next : State} {action : Action}, kept state → after? state action = some next →
      kept next)
    (first : kept state) : kept later := by
  induction leads with
  | refl => exact first
  | tail _ made inductionHypothesis =>
    obtain ⟨action, made⟩ := made
    exact each inductionHypothesis made

theorem of_foldlM {actions : List Action} (made : actions.foldlM after? state = some later) :
    Leads after? state later := by
  induction actions generalizing state with
  | nil =>
    obtain rfl := Option.some.inj made
    exact .refl
  | cons action actions inductionHypothesis =>
    simp only [List.foldlM_cons, Option.bind_eq_bind, Option.bind_eq_some_iff] at made
    obtain ⟨next, made, rest⟩ := made
    exact .head ⟨action, made⟩ (inductionHypothesis rest)

end Leads

/-! ### Sessions from outside -/

/-- A call that has begun, with its answer once there is one. -/
structure Sending where
  call : Call
  answer : Option (Except TransportFault Unit)
deriving Repr

/-- A session and everything that can happen to it: where it begins, who listens to it, what it hands
over with an action, and the actions of those who deal with it. A call leaves marks, such as a record
or a request, and is answered by a later action unless it has been answered at once. -/
structure SessionCourse (State Action Listener Mark : Type) where
  begins : State → Prop
  after? : State → Action → Option State
  listener? : State → Option Listener
  handed? : State → Action → Option (Listener × Event)
  listen : Listener → Action
  closes : Action → Prop
  ends : State → Action → Prop
  send : Call → Action
  answers : Nat → Action → Prop
  sendings : State → List Sending
  marks : State → List Mark

namespace SessionCourse

variable (course : SessionCourse State Action Listener Mark)

def Reachable (state : State) : Prop :=
  ∃ first, course.begins first ∧ Leads course.after? first state

/-- Nobody listens to the session, it hands nothing over, and who wants to listen is turned away. -/
structure Quiet (state : State) : Prop where
  unheard : course.listener? state = none
  unreached : ∀ action, course.handed? state action = none
  deaf : ∀ listener, course.after? state (course.listen listener) = some state

/-- A call has been answered by saying that the session is closed, or that is the only answer that it
can still get, and it can get it. -/
structure Refused (state : State) (number : Nat) (call : Call) : Prop where
  answered : (course.sendings state)[number]? = some ⟨call, some (.error .sessionClosed)⟩ ∨
    (course.sendings state)[number]? = some ⟨call, none⟩ ∧
      ∃ action next, course.answers number action ∧ course.after? state action = some next
  unmarked : ∀ {action : Action} {next : State}, course.answers number action →
    course.after? state action = some next → course.marks next = course.marks state ∧
      (course.sendings next)[number]? = some ⟨call, some (.error .sessionClosed)⟩

/-- From the moment a close has returned or the session has ended by itself, it is quiet for good; and a
call that is begun after a close has returned leaves no mark and is refused. -/
structure FallsSilent : Prop where
  quiet : ∀ {state next later : State} {action : Action}, course.Reachable state →
    course.after? state action = some next → course.closes action ∨ course.ends state action →
      Leads course.after? next later → course.Quiet later
  refused : ∀ {state next later begun last : State} {action : Action} {call : Call},
    course.Reachable state → course.after? state action = some next → course.closes action →
      Leads course.after? next later → course.after? later (course.send call) = some begun →
        course.marks begun = course.marks later ∧ (Leads course.after? begun last →
          course.Refused last (course.sendings later).length call)

variable {course}

theorem Reachable.keeps {state : State} (reachable : course.Reachable state) (kept : State → Prop)
    (first : ∀ state, course.begins state → kept state)
    (each : ∀ {state next : State} {action : Action}, kept state →
      course.after? state action = some next → kept next) : kept state := by
  obtain ⟨start, begins, leads⟩ := reachable
  exact leads.keeps kept each (first start begins)

end SessionCourse

end BotHost
