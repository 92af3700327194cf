/-
The calls of a dispatch.

A session may answer each call as it likes, and its answer may depend on everything before. To speak
of the calls that a dispatch makes, they are written down beside the state of the session. Writing
them down changes nothing else, and what is written down does not depend on the answers.
-/

import BotHost.Handler.Dispatch

namespace BotHost.Dispatch

variable {State : Type} (send : Send State)

/-- The session together with the calls that were made through it so far. -/
def recorded : Send (State × List Call) := fun call (state, made) =>
  let (result, state) := send call state
  (result, state, made ++ [call])

/-- Every call is attempted, whatever became of those before it. -/
theorem perform_recorded (calls : List Call) (state : State) (made : List Call) :
    perform (recorded send) calls (state, made) =
      ((perform send calls state).1, (perform send calls state).2, made ++ calls) := by
  induction calls generalizing state made with
  | nil => rw [List.append_nil]; rfl
  | cons call rest inductionHypothesis =>
    simp only [perform, recorded, inductionHypothesis, List.append_assoc, List.singleton_append]

/-! ### The calls of handlers -/

variable (event : Event)

theorem calls_nil : calls [] event = [] := rfl

theorem calls_cons (handler : Handler) (rest : List Handler) :
    calls (handler :: rest) event =
      (if handler.matcher.accepts event then handler.action.calls event else []) ++
        calls rest event := by
  rw [calls, List.filter_cons]
  split
  · exact List.flatMap_cons
  · rfl

theorem calls_append (first second : List Handler) :
    calls (first ++ second) event = calls first event ++ calls second event := by
  rw [calls, List.filter_append, List.flatMap_append]
  rfl

theorem actOn_recorded (handler : Handler) (report : DispatchReport) (state : State)
    (made : List Call) :
    actOn (recorded send) event handler report (state, made) =
      ((actOn send event handler report state).1, (actOn send event handler report state).2,
        made ++ calls [handler] event) := by
  rw [calls_cons, calls_nil, List.append_nil]
  unfold actOn
  split
  · rw [perform_recorded]
    rcases perform send (handler.action.calls event) state with ⟨_ | _, state⟩ <;> rfl
  · rw [List.append_nil]

theorem runFrom_recorded (handlers : List Handler) (report : DispatchReport) (state : State)
    (made : List Call) :
    runFrom (recorded send) event handlers report (state, made) =
      ((runFrom send event handlers report state).1, (runFrom send event handlers report state).2,
        made ++ calls handlers event) := by
  induction handlers generalizing report state made with
  | nil => rw [calls_nil, List.append_nil]; rfl
  | cons handler rest inductionHypothesis =>
    rw [runFrom, actOn_recorded]
    simp only [inductionHypothesis, List.append_assoc, ← calls_append, List.singleton_append]
    rfl

/-- A dispatch makes the calls of the handlers that accept the event, in their order. -/
theorem run_recorded (handlers : List Handler) (state : State) (made : List Call) :
    run (recorded send) handlers event (state, made) =
      ((run send handlers event state).1, (run send handlers event state).2,
        made ++ calls handlers event) :=
  runFrom_recorded send event handlers ⟨0, 0⟩ state made

end BotHost.Dispatch
