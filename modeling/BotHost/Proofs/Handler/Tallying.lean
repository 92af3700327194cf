/-
What a dispatch reports.

A dispatch goes over the handlers and lets each that accepts the event have its turn. In its turn a
handler attempts all of its calls, and the session may let each of them fail or succeed, also depending
on the calls before. The report counts turns: all of them, and those in which some call failed. Neither
the turns nor their calls depend on what the session answers.
-/

import BotHost.Proofs.Handler.Recording

namespace BotHost

namespace Dispatch

/-- A call that was attempted, and what became of it. -/
abbrev Attempted := Call × Except TransportFault Unit

/-- The turn of a handler in a dispatch. -/
structure Turn where
  handler : Handler
  attempted : List Attempted

/-- Whether some call of the turn failed. -/
def Turn.fails (turn : Turn) : Bool := turn.attempted.any fun (_, result) => !result.isOk

/-- The turns are those of the handlers that accept the event, each with all of its calls. To answer a
pressed button is to acknowledge it and then to send the text. -/
structure TurnsOf (handlers : List Handler) (event : Event) (turns : List Turn) : Prop where
  accepting : turns.map Turn.handler = handlers.filter fun handler => handler.matcher.accepts event
  complete : ∀ turn ∈ turns, turn.attempted.map Prod.fst = turn.handler.action.calls event
  acknowledging : ∀ turn ∈ turns, ∀ callback text, event = .callback callback →
    turn.handler.action = .answerCallback text → ∃ acknowledged sent,
      turn.attempted = [(.callbackAnswer callback.id, acknowledged), (.message callback.chat text, sent)]

variable {State : Type} (send : Send State) (event : Event)

/-- The session together with the calls that were made through it so far, and its answers. -/
def answered : Send (State × List Attempted) := fun call (state, made) =>
  let (result, state) := send call state
  (result, state, made ++ [(call, result)])

/-! ### One turn -/

theorem TurnsOf.nil : TurnsOf [] event [] := ⟨rfl, nofun, nofun⟩

variable {handler : Handler} {rest : List Handler} {turns : List Turn}

theorem TurnsOf.skip (following : TurnsOf rest event turns)
    (refuses : ¬handler.matcher.accepts event = true) : TurnsOf (handler :: rest) event turns where
  accepting := by rw [following.accepting, List.filter_cons, if_neg refuses]
  complete := following.complete
  acknowledging := following.acknowledging

theorem TurnsOf.cons {turn : Turn} (following : TurnsOf rest event turns)
    (accepts : turn.handler.matcher.accepts event = true)
    (all : turn.attempted.map Prod.fst = turn.handler.action.calls event) :
    TurnsOf (turn.handler :: rest) event (turn :: turns) where
  accepting := by rw [List.map_cons, following.accepting, List.filter_cons, if_pos accepts]
  complete := List.forall_mem_cons.mpr ⟨all, following.complete⟩
  acknowledging := by
    refine List.forall_mem_cons.mpr ⟨fun callback text pressed answers => ?_, following.acknowledging⟩
    rw [answers, pressed] at all
    obtain ⟨⟨_, acknowledged⟩, tail, first, rfl, others⟩ := List.map_eq_cons_iff.mp all
    obtain ⟨⟨_, sent⟩, none, rfl, rfl, empty⟩ := List.map_eq_cons_iff.mp others
    obtain rfl := List.map_eq_nil_iff.mp empty
    exact ⟨acknowledged, sent, first⟩

theorem TurnsOf.calls {handlers : List Handler} (turnsOf : TurnsOf handlers event turns) :
    (turns.flatMap Turn.attempted).map Prod.fst = calls handlers event := by
  rw [Dispatch.calls, ← turnsOf.accepting, List.flatMap_map, List.map_flatMap, List.flatMap_def,
    List.flatMap_def, List.map_congr_left turnsOf.complete]

end Dispatch

end BotHost
