/-
Both transports keep the contract of sessions.

What differs is how a session comes to be over. In memory a close takes effect at once when its delay
has passed, and the transport can end the current session of a token; with Telegram a close marks the
session first and drops its listener later, and it is the rejection of the token that ends a session.
-/

import BotHost.Proofs.Session.Traffic
import BotHost.Proofs.Telegram.Conduct

namespace BotHost

/-- The sessions of the in-memory transport and those of the Telegram transport keep one contract. -/
theorem sessions_fall_silent (Listener : Type) :
    (∀ number, (Traffic.course Listener number).FallsSilent) ∧
      (Telegram.Conduct.course Listener).FallsSilent :=
  ⟨Traffic.fallsSilent Listener, Telegram.Conduct.fallsSilent Listener⟩

/-- A session of either transport is closed twice. The listener that comes after that is turned away,
and a call is refused. -/
theorem sessions_fall_silent_closed :
    (∃ state next later begun last : Traffic Nat,
      state.handed? 0 (.inject "token" (.ofText 7 "hi")) = some (1, .ofText 7 "hi") ∧
        state.after? (.closeSession 0) = some next ∧
        [.listen 0 2, .closeSession 0].foldlM Traffic.after? next = some later ∧
        (Traffic.course Nat 0).Quiet later ∧
        later.after? (.beginSend 0 (.message 7 "hi")) = some begun ∧
        [.endSend 0].foldlM Traffic.after? begun = some last ∧
        (Traffic.course Nat 0).Refused last ((Traffic.course Nat 0).sendings later).length
          (.message 7 "hi")) ∧
    ∃ state next later begun : Telegram.Conduct Nat,
      state.session.listener = some 1 ∧ state.after? (.endClose 0) = some next ∧
        [.listen 2, .beginClose, .endClose 1].foldlM Telegram.Conduct.after? next = some later ∧
        (Telegram.Conduct.course Nat).Quiet later ∧
        later.after? (.beginSend (.message 7 "hi")) = some begun ∧
        (Telegram.Conduct.course Nat).Refused begun
          ((Telegram.Conduct.course Nat).sendings later).length (.message 7 "hi") := by
  obtain ⟨memory, telegram⟩ := sessions_fall_silent Nat
  constructor
  · have played : ([.openSession "token", .listen 0 1].foldlM Traffic.after? {}).bind (fun state =>
        (state.after? (.closeSession 0)).bind fun next =>
          ([.listen 0 2, .closeSession 0].foldlM Traffic.after? next).bind fun later =>
            (later.after? (.beginSend 0 (.message 7 "hi"))).bind fun begun =>
              ([.endSend 0].foldlM Traffic.after? begun).map fun _ =>
                state.handed? 0 (.inject "token" (.ofText 7 "hi"))) =
        some (some (1, .ofText 7 "hi")) := by rfl
    simp only [Option.bind_eq_some_iff, Option.map_eq_some_iff] at played
    obtain ⟨state, opens, next, closes, later, follows, begun, begins, last, ends, handed⟩ := played
    have reachable : (Traffic.course Nat 0).Reachable state := ⟨{}, rfl, .of_foldlM opens⟩
    have closes' : (Traffic.course Nat 0).after? state (.closeSession 0) = some next := closes
    have begins' : (Traffic.course Nat 0).after? later
      ((Traffic.course Nat 0).send (.message 7 "hi")) = some begun := begins
    exact ⟨state, next, later, begun, last, handed, closes, follows,
      (memory 0).quiet reachable closes' (.inl rfl) (.of_foldlM follows), begins, ends,
      ((memory 0).refused reachable closes' rfl (.of_foldlM follows) begins').2 (.of_foldlM ends)⟩
  · have played : ([.listen 1, .beginClose, .advance].foldlM Telegram.Conduct.after?
          (Telegram.Conduct.begun Nat)).bind (fun state =>
        (state.after? (.endClose 0)).bind fun next =>
          ([.listen 2, .beginClose, .endClose 1].foldlM Telegram.Conduct.after? next).bind
            fun later => (later.after? (.beginSend (.message 7 "hi"))).map fun _ =>
              state.session.listener) = some (some 1) := by rfl
    simp only [Option.bind_eq_some_iff, Option.map_eq_some_iff] at played
    obtain ⟨state, listens, next, closes, later, follows, begun, begins, heard⟩ := played
    have reachable : (Telegram.Conduct.course Nat).Reachable state :=
      ⟨_, Telegram.Conduct.begun_opened, .of_foldlM listens⟩
    have closes' : (Telegram.Conduct.course Nat).after? state (.endClose 0) = some next := closes
    have begins' : (Telegram.Conduct.course Nat).after? later
      ((Telegram.Conduct.course Nat).send (.message 7 "hi")) = some begun := begins
    exact ⟨state, next, later, begun, heard, closes, follows,
      telegram.quiet reachable closes' (.inl ⟨0, rfl⟩) (.of_foldlM follows), begins,
      (telegram.refused reachable closes' ⟨0, rfl⟩ (.of_foldlM follows) begins').2 .refl⟩

end BotHost
