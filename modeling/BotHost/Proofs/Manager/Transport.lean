/-
What a host does with its transport.

Whatever a host does, at most one thing becomes of the sessions of its transport: one is opened, one
gets a listener, one ends or one is closed. So what holds of the sessions however they change holds of
the sessions of every host that can be reached.
-/

import BotHost.Proofs.Manager.Pairing
import BotHost.Proofs.Session.Lifetime

namespace BotHost

namespace Host

variable {host next : Host}

theorem changes_of_advance {process : Process} (stepped : host.advance process = some next) :
    host.transport.Changes next.transport := by
  cases process with
  | loop generation =>
    obtain ⟨loop, found, _, waiting, state, recorded, sendsStarted, ⟨rfl, _⟩ | ⟨rfl, _⟩⟩ :=
      advance_loop_cases stepped
    · exact .spares rfl rfl rfl
    · exact .spares rfl rfl rfl
  | task number =>
    obtain ⟨task, found, ⟨created, rfl⟩ | ⟨wait, answer, answered, waiting, taken, rfl⟩ |
      ⟨answer, answered, rfl⟩⟩ := advance_task_cases stepped
    · exact .refl _
    · show host.transport.Changes answered.transport
      rcases answer?_transport taken with ⟨_, same⟩ | ⟨_, token, _, _, _, _, _, opened⟩ |
        ⟨running, _, _, _, _, _, _, same⟩
      · rw [same]
        exact .refl _
      · have opens : host.transport.Changes (host.transport.openSession token).2 := .opens token
        rwa [opened] at opens
      · rw [same]
        exact .closes running.session
    · rcases host.resume_launches number task answer with ⟨same, _⟩ | ⟨_, session, _, launched⟩
      · rw [same]
        exact .refl _
      · rw [launched]
        exact .listens session host.nextGeneration

theorem changes_of_after {move : Move} (made : host.after? move = some next) :
    host.transport.Changes next.transport := by
  cases move with
  | step process => exact changes_of_advance made
  | begin operation bot =>
    simp only [after?] at made
    split at made
    · cases made
      exact .refl _
    · cases made
  | shutdown =>
    cases made
    exact @stopAll_kept (fun next => host.transport.Changes next.transport) (fun _ same => same)
      host (.refl _)
  | register bot =>
    cases made
    rw [register_eq]
    exact .refl _
  | inject token event =>
    cases made
    rw [inject_eq]
    exact .refl _
  | endSession token =>
    cases made
    exact .ends token
  | reject | accept | clearSent | setDelays | setFaults | pass =>
    cases made
    exact .spares rfl rfl rfl

theorem Reachable.sound (reachable : host.Reachable) : host.transport.Sound :=
  @Reachable.invariant (fun host => host.transport.Sound) (fun _ _ _ => ⟨nofun, rfl⟩)
    (fun _ sound made => sound.after (changes_of_after made)) host reachable

theorem Reachable.indexed (reachable : host.Reachable) : host.transport.Indexed :=
  @Reachable.invariant (fun host => host.transport.Indexed) (fun _ _ _ _ _ => nofun)
    (fun _ indexed made => indexed.after (changes_of_after made)) host reachable

/-- An event is handed to whoever listens to the session that it reaches. -/
theorem inject_eq_reached (host : Host) (token : String) (event : Event) :
    host.inject token event =
      match host.transport.reached? token with
      | some (_, generation) => (true, host.deliver generation event)
      | none => (false, host) := by
  unfold inject MemoryTransport.reached?
  cases host.transport.current? token with
  | none => rfl
  | some number =>
    simp only [Option.bind_some]
    cases host.transport.listener? number <;> rfl

end Host

end BotHost
