/-
Runs of the host.

A schedule takes one of many turns that the processes of a host could take. What is proved about the
host is proved about all of them: a run is any sequence of moves, where a move is a step of a task or
of a loop, a call of a client, something that happens at the transport, a change of what fails and of
what takes time, or the passing of time. Calls of clients only add tasks; how these and the loops
take turns is left open, and so is how much time passes between two steps.
-/

import BotHost.Manager.Step

namespace BotHost

/-- Whether clients ask for the operation. Reaping is begun by loops alone. -/
def Operation.isCall : Operation → Bool
  | .reap _ => false
  | _ => true

/-- What can happen to a host. -/
inductive Move where
  | step (process : Process)
  | begin (operation : Operation) (bot : String)
  | shutdown
  | register (bot : Bot)
  | inject (token : String) (event : Event)
  | endSession (token : String)
  | reject (token : String)
  | accept (token : String)
  | clearSent
  | setDelays (opening closing sending : Nat)
  | setFaults (points : List FaultPoint)
  | pass (milliseconds : Nat)
deriving Repr

/-- A stopped bot without blocks. -/
def Bot.plain (id token : String) : Bot :=
  { id, name := id, token, blocks := [], status := .stopped, createdAt := ⟨1970, 1, 1, 0, 0, 0, 0⟩ }

namespace Host

/-- A host before anything has happened to it, with these bots in its store and this engine for their
triggers. -/
def seeded (patterns : PatternEngine) (settings : ManagerSettings) (bots : List Bot) : Host :=
  { patterns, settings, store := .ofList bots }

/-- Begins to stop every bot that runs. -/
def stopAll (host : Host) : Host :=
  host.runningIds.foldl (fun host bot => (host.addTask .stop bot).2) host

/-- The host after a move, if the move can be made. -/
def after? (host : Host) : Move → Option Host
  | .step process => host.advance process
  | .begin operation bot =>
    if operation.isCall then some (host.addTask operation bot).2 else none
  | .shutdown => some host.stopAll
  | .register bot => some (host.register bot).2
  | .inject token event => some (host.inject token event).2
  | .endSession token => some { host with transport := (host.transport.endSession token).2 }
  | .reject token => some { host with transport := host.transport.reject token }
  | .accept token => some { host with transport := host.transport.accept token }
  | .clearSent => some { host with transport := host.transport.clearSent }
  | .setDelays opening closing sending =>
    some { host with transport := { host.transport with
      openDelay := opening, closeDelay := closing, sendDelay := sending } }
  | .setFaults points => some { host with faults := points }
  | .pass milliseconds => some { host with now := host.now + milliseconds }

/-- The moves lead from one host to another. -/
inductive Run : Host → List Move → Host → Prop
  | rest (host : Host) : Run host [] host
  | move {host next last : Host} {move : Move} {moves : List Move}
      (made : host.after? move = some next) (run : Run next moves last) :
      Run host (move :: moves) last

/-- Makes moves one after another, as long as they can be made. -/
def play (host : Host) (moves : List Move) : Option Host := moves.foldlM after? host

/-- A host that comes about in some run. -/
def Reachable (host : Host) : Prop :=
  ∃ patterns settings bots moves, Run (seeded patterns settings bots) moves host

/-! ### Runs and what they keep -/

namespace Run

theorem append {host middle last : Host} {moves others : List Move}
    (run : Run host moves middle) (next : Run middle others last) :
    Run host (moves ++ others) last := by
  induction run with
  | rest => exact next
  | move made _ inductionHypothesis => exact .move made (inductionHypothesis next)

/-- What every move keeps, a run keeps. -/
theorem keeps {kept : Host → Prop}
    (each : ∀ {host next : Host} {move : Move}, kept host → host.after? move = some next →
      kept next)
    {host last : Host} {moves : List Move} (run : Run host moves last) (first : kept host) :
    kept last := by
  induction run with
  | rest => exact first
  | move made _ inductionHypothesis => exact inductionHypothesis (each first made)

end Run

/-- Where moves lead is fixed by where they begin. -/
theorem run_iff {host last : Host} {moves : List Move} :
    Run host moves last ↔ host.play moves = some last := by
  constructor
  · intro run
    induction run with
    | rest => rfl
    | move made _ inductionHypothesis =>
      rw [play, List.foldlM_cons, made]
      exact inductionHypothesis
  · intro played
    induction moves generalizing host with
    | nil =>
      obtain rfl := Option.some.inj played
      exact .rest host
    | cons move moves inductionHypothesis =>
      simp only [play, List.foldlM_cons, Option.bind_eq_bind, Option.bind_eq_some_iff] at played
      obtain ⟨next, made, rest⟩ := played
      exact .move made (inductionHypothesis rest)

theorem Reachable.run {host last : Host} {moves : List Move} (reachable : host.Reachable)
    (run : Run host moves last) : last.Reachable := by
  obtain ⟨patterns, settings, bots, earlier, before⟩ := reachable
  exact ⟨patterns, settings, bots, earlier ++ moves, before.append run⟩

/-- What holds of every seeded host and is kept by every move from a reachable host holds of every
reachable host. -/
theorem Reachable.invariant {kept : Host → Prop}
    (first : ∀ patterns settings bots, kept (seeded patterns settings bots))
    (each : ∀ {host next : Host} {move : Move}, host.Reachable → kept host →
      host.after? move = some next → kept next)
    {host : Host} (reachable : host.Reachable) : kept host := by
  obtain ⟨patterns, settings, bots, moves, run⟩ := reachable
  have both : host.Reachable ∧ kept host := by
    refine @Run.keeps (fun host => host.Reachable ∧ kept host) ?_ _ _ _ run
      ⟨⟨patterns, settings, bots, [], .rest _⟩, first patterns settings bots⟩
    intro host next move before made
    exact ⟨before.1.run (.move made (.rest next)), each before.1 before.2 made⟩
  exact both.2

/-- Something holds of every host that the moves lead through, the first and the last among them. -/
def Throughout (holds : Host → Prop) (host : Host) (moves : List Move) : Prop :=
  ∀ {before later : List Move} {middle : Host}, moves = before ++ later → Run host before middle →
    holds middle

theorem throughout_nil {holds : Host → Prop} {host : Host} :
    Throughout holds host [] ↔ holds host := by
  constructor
  · intro throughout
    exact throughout (List.nil_append []).symm (.rest host)
  · intro now before later middle split run
    obtain ⟨rfl, rfl⟩ := List.append_eq_nil_iff.mp split.symm
    cases run
    exact now

theorem throughout_cons {holds : Host → Prop} {host : Host} {move : Move} {moves : List Move} :
    Throughout holds host (move :: moves) ↔
      holds host ∧ ∀ next, host.after? move = some next → Throughout holds next moves := by
  constructor
  · intro throughout
    refine ⟨throughout (List.nil_append _).symm (.rest host), ?_⟩
    intro next made before later middle split run
    exact throughout (congrArg (move :: ·) split) (.move made run)
  · rintro ⟨now, rest⟩ before later middle split run
    cases run with
    | rest => exact now
    | move made run =>
      obtain ⟨rfl, same⟩ := List.cons.inj split
      exact rest _ made same run

instance decidableThroughout (holds : Host → Prop) [DecidablePred holds] :
    (host : Host) → (moves : List Move) → Decidable (Throughout holds host moves)
  | host, [] => decidable_of_iff (holds host) throughout_nil.symm
  | host, move :: moves =>
    match made : host.after? move with
    | none => decidable_of_iff (holds host) (by simp [throughout_cons, made])
    | some next =>
      have := decidableThroughout holds next moves
      decidable_of_iff (holds host ∧ Throughout holds next moves) (by simp [throughout_cons, made])

/-- What is kept by every move from a reachable host with a certain property is kept by a run through
such hosts. -/
theorem Run.keeps_throughout {kept holds : Host → Prop}
    (each : ∀ {host next : Host} {move : Move}, host.Reachable → holds host → kept host →
      host.after? move = some next → kept next)
    {host last : Host} {moves : List Move} (run : Run host moves last) (reachable : host.Reachable)
    (throughout : Throughout holds host moves) (first : kept host) : kept last := by
  induction run with
  | rest => exact first
  | @move host next last move moves made _ inductionHypothesis =>
    obtain ⟨now, rest⟩ := throughout_cons.mp throughout
    exact inductionHypothesis (reachable.run (.move made (.rest next))) (rest next made)
      (each reachable now first made)

end Host

end BotHost
