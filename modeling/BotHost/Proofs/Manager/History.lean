/-
What has happened in the course of a run.

Some things are true of a run and leave no trace in the host that it leads to: which instances there
have been, which events a loop was given. Such a history is a list of what each move shows, in the
order of the moves, and is followed move by move from the beginning of the run.
-/

import BotHost.Proofs.Manager.Run

namespace BotHost

namespace Host

/-- What the moves of a run show, one after another. -/
def along {Item : Type} (shown : Host → Move → Option Item) : Host → List Move → List Item
  | _, [] => []
  | host, move :: moves =>
    (shown host move).toList ++
      match host.after? move with
      | some next => along shown next moves
      | none => []

variable {Item : Type} {shown : Host → Move → Option Item} {first host next : Host}
  {moves : List Move} {move : Move}

theorem along_cons (made : host.after? move = some next) :
    along shown host (move :: moves) = (shown host move).toList ++ along shown next moves := by
  rw [along, made]

/-- Of two histories one is part of the other if that is so for every move. -/
theorem along_sublist {other : Host → Move → Option Item}
    (each : ∀ host move, (shown host move).toList.Sublist (other host move).toList) (host : Host)
    (moves : List Move) : (along shown host moves).Sublist (along other host moves) := by
  induction moves generalizing host with
  | nil => exact .slnil
  | cons move moves inductionHypothesis =>
    refine (each host move).append ?_
    cases host.after? move with
    | none => exact .slnil
    | some next => exact inductionHypothesis next

namespace Run

/-- The history of a run that goes on is its history and that of the rest. -/
theorem along_append (run : Run first moves host) (others : List Move) :
    along shown first (moves ++ others) = along shown first moves ++ along shown host others := by
  induction run with
  | rest host => rfl
  | move made _ inductionHypothesis =>
    rw [List.cons_append, along_cons made, along_cons made, inductionHypothesis, List.append_assoc]

/-- The last move adds to the history what it shows. -/
theorem along_concat (run : Run first moves host) (made : host.after? move = some next) :
    along shown first (moves ++ [move]) = along shown first moves ++ (shown host move).toList := by
  rw [run.along_append, along_cons made, along, List.append_nil]

theorem concat (run : Run first moves host) (made : host.after? move = some next) :
    Run first (moves ++ [move]) next :=
  run.append (.move made (.rest next))

/-- What every move keeps of a run that came before it, a run keeps from its beginning. -/
theorem keeps_history {kept : List Move → Host → Prop} (begins : kept [] first)
    (each : ∀ {moves : List Move} {host next : Host} {move : Move}, Run first moves host →
      kept moves host → host.after? move = some next → kept (moves ++ [move]) next)
    (run : Run first moves host) : kept moves host := by
  have rest {before later : List Move} {middle last : Host} (run : Run middle later last)
      (earlier : Run first before middle) (now : kept before middle) :
      kept (before ++ later) last := by
    induction run generalizing before with
    | rest => rwa [List.append_nil]
    | @move middle next last move later made run inductionHypothesis =>
      have onwards := inductionHypothesis (earlier.concat made) (each earlier now made)
      rwa [List.append_assoc, List.singleton_append] at onwards
  exact rest run (.rest first) begins

end Run

end Host

end BotHost
