/-
Maps between characters that differ in case, given as ascending runs. Letters of one alphabet are
mostly moved by one common offset, either each of them or every second one.
-/

namespace BotHost.Text

/-- The code points `first`, `first + step`, … up to `last`, all moved by `offset`. -/
structure CaseRun where
  first : Nat
  last : Nat
  step : Nat
  offset : Int
deriving Repr, DecidableEq

/-- Searches the runs with an index from `low` up to, not including, `high`. -/
def searchRuns (runs : Array CaseRun) (code : Nat) : (fuel low high : Nat) → Nat
  | 0, _, _ => code
  | fuel + 1, low, high =>
    if low < high then
      let middle := (low + high) / 2
      match runs[middle]? with
      | none => code
      | some run =>
        if code < run.first then searchRuns runs code fuel low middle
        else if run.last < code then searchRuns runs code fuel (middle + 1) high
        else if (code - run.first) % run.step = 0 then (code + run.offset).toNat
        else code
    else code

/-- The code point that the runs move this one to; itself when no run holds it. -/
def mapByRuns (runs : Array CaseRun) (code : Nat) : Nat :=
  searchRuns runs code (runs.size + 1) 0 runs.size

end BotHost.Text
