/-
Sets of code points given as ascending closed ranges, and the binary search that decides
membership. Every character class of this library is such a set.
-/

namespace BotHost.Text

/-- Searches the ranges with an index from `low` up to, not including, `high`. -/
def searchRanges (ranges : Array (Nat × Nat)) (code : Nat) : (fuel low high : Nat) → Bool
  | 0, _, _ => false
  | fuel + 1, low, high =>
    if low < high then
      let middle := (low + high) / 2
      match ranges[middle]? with
      | none => false
      | some (first, last) =>
        if code < first then searchRanges ranges code fuel low middle
        else if last < code then searchRanges ranges code fuel (middle + 1) high
        else true
    else false

/-- Whether the code point lies in one of the ranges. The span searched shrinks at every step, so
one step for each range is more than enough. -/
def inRanges (ranges : Array (Nat × Nat)) (code : Nat) : Bool :=
  searchRanges ranges code (ranges.size + 1) 0 ranges.size

end BotHost.Text
