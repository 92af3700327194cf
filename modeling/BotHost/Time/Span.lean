/-
Spans of time in whole milliseconds, and how they are written: in seconds from one second on, and in
milliseconds below.
-/

namespace BotHost.Span

/-- The digits of a fraction of so many places, without the zeros at its end. -/
def fractionDigits (places value : Nat) : List Char :=
  let digits := Nat.toDigits 10 value
  let padded := List.replicate (places - digits.length) '0' ++ digits
  (padded.reverse.dropWhile (· == '0')).reverse

/-- The text of a span. -/
def describe (milliseconds : Nat) : String :=
  if milliseconds = 0 then "0ns"
  else if milliseconds < 1000 then toString milliseconds ++ "ms"
  else
    match fractionDigits 3 (milliseconds % 1000) with
    | [] => toString (milliseconds / 1000) ++ "s"
    | fraction => toString (milliseconds / 1000) ++ "." ++ String.ofList fraction ++ "s"

end BotHost.Span
