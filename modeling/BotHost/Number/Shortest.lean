/-
The decimal text of a floating-point number: the fewest digits that read back to it, and of those the
ones nearest to it.

A number stands for all reals that round to it, an interval whose ends lie halfway to its neighbours
and belong to it when its mantissa is even. Decimals are compared with the ends of the interval by
cross-multiplying natural numbers, so no rounding takes part in the choice.
-/

import BotHost.Number.Binary64

namespace BotHost.Binary64

/-- A decimal `digits * 10 ^ exponent`. -/
structure Decimal where
  digits : Nat
  exponent : Int
deriving Repr, DecidableEq

/-- Compares `digits * 10 ^ exponent` with `factor * 2 ^ scale`. -/
def compareDecimal (decimal : Decimal) (factor : Nat) (scale : Int) : Ordering :=
  compare (decimal.digits * Nat.pow 10 decimal.exponent.toNat * Nat.pow 2 (-scale).toNat)
    (factor * Nat.pow 2 scale.toNat * Nat.pow 10 (-decimal.exponent).toNat)

/-- Whether a decimal lies in the interval of reals that round to the number. -/
def readsBack (number : Binary64) (decimal : Decimal) : Bool :=
  let even := number.mantissa % 2 == 0
  let lower := 4 * number.mantissa - (if number.narrowBelow then 1 else 2)
  let upper := 4 * number.mantissa + 2
  let aboveLower := match compareDecimal decimal lower (number.scale - 2) with
    | .gt => true
    | .eq => even
    | .lt => false
  let belowUpper := match compareDecimal decimal upper (number.scale - 2) with
    | .lt => true
    | .eq => even
    | .gt => false
  aboveLower && belowUpper

/-- The least exponent among `start`, `start + 1`, … whose power of ten exceeds the number. -/
def raiseMagnitude (number : Binary64) : (attempts : Nat) → (start : Int) → Int
  | 0, start => start
  | attempts + 1, start =>
    if compareDecimal ⟨1, start⟩ number.mantissa number.scale = .gt then start
    else raiseMagnitude number attempts (start + 1)

/-- The least exponent whose power of ten exceeds the number: its count of digits before the point.
The estimate from the binary logarithm is at most two too small. -/
def magnitude (number : Binary64) : Int :=
  raiseMagnitude number 4
    ((Nat.log2 number.mantissa + number.scale) * 30103 / 100000 - 1)

/-- The whole units of `10 ^ exponent` in the number. -/
def unitsBelow (number : Binary64) (exponent : Int) : Nat :=
  number.mantissa * Nat.pow 2 number.scale.toNat * Nat.pow 10 (-exponent).toNat /
    (Nat.pow 10 exponent.toNat * Nat.pow 2 (-number.scale).toNat)

/-- Of the two decimals with this last place around the number, the one that reads back; of two, the
nearer, and of two equally near the one whose digits are even. -/
def nearestAt? (number : Binary64) (exponent : Int) : Option Decimal :=
  let below : Decimal := ⟨unitsBelow number exponent, exponent⟩
  let above : Decimal := ⟨below.digits + 1, exponent⟩
  match readsBack number below, readsBack number above with
  | false, false => none
  | true, false => some below
  | false, true => some above
  | true, true =>
    match compareDecimal ⟨2 * below.digits + 1, exponent⟩ (2 * number.mantissa) number.scale with
    | .gt => some below
    | .lt => some above
    | .eq => some (if below.digits % 2 = 0 then below else above)

/-- Tries one digit more at a time. -/
def shortestFrom (number : Binary64) (magnitude : Int) : (attempts digits : Nat) → Decimal
  | 0, _ => ⟨number.mantissa * Nat.pow 5 (-number.scale).toNat * Nat.pow 2 number.scale.toNat,
      if number.scale < 0 then number.scale else 0⟩
  | attempts + 1, digits =>
    match nearestAt? number (magnitude - digits) with
    | some decimal => decimal
    | none => shortestFrom number magnitude attempts (digits + 1)

/-- The shortest decimal that reads back to a positive number. -/
def shortest (number : Binary64) : Decimal :=
  shortestFrom number number.magnitude 17 1

/-- Moves the zeros at the end of the digits into the exponent. -/
def stripZeros : (fuel : Nat) → Decimal → Decimal
  | 0, decimal => decimal
  | fuel + 1, decimal =>
    if decimal.digits ≠ 0 ∧ decimal.digits % 10 = 0 then
      stripZeros fuel ⟨decimal.digits / 10, decimal.exponent + 1⟩
    else decimal

/-! ### Layout -/

/-- Numbers are written positionally while the point stands after at most this many digits. -/
def greatestPoint : Int := 16

/-- Numbers are written positionally while the point stands before fewer than this many zeros. -/
def leastPoint : Int := -5

def zeros (count : Nat) : String :=
  String.ofList (List.replicate count '0')

/-- Lays out the digits of a positive number: positionally with a point and a digit on each side of
it, or with one digit before the point and a signed exponent. -/
def layout (decimal : Decimal) : String :=
  let digits := toString decimal.digits
  let point := decimal.exponent + digits.length
  if 0 ≤ decimal.exponent ∧ point ≤ greatestPoint then
    digits ++ zeros decimal.exponent.toNat ++ ".0"
  else if 0 < point ∧ point ≤ greatestPoint then
    String.ofList (digits.toList.take point.toNat) ++ "." ++
      String.ofList (digits.toList.drop point.toNat)
  else if leastPoint < point ∧ point ≤ 0 then
    "0." ++ zeros (-point).toNat ++ digits
  else
    let mark := if 0 ≤ point - 1 then "e+" else "e-"
    let head := String.ofList (digits.toList.take 1)
    let tail := String.ofList (digits.toList.drop 1)
    let fraction := if tail.isEmpty then "" else "." ++ tail
    head ++ fraction ++ mark ++ toString (point - 1).natAbs

/-- The text of a finite number: always with a point or an exponent. -/
def text (number : Binary64) : String :=
  let sign := if number.isNegative then "-" else ""
  if number.mantissa = 0 then sign ++ "0.0"
  else sign ++ layout (stripZeros 400 number.shortest)

end BotHost.Binary64
