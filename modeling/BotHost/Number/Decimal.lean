/-
Decimal fractions: the floating-point number nearest to a decimal that is written with a sign, a
fraction and an exponent, each of which may be missing.
-/

import BotHost.Json.Reader

namespace BotHost

/-- The number that a row of digits stands for in a base. -/
def digitsValue (base : Nat) (digits : List Char) : Nat :=
  digits.foldl (fun total digit => total * base + (Json.hexValue? digit).getD 0) 0

namespace Binary64

/-- Exponents beyond this leave no number between zero and infinity. -/
def extremeExponent : Int := 400

/-- The number nearest to `significand * ten ^ exponent`. -/
def nearest (negative : Bool) (significand : Nat) (exponent : Int) : Binary64 :=
  let digits : Int := (Nat.toDigits 10 significand).length
  let magnitude : Float :=
    if significand = 0 ∨ digits + exponent < -extremeExponent then 0
    else if extremeExponent < exponent then 1.0 / 0.0
    else if exponent < 0 then Float.ofScientific significand true exponent.natAbs
    else Float.ofScientific significand false exponent.natAbs
  ofFloat (if negative then -magnitude else magnitude)

/-- A sign, if there is one, and the rest. -/
def splitSign : List Char → Bool × List Char
  | '-' :: rest => (true, rest)
  | '+' :: rest => (false, rest)
  | text => (false, text)

/-- The exponent that a text ends with: zero if it is empty. -/
def exponent? : List Char → Option Int
  | [] => some 0
  | mark :: rest =>
    let (negative, digits) := splitSign rest
    if (mark = 'e' ∨ mark = 'E') ∧ digits ≠ [] ∧ digits.all Char.isDigit then
      let value : Int := digitsValue 10 digits
      some (if negative then -value else value)
    else none

/-- Reads a whole text as a decimal. There is at least one digit before the exponent. -/
def ofText? (text : List Char) : Option Binary64 := do
  let (negative, text) := splitSign text
  let whole := text.takeWhile Char.isDigit
  let (fraction, rest) := match text.dropWhile Char.isDigit with
    | '.' :: rest => (rest.takeWhile Char.isDigit, rest.dropWhile Char.isDigit)
    | rest => ([], rest)
  if whole.isEmpty && fraction.isEmpty then none
  else
    let exponent ← exponent? rest
    some (nearest negative (digitsValue 10 (whole ++ fraction)) (exponent - fraction.length))

end Binary64

end BotHost
