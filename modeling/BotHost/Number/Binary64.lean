/-
Floating-point numbers of 64 bits, held as their bit patterns. Two of them are equal when their bits
are, so equality is decidable and a negative zero differs from a zero.
-/

namespace BotHost

/-- A floating-point number of 64 bits. -/
structure Binary64 where
  bits : UInt64
deriving DecidableEq, Repr, Inhabited

namespace Binary64

/-- The number that the machine computes with. -/
def toFloat (number : Binary64) : Float :=
  Float.ofBits number.bits

/-- The pattern of a machine number. -/
def ofFloat (value : Float) : Binary64 :=
  ⟨value.toBits⟩

def isNegative (number : Binary64) : Bool :=
  number.bits >>> 63 == 1

/-- The eleven bits of the exponent. -/
def exponentField (number : Binary64) : Nat :=
  ((number.bits >>> 52) &&& 0x7ff).toNat

/-- The fifty-two bits below the exponent. -/
def fraction (number : Binary64) : Nat :=
  (number.bits &&& 0xfffffffffffff).toNat

/-- Neither infinite nor a not-a-number. -/
def isFinite (number : Binary64) : Bool :=
  number.exponentField != 0x7ff

/-- The factor of the magnitude `mantissa * 2 ^ scale`. -/
def mantissa (number : Binary64) : Nat :=
  if number.exponentField = 0 then number.fraction else number.fraction + 0x10000000000000

/-- The binary exponent of the magnitude `mantissa * 2 ^ scale`. -/
def scale (number : Binary64) : Int :=
  if number.exponentField = 0 then -1074 else number.exponentField - 1075

/-- The gap to the number below is half the gap to the number above. -/
def narrowBelow (number : Binary64) : Bool :=
  number.fraction == 0 && 1 < number.exponentField

/-! ### Reading a decimal -/

/-- Powers of ten up to this exponent have a number of their own. -/
def greatestPower : Nat := 308

/-- `ten ^ exponent` for an exponent up to `greatestPower`. -/
def powerOfTen (exponent : Nat) : Float :=
  Float.ofScientific 1 false exponent

/-- `value / ten ^ exponent`, dividing by the greatest power as long as the exponent exceeds it. -/
def divideByPower (value : Float) (exponent : Nat) : Float :=
  if exponent ≤ greatestPower then value / powerOfTen exponent
  else if value == 0.0 then value
  else divideByPower (value / powerOfTen greatestPower) (exponent - greatestPower)
termination_by exponent
decreasing_by simp only [greatestPower] at *; omega

/-- The number `significand * ten ^ exponent`, computed by one multiplication or division of machine
numbers; `none` when it is too great for one. -/
def ofDecimal? (negative : Bool) (significand : UInt64) (exponent : Int) : Option Binary64 :=
  let value := significand.toFloat
  let signed (magnitude : Float) := ofFloat (if negative then -magnitude else magnitude)
  if exponent < 0 then some (signed (divideByPower value exponent.natAbs))
  else if exponent.toNat ≤ greatestPower then
    let product := value * powerOfTen exponent.toNat
    if product.isInf then none else some (signed product)
  else if value == 0.0 then some (signed value)
  else none

end Binary64

end BotHost
