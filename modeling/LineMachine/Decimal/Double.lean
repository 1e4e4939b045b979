/-!
# Double-precision numbers

A number of the binary64 format, kept as its bit pattern so that equality is decidable and means
identity. A finite number is `significand · 2 ^ scale` with its sign. `Double.nearest` rounds a
quotient of natural numbers to the nearest number of the format, ties to the even significand;
a quotient is too large for the format exactly when it reaches `overflowBound`.
-/

namespace LineMachine

/-- A binary64 number, by its bits. -/
structure Double where
  bits : UInt64
  deriving DecidableEq, Repr

namespace Double

/-! ## Powers -/

/-- A power of two. -/
def twoPower (n : Nat) : Nat := Nat.pow 2 n

/-- A power of ten. -/
def tenPower (n : Nat) : Nat := Nat.pow 10 n

/-! ## Fields of the format -/

/-- The sign bit. -/
def negative (d : Double) : Bool :=
  d.bits.toNat / twoPower 63 == 1

/-- The biased exponent. -/
def exponentField (d : Double) : Nat :=
  d.bits.toNat / twoPower 52 % twoPower 11

/-- The fraction field. -/
def fraction (d : Double) : Nat :=
  d.bits.toNat % twoPower 52

/-- Neither infinite nor a NaN. -/
def isFinite (d : Double) : Bool :=
  d.exponentField != 2047

/-- Not a number. -/
def isNaN (d : Double) : Bool :=
  d.exponentField == 2047 && d.fraction != 0

/-- Zero of either sign. -/
def isZero (d : Double) : Bool :=
  d.exponentField == 0 && d.fraction == 0

/-- The integer significand of a finite number. -/
def significand (d : Double) : Nat :=
  if d.exponentField == 0 then d.fraction else d.fraction + twoPower 52

/-- The power of two by which the significand of a finite number is scaled. -/
def scale (d : Double) : Int :=
  (max d.exponentField 1 : Nat) - 1075

/-! ## Conversions -/

/-- The same bits as a machine number. -/
def toFloat (d : Double) : Float :=
  Float.ofBits d.bits

/-- The bits of a machine number. -/
def ofFloat (x : Float) : Double :=
  ⟨x.toBits⟩

/-- Positive zero. -/
def zero : Double := ⟨0⟩

/-- Positive infinity. -/
def infinity : Double := ⟨0x7FF0000000000000⟩

/-- The number with the sign bit set as told. -/
def withSign (negative : Bool) (d : Double) : Double :=
  if negative then ⟨d.bits ||| 0x8000000000000000⟩ else d

/-- The magnitude of a finite number as a quotient of natural numbers. -/
def ratio (d : Double) : Nat × Nat :=
  if 0 ≤ d.scale then (d.significand * twoPower d.scale.toNat, 1)
  else (d.significand, twoPower (-d.scale).toNat)

/-- The integer that a finite number is equal to, if any. -/
def toInt? (d : Double) : Option Int :=
  if !d.isFinite then none
  else
    let (num, den) := d.ratio
    if num % den == 0 then
      some (if d.negative then -((num / den : Nat) : Int) else ((num / den : Nat) : Int))
    else none

/-! ## Rounding -/

/-- A quotient rounded to the nearest integer, ties to the even one. -/
def roundEven (num den : Nat) : Nat :=
  let q := num / den
  let r := num % den
  if den < 2 * r || (2 * r == den && q % 2 == 1) then q + 1 else q

/-- The least quotient that is too large for the format: halfway between the greatest finite
number and the next power of two. -/
def overflowBound : Nat := twoPower 1024 - twoPower 970

/-- The exponent of the power of two at or below a positive quotient. -/
def binade (num den : Nat) : Int :=
  let guess : Int := (num.log2 : Int) - (den.log2 : Int)
  let fits :=
    if 0 ≤ guess then den * twoPower guess.toNat ≤ num
    else den ≤ num * twoPower (-guess).toNat
  if fits then guess else guess - 1

/-- The number of the format nearest to a quotient; infinity from `overflowBound` on. -/
def nearest (num den : Nat) : Double :=
  if num == 0 then zero
  else if overflowBound * den ≤ num then infinity
  else
    let scale := max (binade num den - 52) (-1074)
    let q :=
      if 0 ≤ scale then roundEven num (den * twoPower scale.toNat)
      else roundEven (num * twoPower (-scale).toNat) den
    ⟨UInt64.ofNat ((scale + 1074).toNat * twoPower 52 + q)⟩

/-- The number nearest to an integer, as a clock shows whole seconds. -/
def ofInt (n : Int) : Double :=
  withSign (n < 0) (nearest n.natAbs 1)

/-- The number nearest to a multiple of a finite number. -/
def times (n : Nat) (d : Double) : Double :=
  let (num, den) := d.ratio
  withSign d.negative (nearest (n * num) den)

/-- A finite number without its fraction. -/
def truncate (d : Double) : Int :=
  let (num, den) := d.ratio
  let whole : Int := ((num / den : Nat) : Int)
  if d.negative then -whole else whole

end Double

end LineMachine
