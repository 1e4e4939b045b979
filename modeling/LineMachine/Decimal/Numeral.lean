import LineMachine.Text.Blank
import LineMachine.Text.Classes
import LineMachine.Text.Pieces
import LineMachine.Decimal.Double

/-!
# Numerals

Reading of numerals. A plain integer numeral is an optional sign and ASCII digits; a decimal
numeral is an optional sign, ASCII digits with an optional point (or a point and digits), and an
optional exponent. Integers are exact but limited to `maxDigits` digits, leading zeros counted;
decimals are rounded to the nearest double. `anyInteger?` reads integers of any script.
-/

namespace LineMachine

namespace Numeral

open Text

/-- An integer numeral with more digits than this is refused. -/
def maxDigits : Nat := 4300

/-- The number that ASCII digits denote. -/
def digitsValue (s : List Char) : Nat :=
  s.foldl (fun n c ↦ n * 10 + (c.toNat - 48)) 0

/-- An optional sign in front: whether it is a minus, and the rest. -/
def takeSign : List Char → Bool × List Char
  | '-' :: rest => (true, rest)
  | '+' :: rest => (false, rest)
  | s => (false, s)

/-- One digit or more, and nothing else. -/
def isDigits (s : List Char) : Bool :=
  !s.isEmpty && s.all isAsciiDigit

/-! ## Integers -/

/-- A signed integer, split into its sign and its digits. -/
def integer? (s : List Char) : Option (Bool × List Char) :=
  let (negative, digits) := takeSign s
  if isDigits digits then some (negative, digits) else none

/-- The integer with a given sign and digits. -/
def signedValue (negative : Bool) (digits : List Char) : Int :=
  if negative then -(digitsValue digits : Int) else digitsValue digits

/-- An integer in decimal digits of any script, with blanks around it and single underscores
between its digits. -/
def anyInteger? (s : List Char) : Option Int := do
  let (negative, body) := takeSign (trim s)
  let groups := splitAtChar '_' body
  let digits ← groups.flatten.mapM digitValue?
  let n : Nat := digits.foldl (fun n d ↦ n * 10 + d) 0
  if groups.contains [] || maxDigits < digits.length then none
  else some (if negative then -(n : Int) else n)

/-! ## Decimals -/

/-- A decimal number: a coefficient scaled by a power of ten. -/
structure Decimal where
  negative : Bool
  coefficient : Nat
  exponent : Int
  deriving DecidableEq, Repr

/-- The exponent part of a numeral, `none` if what follows the mantissa is not one. -/
def exponent? : List Char → Option Int
  | [] => some 0
  | c :: rest =>
    if c == 'e' || c == 'E' then (integer? rest).map fun (negative, ds) ↦ signedValue negative ds
    else none

/-- A decimal numeral. -/
def decimal? (s : List Char) : Option Decimal :=
  let (negative, body) := takeSign s
  let whole := body.takeWhile isAsciiDigit
  let afterWhole := body.dropWhile isAsciiDigit
  let (places, afterPoint) := match afterWhole with
    | '.' :: rest => (rest.takeWhile isAsciiDigit, rest.dropWhile isAsciiDigit)
    | rest => ([], rest)
  if whole.isEmpty && places.isEmpty then none
  else (exponent? afterPoint).map fun e ↦
    { negative := negative
      coefficient := digitsValue (whole ++ places)
      exponent := e - (places.length : Int) }

/-- The double nearest to a decimal number. The size of the number is settled from its digit
count first, so that a huge exponent is never expanded. -/
def Decimal.toDouble (d : Decimal) : Double :=
  let size := ((Nat.toDigits 10 d.coefficient).length : Int) + d.exponent
  let magnitude :=
    if d.coefficient == 0 || size < -330 then Double.zero
    else if 310 < size then Double.infinity
    else if 0 ≤ d.exponent then
      Double.nearest (d.coefficient * Double.tenPower d.exponent.toNat) 1
    else Double.nearest d.coefficient (Double.tenPower (-d.exponent).toNat)
  magnitude.withSign d.negative

end Numeral

end LineMachine
