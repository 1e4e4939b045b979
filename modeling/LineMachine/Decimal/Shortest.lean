import LineMachine.Decimal.Double

/-!
# Decimal text of a double

`Double.text` writes the fewest digits that read back as the same number. For one digit, two
digits and so on, the two neighbours of the number on that decimal grid are tested against the
interval of reals that round to it; the first grid with a hit wins, and of two hits the nearer.
Digits stand in positional notation from 0.0001 up to below ten to the sixteenth, and with an
exponent of at least two digits outside of that. `Double.fixedText` writes a given number of
decimal places instead, a tie going to the even last digit.
-/

namespace LineMachine

namespace Double

/-! ## Digits -/

/-- The decimal digits of a natural number. -/
def decimalDigits (n : Nat) : List Char :=
  Nat.toDigits 10 n

/-- The exponent of the power of ten at or below a positive quotient. -/
def decade (num den : Nat) : Int :=
  if den ≤ num then ((decimalDigits (num / den)).length : Int) - 1
  else
    let above := (den + num - 1) / num
    Int.negOfNat (decimalDigits (above - 1)).length

/-- A quotient times a power of ten, as a quotient. -/
def timesTenPower (num den : Nat) (k : Int) : Nat × Nat :=
  if 0 ≤ k then (num * tenPower k.toNat, den) else (num, den * tenPower (-k).toNat)

/-- The numerators, over a common denominator, of a positive finite number, of the lower and the
upper end of the interval of reals that round to it, and that denominator. -/
def roundingInterval (d : Double) : Nat × Nat × Nat × Nat :=
  let m := d.significand
  let below := if d.fraction == 0 && 1 < d.exponentField then 4 * m - 1 else 4 * m - 2
  let above := 4 * m + 2
  let scale := d.scale - 2
  if 0 ≤ scale then
    let unit := twoPower scale.toNat
    (4 * m * unit, below * unit, above * unit, 1)
  else (4 * m, below, above, twoPower (-scale).toNat)

/-- The point of the grid of multiples of ten to the `k` that reads back as the number, if one of
its two neighbours does; the nearer one if both do, the even one at a tie. -/
def gridPoint? (d : Double) (k : Int) : Option Nat :=
  let (value, low, high, den) := d.roundingInterval
  let (num, den') := timesTenPower value den (-k)
  let (lowNum, lowDen) := timesTenPower low den (-k)
  let (highNum, highDen) := timesTenPower high den (-k)
  let closed := d.significand % 2 == 0
  let down := num / den'
  let up := down + 1
  let downHits := if closed then lowNum ≤ down * lowDen else lowNum < down * lowDen
  let upHits := if closed then up * highDen ≤ highNum else up * highDen < highNum
  if downHits && upHits then
    let twice := 2 * (num - down * den')
    some (if twice < den' || (twice == den' && down % 2 == 0) then down else up)
  else if downHits then some down
  else if upHits then some up
  else none

/-- The shortest digits as a coefficient and the power of ten that scales it, tried for
`count` further digit counts. -/
def shortestFrom (d : Double) (top : Int) : Nat → Nat → Nat × Int
  | 0, _ => (0, 0)
  | count + 1, digits =>
    let k := top - (digits : Int)
    match d.gridPoint? k with
    | some n => (n, k)
    | none => shortestFrom d top count (digits + 1)

/-- Drops the zeros at the end of a list of digits; the exponent grows by one for each. -/
def dropZeros (digits : List Char) (k : Int) : List Char × Int :=
  let kept := (digits.reverse.dropWhile (· == '0')).reverse
  (kept, k + ((digits.length - kept.length : Nat) : Int))

/-- The fewest significant digits of a positive finite number, and the power of ten that scales
them. -/
def shortest (d : Double) : List Char × Int :=
  let (num, den) := d.ratio
  let (n, k) := shortestFrom d (decade num den) 17 0
  dropZeros (decimalDigits n) k

/-! ## Layout -/

/-- Digits with a decimal point after the first `point` of them, padded by zeros. -/
def positional (digits : List Char) (point : Int) : List Char :=
  if point ≤ 0 then '0' :: '.' :: (List.replicate (-point).toNat '0' ++ digits)
  else
    let whole := digits.take point.toNat
    let padded := whole ++ List.replicate (point.toNat - whole.length) '0'
    let rest := digits.drop point.toNat
    padded ++ '.' :: (if rest.isEmpty then ['0'] else rest)

/-- Digits in the notation with an exponent. -/
def scientific (digits : List Char) (exponent : Int) : List Char :=
  let mantissa := match digits with
    | [] => []
    | [d] => [d]
    | d :: rest => d :: '.' :: rest
  let size := decimalDigits exponent.natAbs
  let padded := if size.length < 2 then '0' :: size else size
  mantissa ++ 'e' :: (if exponent < 0 then '-' else '+') :: padded

/-- The magnitude of a number as text. -/
def magnitudeText (d : Double) : List Char :=
  if d.isNaN then ['n', 'a', 'n']
  else if !d.isFinite then ['i', 'n', 'f']
  else if d.isZero then ['0', '.', '0']
  else
    let (digits, k) := d.shortest
    let point := (digits.length : Int) + k
    if -4 < point ∧ point ≤ 16 then positional digits point
    else scientific digits (point - 1)

/-- The shortest text that reads back as the number. -/
def text (d : Double) : String :=
  String.ofList (if d.negative && !d.isNaN then '-' :: d.magnitudeText else d.magnitudeText)

/-! ## Fixed places -/

/-- A natural number of hundredths, thousandths and so on, with `places` digits after the point. -/
def placed (n places : Nat) : List Char :=
  let digits := decimalDigits n
  let padded := List.replicate (places + 1 - digits.length) '0' ++ digits
  let whole := padded.take (padded.length - places)
  let rest := padded.drop (padded.length - places)
  if places == 0 then whole else whole ++ '.' :: rest

/-- A finite number with a given number of decimal places. -/
def fixedText (places : Nat) (d : Double) : String :=
  if !d.isFinite then d.text
  else
    let (num, den) := d.ratio
    let body := placed (roundEven (num * tenPower places) den) places
    String.ofList (if d.negative then '-' :: body else body)

end Double

end LineMachine
