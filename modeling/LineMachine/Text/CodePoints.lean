/-!
# Sets of code points written as runs

The character data below is long, so it is kept as text: runs of hexadecimal code points such as
`41-5A`, with `/2` behind a run of every second one, and a lone code point standing for itself.
`Run.readAll` turns such a text into runs. A mapping between code points adds the signed distance
to the image behind a colon, as in `41-5A:32`.
-/

namespace LineMachine.Text

/-- The code points `first`, `first + step`, … up to `last`. -/
structure Run where
  first : Nat
  last : Nat
  step : Nat
  deriving Repr, DecidableEq

/-- A run together with the distance from each of its members to that member's image. -/
structure Shift where
  run : Run
  distance : Int
  deriving Repr, DecidableEq

namespace Run

/-- Membership of a code point. -/
def contains (r : Run) (n : Nat) : Bool :=
  r.first ≤ n && n ≤ r.last && (n - r.first) % r.step == 0

/-! ## Reading -/

/-- The value of a hexadecimal digit. -/
def hexDigit? (c : Char) : Option Nat :=
  if '0' ≤ c ∧ c ≤ '9' then some (c.toNat - 48)
  else if 'a' ≤ c ∧ c ≤ 'f' then some (c.toNat - 87)
  else if 'A' ≤ c ∧ c ≤ 'F' then some (c.toNat - 55)
  else none

/-- The number that hexadecimal digits denote; other characters are passed over. -/
def hexValue (s : List Char) : Nat :=
  s.foldl (fun n c ↦ match hexDigit? c with
    | some d => n * 16 + d
    | none => n) 0

/-- Reads one run. -/
def read (s : List Char) : Run :=
  let bounds := s.takeWhile (· != '/')
  let first := bounds.takeWhile (· != '-')
  let last := bounds.dropWhile (· != '-')
  { first := hexValue first
    last := if last.isEmpty then hexValue first else hexValue last
    step := if bounds.length < s.length then 2 else 1 }

/-- The words of a table. -/
def words (s : String) : List (List Char) :=
  let step := fun (acc : List Char × List (List Char)) (c : Char) ↦
    if c == ' ' || c == '\n' then ([], acc.1.reverse :: acc.2) else (c :: acc.1, acc.2)
  let (pending, done) := s.toList.foldl step ([], [])
  (pending.reverse :: done).reverse.filter (!·.isEmpty)

/-- Reads a table of runs. -/
def readAll (s : String) : List Run :=
  (words s).map read

end Run

namespace Shift

/-- The number that decimal digits after an optional minus sign denote. -/
def signedValue (s : List Char) : Int :=
  let digits := s.foldl (fun n c ↦ if c.isDigit then n * 10 + (c.toNat - 48) else n) 0
  if s.head? = some '-' then -(digits : Int) else digits

/-- Reads one run with its distance. -/
def read (s : List Char) : Shift :=
  { run := Run.read (s.takeWhile (· != ':'))
    distance := signedValue ((s.dropWhile (· != ':')).drop 1) }

/-- Reads a table of shifts. -/
def readAll (s : String) : List Shift :=
  (Run.words s).map read

/-- The image of a code point under a table of shifts; outside of every run it is its own. -/
def apply (shifts : List Shift) (n : Nat) : Nat :=
  match shifts.find? (·.run.contains n) with
  | some shift => ((n : Int) + shift.distance).toNat
  | none => n

/-- The code points other than `n` itself whose image is `n`. -/
def preimages (shifts : List Shift) (n : Nat) : List Nat :=
  shifts.filterMap fun shift ↦
    let source := ((n : Int) - shift.distance).toNat
    if shift.run.contains source && source != n then some source else none

end Shift

/-- Membership of a code point in one of several runs. -/
def inRuns (runs : List Run) (n : Nat) : Bool :=
  runs.any (·.contains n)

end LineMachine.Text
