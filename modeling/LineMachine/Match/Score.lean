import LineMachine.Fault
import LineMachine.Record
import LineMachine.Text.Case

/-!
# Scores

How well a template fits a text, judged by the records that it made: up to thirty points for how
many records there are, thirty for how many columns, twenty-five for how many cells are filled in,
and fifteen for columns that are filled in everywhere or nowhere. No records score nothing.

A score is computed from five counts alone, over any numbers with addition, multiplication and
division.
-/

namespace LineMachine

/-- What a score depends on. -/
structure Counts where
  records : Nat
  columns : Nat
  /-- How many cells are filled in. -/
  filled : Nat
  /-- How many columns are filled in by all records or by none. -/
  consistent : Nat
  /-- Whether exactly one record is expected. -/
  single : Bool
  deriving DecidableEq, Repr

namespace Counts

/-- Whether a column is filled in by all records or by none. -/
def isConsistent (records : List Record) (k : Key) : Bool :=
  let n := Record.fillCount records k
  n == 0 || n == records.length

/-- The counts of records. -/
def ofRecords (records : List Record) (single : Bool) : Counts where
  records := records.length
  columns := (Record.columns records).length
  filled := Record.filledCells records
  consistent := (Record.columns records).countP (isConsistent records)
  single := single

/-! ## Points -/

section Points

variable {α : Type} [NatCast α] [Add α] [Mul α] [Div α]

/-- Points for the number of records. One record expected, every further one costs five points. -/
def recordPoints (c : Counts) : α :=
  if c.single then
    if c.records = 1 then Nat.cast 30 else Nat.cast (15 - (c.records - 1) * 5)
  else if 10 ≤ c.records then Nat.cast 30
  else if 3 ≤ c.records then
    Nat.cast 20 + Nat.cast (c.records - 3) * (Nat.cast 10 / Nat.cast 7)
  else Nat.cast c.records * Nat.cast 10

/-- Points for the number of columns. -/
def columnPoints (c : Counts) : α :=
  if 10 ≤ c.columns then Nat.cast 30
  else if 6 ≤ c.columns then
    Nat.cast 20 + Nat.cast (c.columns - 6) * (Nat.cast 5 / Nat.cast 2)
  else if 3 ≤ c.columns then
    Nat.cast 10 + Nat.cast (c.columns - 3) * (Nat.cast 10 / Nat.cast 3)
  else Nat.cast c.columns * Nat.cast 5

/-- Points for the share of cells that are filled in. -/
def fillPoints (c : Counts) : α :=
  let cells := c.records * c.columns
  if 0 < cells then Nat.cast c.filled / Nat.cast cells * Nat.cast 25 else Nat.cast 0

/-- Points for consistent columns. -/
def consistencyPoints (c : Counts) : α :=
  if 1 < c.records ∧ 0 < c.columns then
    Nat.cast c.consistent / Nat.cast c.columns * Nat.cast 15
  else Nat.cast 15

/-- All points together. -/
def score (c : Counts) : α :=
  if c.records = 0 then Nat.cast 0
  else recordPoints c + columnPoints c + fillPoints c + consistencyPoints c

end Points

end Counts

namespace Record

/-- Whether exactly one record is expected: the command asks for a version. -/
def expectsOne (command : String) : Bool :=
  Text.occursIn "version".toList (Text.lower command.toList)

/-- The score of records made under a command. The command is looked at only if there are
records. -/
def scoreWith {α : Type} [NatCast α] [Add α] [Mul α] [Div α] (records : List Record)
    (command : Value) : Except Fault α :=
  if records.isEmpty then .ok (Nat.cast 0)
  else
    match command.orElse (.str "") with
    | .str text => .ok (Counts.ofRecords records (expectsOne text)).score
    | other => .error (.notPhrase other.kindName)

/-- The score of records as a machine number. -/
def score (records : List Record) (command : Value) : Except Fault Float :=
  letI : NatCast Float := ⟨Float.ofNat⟩
  scoreWith records command

end Record

end LineMachine
