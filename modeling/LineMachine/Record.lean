import LineMachine.Value.Text
import LineMachine.Text.Blank

/-!
# Records

A record is what the variables of a machine held when it was made. Records made by one template
need not have the same keys, so what they have in common is computed here: the columns, which are
the distinct keys in the order in which they are first met, and what is filled in.
-/

namespace LineMachine

/-- The variables as they were when a record was made. -/
abbrev Record := Table Value

namespace Record

/-- Takes one more key to the columns found so far. -/
def addColumn (columns : List Key) (k : Key) : List Key :=
  if columns.any k.same then columns else columns ++ [k]

/-- The distinct keys of records, in the order in which they are first met. -/
def columns (records : List Record) : List Key :=
  (records.flatMap Table.keys).foldl addColumn []

/-- Whether a value counts as filled in: it is not null, and its text is not blank. -/
def isFilled (v : Value) : Bool :=
  v != .null && !Text.allBlank v.text

/-- How many values of records are filled in. -/
def filledCells (records : List Record) : Nat :=
  records.flatten.countP fun e ↦ isFilled e.2

/-- How many records have a key filled in. -/
def fillCount (records : List Record) (k : Key) : Nat :=
  records.countP fun r ↦ (Table.find? r k).any isFilled

end Record

end LineMachine
