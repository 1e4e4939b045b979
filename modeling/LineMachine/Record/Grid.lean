import LineMachine.Record
import LineMachine.Text.Pieces

/-!
# Records as a grid

Records are shown as a table of text: a line with the names of the columns, a line of dashes, and
a line for each record. Every column is as wide as its name or its widest cell, and two blanks
stand between columns.
-/

namespace LineMachine.Record

/-- The text of a cell: nothing for what is missing or null, and the items of a list with commas
between them. -/
def cell (v : Option Value) : String :=
  match v with
  | none => ""
  | some .null => ""
  | some (.list items) => Text.joinWith ", " (items.map Value.text)
  | some v => v.text

/-- The cell of a record in a column. -/
def cellAt (r : Record) (column : String) : String :=
  cell (Table.find? r (.str column))

/-- The width of a column. -/
def columnWidth (records : List Record) (column : String) : Nat :=
  (records.map fun r ↦ (cellAt r column).length).foldl max column.length

/-- Cells with two blanks between them, each filled up to its width. -/
def gridLine (widths : List Nat) (cells : List String) : String :=
  Text.joinWith "  " (List.zipWith Text.padRight widths cells)

/-- The lines of the grid whose columns are given. -/
def gridLines (columns : List String) (records : List Record) : List String :=
  let widths := columns.map (columnWidth records)
  gridLine widths columns :: gridLine widths (widths.map (Text.repeated '-')) ::
    records.map fun r ↦ gridLine widths (columns.map (cellAt r))

/-- The names of columns, if all of them are text. -/
def columnTitles? (records : List Record) : Option (List String) :=
  (columns records).mapM fun
    | .str s => some s
    | _ => none

/-- The lines that records are shown as; `none` if some column is not named by a text. -/
def lines? (records : List Record) : Option (List String) :=
  if records.isEmpty then some ["No records parsed"]
  else (columnTitles? records).map fun titles ↦ gridLines titles records

end LineMachine.Record
