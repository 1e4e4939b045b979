import LineMachine.Decimal.Shortest
import LineMachine.Text.Pieces
import LineMachine.Text.Quoted
import LineMachine.Value

/-!
# Writing JSON

`Json.compact` writes a value on one line, `Json.indented` writes every item and every field on a
line of its own. Both write ASCII only: a string shows other characters, and controls, by their
UTF-16 code units. Numbers that are not finite are written by name.
-/

namespace LineMachine.Json

open Text

/-! ## Scalars -/

/-- A UTF-16 code unit as an escape. -/
def unitEscape (n : Nat) : List Char :=
  backslash :: 'u' :: hexPadded 4 n

/-- One character of a string. -/
def escapedChar (c : Char) : List Char :=
  let n := c.toNat
  if c == doubleQuote || c == backslash then [backslash, c]
  else if 32 ≤ n && n < 127 then [c]
  else if c == '\n' then [backslash, 'n']
  else if c == '\r' then [backslash, 'r']
  else if c == '\t' then [backslash, 't']
  else if n == 8 then [backslash, 'b']
  else if n == 12 then [backslash, 'f']
  else if n < 0x10000 then unitEscape n
  else
    let m := n - 0x10000
    unitEscape (0xD800 + m / 0x400) ++ unitEscape (0xDC00 + m % 0x400)

/-- A string between quotes. -/
def quotedString (s : String) : String :=
  String.ofList (doubleQuote :: s.toList.flatMap escapedChar ++ [doubleQuote])

/-- A double as a number or, unless it is finite, by its name. -/
def doubleText (d : Double) : String :=
  if d.isFinite then d.text
  else if d.isNaN then "NaN"
  else if d.negative then "-Infinity"
  else "Infinity"

/-- The name of a field. -/
def fieldName : Key → String
  | .null => "null"
  | .bool b => if b then "true" else "false"
  | .int n => toString n
  | .float d => doubleText d
  | .str s => s

/-! ## Layout -/

/-- How parts are set apart. -/
structure Layout where
  /-- What stands between an opening bracket and the first part, at a depth of nesting. -/
  lead : Nat → String
  /-- What stands between two parts. -/
  between : Nat → String
  /-- What stands between the last part and the closing bracket. -/
  trail : Nat → String

/-- Everything on one line. -/
def Layout.inline : Layout where
  lead _ := ""
  between _ := ", "
  trail _ := ""

/-- A new line, indented by two blanks for every level. -/
def newLine (depth : Nat) : String :=
  "\n" ++ repeated ' ' (2 * depth)

/-- Every part on a line of its own. -/
def Layout.lines : Layout where
  lead depth := newLine (depth + 1)
  between depth := "," ++ newLine (depth + 1)
  trail depth := newLine depth

/-- Parts between brackets; nothing but the brackets if there are none. -/
def enclosed (layout : Layout) (depth : Nat) (opening closing : String) (parts : List String) :
    String :=
  if parts.isEmpty then opening ++ closing
  else opening ++ layout.lead depth ++ joinWith (layout.between depth) parts ++
    layout.trail depth ++ closing

/-! ## Values -/

mutual

/-- A value at a depth of nesting. -/
def write (layout : Layout) (depth : Nat) : Value → String
  | .null => "null"
  | .bool b => if b then "true" else "false"
  | .int n => toString n
  | .float d => doubleText d
  | .str s => quotedString s
  | .list vs => enclosed layout depth "[" "]" (writeItems layout (depth + 1) vs)
  | .object fs => enclosed layout depth "\x7b" "\x7d" (writeFields layout (depth + 1) fs)

/-- The items of a list. -/
def writeItems (layout : Layout) (depth : Nat) : List Value → List String
  | [] => []
  | v :: rest => write layout depth v :: writeItems layout depth rest

/-- The fields of an object. -/
def writeFields (layout : Layout) (depth : Nat) : List (Key × Value) → List String
  | [] => []
  | (k, v) :: rest =>
    (quotedString (fieldName k) ++ ": " ++ write layout depth v) :: writeFields layout depth rest

end

/-- A value on one line. -/
def compact (v : Value) : String :=
  write Layout.inline 0 v

/-- A value with every part on a line of its own. -/
def indented (v : Value) : String :=
  write Layout.lines 0 v

end LineMachine.Json
