import LineMachine.Value
import LineMachine.Decimal.Shortest
import LineMachine.Text.Quoted
import LineMachine.Text.Pieces

/-!
# Values as text

Messages and tables show values in two ways. `Value.display` puts texts between quotes; lists
stand in brackets and objects in braces, their parts separated by commas. `Value.text` is the
same but for a text on its own, which it leaves as it is.
-/

namespace LineMachine

/-- A key as messages show it. -/
def Key.display : Key → String
  | .null => "None"
  | .bool b => if b then "True" else "False"
  | .int n => toString n
  | .float d => d.text
  | .str s => Text.quoted s

/-- A key as a plain name. -/
def Key.text : Key → String
  | .str s => s
  | k => k.display

namespace Value

mutual

/-- A value as messages show it. Integers are written out whatever their length: neither reading a
document nor coercing a text yields one of more than `Numeral.maxDigits` digits, whose writing would
have to be refused. -/
def display : Value → String
  | .null => "None"
  | .bool b => if b then "True" else "False"
  | .int n => toString n
  | .float d => d.text
  | .str s => Text.quoted s
  | .list items => "[" ++ Text.joinWith ", " (displayItems items) ++ "]"
  | .object fields => "\x7b" ++ Text.joinWith ", " (displayFields fields) ++ "\x7d"

/-- The items of a list as messages show them. -/
def displayItems : List Value → List String
  | [] => []
  | v :: rest => display v :: displayItems rest

/-- The fields of an object as messages show them. -/
def displayFields : List (Key × Value) → List String
  | [] => []
  | (k, v) :: rest => (k.display ++ ": " ++ display v) :: displayFields rest

end

/-- A value as plain text. Of integers the same holds as for `display`. -/
def text : Value → String
  | .str s => s
  | v => v.display

end Value

end LineMachine
