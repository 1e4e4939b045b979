import LineMachine.Fault
import LineMachine.Decimal.Numeral
import LineMachine.Text.Blank

/-!
# Coercion

A variable may be declared a number or a list, and the texts it is given are then turned into
numbers and lists. Values that are not text, and texts that cannot be turned, stay as they are.
-/

namespace LineMachine

namespace Coercion

/-- A text as a number: an integer if it is an integer numeral, else a double if it is a decimal
numeral within the range of doubles, else the text itself. Blanks around the numeral are allowed,
and an integer numeral of too many digits is refused. -/
def toNumber (s : String) : Except Fault Value :=
  let trimmed := Text.trim s.toList
  match Numeral.integer? trimmed with
  | some (negative, digits) =>
    if Numeral.maxDigits < digits.length then .error .longNumeral
    else .ok (.int (Numeral.signedValue negative digits))
  | none =>
    match Numeral.decimal? trimmed with
    | some decimal =>
      let d := decimal.toDouble
      .ok (if d.isFinite then .float d else .str s)
    | none => .ok (.str s)

/-- The pieces of a text between commas, trimmed, without the empty ones. -/
def listItems (s : List Char) : List (List Char) :=
  ((Text.splitAtChar ',' s).map Text.trim).filter (!·.isEmpty)

/-- The pieces of a text between commas, as a list. -/
def toList (s : String) : List Value :=
  (listItems s.toList).map fun piece ↦ .str (String.ofList piece)

/-- A value given to a variable of a declared type. -/
def coerce (v : Value) (type : Option Value) : Except Fault Value :=
  match v with
  | .str s =>
    if type = some (.str "number") then toNumber s
    else if type = some (.str "list") then .ok (.list (toList s))
    else .ok v
  | v => .ok v

@[simp] theorem coerce_list (items : List Value) (type : Option Value) :
    coerce (.list items) type = .ok (.list items) := rfl

end Coercion

end LineMachine
