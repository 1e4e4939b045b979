import LineMachine.Decimal.Numeral
import LineMachine.Text.Classes

/-!
# Names of Values

The name of a Value is put between angle brackets to name the group of its expression. In that
replacement a backslash starts an escape: a control character, a character by its octal number, a
sign that stands for itself, or a reference to a group that was replaced. Of the groups only the
one that stands for all of the replaced text exists, and its number is zero.
-/

namespace LineMachine.TextFsm.ValueName

open Text

/-- What is wrong with a name. -/
inductive NameFault where
  /-- An escape that stands for nothing. -/
  | badEscape
  /-- A reference by name, to a group that does not exist. -/
  | unknownGroup
  deriving DecidableEq, Repr

/-- Whether three octal digits below 400 come first. -/
def startsOctal : List Char → Bool
  | a :: b :: c :: _ => a ≤ '3' && [a, b, c].all fun x ↦ '0' ≤ x && x ≤ '7'
  | _ => false

/-- What stands in front of the next closing bracket, and what behind it. A backslash shields the
character behind it. -/
def upToBracket? : List Char → Option (List Char × List Char)
  | [] => none
  | [c] => if c == '>' then some ([], []) else none
  | c :: d :: rest =>
    if c == '>' then some ([], d :: rest)
    else if c == backslash then
      (upToBracket? rest).map fun (inside, rest) ↦ (c :: d :: inside, rest)
    else (upToBracket? (d :: rest)).map fun (inside, rest) ↦ (c :: inside, rest)

/-- What is wrong with a reference, if anything. -/
def referenceFault? (reference : List Char) : Option NameFault :=
  if isIdentifier reference then some .unknownGroup
  else if Numeral.anyInteger? reference = some 0 then none
  else some .badEscape

/-- What is wrong with a replacement text, if anything; the first fault counts. Every escape takes
two characters or more, so `fuel` above the length of the text suffices. -/
def textFault? : Nat → List Char → Option NameFault
  | fuel + 1, c :: d :: rest =>
    if c != backslash then textFault? fuel (d :: rest)
    else if d == 'g' then
      match rest with
      | '<' :: rest =>
        match upToBracket? rest with
        | some (reference, rest) => (referenceFault? reference).or (textFault? fuel rest)
        | none => some .badEscape
      | _ => some .badEscape
    else if isAsciiLetter d then
      if "abfnrtv".toList.contains d then textFault? fuel rest else some .badEscape
    else if isAsciiDigit d && d != '0' && !startsOctal (d :: rest) then some .badEscape
    else textFault? fuel rest
  | _, _ => none

/-- What is wrong with a name, if anything. The bracket behind it belongs to the replacement. -/
def fault? (name : String) : Option NameFault :=
  textFault? (name.length + 2) (name.toList ++ ['>'])

end LineMachine.TextFsm.ValueName
