/-!
# Faults of JSON texts

What can be wrong with a JSON text, and how it is reported: a cause, and the line, column and
offset at which it was found.
-/

namespace LineMachine.Json

/-- What is wrong with a JSON text. -/
inductive Cause where
  | expectingValue
  | expectingName
  | expectingColon
  | expectingComma
  | extraData
  | unterminatedString
  | controlCharacter
  | badEscape
  | badCodePoint
  | byteOrderMark
  deriving DecidableEq, Repr

/-- The wording of a cause. -/
def Cause.text : Cause → String
  | .expectingValue => "Expecting value"
  | .expectingName => "Expecting property name enclosed in double quotes"
  | .expectingColon => "Expecting ':' delimiter"
  | .expectingComma => "Expecting ',' delimiter"
  | .extraData => "Extra data"
  | .unterminatedString => "Unterminated string starting at"
  | .controlCharacter => "Invalid control character at"
  | .badEscape => "Invalid \\escape"
  | .badCodePoint => "Invalid \\uXXXX escape"
  | .byteOrderMark => "Unexpected UTF-8 BOM (decode using utf-8-sig)"

/-- Why a JSON text is refused. -/
inductive Fault where
  /-- The text is malformed at an offset, which lies on a line and in a column. -/
  | malformed (cause : Cause) (line column offset : Nat)
  /-- An integer has too many digits. -/
  | longNumeral
  deriving DecidableEq, Repr

/-- The wording of a fault. -/
def Fault.message : Fault → String
  | .malformed cause line column offset =>
    cause.text ++ ": line " ++ toString line ++ " column " ++ toString column ++ " (char " ++
      toString offset ++ ")"
  | .longNumeral => "integer numeral has too many digits"

/-- A fault at an offset in a text. Lines and columns count from one. -/
def Fault.at (cause : Cause) (text : List Char) (offset : Nat) : Fault :=
  let before := text.take offset
  .malformed cause (before.count '\n' + 1) ((before.reverse.takeWhile (· != '\n')).length + 1)
    offset

end LineMachine.Json
