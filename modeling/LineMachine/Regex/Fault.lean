import LineMachine.Text.Pieces

/-!
# Faults of line patterns

What can be wrong with the text of a pattern, and how it is reported: a cause, the position at
which reading stopped, and, for a pattern of several lines, the line and column of that position.
-/

namespace LineMachine.Regex

/-- What is wrong with a pattern. -/
inductive Cause where
  | missing (c : Char)
  | unbalanced
  | unterminatedSet
  | multipleRepeat
  | nothingToRepeat
  | repeatOrder
  | repeatTooBig
  | missingGroupName
  | badGroupName
  | unknownExtension
  | unknownVerb
  | noConditionGroup
  | unknownList
  | escapeAtEnd
  | badEscape (c : Char)
  | incompleteEscape (digits : String)
  | badHexEscape (digits : String)
  | badRange
  | badReference
  | openGroup
  | unknownGroup
  | unknownProperty
  | unknownCharacter
  | globalFlagOff
  | noFlagsOff
  | flagOnAndOff
  /-- Flags that state both versions. -/
  | mixedVersions
  /-- Flags that ask for ASCII and for all characters. -/
  | mixedEncodings
  | unfinished
  deriving DecidableEq, Repr

/-- The wording of a cause. -/
def Cause.text : Cause → String
  | .missing c => "missing " ++ String.ofList [c]
  | .unbalanced => "unbalanced parenthesis"
  | .unterminatedSet => "unterminated character set"
  | .multipleRepeat => "multiple repeat"
  | .nothingToRepeat => "nothing to repeat"
  | .repeatOrder => "min repeat greater than max repeat"
  | .repeatTooBig => "repeat count too big"
  | .missingGroupName => "missing group name"
  | .badGroupName => "bad character in group name"
  | .unknownExtension => "unknown extension"
  | .unknownVerb => "unknown verb"
  | .noConditionGroup => "expected lookaround conditional"
  | .unknownList => "undefined named list"
  | .escapeAtEnd => "bad escape (end of pattern)"
  | .badEscape c => "bad escape \\" ++ String.ofList [c]
  | .incompleteEscape digits => "incomplete escape \\" ++ digits
  | .badHexEscape digits => "bad hex escape \\" ++ digits
  | .badRange => "bad character range"
  | .badReference => "invalid group reference"
  | .openGroup => "cannot refer to an open group"
  | .unknownGroup => "unknown group"
  | .unknownProperty => "unknown property"
  | .unknownCharacter => "undefined character name"
  | .globalFlagOff => "bad inline flags: cannot turn off global flag"
  | .noFlagsOff => "bad inline flags: no flags after '-'"
  | .flagOnAndOff => "bad inline flags: flag turned on and off"
  | .mixedVersions => "VERSION0 and VERSION1 flags are mutually incompatible"
  | .mixedEncodings => "ASCII, LOCALE and UNICODE flags are mutually incompatible"
  | .unfinished => "pattern not read to its end"

/-- Whether messages state where a cause was found. Flags that exclude each other are a fault of the
pattern as a whole. -/
def Cause.isPlaced : Cause → Bool
  | .mixedVersions => false
  | .mixedEncodings => false
  | _ => true

/-- A cause and the position, in characters from the start, at which it was found. -/
structure Fault where
  cause : Cause
  position : Nat
  deriving DecidableEq, Repr

/-- Where a position lies in a text of several lines: line and column, both from one. -/
def lineColumn (text : List Char) (position : Nat) : Nat × Nat :=
  let before := text.take position
  (Text.countChar '\n' before + 1, (before.reverse.takeWhile (· != '\n')).length + 1)

/-- The position of a fault, as messages state it. -/
def positionText (text : List Char) (position : Nat) : String :=
  let base := " at position " ++ toString position
  if text.contains '\n' then
    let (line, column) := lineColumn text position
    base ++ " (line " ++ toString line ++ ", column " ++ toString column ++ ")"
  else base

/-- The message of a fault in a given pattern. -/
def Fault.message (f : Fault) (pattern : String) : String :=
  if f.cause.isPlaced then f.cause.text ++ positionText pattern.toList f.position
  else f.cause.text

end LineMachine.Regex
