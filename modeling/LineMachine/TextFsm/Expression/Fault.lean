import LineMachine.Regex.Fault
import LineMachine.Text.Quoted

/-!
# Faults of TextFSM expressions

The expressions in a TextFSM template are written in a stricter dialect than line patterns, with
messages of its own: a cause, and in most cases the position of what it is about.
-/

namespace LineMachine.TextFsm.Expression

/-- What is wrong with an expression. -/
inductive Cause where
  | escapeAtEnd
  | badEscape (text : String)
  | incompleteEscape (text : String)
  | octalTooLarge (text : String)
  | unknownCharacter (name : String)
  | missing (what : String)
  | unterminatedSet
  | badRange (first last : String)
  | nothingToRepeat
  | multipleRepeat
  | repeatOrder
  | repeatTooLarge
  | unterminatedGroup
  | unterminatedComment
  | unbalanced
  | unexpectedEnd
  | unknownExtension (text : String)
  | badGroupName (name : String)
  | redefinedGroup (name : String) (number previous : Nat)
  | unknownGroup (name : String)
  | badGroupNumber
  | badReference (number : Nat)
  | openGroup
  | sameLookbehind
  | manyBranches
  | lateFlags
  | unknownFlag
  | localeFlag
  | mixedFlags
  | flagNotForGroup
  | flagNotOff
  | flagNeverOff
  | flagOnAndOff
  | variableLookbehind
  | unfinished
  deriving DecidableEq, Repr

/-- The wording of a cause. -/
def Cause.text : Cause → String
  | .escapeAtEnd => "bad escape (end of pattern)"
  | .badEscape text => "bad escape " ++ text
  | .incompleteEscape text => "incomplete escape " ++ text
  | .octalTooLarge text => "octal escape value " ++ text ++ " outside of range 0-0o377"
  | .unknownCharacter name => "undefined character name " ++ Text.quoted name
  | .missing what => "missing " ++ what
  | .unterminatedSet => "unterminated character set"
  | .badRange first last => "bad character range " ++ first ++ "-" ++ last
  | .nothingToRepeat => "nothing to repeat"
  | .multipleRepeat => "multiple repeat"
  | .repeatOrder => "min repeat greater than max repeat"
  | .repeatTooLarge => "the repetition number is too large"
  | .unterminatedGroup => "missing ), unterminated subpattern"
  | .unterminatedComment => "missing ), unterminated comment"
  | .unbalanced => "unbalanced parenthesis"
  | .unexpectedEnd => "unexpected end of pattern"
  | .unknownExtension text => "unknown extension ?" ++ text
  | .badGroupName name => "bad character in group name " ++ Text.quoted name
  | .redefinedGroup name number previous =>
    "redefinition of group name " ++ Text.quoted name ++ " as group " ++ toString number ++
      "; was group " ++ toString previous
  | .unknownGroup name => "unknown group name " ++ Text.quoted name
  | .badGroupNumber => "bad group number"
  | .badReference number => "invalid group reference " ++ toString number
  | .openGroup => "cannot refer to an open group"
  | .sameLookbehind => "cannot refer to group defined in the same lookbehind subpattern"
  | .manyBranches => "conditional backref with more than two branches"
  | .lateFlags => "global flags not at the start of the expression"
  | .unknownFlag => "unknown flag"
  | .localeFlag => "bad inline flags: cannot use 'L' flag with a str pattern"
  | .mixedFlags => "bad inline flags: flags 'a', 'u' and 'L' are incompatible"
  | .flagNotForGroup => "bad inline flags: cannot turn on global flag"
  | .flagNotOff => "bad inline flags: cannot turn off global flag"
  | .flagNeverOff => "bad inline flags: cannot turn off flags 'a', 'u' and 'L'"
  | .flagOnAndOff => "bad inline flags: flag turned on and off"
  | .variableLookbehind => "look-behind requires fixed-width pattern"
  | .unfinished => "expression not read to its end"

/-- A cause, and the position that its message names. -/
structure Fault where
  cause : Cause
  position : Option Nat
  deriving DecidableEq, Repr

/-- The message of a fault in a given expression. -/
def Fault.message (f : Fault) (expression : String) : String :=
  match f.position with
  | some position => f.cause.text ++ Regex.positionText expression.toList position
  | none => f.cause.text

end LineMachine.TextFsm.Expression
