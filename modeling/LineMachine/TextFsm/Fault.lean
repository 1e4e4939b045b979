import LineMachine.TextFsm.Expression.Fault
import LineMachine.TextFsm.ValueName

/-!
# Faults of TextFSM templates

What can be wrong with the text of a TextFSM template, each with the line it was found in where
the message names one.
-/

namespace LineMachine.TextFsm

/-- What is wrong with a TextFSM template. -/
inductive Fault where
  /-- A Value line of fewer than three words. -/
  | fewWords (line : Nat)
  /-- An option that a Value line lists twice. -/
  | duplicateOption (name : String) (line : Nat)
  /-- An option that does not exist. -/
  | unknownOption (name : String) (line : Nat)
  /-- A Value name that is too long. -/
  | longName (name : String) (line : Nat)
  /-- A Value without an expression. -/
  | emptyExpression
  /-- A Value whose expression is no parenthesised group. -/
  | notEnclosed (expression : String) (line : Nat)
  /-- A Value whose expression is malformed. -/
  | badValue (expression : String) (fault : Expression.Fault) (line : Nat)
  /-- A repetition count that is too large to be read. -/
  | hugeCount
  /-- A Value name that cannot name a group. -/
  | badName (name : String) (fault : ValueName.NameFault)
  /-- A second Value of one name. -/
  | duplicateValue (name : String) (line : Nat)
  /-- Text in front of the first Value. -/
  | noValues
  /-- Text behind the last Value without a blank line between. -/
  | noBlankLine (line : Nat)
  /-- A line that should name a state and does not. -/
  | badStateName (name : String) (line : Nat)
  /-- A second state of one name. -/
  | duplicateState (name : String) (line : Nat)
  /-- A rule without its indented circumflex. -/
  | badRuleStart (line : Nat)
  /-- A placeholder that names no Value. -/
  | badPlaceholder (rule : String) (line : Nat)
  /-- A rule whose expression is malformed. -/
  | badExpression (expression : String) (line : Nat)
  /-- A rule whose action is malformed. -/
  | badRule (rule : String) (line : Nat)
  /-- A rule that goes on with the same line and yet names a new state. -/
  | continueElsewhere (state : String) (line : Nat)
  /-- A quoted text where a state name should stand. -/
  | quotedState (line : Nat)
  /-- No state to start in. -/
  | noStart
  /-- Rules in a state that has to be empty. -/
  | notEmpty (state : String)
  /-- A rule that leads to a state that does not exist. -/
  | unknownTarget (target state : String)
  deriving DecidableEq, Repr

namespace Fault

/-- The wording of a fault. -/
def message : Fault → String
  | .fewWords n => "Expect at least 3 tokens on line." ++ onLine n
  | .duplicateOption name n => "Duplicate option \"" ++ name ++ "\"" ++ onLine n
  | .unknownOption name n => "Unknown option \"" ++ name ++ "\"" ++ onLine n
  | .longName name n => "Invalid Value name '" ++ name ++ "' or name too long." ++ onLine n
  | .emptyExpression => "string index out of range"
  | .notEnclosed expression n =>
    "Value '" ++ expression ++ "' must be contained within a '()' pair." ++ onLine n
  | .badValue expression fault n => fault.message expression ++ onLine n
  | .hugeCount => Expression.Cause.repeatTooLarge.text
  | .badName name .badEscape => "bad escape in the name " ++ name
  | .badName name .unknownGroup => "unknown group in the name " ++ name
  | .duplicateValue name n =>
    "Duplicate declarations for Value '" ++ name ++ "'." ++ atLine n ++ "."
  | .noValues => "No Value definitions found."
  | .noBlankLine n => "Expected blank line after last Value entry." ++ atLine n ++ "."
  | .badStateName name n => "Invalid state name: '" ++ name ++ "'." ++ atLine n
  | .duplicateState name n => "Duplicate state name: '" ++ name ++ "'." ++ atLine n
  | .badRuleStart n => "Missing white space or carat ('^') before rule." ++ atLine n
  | .badPlaceholder rule n =>
    "Duplicate or invalid variable substitution: '" ++ rule ++ "'." ++ atLine n ++ "."
  | .badExpression expression n =>
    "Invalid regular expression: '" ++ expression ++ "'." ++ atLine n ++ "."
  | .badRule rule n => "Badly formatted rule '" ++ rule ++ "'." ++ atLine n ++ "."
  | .continueElsewhere state n =>
    "Action 'Continue' with new state " ++ state ++ " specified." ++ atLine n ++ "."
  | .quotedState n => "Alphanumeric characters only in state names." ++ atLine n ++ "."
  | .noStart => "Missing state 'Start'."
  | .notEmpty state => "Non-Empty '" ++ state ++ "' state."
  | .unknownTarget target state =>
    "State '" ++ target ++ "' not found, referenced in state '" ++ state ++ "'"
where
  /-- The line number behind a message that is about one Value. -/
  onLine (n : Nat) : String := " Line " ++ toString n ++ "."
  /-- The line number behind the other messages. -/
  atLine (n : Nat) : String := " Line: " ++ toString n

end Fault

end LineMachine.TextFsm
