import LineMachine.Value

/-!
# Templates

A template describes how to take records out of text, line by line. It has states; a state has
rules, tried in order on each line; a rule has a pattern, actions on the variables, and possibly a
transition to another state. The first state is where a run starts.

Documents leave many fields open, so such a field holds a `Value`; what the library itself
interprets is typed.
-/

namespace LineMachine

/-! ## Actions -/

/-- Where an action takes its value from: a capture group if one is named, and otherwise a literal
value. -/
structure Operand where
  /-- The name of the capture group. -/
  group : Option Value
  /-- The literal value. -/
  literal : Value
  deriving DecidableEq

/-- What a rule does with the variables. -/
inductive Action where
  /-- Records the variables as they are. -/
  | emit
  /-- Gives a variable a value. -/
  | set (name : Value) (operand : Operand)
  /-- Removes a variable. -/
  | clear (name : Value)
  /-- Adds a value at the end of a list variable. -/
  | append (name : Value) (operand : Operand)
  deriving DecidableEq

/-! ## States -/

/-- Where a run goes on after a match. -/
structure Transition where
  /-- The name of the next state, or one of the two reserved targets. -/
  target : Value
  /-- When the transition is taken. -/
  condition : Value
  deriving DecidableEq

/-- The target that stays in the state. -/
def selfTarget : String := "self"

/-- The target that ends the run. -/
def endTarget : String := "end"

/-- One pattern of a state, with what its match brings about. -/
structure Rule where
  /-- The text of the pattern. -/
  pattern : Value
  /-- The letters of the flags it is read with. -/
  flags : Option Value
  /-- The variables that capture groups are stored in, where they differ from the groups. -/
  rename : Option (Table Value)
  actions : List Action
  transition : Option Transition
  deriving DecidableEq

/-- A state: its rules are tried in order. -/
structure State where
  name : Value
  rules : List Rule
  deriving DecidableEq

/-! ## Templates -/

/-- A declared variable. -/
structure Variable where
  name : Value
  type : Value
  validation : Value
  description : Value
  deriving DecidableEq

/-- A template. -/
structure Template where
  id : Value
  name : Value
  states : List State
  vendor : Value
  deviceOs : Value
  command : Value
  description : Value
  declared : List Variable
  metadata : Table Value
  deriving DecidableEq

/-- Options of a run. -/
structure Options where
  /-- Keep an account of every line. -/
  debug : Bool := false
  /-- Clear the variables after every record. -/
  resetOnEmit : Bool := false
  /-- Turn texts into the declared types of their variables. -/
  coerceTypes : Bool := false
  deriving DecidableEq, Repr

end LineMachine
