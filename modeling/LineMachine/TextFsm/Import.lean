import LineMachine.Event
import LineMachine.Fault
import LineMachine.Template
import LineMachine.TextFsm.Reader

/-!
# Templates from TextFSM

A TextFSM template as a template of this library. Values become variables, states become states in
the order of their declaration, and rules become rules that search for their expressions. Making
a record clears the Values that are not filled down. A rule that leads to a final state ends the
run.

Some of TextFSM has no counterpart: most options of Values, and going on with the same line. What
is lost that way is reported by events.
-/

namespace LineMachine.TextFsm

/-- How an imported template is labelled. -/
structure Heading where
  id : Value
  name : Value := .null
  vendor : Value := .str "generic"
  command : Value := .null
  deriving DecidableEq

/-- Options of Values that have no counterpart. -/
def ValueOption.isUnsupported : ValueOption → Bool
  | .filldown => false
  | _ => true

namespace Document

/-- The names of the Values. -/
def valueNames (d : Document) : List String :=
  d.values.map (·.name)

/-- The names of the Values that are filled down, and of those that are not. -/
def filldown (d : Document) : List String × List String :=
  let (filled, regular) := d.values.partition (·.isFilldown)
  (filled.map (·.name), regular.map (·.name))

/-! ## Rules -/

/-- Clears the variables of some names. -/
def clearAll (names : List String) : List Action :=
  names.map fun name ↦ .clear (.str name)

/-- The actions of a record operation. -/
def recordActions (d : Document) : Option RecordOperation → List Action
  | some .record => .emit :: clearAll d.filldown.2
  | some .clear => clearAll d.filldown.2
  | some .clearAll => clearAll d.valueNames
  | some .noRecord => []
  | none => []

/-- Where a rule leads. -/
def transitionTo (target : String) : Transition :=
  ⟨.str (if finalStates.contains target then endTarget else target), .str "match"⟩

/-- A rule as a rule of this library. -/
def importRule (d : Document) (r : RuleDecl) : Rule where
  pattern := .str r.expression
  flags := none
  rename := none
  actions := d.recordActions r.action.record
  transition := r.action.target.map transitionTo

/-! ## Templates -/

/-- The states that have a counterpart: those with rules that are not final. -/
def importedStates (d : Document) : List StateDecl :=
  d.states.filter fun s ↦ !finalStates.contains s.name && !s.rules.isEmpty

/-- A declared variable for a Value. -/
def importValue (name : String) : Variable :=
  ⟨.str name, .str "string", .null, .str ""⟩

/-- A TextFSM template as a template of this library. -/
def toTemplate (d : Document) (h : Heading) : Template where
  id := h.id
  name := h.name.orElse h.id
  states := d.importedStates.map fun s ↦ ⟨.str s.name, s.rules.map d.importRule⟩
  vendor := h.vendor
  deviceOs := .null
  command := h.command
  description := .str ""
  declared := d.valueNames.map importValue
  metadata := [
    (.str "source", .str "textfsm"),
    (.str "filldown", .list (d.filldown.1.map .str))]

/-! ## Events -/

/-- The event about a Value whose options have no counterpart. -/
def valueEvent? (id : Value) (v : ValueDecl) : Option Event :=
  let lost := v.options.filter (·.isUnsupported)
  if lost.isEmpty then none else some (.unsupportedOptions id v.name (lost.map (·.name)))

/-- The event about a rule that goes on with the same line. -/
def ruleEvent? (id : Value) (state : String) (r : RuleDecl) : Option Event :=
  if r.action.line = some .continue then
    some (.unsupportedOperation id state r.source LineOperation.continue.name)
  else none

/-- The events about what has no counterpart. -/
def importEvents (d : Document) (id : Value) : List Event :=
  d.values.filterMap (valueEvent? id) ++
    (d.states.filter fun s ↦ !finalStates.contains s.name).flatMap fun s ↦
      s.rules.filterMap (ruleEvent? id s.name)

end Document

/-- Reads a TextFSM template; a fault is one of templates. -/
def readDocument (s : String) : Except LineMachine.Fault Document :=
  (Document.read s).mapError .textFsm

end LineMachine.TextFsm
