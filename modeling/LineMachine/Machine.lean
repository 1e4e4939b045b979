import LineMachine.Event
import LineMachine.Template
import LineMachine.Template.Pattern

/-!
# Machines

A machine is a template made ready to run: its patterns are read, its states are found by their
names, and so are the declared types of its variables. Of several states of one name the last one
counts, in the place of the first; the same holds of variables.

`Machine.ofTemplate` reports the first pattern that cannot be read. Targets of transitions are
not looked at.
-/

namespace LineMachine

namespace Machine

/-- A rule with its pattern read. -/
structure Rule where
  /-- The place of the rule in its state, from zero. -/
  index : Nat
  pattern : Regex.Pattern
  rename : Option (Table Value)
  actions : List Action
  transition : Option Transition
  deriving DecidableEq

/-- A state with its patterns read. -/
structure State where
  name : Value
  rules : List Rule
  deriving DecidableEq

end Machine

/-- A template made ready to run. -/
structure Machine where
  template : Template
  states : Table Machine.State
  /-- The name of the state in which a run starts. -/
  start : Value
  /-- The declared types of the variables. -/
  types : Table Value
  deriving DecidableEq

namespace Machine

/-! ## Building -/

/-- Reads the pattern of one rule of a state. -/
def Rule.ofTemplate (state : Value) (index : Nat) (r : LineMachine.Rule) :
    Except Fault Rule :=
  match Regex.Pattern.ofValues r.pattern (r.flags.getD .null) with
  | .ok pattern => .ok ⟨index, pattern, r.rename, r.actions, r.transition⟩
  | .error fault => .error (.invalidPattern state index fault)

/-- Reads the patterns of the rules of a state, whose indices start at `index`. -/
def Rule.ofTemplates (state : Value) (index : Nat) :
    List LineMachine.Rule → Except Fault (List Rule)
  | [] => .ok []
  | r :: rest => do
    let rule ← Rule.ofTemplate state index r
    let rules ← Rule.ofTemplates state (index + 1) rest
    pure (rule :: rules)

/-- Reads the patterns of a state. -/
def State.ofTemplate (s : LineMachine.State) : Except Fault State := do
  pure ⟨s.name, ← Rule.ofTemplates s.name 0 s.rules⟩

/-- A state under its name. -/
def stateEntry (s : LineMachine.State) : Except Fault (Key × State) := do
  let state ← State.ofTemplate s
  pure (← s.name.key, state)

/-- The type of a variable under its name. -/
def typeEntry (v : Variable) : Except Fault (Key × Value) := do
  pure (← v.name.key, v.type)

/-- Makes a template ready to run. -/
def ofTemplate (t : Template) : Except Fault Machine := do
  let states ← t.states.mapM stateEntry
  let types ← t.declared.mapM typeEntry
  match t.states with
  | [] => throw .noStates
  | first :: _ =>
    pure { template := t
           states := Table.ofList states
           start := first.name
           types := Table.ofList types }

/-! ## Looking at a machine -/

/-- How many patterns the states have together. -/
def patternCount (m : Machine) : Nat :=
  (m.states.flatMap fun e ↦ e.2.rules).length

/-- What is reported when a machine was built. -/
def builtEvent (m : Machine) : Event :=
  .templateCompiled m.template.id m.states.length m.patternCount

/-- The state of a name. -/
def state? (m : Machine) (name : Value) : Except Fault (Option State) := do
  pure (Table.find? m.states (← name.key))

/-- The declared type of a variable. -/
def type? (m : Machine) (name : Key) : Option Value :=
  Table.find? m.types name

end Machine

end LineMachine
