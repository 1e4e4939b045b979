import LineMachine.Fault
import LineMachine.Template

/-!
# Template documents

Reading a template from a document and writing it back. Reading is lenient: a field that is absent
or not truthy has its default, and fields it does not know are ignored. It refuses a part that
lacks a required field or is no object, and an action of an unknown type. Writing leaves out what
has its default, except in actions and transitions.
-/

namespace LineMachine

/-- An object with the given fields. -/
def Value.ofFields (fields : List (String × Value)) : Value :=
  .object (fields.map fun e ↦ (.str e.1, e.2))

/-- A field that is written only if it is truthy. -/
def optionalField (name : String) (v : Value) : List (String × Value) :=
  if v.truthy then [(name, v)] else []

/-! ## Actions -/

namespace Action

/-- The operand of an action document. -/
def readOperand (fields : Table Value) : Operand where
  group := (Value.field fields "fromGroup").given?
  literal := Value.field fields "value"

/-- Reads an action. -/
def read (doc : Value) : Except Fault Action := do
  let type ← doc.require "type" "Action"
  let _ ← type.key
  match type, doc with
  | .str "emit", _ => pure .emit
  | .str "set", .object fields =>
    pure (.set (← doc.require "variable" "Action 'set'") (readOperand fields))
  | .str "clear", _ => pure (.clear (← doc.require "variable" "Action 'clear'"))
  | .str "append", .object fields =>
    pure (.append (← doc.require "variable" "Action 'append'") (readOperand fields))
  | type, _ => throw (.unknownAction type)

/-- The fields of an operand. -/
def operandFields (operand : Operand) : List (String × Value) :=
  (match operand.group with
    | some group => [("fromGroup", group)]
    | none => []) ++
  (if operand.literal = .null then [] else [("value", operand.literal)])

/-- Writes an action. -/
def write : Action → Value
  | .emit => Value.ofFields [("type", .str "emit")]
  | .set name operand =>
    Value.ofFields ([("type", .str "set"), ("variable", name)] ++ operandFields operand)
  | .clear name => Value.ofFields [("type", .str "clear"), ("variable", name)]
  | .append name operand =>
    Value.ofFields ([("type", .str "append"), ("variable", name)] ++ operandFields operand)

end Action

/-! ## States -/

/-- Reads a transition. -/
def Transition.read (doc : Value) : Except Fault Transition := do
  let target ← doc.require "to" "Transition"
  pure ⟨target, (← doc.get "when").orElse (.str "match")⟩

/-- Writes a transition. -/
def Transition.write (t : Transition) : Value :=
  Value.ofFields [("to", t.target), ("when", t.condition)]

/-- Reads a rule. -/
def Rule.read (doc : Value) : Except Fault Rule := do
  let transition ← doc.get "transition"
  let pattern ← doc.require "regex" "Pattern"
  let flags ← doc.get "flags"
  let rename ← match (← doc.get "map").given? with
    | some names => some <$> names.table
    | none => pure none
  let actions ← (← (← doc.get "actions").elementsOrNone).mapM Action.read
  let transition ← match transition.given? with
    | some found => some <$> Transition.read found
    | none => pure none
  pure ⟨pattern, flags.given?, rename, actions, transition⟩

/-- Writes a rule. -/
def Rule.write (r : Rule) : Value :=
  Value.ofFields ([("regex", r.pattern)] ++
    (match r.flags with
      | some flags => [("flags", flags)]
      | none => []) ++
    (match r.rename with
      | some names => optionalField "map" (.object names)
      | none => []) ++
    [("actions", .list (r.actions.map Action.write))] ++
    (match r.transition with
      | some transition => [("transition", transition.write)]
      | none => []))

/-- Reads a state. -/
def State.read (doc : Value) : Except Fault State := do
  let name ← doc.require "name" "State"
  let rules ← (← (← doc.get "patterns").elementsOrNone).mapM Rule.read
  pure ⟨name, rules⟩

/-- Writes a state. -/
def State.write (s : State) : Value :=
  Value.ofFields [("name", s.name), ("patterns", .list (s.rules.map Rule.write))]

/-! ## Templates -/

/-- Reads a declared variable. -/
def Variable.read (doc : Value) : Except Fault Variable := do
  let name ← doc.require "name" "Variable"
  let type ← doc.get "type"
  let validation ← doc.get "validation"
  let description ← doc.get "description"
  pure ⟨name, type.orElse (.str "string"), validation, description.orElse (.str "")⟩

/-- Writes a declared variable. -/
def Variable.write (v : Variable) : Value :=
  Value.ofFields ([("name", v.name), ("type", v.type)] ++
    optionalField "validation" v.validation ++ optionalField "description" v.description)

namespace Template

/-- Reads a template. -/
def read (doc : Value) : Except Fault Template := do
  let id ← doc.require "id" "Template"
  let name ← doc.get "name"
  let states ← (← (← doc.get "states").elementsOrNone).mapM State.read
  let vendor ← doc.get "vendor"
  let deviceOs ← doc.get "deviceOs"
  let command ← doc.get "command"
  let description ← doc.get "description"
  let declared ← (← (← doc.get "variables").elementsOrNone).mapM Variable.read
  let metadata ← ((← doc.get "metadata").orElse (.object [])).table
  pure {
    id := id
    name := name.orElse (.str "")
    states := states
    vendor := vendor.orElse (.str "generic")
    deviceOs := deviceOs
    command := command
    description := description.orElse (.str "")
    declared := declared
    metadata := metadata }

/-- Writes a template. -/
def write (t : Template) : Value :=
  Value.ofFields ([("id", t.id), ("name", t.name), ("vendor", t.vendor)] ++
    optionalField "deviceOs" t.deviceOs ++ optionalField "command" t.command ++
    optionalField "description" t.description ++
    (if t.declared.isEmpty then []
      else [("variables", .list (t.declared.map Variable.write))]) ++
    [("states", .list (t.states.map State.write))] ++
    optionalField "metadata" (.object t.metadata))

end Template

/-! ## Options -/

namespace Options

/-- An option under one of two names, the first one first. -/
def readFlag (fields : Table Value) (name other : String) : Bool :=
  match Table.find? fields (.str name) with
  | some v => v.truthy
  | none => (Value.field fields other).truthy

/-- Reads options. -/
def read (doc : Value) : Except Fault Options :=
  if doc.truthy then
    match doc with
    | .object fields => .ok {
        debug := (Value.field fields "debug").truthy
        resetOnEmit := readFlag fields "resetOnEmit" "reset_on_emit"
        coerceTypes := readFlag fields "coerceTypes" "coerce_types" }
    | doc => .error (.notObject doc.kindName)
  else .ok {}

end Options

end LineMachine
