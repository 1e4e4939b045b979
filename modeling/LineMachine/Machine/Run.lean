import LineMachine.Coercion
import LineMachine.Machine
import LineMachine.Regex.Matcher

/-!
# Running a machine

A run goes over lines one at a time. The rules of the current state are tried in order and the
first one whose pattern is found in the line is taken: what its named groups captured goes into
the variables, its actions are carried out, and its transition, if any, decides on the next state.
A line that no rule matches leaves the machine as it is.

`Config` is where a run stands, `step` is what one line does to it, and `run` is the left fold of
`step` over lines. A run that was ended by a transition, or that came to a state that does not
exist, stays as it is whatever lines follow; only an ended run counts them.
-/

namespace LineMachine.Machine

/-! ## Where a run stands -/

/-- Whether a run goes on. -/
inductive Status where
  /-- The next line will be looked at. -/
  | running
  /-- A transition has ended the run. -/
  | ended
  /-- A line was to be looked at in a state that does not exist. -/
  | lost
  deriving DecidableEq, Repr

/-- What happened to one line. -/
structure TraceEntry where
  lineNumber : Nat
  line : String
  /-- The state in which the line was looked at. -/
  state : Value
  /-- The index of the rule that was taken. -/
  matched : Option Nat
  deriving DecidableEq

/-- Where a run stands. -/
structure Config where
  status : Status := .running
  /-- The name of the current state. -/
  state : Value
  /-- The variables that are set. -/
  bindings : Table Value := []
  /-- The records made so far. -/
  records : List (Table Value) := []
  /-- The lines looked at so far, one entry each. -/
  trace : List TraceEntry := []
  /-- How many lines count as processed. -/
  lines : Nat := 0
  /-- How many lines were matched. -/
  matched : Nat := 0
  deriving DecidableEq

/-- Where a run starts. -/
def begin (m : Machine) : Config where
  state := m.start

/-! ## Variables -/

/-- A value as a variable of a given name takes it. -/
def coerce (m : Machine) (o : Options) (name : Key) (v : Value) : Except Fault Value :=
  if o.coerceTypes then Coercion.coerce v (m.type? name) else .ok v

/-- The named groups of a match. -/
abbrev Groups := List (String × Option String)

/-- What a group captured; null if it took no part in the match. -/
def captured (capture : Option String) : Value :=
  match capture with
  | some s => .str s
  | none => .null

/-- What the group of a given name captured; null if there is no such group. -/
def Groups.value (groups : Groups) (name : Value) : Except Fault Value := do
  match ← name.key with
  | .str s => pure (captured (groups.lookup s).join)
  | _ => pure .null

/-- The value that an operand stands for. -/
def operandValue (groups : Groups) (operand : Operand) : Except Fault Value :=
  match operand.group with
  | some group => groups.value group
  | none => .ok operand.literal

/-- The variable that a named group is stored in. -/
def targetName (rename : Option (Table Value)) (group : String) : Value :=
  match rename.bind fun names ↦ Table.find? names (.str group) with
  | some name => name.orElse (.str group)
  | none => .str group

/-- Gives a variable a value. -/
def assign (m : Machine) (o : Options) (name v : Value) (bindings : Table Value) :
    Except Fault (Table Value) := do
  let k ← name.key
  pure (Table.put bindings k (← m.coerce o k v))

/-- The items that appending a value adds: a list counts as its items where coercion made it or
could have made it, and any other value is one item. -/
def newItems (m : Machine) (o : Options) (name : Key) (v : Value) : List Value :=
  match v with
  | .list items =>
    if o.coerceTypes && m.type? name == some (.str "list") then items else [v]
  | v => [v]

/-- What a variable holds once items were appended to what it held. -/
def extended (held : Option Value) (items : List Value) : Value :=
  match held with
  | none => .list items
  | some (.list old) => .list (old ++ items)
  | some v => .list (v :: items)

/-- Appends a value to a variable. -/
def append (m : Machine) (o : Options) (name v : Value) (bindings : Table Value) :
    Except Fault (Table Value) := do
  let k ← name.key
  let items := m.newItems o k (← m.coerce o k v)
  pure (Table.put bindings k (extended (Table.find? bindings k) items))

/-- Removes a variable. Where no variable is set, any name will do. -/
def unset (name : Value) (bindings : Table Value) : Except Fault (Table Value) :=
  if bindings.isEmpty then .ok bindings
  else do pure (Table.remove bindings (← name.key))

/-! ## One line -/

/-- Stores what the named groups of a match captured. -/
def bind (m : Machine) (o : Options) (r : Rule) (groups : Groups) (bindings : Table Value) :
    Except Fault (Table Value) :=
  groups.foldlM (fun bindings group ↦
    m.assign o (targetName r.rename group.1) (captured group.2) bindings) bindings

/-- Carries out one action. -/
def act (m : Machine) (o : Options) (groups : Groups) (c : Config) :
    Action → Except Fault Config
  | .emit => .ok { c with
      records := c.records ++ [c.bindings]
      bindings := if o.resetOnEmit then [] else c.bindings }
  | .set name operand => do
    let v ← operandValue groups operand
    pure { c with bindings := ← m.assign o name v c.bindings }
  | .clear name => do pure { c with bindings := ← unset name c.bindings }
  | .append name operand => do
    let v ← operandValue groups operand
    pure { c with bindings := ← m.append o name v c.bindings }

/-- Goes where a transition leads. -/
def follow (c : Config) : Option Transition → Config
  | none => c
  | some t =>
    if t.condition != .str "match" && t.condition != .str "always" then c
    else if t.target = .str selfTarget then c
    else if t.target = .str endTarget then { c with status := .ended }
    else { c with state := t.target }

/-- The first rule of a state that matches a line, with the named groups of the match. -/
def State.firstMatch? (s : State) (line : String) : Option (Rule × Groups) :=
  s.rules.findSome? fun r ↦ (r.pattern.captures? line).map (r, ·)

/-- Takes a rule whose pattern was found in the line. -/
def take (m : Machine) (o : Options) (c : Config) (r : Rule) (groups : Groups) :
    Except Fault Config := do
  let bindings ← m.bind o r groups c.bindings
  r.actions.foldlM (m.act o groups) { c with bindings := bindings }

/-- Notes what happened to a line. -/
def Config.note (c : Config) (line : String) (state : Value) (matched : Option Nat) : Config :=
  { c with trace := c.trace ++ [⟨c.lines, line, state, matched⟩] }

/-- Looks at the next line. -/
def look (m : Machine) (o : Options) (c : Config) (line : String) : Except Fault Config := do
  let c := { c with lines := c.lines + 1 }
  match ← m.state? c.state with
  | none => pure { c.note line c.state none with status := .lost }
  | some s =>
    match s.firstMatch? line with
    | none => pure (c.note line s.name none)
    | some (r, groups) =>
      let c ← m.take o { c with matched := c.matched + 1 } r groups
      pure (follow (c.note line s.name (some r.index)) r.transition)

/-- What one line does to a run. -/
def step (m : Machine) (o : Options) (c : Config) (line : String) : Except Fault Config :=
  match c.status with
  | .running => m.look o c line
  | .ended => .ok { c with lines := c.lines + 1 }
  | .lost => .ok c

/-! ## Many lines -/

/-- Goes on with a run over more lines. -/
def resume (m : Machine) (o : Options) (c : Config) (lines : List String) :
    Except Fault Config :=
  lines.foldlM (m.step o) c

/-- Runs a machine over lines. -/
def run (m : Machine) (o : Options) (lines : List String) : Except Fault Config :=
  m.resume o m.begin lines

theorem resume_cons (m : Machine) (o : Options) (c : Config) (line : String)
    (lines : List String) :
    m.resume o c (line :: lines) = m.step o c line >>= fun d ↦ m.resume o d lines := rfl

/-- Running over two lots of lines is running over the first and going on over the second. -/
theorem resume_append (m : Machine) (o : Options) (c : Config) (first second : List String) :
    m.resume o c (first ++ second) = m.resume o c first >>= fun d ↦ m.resume o d second := by
  simp [resume, List.foldlM_append]

end LineMachine.Machine
