import LineMachine.Text.Blank

/-!
# TextFSM templates

What a TextFSM template says: the Values that it fills, and its states with their rules. A rule
has an expression, may say what to do with the line and with the record, and may name the next
state.
-/

namespace LineMachine.TextFsm

/-- What is asked of a Value. -/
inductive ValueOption where
  | required
  | filldown
  | fillup
  | key
  | list
  deriving DecidableEq, Repr

namespace ValueOption

/-- The name of an option. -/
def name : ValueOption → String
  | .required => "Required"
  | .filldown => "Filldown"
  | .fillup => "Fillup"
  | .key => "Key"
  | .list => "List"

/-- Every option. -/
def all : List ValueOption := [.required, .filldown, .fillup, .key, .list]

/-- The option of a name. -/
def ofName? (s : String) : Option ValueOption :=
  all.find? fun o ↦ o.name == s

end ValueOption

/-- A declared Value. -/
structure ValueDecl where
  name : String
  options : List ValueOption
  /-- The expression, a group between parentheses. -/
  expression : String
  deriving DecidableEq, Repr

/-- Whether a Value keeps what it holds when a record is made. -/
def ValueDecl.isFilldown (v : ValueDecl) : Bool :=
  v.options.contains .filldown

/-- The expression as a group of the Value's name. -/
def ValueDecl.namedGroup (v : ValueDecl) : String :=
  "(?P<" ++ v.name ++ ">" ++ String.ofList (v.expression.toList.drop 1)

/-- What a rule does with the line. -/
inductive LineOperation where
  | continue
  | next
  | error
  deriving DecidableEq, Repr

namespace LineOperation

/-- The name of a line operation. -/
def name : LineOperation → String
  | .continue => "Continue"
  | .next => "Next"
  | .error => "Error"

/-- Every line operation. -/
def all : List LineOperation := [.continue, .next, .error]

/-- The line operation of a name. -/
def ofName? (s : String) : Option LineOperation :=
  all.find? fun o ↦ o.name == s

end LineOperation

/-- What a rule does with the record. -/
inductive RecordOperation where
  | clear
  | clearAll
  | record
  | noRecord
  deriving DecidableEq, Repr

namespace RecordOperation

/-- The name of a record operation. -/
def name : RecordOperation → String
  | .clear => "Clear"
  | .clearAll => "Clearall"
  | .record => "Record"
  | .noRecord => "NoRecord"

/-- Every record operation. -/
def all : List RecordOperation := [.clear, .clearAll, .record, .noRecord]

/-- The record operation of a name. -/
def ofName? (s : String) : Option RecordOperation :=
  all.find? fun o ↦ o.name == s

end RecordOperation

/-- What stands behind the arrow of a rule. -/
structure RuleAction where
  line : Option LineOperation := none
  record : Option RecordOperation := none
  target : Option String := none
  deriving DecidableEq, Repr

/-- A rule of a state. -/
structure RuleDecl where
  /-- The rule as it was written, without what is behind its arrow. -/
  source : String
  /-- The expression, with every placeholder replaced. -/
  expression : String
  action : RuleAction
  deriving DecidableEq, Repr

/-- A state with its rules. -/
structure StateDecl where
  name : String
  rules : List RuleDecl
  deriving DecidableEq, Repr

/-- A TextFSM template. -/
structure Document where
  values : List ValueDecl
  states : List StateDecl
  deriving DecidableEq, Repr

/-- The state that a run starts in. -/
def startState : String := "Start"

/-- The states that end a run. -/
def finalStates : List String := ["End", "EOF"]

end LineMachine.TextFsm
