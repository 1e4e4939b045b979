import LineMachine.Template.Document
import LineMachine.Template.Pattern

/-!
# Validation of template documents

`validate` looks at a template document as an author has written it and lists every problem it
finds, in document order: the fields of the template, its variables, the names of its states, and
then each state with its patterns. A document without a problem is valid.

A part of a wrong kind is a problem wherever the check can go on without it. Where a part would
have to be gone through or used as a key and cannot be, validation stops with a fault.
-/

namespace LineMachine

/-- A problem of a template document. -/
inductive Problem where
  | notObject
  | missingId
  | missingName
  | missingVendor
  | noStates
  | unnamedVariable
  | unknownType (name type : Value)
  | duplicateState (name : Value)
  | stateNotObject
  | unnamedState
  | noPatterns (state : Value)
  | patternNotObject (state : Value) (index : Nat)
  | noRegex (state : Value) (index : Nat)
  | badRegex (state : Value) (fault : PatternFault)
  | unknownAction (state type : Value)
  | noVariable (state type : Value)
  | noTarget (state : Value)
  | unknownTarget (state target : Value)
  deriving DecidableEq

namespace Problem

/-- The wording of a problem. -/
def message : Problem → String
  | .notObject => "Template must be an object"
  | .missingId => "Missing template id"
  | .missingName => "Missing template name"
  | .missingVendor => "Missing vendor"
  | .noStates => "Template must define at least one state"
  | .unnamedVariable => "Variable without a name"
  | .unknownType name type => "Variable " ++ name.text ++ " has unknown type " ++ type.text
  | .duplicateState name => "Duplicate state name " ++ name.text
  | .stateNotObject => "State must be an object"
  | .unnamedState => "State without a name"
  | .noPatterns state => "State " ++ state.text ++ " has no patterns"
  | .patternNotObject state index =>
    "Pattern " ++ toString index ++ " in state " ++ state.text ++ " is not an object"
  | .noRegex state index =>
    "Pattern " ++ toString index ++ " in state " ++ state.text ++ " has no regex"
  | .badRegex state fault => "Invalid regex in state " ++ state.text ++ ": " ++ fault.message
  | .unknownAction state type =>
    "Unknown action type " ++ type.display ++ " in state " ++ state.text
  | .noVariable state type =>
    "Action '" ++ type.text ++ "' in state " ++ state.text ++ " has no variable"
  | .noTarget state => "Transition in state " ++ state.text ++ " has no target"
  | .unknownTarget state target =>
    "Transition from " ++ state.text ++ " to unknown state " ++ target.text

end Problem

namespace Validation

/-- The types that a variable can be declared with. -/
def variableTypes : List Value :=
  ["string", "number", "ip", "mac", "vlan", "list", "boolean"].map .str

/-- The types of actions. -/
def actionTypes : List Value :=
  ["emit", "set", "clear", "append"].map .str

/-- A field of an object; null of anything else. -/
def fieldOrNull (v : Value) (name : String) : Value :=
  match v with
  | .object fields => Value.field fields name
  | _ => .null

/-- Whether a value is an object. -/
def isObject : Value → Bool
  | .object _ => true
  | _ => false

/-- A problem, if a condition holds. -/
def problemIf (condition : Bool) (problem : Problem) : List Problem :=
  if condition then [problem] else []

/-- The problems of all of several parts. -/
def collect {α : Type} (check : α → Except Fault (List Problem)) (parts : List α) :
    Except Fault (List Problem) := do
  pure (← parts.mapM check).flatten

/-! ## Parts of a template -/

/-- The problems of a declared variable. -/
def checkVariable (v : Value) : List Problem :=
  let name := fieldOrNull v "name"
  let type := fieldOrNull v "type"
  if !name.truthy then [.unnamedVariable]
  else problemIf (type.truthy && !variableTypes.contains type) (.unknownType name type)

/-- The problems of an action. -/
def checkAction (state action : Value) : List Problem :=
  let type := fieldOrNull action "type"
  if !actionTypes.contains type then [.unknownAction state type]
  else problemIf (type != .str "emit" && !(fieldOrNull action "variable").truthy)
    (.noVariable state type)

/-- The problems of a transition, given the names of the states. -/
def checkTransition (names : List Key) (state transition : Value) :
    Except Fault (List Problem) := do
  let target := fieldOrNull transition "to"
  if !transition.truthy then pure []
  else if !target.truthy then pure [.noTarget state]
  else if target = .str selfTarget ∨ target = .str endTarget then pure []
  else
    let k ← target.key
    pure (problemIf (!names.any k.same) (.unknownTarget state target))

/-- The problems of the text and the flags of a pattern. -/
def checkRegex (state : Value) (index : Nat) (source flags : Value) :
    Except Fault (List Problem) :=
  match source with
  | .str text =>
    if text.isEmpty then .ok [.noRegex state index]
    else
      match Regex.Pattern.ofValues source flags with
      | .ok _ => .ok []
      | .error fault =>
        if fault.isReported then .ok [.badRegex state fault] else .error (.pattern fault)
  | _ => .ok [.noRegex state index]

/-- The problems of a pattern of a state. -/
def checkPattern (names : List Key) (state : Value) (index : Nat) (pattern : Value) :
    Except Fault (List Problem) := do
  if !isObject pattern then pure [.patternNotObject state index]
  else
    let ofRegex ←
      checkRegex state index (fieldOrNull pattern "regex") (fieldOrNull pattern "flags")
    let actions ← (fieldOrNull pattern "actions").elementsOrNone
    let ofTransition ← checkTransition names state (fieldOrNull pattern "transition")
    pure (ofRegex ++ actions.flatMap (checkAction state) ++ ofTransition)

/-- The problems of a state, given the names of all states. -/
def checkState (names : List Key) (state : Value) : Except Fault (List Problem) := do
  if !isObject state then pure [.stateNotObject]
  else
    let name := fieldOrNull state "name"
    let patterns := fieldOrNull state "patterns"
    let unnamed := problemIf (!name.truthy) .unnamedState
    if !patterns.truthy then pure (unnamed ++ [.noPatterns name])
    else
      let indexed := (← patterns.elements).zipIdx
      pure (unnamed ++ (← collect (fun e ↦ checkPattern names name e.2 e.1) indexed))

/-- Takes the name of one more state to the names found so far, and to the problems. -/
def nameState (found : List Key × List Problem) (state : Value) :
    Except Fault (List Key × List Problem) := do
  let name := fieldOrNull state "name"
  let k ← name.key
  let problems := found.2 ++ problemIf (found.1.any k.same) (.duplicateState name)
  pure (if name.truthy then found.1 ++ [k] else found.1, problems)

/-! ## Templates -/

/-- Whether a document lacks a field or has it without content. -/
def lacks (doc : Value) (name : String) : Bool :=
  !(fieldOrNull doc name).truthy

/-- The problems of a template document. -/
def validate (doc : Value) : Except Fault (List Problem) := do
  if !isObject doc then pure [.notObject]
  else
    let ofFields := problemIf (lacks doc "id") .missingId ++
      problemIf (lacks doc "name") .missingName ++
      problemIf (lacks doc "vendor") .missingVendor ++
      problemIf (lacks doc "states") .noStates
    let declared ← (fieldOrNull doc "variables").elementsOrNone
    let states ← (fieldOrNull doc "states").elementsOrNone
    let (names, ofNames) ← states.foldlM nameState ([], [])
    let ofStates ← collect (checkState names) states
    pure (ofFields ++ declared.flatMap checkVariable ++ ofNames ++ ofStates)

/-- Whether a document is valid. -/
def isValid (doc : Value) : Except Fault Bool := do
  pure (← validate doc).isEmpty

/-- The outcome of validation as a document. -/
def write (problems : List Problem) : Value :=
  if problems.isEmpty then Value.ofFields [("valid", .bool true)]
  else Value.ofFields [("valid", .bool false),
    ("errors", .list (problems.map fun p ↦ .str p.message))]

end Validation

namespace Template

/-- The problems of a template, those of its document. -/
def validate (t : Template) : Except Fault (List Problem) :=
  Validation.validate t.write

end Template

end LineMachine
