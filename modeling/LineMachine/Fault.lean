import LineMachine.Value.Text
import LineMachine.Regex.Fault
import LineMachine.TextFsm.Fault

/-!
# Faults

Everything that can stop an operation on templates. A fault is a cause; its wording is
`Fault.message`. Template faults are those that describe a defect of a template; the others arise
when a part of a document has a kind that cannot be used the way it is used.
-/

namespace LineMachine

/-- Why the pattern of a rule does not compile. -/
inductive PatternFault where
  /-- The text of the pattern is malformed. -/
  | malformed (source : String) (fault : Regex.Fault)
  /-- A flag that does not exist. -/
  | unknownFlag (flag : Value)
  /-- Flags that cannot be gone through. -/
  | flagsNotIterable (kind : String)
  /-- A flag that is a list or an object. -/
  | flagNotScalar (kind : String)
  /-- A pattern that is no text. -/
  | notText
  /-- A pattern that is a list or an object. -/
  | notScalar (kind : String)
  deriving DecidableEq

namespace PatternFault

/-- The wording of a pattern fault. -/
def message : PatternFault → String
  | .malformed source fault => fault.message source
  | .unknownFlag flag => "Unsupported regex flag '" ++ flag.text ++ "'"
  | .flagsNotIterable kind => "'" ++ kind ++ "' object is not iterable"
  | .flagNotScalar kind => "unhashable type: '" ++ kind ++ "'"
  | .notText => "first argument must be a string or compiled pattern"
  | .notScalar kind => "unhashable type: '" ++ kind ++ "'"

/-- Whether the fault lies in the text of the pattern or in the letters of its flags, rather than
in the kind of either. -/
def isReported : PatternFault → Bool
  | .malformed _ _ => true
  | .unknownFlag _ => true
  | _ => false

end PatternFault

/-- Why an operation stopped. -/
inductive Fault where
  /-- A part of a template lacks a field. -/
  | missingField (part name : String)
  /-- A part of a template is no object. -/
  | notMapping (part kind : String)
  /-- An action of a type that does not exist. -/
  | unknownAction (type : Value)
  /-- A TextFSM template that cannot be read. -/
  | textFsm (fault : TextFsm.Fault)
  /-- A pattern that does not compile. -/
  | invalidPattern (state : Value) (index : Nat) (fault : PatternFault)
  /-- A pattern fault that no state reports. -/
  | pattern (fault : PatternFault)
  /-- A template without a state to start in. -/
  | noStates
  /-- A field is asked of something that is no object. -/
  | notObject (kind : String)
  /-- Something that cannot be gone through is gone through. -/
  | notIterable (kind : String)
  /-- A list or an object is used as a key. -/
  | notScalar (kind : String)
  /-- Something else than text is to be cut into lines. -/
  | notText (kind : String)
  /-- Something else than text is to be compared as a phrase. -/
  | notPhrase (kind : String)
  /-- A table is made from parts that are no pairs. -/
  | notPairs
  /-- An integer numeral has too many digits. -/
  | longNumeral
  deriving DecidableEq

namespace Fault

/-- The wording of a fault. -/
def message : Fault → String
  | .missingField part name => part ++ " is missing required field '" ++ name ++ "'"
  | .notMapping part kind => part ++ " must be a mapping, got " ++ kind
  | .unknownAction type => "Unknown action type: " ++ type.display
  | .textFsm fault => "Invalid TextFSM template: " ++ fault.message
  | .invalidPattern state index fault =>
    "Invalid regex in state " ++ state.text ++ " (pattern " ++ toString index ++ "): " ++
      fault.message
  | .pattern fault => fault.message
  | .noStates => "list index out of range"
  | .notObject kind => "'" ++ kind ++ "' object has no fields"
  | .notIterable kind => "'" ++ kind ++ "' object is not iterable"
  | .notScalar kind => "unhashable type: '" ++ kind ++ "'"
  | .notText kind => "expected text, got " ++ kind
  | .notPhrase kind => "expected a phrase, got " ++ kind
  | .notPairs => "a mapping needs pairs"
  | .longNumeral => "integer numeral has too many digits"

/-- Holds of the faults that describe a defect of a template. -/
def isTemplateFault : Fault → Bool
  | .missingField _ _ => true
  | .notMapping _ _ => true
  | .unknownAction _ => true
  | .textFsm .emptyExpression => false
  | .textFsm .hugeCount => false
  | .textFsm (.badName _ _) => false
  | .textFsm _ => true
  | .invalidPattern _ _ _ => true
  | _ => false

end Fault

namespace Value

/-! ## Uses of a value that can fail -/

/-- A scalar as a key. -/
def key (v : Value) : Except Fault Key :=
  match v.key? with
  | some k => .ok k
  | none => .error (.notScalar v.kindName)

/-- What a value consists of when it is gone through. -/
def elements (v : Value) : Except Fault (List Value) :=
  match v.elements? with
  | some parts => .ok parts
  | none => .error (.notIterable v.kindName)

/-- What a field consists of; a field that is not truthy counts as empty. -/
def elementsOrNone (v : Value) : Except Fault (List Value) :=
  if v.truthy then v.elements else .ok []

/-- A field of an object; null if it has none of that name. -/
def get (v : Value) (name : String) : Except Fault Value :=
  match v with
  | .object fields => .ok (field fields name)
  | v => .error (.notObject v.kindName)

/-- A field that a part of a template has to have. -/
def require (v : Value) (name part : String) : Except Fault Value :=
  match v with
  | .object fields =>
    match Table.find? fields (.str name) with
    | some found => .ok found
    | none => .error (.missingField part name)
  | v => .error (.notMapping part v.kindName)

/-- A pair as an entry of a table. -/
def entry (v : Value) : Except Fault (Key × Value) :=
  match v.elements? with
  | some [k, found] => do pure (← k.key, found)
  | some _ => .error .notPairs
  | none => .error (.notIterable v.kindName)

/-- A value as a table: an object as it is, anything else as the pairs it consists of. -/
def table (v : Value) : Except Fault (Table Value) :=
  match v with
  | .object fields => .ok fields
  | v => do
    let entries ← (← v.elements).mapM entry
    pure (Table.ofList entries)

theorem key_eq_ok {v : Value} {k : Key} : v.key = .ok k ↔ v.key? = some k := by
  rw [key]
  cases v.key? with
  | none => simp only [reduceCtorEq]
  | some j => simp only [Except.ok.injEq, Option.some.injEq]

@[simp] theorem key_str (s : String) : (Value.str s).key = .ok (.str s) := rfl

end Value

end LineMachine
