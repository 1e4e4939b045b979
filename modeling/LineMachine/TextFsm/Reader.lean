import LineMachine.Text.Classes
import LineMachine.Text.Pieces
import LineMachine.TextFsm.Document
import LineMachine.TextFsm.Expression
import LineMachine.TextFsm.Fault
import LineMachine.TextFsm.Placeholder

/-!
# Reading TextFSM templates

A TextFSM template is read line by line. The Values come first, up to an empty line; then come the
states, each a line with its name, followed by its rules up to an empty line. Lines that start
with a number sign are comments. At the end the states are checked against each other.
-/

namespace LineMachine.TextFsm

open Text

/-- A line without the blanks at its end, and its number. -/
structure Line where
  number : Nat
  text : List Char
  deriving DecidableEq, Repr

namespace Line

/-- The lines of a text. -/
def ofText (s : String) : List Line :=
  (splitAtChar '\n' s.toList).zipIdx.map fun (text, i) ↦ ⟨i + 1, trimRight text⟩

/-- A line without content. -/
def isEmpty (l : Line) : Bool :=
  l.text.isEmpty

/-- A line that starts with a number sign. -/
def isComment (l : Line) : Bool :=
  (l.text.dropWhile isBlank).head? = some '#'

end Line

/-- The greatest length of a name. -/
def maxNameLength : Nat := 48

/-- Whether an expression is fit for use; a count that is too large is a fault of its own. -/
def checkedExpression (s : String) (fault : Expression.Fault → Fault) : Except Fault Unit :=
  match Expression.check s with
  | .ok () => .ok ()
  | .error f => if f.cause = .repeatTooLarge then .error .hugeCount else .error (fault f)

/-! ## Values -/

namespace ValueDecl

/-- Reads the options of a Value. -/
def readOptions (line : Nat) :
    List ValueOption → List (List Char) → Except Fault (List ValueOption)
  | found, [] => .ok found
  | found, word :: rest =>
    let name := String.ofList word
    if found.any (·.name == name) then .error (.duplicateOption name line)
    else
      match ValueOption.ofName? name with
      | some o => readOptions line (found ++ [o]) rest
      | none => .error (.unknownOption name line)

/-- The words as one text again. -/
def joined (words : List (List Char)) : String :=
  joinWith " " (words.map String.ofList)

/-- Whether an expression stands between parentheses. -/
def isEnclosed (s : List Char) : Bool :=
  s.head? = some '(' &&
    match s.reverse with
    | ')' :: c :: _ => c != backslash
    | _ => false

/-- Checks a Value that was taken apart. -/
def checked (line : Nat) (v : ValueDecl) : Except Fault ValueDecl :=
  if maxNameLength < v.name.length then .error (.longName v.name line)
  else if v.expression.isEmpty then .error .emptyExpression
  else if !isEnclosed v.expression.toList then .error (.notEnclosed v.expression line)
  else do
    checkedExpression v.expression fun f ↦ .badValue v.expression f line
    match ValueName.fault? v.name with
    | none => pure v
    | some fault => throw (.badName v.name fault)

/-- Reads a Value from its line: options if there are any, a name, and an expression. -/
def read (l : Line) : Except Fault ValueDecl :=
  match splitAtChar ' ' l.text with
  | _ :: second :: third :: rest =>
    if third.head? = some '(' then
      checked l.number ⟨String.ofList second, [], joined (third :: rest)⟩
    else do
      let options ← readOptions l.number [] (splitAtChar ',' second)
      checked l.number ⟨String.ofList third, options, joined rest⟩
  | _ => .error (.fewWords l.number)

/-- What a line with a Value starts with. -/
def keyword : List Char := "Value ".toList

/-- Reads the Values in front of the first empty line, and gives the lines behind it. -/
def readAll (found : List ValueDecl) : List Line → Except Fault (List ValueDecl × List Line)
  | [] => .ok (found, [])
  | l :: rest =>
    if l.isEmpty then .ok (found, rest)
    else if l.isComment then readAll found rest
    else if keyword.isPrefixOf l.text then do
      let v ← read l
      if found.any (·.name == v.name) then throw (.duplicateValue v.name l.number)
      else readAll (found ++ [v]) rest
    else if found.isEmpty then .error .noValues
    else .error (.noBlankLine l.number)

end ValueDecl

/-! ## Rules -/

namespace RuleAction

/-- A state name, or a text between quotes. -/
def isTarget (s : List Char) : Bool :=
  (!s.isEmpty && s.all isNameWord) ||
    (2 ≤ s.length && s.head? = some doubleQuote && s.getLast? = some doubleQuote)

/-- The operations that one word names: a line operation, one with a record operation behind a
point, or a record operation. -/
def operations? (word : List Char) : Option (Option LineOperation × Option RecordOperation) :=
  match splitAtChar '.' word with
  | [name] =>
    match LineOperation.ofName? (String.ofList name) with
    | some o => some (some o, none)
    | none => (RecordOperation.ofName? (String.ofList name)).map fun o ↦ (none, some o)
  | [name, other] => do
    let onLine ← LineOperation.ofName? (String.ofList name)
    let onRecord ← RecordOperation.ofName? (String.ofList other)
    pure (some onLine, some onRecord)
  | _ => none

/-- What stands behind an arrow: nothing, or blanks and operations, a target, or both. -/
def read? (s : List Char) : Option RuleAction :=
  if s.isEmpty then some {}
  else if !s.head?.any isBlank then none
  else
    let body := s.dropWhile isBlank
    let word := body.takeWhile (!isBlank ·)
    let target := (body.dropWhile (!isBlank ·)).dropWhile isBlank
    match operations? word with
    | some (onLine, onRecord) =>
      if target.isEmpty then some ⟨onLine, onRecord, none⟩
      else if isTarget target then some ⟨onLine, onRecord, some (String.ofList target)⟩
      else none
    | none => if isTarget body then some ⟨none, none, some (String.ofList body)⟩ else none

/-- Checks that the parts of an action go together. -/
def checked (line : Nat) (a : RuleAction) : Except Fault RuleAction :=
  match a.target with
  | none => .ok a
  | some target =>
    if a.line = some .continue then .error (.continueElsewhere target line)
    else if a.line ≠ some .error ∧ target.toList.head? = some doubleQuote then
      .error (.quotedState line)
    else .ok a

end RuleAction

namespace RuleDecl

/-- What stands in front of and behind the last arrow that has a blank in front of it. -/
def atArrow? : List Char → Option (List Char × List Char)
  | [] => none
  | c :: rest =>
    match atArrow? rest with
    | some (before, after) => some (c :: before, after)
    | none =>
      match rest with
      | '-' :: '>' :: after => if isBlank c then some ([], after) else none
      | _ => none

/-- The expression of a rule: its placeholders replaced, if there are Values. -/
def expressionOf (values : List ValueDecl) (source : String) (line : Nat) :
    Except Fault String :=
  if values.isEmpty then .ok source
  else
    match substitute? (values.map fun v ↦ (v.name, v.namedGroup)) source with
    | some s => .ok s
    | none => .error (.badPlaceholder source line)

/-- Reads a rule from its line. -/
def read (values : List ValueDecl) (l : Line) : Except Fault RuleDecl := do
  let text := trim l.text
  let arrow := atArrow? text
  let source := String.ofList ((arrow.map (·.1)).getD text)
  let expression ← expressionOf values source l.number
  checkedExpression expression fun _ ↦ .badExpression expression l.number
  match arrow with
  | none => pure ⟨source, expression, {}⟩
  | some (_, after) =>
    match RuleAction.read? after with
    | none => throw (.badRule (String.ofList text) l.number)
    | some action => pure ⟨source, expression, ← action.checked l.number⟩

/-- What a line with a rule can start with. -/
def starts : List (List Char) := [[' ', '^'], [' ', ' ', '^'], ['\t', '^']]

end RuleDecl

/-! ## States -/

namespace StateDecl

/-- Names that no state may have. -/
def reserved : List String :=
  LineOperation.all.map (·.name) ++ RecordOperation.all.map (·.name)

/-- Reads the name of a state, given the states in front of it. -/
def readName (found : List StateDecl) (l : Line) : Except Fault StateDecl :=
  let name := String.ofList l.text
  if !l.text.all isNameWord || maxNameLength < l.text.length || reserved.contains name then
    .error (.badStateName name l.number)
  else if found.any (·.name == name) then .error (.duplicateState name l.number)
  else .ok ⟨name, []⟩

/-- Adds the rule of one more line. -/
def addRule (values : List ValueDecl) (s : StateDecl) (l : Line) : Except Fault StateDecl :=
  if RuleDecl.starts.any (·.isPrefixOf l.text) then do
    pure { s with rules := s.rules ++ [← RuleDecl.read values l] }
  else .error (.badRuleStart l.number)

/-- Reads states. The one whose rules are being read comes apart from those found in front of
it. -/
def readAll (values : List ValueDecl) (found : List StateDecl) :
    Option StateDecl → List Line → Except Fault (List StateDecl)
  | current, [] => .ok (found ++ current.toList)
  | none, l :: rest =>
    if l.isEmpty || l.isComment then readAll values found none rest
    else do readAll values found (some (← readName found l)) rest
  | some s, l :: rest =>
    if l.isEmpty then readAll values (found ++ [s]) none rest
    else if l.isComment then readAll values found (some s) rest
    else do readAll values found (some (← addRule values s l)) rest

end StateDecl

/-! ## Templates -/

namespace Document

/-- The rules of a state. -/
def rulesOf (states : List StateDecl) (name : String) : List RuleDecl :=
  ((states.find? (·.name == name)).map (·.rules)).getD []

/-- The target of a rule that no state has, if there is one. -/
def danglingTarget? (states : List StateDecl) (r : RuleDecl) : Option String :=
  if r.action.line = some .error then none
  else
    match r.action.target with
    | none => none
    | some target =>
      if finalStates.contains target || states.any (·.name == target) then none else some target

/-- The first rule that leads nowhere, as its target and its state. -/
def dangling? (states : List StateDecl) : Option (String × String) :=
  states.findSome? fun s ↦ (s.rules.findSome? (danglingTarget? states)).map (·, s.name)

/-- Checks the states against each other. The empty state `End` is left out. -/
def checkStates (states : List StateDecl) : Except Fault (List StateDecl) :=
  if !states.any (·.name == startState) then .error .noStart
  else
    match finalStates.find? fun name ↦ !(rulesOf states name).isEmpty with
    | some name => .error (.notEmpty name)
    | none =>
      let kept := states.filter (·.name != "End")
      match dangling? kept with
      | some (target, state) => .error (.unknownTarget target state)
      | none => .ok kept

/-- Reads a TextFSM template. -/
def read (s : String) : Except Fault Document := do
  let (values, rest) ← ValueDecl.readAll [] (Line.ofText s)
  let states ← checkStates (← StateDecl.readAll values [] none rest)
  pure ⟨values, states⟩

end Document

end LineMachine.TextFsm
