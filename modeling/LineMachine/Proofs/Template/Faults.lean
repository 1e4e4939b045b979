import Mathlib.Tactic.MkIffOfInductiveProp
import LineMachine.Proofs.Engine
import LineMachine.Proofs.Template.Described

/-!
# What a document lacks

Reading a template document refuses a part that lacks a field it has to have, and an action of an
unknown type. A document is *complete* if none of its parts is of that sort, and otherwise
`Template.faults` lists what is wrong with them, in the order of the document: the id, then each
state with its name and its patterns, then the variables.

A document is *shaped* if its fields that are gone through are lists and those that are taken as
tables are objects. Reading a shaped document stops with the first of its faults, if there is one,
and nothing else stops it (`Template.read_outcome`).
-/

namespace LineMachine

open Validation

/-! ## Complete parts -/

/-- Holds of an action that has one of the known types and, unless it records, a variable. -/
def Action.Complete (doc : Value) : Prop :=
  ∃ type ∈ actionTypes, Has doc "type" type ∧
    (type ≠ .str "emit" → ∃ name, Has doc "variable" name)

/-- Holds of a pattern that has a text, complete actions, and a target if it has a transition. -/
structure Rule.Complete (doc : Value) : Prop where
  pattern : ∃ v, Has doc "regex" v
  actions : ∀ a ∈ items (fieldOrNull doc "actions"), Action.Complete a
  transition : (fieldOrNull doc "transition").truthy = true →
    ∃ target, Has (fieldOrNull doc "transition") "to" target

/-- Holds of a state that has a name and complete patterns. -/
structure State.Complete (doc : Value) : Prop where
  name : ∃ v, Has doc "name" v
  rules : ∀ p ∈ items (fieldOrNull doc "patterns"), Rule.Complete p

/-- Holds of a template document that has an id, complete states, and a name for every variable. -/
structure Template.Complete (doc : Value) : Prop where
  id : ∃ v, Has doc "id" v
  states : ∀ s ∈ items (fieldOrNull doc "states"), State.Complete s
  declared : ∀ v ∈ items (fieldOrNull doc "variables"), ∃ name, Has v "name" name

/-! ## Faults in the order of the document -/

/-- What is wrong with a part of a template that has to have a field. -/
def Value.lacking (doc : Value) (name part : String) : List Fault :=
  match doc with
  | .object fields =>
    if (Table.find? fields (.str name)).isSome then [] else [.missingField part name]
  | doc => [.notMapping part doc.kindName]

/-- What is wrong with an action. It is one thing at most, as only actions of a known type have to
have a variable. -/
def Action.faults (doc : Value) : List Fault :=
  let type := fieldOrNull doc "type"
  if doc.lacking "type" "Action" ≠ [] then doc.lacking "type" "Action"
  else if type ∉ actionTypes then [.unknownAction type]
  else if type = .str "emit" then []
  else doc.lacking "variable" ("Action '" ++ type.text ++ "'")

/-- What is wrong with a transition, if there is one. -/
def Transition.faults (doc : Value) : List Fault :=
  if doc.truthy then doc.lacking "to" "Transition" else []

/-- What is wrong with a pattern: with its text, its actions and its transition. -/
def Rule.faults (doc : Value) : List Fault :=
  doc.lacking "regex" "Pattern" ++
    ((items (fieldOrNull doc "actions")).flatMap Action.faults ++
      Transition.faults (fieldOrNull doc "transition"))

/-- What is wrong with a state: with its name and its patterns. -/
def State.faults (doc : Value) : List Fault :=
  doc.lacking "name" "State" ++ (items (fieldOrNull doc "patterns")).flatMap Rule.faults

/-- What is wrong with a declared variable. -/
def Variable.faults (doc : Value) : List Fault :=
  doc.lacking "name" "Variable"

/-- What is wrong with a template document: with its id, its states and its variables. -/
def Template.faults (doc : Value) : List Fault :=
  doc.lacking "id" "Template" ++
    ((items (fieldOrNull doc "states")).flatMap State.faults ++
      (items (fieldOrNull doc "variables")).flatMap Variable.faults)

/-! ## Shaped documents -/

/-- Holds of a field that is a list, unless it has no content. -/
def Listed (v : Value) : Prop :=
  v.truthy = true → v = .list (items v)

/-- Holds of a pattern whose parts are of the kinds that they are used as. -/
@[mk_iff]
structure Rule.Shaped (doc : Value) : Prop where
  object : isObject doc = true
  rename : (fieldOrNull doc "map").truthy = true → isObject (fieldOrNull doc "map") = true
  actions : Listed (fieldOrNull doc "actions")
  /-- The types of the actions are scalars. One that is absent counts as null. -/
  types : ∀ a ∈ items (fieldOrNull doc "actions"), (fieldOrNull a "type").key?.isSome = true

/-- Holds of a state whose parts are of the kinds that they are used as. -/
@[mk_iff]
structure State.Shaped (doc : Value) : Prop where
  patterns : Listed (fieldOrNull doc "patterns")
  rules : ∀ p ∈ items (fieldOrNull doc "patterns"), Rule.Shaped p

/-- Holds of a template document whose parts are of the kinds that they are used as. -/
@[mk_iff]
structure Template.Shaped (doc : Value) : Prop where
  object : isObject doc = true
  states : Listed (fieldOrNull doc "states")
  parts : ∀ s ∈ items (fieldOrNull doc "states"), State.Shaped s
  declared : Listed (fieldOrNull doc "variables")
  metadata : (fieldOrNull doc "metadata").truthy = true →
    isObject (fieldOrNull doc "metadata") = true

instance (v : Value) : Decidable (Listed v) :=
  inferInstanceAs (Decidable (v.truthy = true → v = .list (items v)))

instance (doc : Value) : Decidable (Rule.Shaped doc) :=
  decidable_of_iff' _ (Rule.shaped_iff doc)

instance (doc : Value) : Decidable (State.Shaped doc) :=
  decidable_of_iff' _ (State.shaped_iff doc)

instance (doc : Value) : Decidable (Template.Shaped doc) :=
  decidable_of_iff' _ (Template.shaped_iff doc)

theorem Listed.elementsOrNone {v : Value} (h : Listed v) : v.elementsOrNone = .ok (items v) := by
  by_cases htruthy : v.truthy = true
  · rw [elementsOrNone_of_truthy htruthy, h htruthy]
    rfl
  · have hnone : items v = [] := by
      cases v with
      | list parts => simpa [Value.truthy, items] using htruthy
      | null | bool | int | float | str | object => rfl
    rw [Value.elementsOrNone, if_neg htruthy, hnone]

/-! ## No faults -/

theorem Value.lacking_eq_nil {doc : Value} {name part : String} :
    doc.lacking name part = [] ↔ ∃ v, Has doc name v := by
  cases doc with
  | object fields => simp [lacking, Has, Option.isSome_iff_exists]
  | null | bool | int | float | str | list => simp [lacking, Has]

theorem Action.faults_eq_nil {doc : Value} : Action.faults doc = [] ↔ Action.Complete doc := by
  rw [faults, Complete]
  by_cases htype : ∃ type, Has doc "type" type
  · obtain ⟨type, htype⟩ := htype
    have hlacking : doc.lacking "type" "Action" = [] := Value.lacking_eq_nil.mpr ⟨type, htype⟩
    have hunique : ∀ other, Has doc "type" other ↔ other = type := fun other ↦
      ⟨fun h ↦ h.fieldOrNull.symm.trans htype.fieldOrNull, fun h ↦ h ▸ htype⟩
    simp only [hlacking, htype.fieldOrNull, hunique]
    by_cases hknown : type ∈ actionTypes
    · by_cases hemit : type = .str "emit"
      · simp [hemit]
      · simp [hknown, hemit, Value.lacking_eq_nil]
    · simp [hknown]
  · have hlacking : doc.lacking "type" "Action" ≠ [] := mt Value.lacking_eq_nil.mp htype
    rw [if_pos hlacking]
    refine iff_of_false hlacking ?_
    rintro ⟨type, -, hhas, -⟩
    exact htype ⟨type, hhas⟩

theorem Transition.faults_eq_nil {doc : Value} :
    Transition.faults doc = [] ↔ (doc.truthy = true → ∃ target, Has doc "to" target) := by
  rw [faults]
  by_cases h : doc.truthy = true
  · simp [h, Value.lacking_eq_nil]
  · simp [h]

theorem Rule.faults_eq_nil {doc : Value} : Rule.faults doc = [] ↔ Rule.Complete doc := by
  rw [faults, List.append_eq_nil_iff, List.append_eq_nil_iff, List.flatMap_eq_nil_iff,
    Value.lacking_eq_nil, Transition.faults_eq_nil]
  simp only [Action.faults_eq_nil]
  exact ⟨fun h ↦ ⟨h.1, h.2.1, h.2.2⟩, fun h ↦ ⟨h.pattern, h.actions, h.transition⟩⟩

theorem State.faults_eq_nil {doc : Value} : State.faults doc = [] ↔ State.Complete doc := by
  rw [faults, List.append_eq_nil_iff, List.flatMap_eq_nil_iff, Value.lacking_eq_nil]
  simp only [Rule.faults_eq_nil]
  exact ⟨fun h ↦ ⟨h.1, h.2⟩, fun h ↦ ⟨h.name, h.rules⟩⟩

theorem Template.faults_eq_nil {doc : Value} :
    Template.faults doc = [] ↔ Template.Complete doc := by
  rw [faults, List.append_eq_nil_iff, List.append_eq_nil_iff, List.flatMap_eq_nil_iff,
    List.flatMap_eq_nil_iff, Value.lacking_eq_nil]
  simp only [State.faults_eq_nil, Variable.faults, Value.lacking_eq_nil]
  exact ⟨fun h ↦ ⟨h.1, h.2.1, h.2.2⟩, fun h ↦ ⟨h.id, h.states, h.declared⟩⟩

/-! ## The first fault -/

theorem stopsAtFirst_require (doc : Value) (name part : String) :
    StopsAtFirst (doc.require name part) (doc.lacking name part) := by
  cases doc with
  | object fields =>
    rw [Value.require, Value.lacking]
    cases Table.find? fields (.str name) with
    | none => exact .error
    | some v => exact .ok
  | null | bool | int | float | str | list => exact .error

theorem Action.stopsAtFirst_read {doc : Value}
    (h : (fieldOrNull doc "type").key?.isSome = true) :
    StopsAtFirst (Action.read doc) (Action.faults doc) := by
  rw [read, faults]
  by_cases htype : ∃ type, Has doc "type" type
  · have hlacking : doc.lacking "type" "Action" = [] := Value.lacking_eq_nil.mpr htype
    obtain ⟨type, htype⟩ := htype
    rw [htype.fieldOrNull] at h
    obtain ⟨k, hk⟩ := Option.isSome_iff_exists.mp h
    obtain ⟨fields, rfl, -⟩ := id htype
    rw [if_neg (not_not_intro hlacking), htype.fieldOrNull, require_eq_ok.mpr htype, ok_bind,
      Value.key_eq_ok.mpr hk, ok_bind]
    -- All known types but the first ask for a variable next.
    split
    · exact .ok
    · exact (stopsAtFirst_require _ _ _).bind_ok fun name _ ↦ ⟨_, rfl⟩
    · exact (stopsAtFirst_require _ _ _).bind_ok fun name _ ↦ ⟨_, rfl⟩
    · exact (stopsAtFirst_require _ _ _).bind_ok fun name _ ↦ ⟨_, rfl⟩
    · next type _ _ hemit hclear hset happend =>
      have hunknown : type ∉ actionTypes := by
        simp only [actionTypes, List.map_cons, List.map_nil, List.mem_cons, List.not_mem_nil,
          or_false, not_or]
        exact ⟨hemit, fun h ↦ hset _ h rfl, hclear, fun h ↦ happend _ h rfl⟩
      rw [if_pos hunknown]
      exact .error
  · rw [if_pos (mt Value.lacking_eq_nil.mp htype)]
    exact (stopsAtFirst_require _ _ _).bind_ok fun type hread ↦
      absurd ⟨type, require_eq_ok.mp hread⟩ htype

theorem stopsAtFirst_readGiven {α : Type} {read : Value → Except Fault α} {v : Value}
    {faults : List Fault} (h : v.truthy = true → StopsAtFirst (read v) faults) :
    StopsAtFirst (readGiven read v) (if v.truthy then faults else []) := by
  rw [readGiven, Value.given?]
  by_cases htruthy : v.truthy = true
  · rw [if_pos htruthy, if_pos htruthy]
    exact (h htruthy).bind_ok fun a _ ↦ ⟨some a, rfl⟩
  · rw [if_neg htruthy, if_neg htruthy]
    exact .ok

theorem Transition.stopsAtFirst_read (doc : Value) :
    StopsAtFirst (Transition.read doc) (doc.lacking "to" "Transition") := by
  refine (stopsAtFirst_require _ _ _).bind_ok fun target htarget ↦ ?_
  rw [get_of_isObject (require_eq_ok.mp htarget).isObject]
  exact ⟨_, rfl⟩

theorem Rule.stopsAtFirst_read {doc : Value} (h : Rule.Shaped doc) :
    StopsAtFirst (Rule.read doc) (Rule.faults doc) := by
  have hrename : ∃ rename, readGiven Value.table (fieldOrNull doc "map") = .ok rename := by
    refine (exists_readGiven (P := fun _ ↦ True) fun htruthy ↦ ?_).imp fun _ ↦ And.left
    obtain ⟨fields, hfields⟩ := exists_fields_of_isObject (h.rename htruthy)
    rw [hfields]
    exact ⟨fields, rfl, trivial⟩
  obtain ⟨rename, hrename⟩ := hrename
  simp only [Rule.read_eq, get_of_isObject h.object, ok_bind, hrename, h.actions.elementsOrNone]
  -- What is left are the steps that can fail, in the order of the faults.
  exact (stopsAtFirst_require _ _ _).bind fun pattern _ ↦
    (StopsAtFirst.mapM fun a ha ↦ Action.stopsAtFirst_read (h.types a ha)).bind fun actions _ ↦
    (stopsAtFirst_readGiven fun _ ↦ Transition.stopsAtFirst_read _).bind_ok fun transition _ ↦
    ⟨_, rfl⟩

theorem State.stopsAtFirst_read {doc : Value} (h : State.Shaped doc) :
    StopsAtFirst (State.read doc) (State.faults doc) := by
  refine (stopsAtFirst_require _ _ _).bind fun name hname ↦ ?_
  rw [get_of_isObject (require_eq_ok.mp hname).isObject, ok_bind, h.patterns.elementsOrNone,
    ok_bind]
  exact (StopsAtFirst.mapM fun p hp ↦ Rule.stopsAtFirst_read (h.rules p hp)).bind_ok fun rules _ ↦
    ⟨_, rfl⟩

theorem Variable.stopsAtFirst_read (doc : Value) :
    StopsAtFirst (Variable.read doc) (Variable.faults doc) := by
  refine (stopsAtFirst_require _ _ _).bind_ok fun name hname ↦ ?_
  simp only [get_of_isObject (require_eq_ok.mp hname).isObject]
  exact ⟨_, rfl⟩

/-- **Reading a shaped document** stops with the first of its faults, if there is one. -/
theorem Template.stopsAtFirst_read {doc : Value} (h : Template.Shaped doc) :
    StopsAtFirst (Template.read doc) (Template.faults doc) := by
  simp only [Template.read, get_of_isObject h.object, ok_bind, h.states.elementsOrNone,
    h.declared.elementsOrNone]
  refine (stopsAtFirst_require _ _ _).bind fun id _ ↦
    (StopsAtFirst.mapM fun s hs ↦ State.stopsAtFirst_read (h.parts s hs)).bind fun states _ ↦
    (StopsAtFirst.mapM fun v _ ↦ Variable.stopsAtFirst_read v).bind_ok fun declared _ ↦ ?_
  rw [Value.orElse]
  split
  · next htruthy =>
    obtain ⟨fields, hfields⟩ := exists_fields_of_isObject (h.metadata htruthy)
    rw [hfields]
    exact ⟨_, rfl⟩
  · exact ⟨_, rfl⟩

/-! ## What reading comes to -/

theorem isTemplateFault_of_lacking {doc : Value} {name part : String} :
    ∀ fault ∈ doc.lacking name part, fault.isTemplateFault = true := by
  intro fault hfault
  cases doc with
  | object fields =>
    rw [Value.lacking] at hfault
    split at hfault
    · cases hfault
    · rw [List.mem_singleton.mp hfault]
      rfl
  | null | bool | int | float | str | list =>
    rw [List.mem_singleton.mp hfault]
    rfl

theorem Action.isTemplateFault_of_faults {doc : Value} :
    ∀ fault ∈ Action.faults doc, fault.isTemplateFault = true := by
  rw [faults]
  split
  · exact isTemplateFault_of_lacking
  · split
    · exact List.forall_mem_singleton.mpr rfl
    · split
      · exact List.forall_mem_nil _
      · exact isTemplateFault_of_lacking

theorem Transition.isTemplateFault_of_faults {doc : Value} :
    ∀ fault ∈ Transition.faults doc, fault.isTemplateFault = true := by
  rw [faults]
  split
  · exact isTemplateFault_of_lacking
  · exact List.forall_mem_nil _

theorem Rule.isTemplateFault_of_faults {doc : Value} :
    ∀ fault ∈ Rule.faults doc, fault.isTemplateFault = true := by
  simp only [faults, List.forall_mem_append, List.forall_mem_flatMap]
  exact ⟨isTemplateFault_of_lacking, fun _ _ ↦ Action.isTemplateFault_of_faults,
    Transition.isTemplateFault_of_faults⟩

/-- The faults of a document describe defects of a template. -/
theorem Template.isTemplateFault_of_faults {doc : Value} :
    ∀ fault ∈ Template.faults doc, fault.isTemplateFault = true := by
  simp only [faults, State.faults, Variable.faults, List.forall_mem_append,
    List.forall_mem_flatMap]
  exact ⟨isTemplateFault_of_lacking,
    fun _ _ ↦ ⟨isTemplateFault_of_lacking, fun _ _ ↦ Rule.isTemplateFault_of_faults⟩,
    fun _ _ ↦ isTemplateFault_of_lacking⟩

namespace Template

/-- **What comes of reading a shaped document.** It fails exactly if the document is not complete,
and then with the first of the faults in the order of the document, all of which describe defects of
a template. Otherwise there is a template that has a part for every item of the document. -/
theorem read_outcome {doc : Value} (h : Shaped doc) :
    ((∃ fault, read doc = .error fault) ↔ ¬ Complete doc) ∧
      (∀ fault, read doc = .error fault ↔ (faults doc).head? = some fault) ∧
      (∀ fault ∈ faults doc, fault.isTemplateFault = true) ∧
      (Complete doc → ∃ t, read doc = .ok t ∧ Describes doc t) := by
  have hfirst := stopsAtFirst_read h
  refine ⟨?_, fun fault ↦ hfirst.eq_error_iff, isTemplateFault_of_faults, fun hcomplete ↦ ?_⟩
  · rw [← faults_eq_nil, ← hfirst.exists_ok_iff]
    cases read doc <;> simp
  · obtain ⟨t, ht⟩ := hfirst.exists_ok_iff.mpr (faults_eq_nil.mpr hcomplete)
    exact ⟨t, ht, read_eq_ok.mp ht⟩

/-- A document with five faults: in two actions of a pattern, in its transition, in a state and in a
variable. -/
def faulty : Value :=
  Value.ofFields [
    ("id", .str "faulty"),
    ("states", .list [
      Value.ofFields [("name", .str "first"), ("patterns", .list [Value.ofFields [
        ("regex", .str "x"),
        ("actions", .list [Value.ofFields [("type", .str "emit")],
          Value.ofFields [("type", .str "set")], Value.ofFields [("type", .str "push")]]),
        ("transition", .int 5)]])],
      .int 7]),
    ("variables", .list [Value.ofFields [("type", .str "ip")]])]

/-- Of several faults the first one is told, and where there is none the template is read. -/
theorem read_outcome_faulty :
    Shaped faulty ∧
      faults faulty = [.missingField "Action 'set'" "variable", .unknownAction (.str "push"),
        .notMapping "Transition" "int", .notMapping "State" "int",
        .missingField "Variable" "name"] ∧
      read faulty = .error (.missingField "Action 'set'" "variable") ∧
      Shaped Engine.ports.write ∧ ∃ t, read Engine.ports.write = .ok t ∧
        Describes Engine.ports.write t := by
  have hshaped : Shaped faulty := by decide +kernel
  have hports : Shaped Engine.ports.write := by decide +kernel
  have hcomplete : Complete Engine.ports.write := faults_eq_nil.mp (by decide +kernel)
  obtain ⟨-, hfirst, -, -⟩ := read_outcome hshaped
  obtain ⟨-, -, -, hread⟩ := read_outcome hports
  exact ⟨hshaped, by decide +kernel, (hfirst _).mpr (by decide +kernel), hports, hread hcomplete⟩

end Template

end LineMachine
