import LineMachine.Proofs.Template.Fields

/-!
# What documents describe

A document *describes* a part of a template when the part is what the fields of the document say,
with the defaults put in. There is one such relation for each kind of part, and lists of parts are
described item by item. A reader comes to a part exactly when the document describes it
(`Template.read_eq_ok` and its like), so whatever is to be known of reading can be taken from the
relations; which reader was used, and in which order it looked at the fields, plays no role.
-/

namespace LineMachine

open Validation

/-! ## Fields -/

/-- Holds when a document is an object that has a field, with a given value. -/
def Has (doc : Value) (name : String) (v : Value) : Prop :=
  ∃ fields, doc = .object fields ∧ Table.find? fields (.str name) = some v

theorem require_eq_ok {doc v : Value} {name part : String} :
    doc.require name part = .ok v ↔ Has doc name v := by
  rw [Has]
  cases doc with
  | object fields =>
    rw [Value.require]
    cases hfound : Table.find? fields (.str name) with
    | none => simp [hfound]
    | some found => simp [hfound]
  | null | bool | int | float | str | list => simp [Value.require]

theorem get_eq_ok {doc v : Value} {name : String} :
    doc.get name = .ok v ↔ isObject doc = true ∧ fieldOrNull doc name = v := by
  cases doc with
  | object fields => simp [Value.get, isObject, fieldOrNull]
  | null | bool | int | float | str | list => simp [Value.get, isObject]

theorem Has.isObject {doc v : Value} {name : String} (h : Has doc name v) :
    isObject doc = true := by
  obtain ⟨fields, rfl, -⟩ := h
  rfl

theorem Has.fieldOrNull {doc v : Value} {name : String} (h : Has doc name v) :
    fieldOrNull doc name = v := by
  obtain ⟨fields, rfl, hfound⟩ := h
  rw [Validation.fieldOrNull, Value.field, hfound, Option.getD_some]

/-- Holds when a field consists of documents that describe given parts, one by one. -/
def Lists {α : Type} (describes : Value → α → Prop) (v : Value) (parts : List α) : Prop :=
  ∃ docs, v.elementsOrNone = .ok docs ∧ List.Forall₂ describes docs parts

theorem lists_iff {α : Type} {read : Value → Except Fault α} {describes : Value → α → Prop}
    (h : ∀ doc a, read doc = .ok a ↔ describes doc a) {v : Value} {parts : List α} :
    (v.elementsOrNone >>= fun docs ↦ docs.mapM read) = .ok parts ↔ Lists describes v parts := by
  simp only [bind_eq_ok, mapM_eq_ok, h]
  rfl

theorem readGiven_eq_ok {α : Type} {read : Value → Except Fault α} {describes : Value → α → Prop}
    (h : ∀ doc a, read doc = .ok a ↔ describes doc a) {v : Value} {part : Option α} :
    readGiven read v = .ok part ↔ Option.Rel describes v.given? part := by
  rw [readGiven]
  rcases v.given? with - | found
  · constructor
    · rintro ⟨⟩
      exact .none
    · rintro ⟨⟩
      rfl
  · change (read found).map some = .ok part ↔ _
    rw [map_eq_ok]
    constructor
    · rintro ⟨a, ha, rfl⟩
      exact .some ((h found a).mp ha)
    · rintro ⟨ha⟩
      exact ⟨_, (h found _).mpr ha, rfl⟩

/-! ## Actions -/

/-- The operand of the action that a document describes. -/
def operandOf (doc : Value) : Operand where
  group := (fieldOrNull doc "fromGroup").given?
  literal := fieldOrNull doc "value"

/-- Holds of a document and the action that it describes. -/
inductive Action.Describes (doc : Value) : Action → Prop
  | emit (htype : Has doc "type" (.str "emit")) : Describes doc .emit
  | set (name : Value) (operand : Operand) (htype : Has doc "type" (.str "set"))
      (hname : Has doc "variable" name) (hoperand : operandOf doc = operand) :
      Describes doc (.set name operand)
  | clear (name : Value) (htype : Has doc "type" (.str "clear"))
      (hname : Has doc "variable" name) : Describes doc (.clear name)
  | append (name : Value) (operand : Operand) (htype : Has doc "type" (.str "append"))
      (hname : Has doc "variable" name) (hoperand : operandOf doc = operand) :
      Describes doc (.append name operand)

theorem Action.read_eq_ok {doc : Value} {a : Action} :
    Action.read doc = .ok a ↔ Action.Describes doc a := by
  constructor
  · intro h
    obtain ⟨type, htype, h⟩ := bind_eq_ok.mp h
    obtain ⟨k, -, h⟩ := bind_eq_ok.mp h
    rw [require_eq_ok] at htype
    -- The type decides which of the other fields are looked at.
    split at h
    · cases h
      exact .emit htype
    · obtain ⟨name, hname, h⟩ := bind_eq_ok.mp h
      cases h
      exact .set name _ htype (require_eq_ok.mp hname) rfl
    · obtain ⟨name, hname, h⟩ := bind_eq_ok.mp h
      cases h
      exact .clear name htype (require_eq_ok.mp hname)
    · obtain ⟨name, hname, h⟩ := bind_eq_ok.mp h
      cases h
      exact .append name _ htype (require_eq_ok.mp hname) rfl
    · cases h
  · intro h
    cases h with
    | emit htype =>
      rw [read, require_eq_ok.mpr htype]
      rfl
    | set name operand htype hname hoperand =>
      subst hoperand
      obtain ⟨fields, rfl, -⟩ := id htype
      rw [read, require_eq_ok.mpr htype, ok_bind, Value.key_str, ok_bind]
      simp only [require_eq_ok.mpr hname, ok_bind]
      rfl
    | clear name htype hname =>
      rw [read, require_eq_ok.mpr htype, ok_bind, Value.key_str, ok_bind]
      simp only [require_eq_ok.mpr hname, ok_bind]
      rfl
    | append name operand htype hname hoperand =>
      subst hoperand
      obtain ⟨fields, rfl, -⟩ := id htype
      rw [read, require_eq_ok.mpr htype, ok_bind, Value.key_str, ok_bind]
      simp only [require_eq_ok.mpr hname, ok_bind]
      rfl

/-! ## States -/

/-- Holds of a document and the transition that it describes. -/
structure Transition.Describes (doc : Value) (t : Transition) : Prop where
  target : Has doc "to" t.target
  condition : (fieldOrNull doc "when").orElse (.str "match") = t.condition

theorem Transition.read_eq_ok {doc : Value} {t : Transition} :
    Transition.read doc = .ok t ↔ Transition.Describes doc t := by
  constructor
  · intro h
    obtain ⟨target, htarget, h⟩ := bind_eq_ok.mp h
    obtain ⟨condition, hcondition, h⟩ := bind_eq_ok.mp h
    cases h
    exact ⟨require_eq_ok.mp htarget, congrArg (Value.orElse · _) (get_eq_ok.mp hcondition).2⟩
  · rintro ⟨htarget, hcondition⟩
    rw [read, require_eq_ok.mpr htarget, ok_bind, get_of_isObject htarget.isObject, ok_bind,
      hcondition]
    rfl

/-- Holds of a document and the rule that it describes. -/
structure Rule.Describes (doc : Value) (r : Rule) : Prop where
  pattern : Has doc "regex" r.pattern
  flags : (fieldOrNull doc "flags").given? = r.flags
  rename : Option.Rel (fun v names ↦ v.table = .ok names) (fieldOrNull doc "map").given? r.rename
  actions : Lists Action.Describes (fieldOrNull doc "actions") r.actions
  transition : Option.Rel Transition.Describes (fieldOrNull doc "transition").given? r.transition

/-- Reading a pattern is reading its fields one by one. -/
theorem Rule.read_eq (doc : Value) :
    Rule.read doc = (do
      let transition ← doc.get "transition"
      let pattern ← doc.require "regex" "Pattern"
      let flags ← doc.get "flags"
      let names ← doc.get "map"
      let rename ← readGiven Value.table names
      let actions ← (← (← doc.get "actions").elementsOrNone).mapM Action.read
      let transition ← readGiven Transition.read transition
      pure ⟨pattern, flags.given?, rename, actions, transition⟩) := by
  refine bind_congr fun transition ↦ bind_congr fun pattern ↦ bind_congr fun flags ↦
    bind_congr fun names ↦ ?_
  -- What follows on a field that may be absent stands in both branches of the definition.
  rw [readGiven, readGiven]
  cases names.given? <;> cases transition.given? <;> rfl

theorem Rule.read_eq_ok {doc : Value} {r : Rule} :
    Rule.read doc = .ok r ↔ Rule.Describes doc r := by
  rw [Rule.read_eq]
  constructor
  · intro h
    obtain ⟨transition, htransition, h⟩ := bind_eq_ok.mp h
    obtain ⟨pattern, hpattern, h⟩ := bind_eq_ok.mp h
    obtain ⟨flags, hflags, h⟩ := bind_eq_ok.mp h
    obtain ⟨names, hnames, h⟩ := bind_eq_ok.mp h
    obtain ⟨rename, hrename, h⟩ := bind_eq_ok.mp h
    obtain ⟨actions, hactions, h⟩ := bind_eq_ok.mp h
    obtain ⟨docs, hdocs, h⟩ := bind_eq_ok.mp h
    obtain ⟨found, hfound, h⟩ := bind_eq_ok.mp h
    obtain ⟨goal, hgoal, h⟩ := bind_eq_ok.mp h
    cases h
    rw [get_eq_ok] at htransition hflags hnames hactions
    obtain ⟨-, rfl⟩ := htransition
    obtain ⟨-, rfl⟩ := hflags
    obtain ⟨-, rfl⟩ := hnames
    obtain ⟨-, rfl⟩ := hactions
    refine ⟨require_eq_ok.mp hpattern, rfl, (readGiven_eq_ok fun _ _ ↦ Iff.rfl).mp hrename, ?_,
      (readGiven_eq_ok fun _ _ ↦ Transition.read_eq_ok).mp hgoal⟩
    exact (lists_iff fun _ _ ↦ Action.read_eq_ok).mp (bind_eq_ok.mpr ⟨docs, hdocs, hfound⟩)
  · rintro ⟨hpattern, hflags, hrename, hactions, htransition⟩
    have hobject := hpattern.isObject
    obtain ⟨docs, hdocs, hfound⟩ :=
      bind_eq_ok.mp ((lists_iff fun _ _ ↦ Action.read_eq_ok).mpr hactions)
    simp only [get_of_isObject hobject, require_eq_ok.mpr hpattern, ok_bind,
      (readGiven_eq_ok fun _ _ ↦ Iff.rfl).mpr hrename, hdocs, hfound,
      (readGiven_eq_ok fun _ _ ↦ Transition.read_eq_ok).mpr htransition, hflags]
    rfl

/-- Holds of a document and the state that it describes. -/
structure State.Describes (doc : Value) (s : State) : Prop where
  name : Has doc "name" s.name
  rules : Lists Rule.Describes (fieldOrNull doc "patterns") s.rules

theorem State.read_eq_ok {doc : Value} {s : State} :
    State.read doc = .ok s ↔ State.Describes doc s := by
  constructor
  · intro h
    obtain ⟨name, hname, h⟩ := bind_eq_ok.mp h
    obtain ⟨patterns, hpatterns, h⟩ := bind_eq_ok.mp h
    obtain ⟨docs, hdocs, h⟩ := bind_eq_ok.mp h
    obtain ⟨rules, hrules, h⟩ := bind_eq_ok.mp h
    cases h
    obtain ⟨-, rfl⟩ := get_eq_ok.mp hpatterns
    exact ⟨require_eq_ok.mp hname,
      (lists_iff fun _ _ ↦ Rule.read_eq_ok).mp (bind_eq_ok.mpr ⟨docs, hdocs, hrules⟩)⟩
  · rintro ⟨hname, hrules⟩
    obtain ⟨docs, hdocs, hread⟩ :=
      bind_eq_ok.mp ((lists_iff fun _ _ ↦ Rule.read_eq_ok).mpr hrules)
    rw [read, require_eq_ok.mpr hname, ok_bind, get_of_isObject hname.isObject, ok_bind, hdocs,
      ok_bind, hread]
    rfl

/-! ## Templates -/

/-- Holds of a document and the variable that it declares. -/
structure Variable.Describes (doc : Value) (v : Variable) : Prop where
  name : Has doc "name" v.name
  type : (fieldOrNull doc "type").orElse (.str "string") = v.type
  validation : fieldOrNull doc "validation" = v.validation
  description : (fieldOrNull doc "description").orElse (.str "") = v.description

theorem Variable.read_eq_ok {doc : Value} {v : Variable} :
    Variable.read doc = .ok v ↔ Variable.Describes doc v := by
  constructor
  · intro h
    obtain ⟨name, hname, h⟩ := bind_eq_ok.mp h
    obtain ⟨type, htype, h⟩ := bind_eq_ok.mp h
    obtain ⟨validation, hvalidation, h⟩ := bind_eq_ok.mp h
    obtain ⟨description, hdescription, h⟩ := bind_eq_ok.mp h
    cases h
    rw [get_eq_ok] at htype hvalidation hdescription
    obtain ⟨-, rfl⟩ := htype
    obtain ⟨-, rfl⟩ := hvalidation
    obtain ⟨-, rfl⟩ := hdescription
    exact ⟨require_eq_ok.mp hname, rfl, rfl, rfl⟩
  · rintro ⟨hname, htype, hvalidation, hdescription⟩
    have hobject := hname.isObject
    simp only [read, require_eq_ok.mpr hname, get_of_isObject hobject, ok_bind, htype, hvalidation,
      hdescription]
    rfl

/-- Holds of a document and the template that it describes. -/
structure Template.Describes (doc : Value) (t : Template) : Prop where
  id : Has doc "id" t.id
  name : (fieldOrNull doc "name").orElse (.str "") = t.name
  states : Lists State.Describes (fieldOrNull doc "states") t.states
  vendor : (fieldOrNull doc "vendor").orElse (.str "generic") = t.vendor
  deviceOs : fieldOrNull doc "deviceOs" = t.deviceOs
  command : fieldOrNull doc "command" = t.command
  description : (fieldOrNull doc "description").orElse (.str "") = t.description
  declared : Lists Variable.Describes (fieldOrNull doc "variables") t.declared
  metadata : ((fieldOrNull doc "metadata").orElse (.object [])).table = .ok t.metadata

/-- **What reading comes to.** A document is read as a template exactly when it describes it. -/
theorem Template.read_eq_ok {doc : Value} {t : Template} :
    Template.read doc = .ok t ↔ Template.Describes doc t := by
  constructor
  · intro h
    obtain ⟨id, hid, h⟩ := bind_eq_ok.mp h
    obtain ⟨name, hname, h⟩ := bind_eq_ok.mp h
    obtain ⟨states, hstates, h⟩ := bind_eq_ok.mp h
    obtain ⟨docs, hdocs, h⟩ := bind_eq_ok.mp h
    obtain ⟨found, hfound, h⟩ := bind_eq_ok.mp h
    obtain ⟨vendor, hvendor, h⟩ := bind_eq_ok.mp h
    obtain ⟨deviceOs, hdeviceOs, h⟩ := bind_eq_ok.mp h
    obtain ⟨command, hcommand, h⟩ := bind_eq_ok.mp h
    obtain ⟨description, hdescription, h⟩ := bind_eq_ok.mp h
    obtain ⟨declared, hdeclared, h⟩ := bind_eq_ok.mp h
    obtain ⟨parts, hparts, h⟩ := bind_eq_ok.mp h
    obtain ⟨known, hknown, h⟩ := bind_eq_ok.mp h
    obtain ⟨metadata, hmetadata, h⟩ := bind_eq_ok.mp h
    obtain ⟨table, htable, h⟩ := bind_eq_ok.mp h
    cases h
    rw [get_eq_ok] at hname hstates hvendor hdeviceOs hcommand hdescription hdeclared hmetadata
    obtain ⟨-, rfl⟩ := hname
    obtain ⟨-, rfl⟩ := hstates
    obtain ⟨-, rfl⟩ := hdeclared
    obtain ⟨-, rfl⟩ := hmetadata
    exact {
      id := require_eq_ok.mp hid
      name := rfl
      states := (lists_iff fun _ _ ↦ State.read_eq_ok).mp (bind_eq_ok.mpr ⟨docs, hdocs, hfound⟩)
      vendor := congrArg (Value.orElse · _) hvendor.2
      deviceOs := hdeviceOs.2
      command := hcommand.2
      description := congrArg (Value.orElse · _) hdescription.2
      declared :=
        (lists_iff fun _ _ ↦ Variable.read_eq_ok).mp (bind_eq_ok.mpr ⟨parts, hparts, hknown⟩)
      metadata := htable }
  · intro h
    have hobject := h.id.isObject
    obtain ⟨docs, hdocs, hfound⟩ :=
      bind_eq_ok.mp ((lists_iff fun _ _ ↦ State.read_eq_ok).mpr h.states)
    obtain ⟨parts, hparts, hknown⟩ :=
      bind_eq_ok.mp ((lists_iff fun _ _ ↦ Variable.read_eq_ok).mpr h.declared)
    simp only [read, require_eq_ok.mpr h.id, get_of_isObject hobject, ok_bind, hdocs, hfound,
      hparts, hknown, h.metadata, h.name, h.vendor, h.deviceOs, h.command, h.description]
    rfl

end LineMachine
