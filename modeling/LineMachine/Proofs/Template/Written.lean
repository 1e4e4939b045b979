import LineMachine.Proofs.Table
import LineMachine.Proofs.Template.Described

/-!
# What written documents describe

A template that some document describes is *canonical*: where the document left a field open, it
has the default. What is written of a canonical action, rule or state describes the very same again
(`Rule.describes_write`, `State.describes_write`). Templates and variables have fields that are kept
as they are read and written only if they have content: a value without content is lost there, and
the part *settles* for null. Nothing else is lost (`Template.describes_write`).
-/

namespace LineMachine

open Validation

/-! ## Fields of written documents -/

theorem find?_ofFields (fields : List (String × Value)) (name : String) :
    Table.find? (fields.map fun e ↦ (Key.str e.1, e.2)) (.str name) = fields.lookup name := by
  induction fields with
  | nil => rfl
  | cons e fields ih =>
    rw [List.map_cons, Table.find?_cons, List.lookup_cons, Key.same_str, ih]
    cases name == e.1 <;> rfl

theorem fieldOrNull_ofFields (fields : List (String × Value)) (name : String) :
    fieldOrNull (Value.ofFields fields) name = (fields.lookup name).getD .null :=
  congrArg (fun found : Option Value ↦ found.getD .null) (find?_ofFields fields name)

theorem has_ofFields {fields : List (String × Value)} {name : String} {v : Value}
    (h : fields.lookup name = some v) : Has (Value.ofFields fields) name v :=
  ⟨_, rfl, (find?_ofFields fields name).trans h⟩

@[simp] theorem lookup_optionalField (name other : String) (v : Value) :
    (optionalField name v).lookup other = if other == name then v.given? else none := by
  rw [optionalField, Value.given?]
  by_cases h : v.truthy = true
  · rw [if_pos h, if_pos h, List.lookup_cons, List.lookup_nil]
    cases other == name <;> rfl
  · rw [if_neg h, if_neg h, List.lookup_nil, ite_self]

theorem elementsOrNone_null : Value.null.elementsOrNone = .ok [] := rfl

theorem elementsOrNone_list (docs : List Value) : (Value.list docs).elementsOrNone = .ok docs := by
  cases docs <;> rfl

/-- A written list of parts lists what is described part by part. -/
theorem lists_write {α : Type} {describes : Value → α → Prop} {write : α → Value}
    {parts others : List α} (h : List.Forall₂ (fun a b ↦ describes (write a) b) parts others) :
    Lists describes (.list (parts.map write)) others :=
  ⟨_, elementsOrNone_list _, List.forall₂_map_left_iff.mpr h⟩

/-! ## Values without content -/

namespace Value

/-- A value, or null if it has no content. -/
def orNull (v : Value) : Value :=
  v.orElse .null

theorem orNull_eq_self {v : Value} : v.orNull = v ↔ v.truthy = true ∨ v = .null := by
  rw [orNull, orElse]
  by_cases h : v.truthy = true
  · simp [h]
  · rw [if_neg h]
    exact ⟨fun hnull ↦ .inr hnull.symm, fun hv ↦ (hv.resolve_left h).symm⟩

/-- A default without content makes no difference to whether there is content. -/
theorem truthy_orElse_of_falsy {default : Value} (h : default.truthy = false) (v : Value) :
    (v.orElse default).truthy = v.truthy := by
  rw [orElse]
  by_cases hv : v.truthy = true
  · rw [if_pos hv]
  · rw [if_neg hv, h, eq_false_of_ne_true hv]

theorem truthy_orNull (v : Value) : v.orNull.truthy = v.truthy :=
  truthy_orElse_of_falsy rfl v

@[simp] theorem orNull_null : Value.null.orNull = .null := rfl

@[simp] theorem getD_given? (v : Value) : v.given?.getD .null = v.orNull := by
  rw [given?, orNull, orElse]
  split <;> rfl

@[simp] theorem given?_null : Value.null.given? = none := rfl

theorem given?_of_truthy {v : Value} (h : v.truthy = true) : v.given? = some v := if_pos h

theorem given?_eq_some {v found : Value} :
    v.given? = some found ↔ v.truthy = true ∧ v = found := by
  rw [given?, Option.ite_none_right_eq_some, Option.some.injEq]

theorem given?_eq_none {v : Value} : v.given? = none ↔ v.truthy = false := by
  rw [given?, ite_eq_right_iff, ← Bool.not_eq_true]
  simp

theorem truthy_of_given? {v found : Value} (h : v.given? = some found) : found.truthy = true := by
  obtain ⟨hv, rfl⟩ := given?_eq_some.mp h
  exact hv

theorem orElse_of_truthy {v default : Value} (h : v.truthy = true) : v.orElse default = v :=
  if_pos h

theorem orElse_orElse (v default : Value) :
    (v.orElse default).orElse default = v.orElse default := by
  by_cases h : v.truthy = true
  · rw [orElse_of_truthy h, orElse_of_truthy h]
  · have hdefault : v.orElse default = default := if_neg h
    rw [hdefault, orElse, ite_self]

theorem orElse_orNull (v default : Value) : v.orNull.orElse default = v.orElse default := by
  rw [orElse, truthy_orNull, orElse]
  by_cases h : v.truthy = true
  · rw [if_pos h, if_pos h, orNull_eq_self.mpr (.inl h)]
  · rw [if_neg h, if_neg h]

end Value

theorem optionalField_orNull (name : String) (v : Value) :
    optionalField name v.orNull = optionalField name v := by
  rw [optionalField, optionalField, Value.truthy_orNull]
  by_cases h : v.truthy = true
  · rw [if_pos h, if_pos h, Value.orNull_eq_self.mpr (.inl h)]
  · rw [if_neg h, if_neg h]

/-! ## Actions -/

/-- Holds of an operand that names no group without a name. -/
def Operand.Canonical (operand : Operand) : Prop :=
  ∀ group, operand.group = some group → group.truthy = true

/-- Holds of an action that some document describes. -/
def Action.Canonical : Action → Prop
  | .set _ operand | .append _ operand => operand.Canonical
  | .emit | .clear _ => True

theorem canonical_operandOf (doc : Value) : (operandOf doc).Canonical :=
  fun _ hgroup ↦ Value.truthy_of_given? hgroup

theorem Action.Describes.canonical {doc : Value} {a : Action} (h : Action.Describes doc a) :
    a.Canonical := by
  cases h with
  | emit | clear => trivial
  | set name operand htype hname hoperand | append name operand htype hname hoperand =>
    rw [← hoperand]
    exact canonical_operandOf doc

/-- The operand that a written action describes is its own. -/
theorem operandOf_write {operand : Operand} (h : operand.Canonical) (type : String)
    (name : Value) :
    operandOf (Value.ofFields ([("type", .str type), ("variable", name)] ++
      Action.operandFields operand)) = operand := by
  obtain ⟨group, literal⟩ := operand
  have hliteral : ((if literal = .null then [] else [("value", literal)]).lookup "value").getD
      .null = literal := by
    by_cases hnull : literal = .null
    · rw [if_pos hnull, hnull]
      rfl
    · rw [if_neg hnull]
      rfl
  have hother : (if literal = .null then [] else [("value", literal)]).lookup "fromGroup" =
      none := by
    split <;> rfl
  rcases group with - | group
  · simp [operandOf, fieldOrNull_ofFields, Action.operandFields, hliteral, hother, List.lookup_cons]
  · have hgroup := Value.given?_of_truthy (h group rfl)
    simp [operandOf, fieldOrNull_ofFields, Action.operandFields, hliteral, hgroup, List.lookup_cons]

/-- A written action describes the action. -/
theorem Action.describes_write {a : Action} (h : a.Canonical) : Action.Describes a.write a := by
  cases a with
  | emit => exact .emit (has_ofFields rfl)
  | clear name => exact .clear name (has_ofFields rfl) (has_ofFields rfl)
  | set name operand =>
    exact .set name operand (has_ofFields rfl) (has_ofFields rfl) (operandOf_write h "set" name)
  | append name operand =>
    exact .append name operand (has_ofFields rfl) (has_ofFields rfl)
      (operandOf_write h "append" name)

/-! ## States -/

/-- Holds of a rule that some document describes: what it has of its optional fields has content. -/
structure Rule.Canonical (r : Rule) : Prop where
  flags : ∀ flags, r.flags = some flags → flags.truthy = true
  rename : r.rename ≠ some []
  action : ∀ a ∈ r.actions, a.Canonical
  transition : ∀ t, r.transition = some t → t.condition.truthy = true

theorem Transition.describes_write {t : Transition} (h : t.condition.truthy = true) :
    Transition.Describes t.write t :=
  ⟨has_ofFields rfl, Value.orElse_of_truthy h⟩

/-- What is so of all parts that documents describe is so of the parts in a list of documents. -/
theorem Lists.forall {α : Type} {describes : Value → α → Prop} {P : α → Prop} {v : Value}
    {parts : List α} (h : Lists describes v parts) (hP : ∀ doc a, describes doc a → P a) :
    ∀ a ∈ parts, P a := by
  obtain ⟨docs, -, hdocs⟩ := h
  induction hdocs with
  | nil => exact List.forall_mem_nil P
  | cons hfirst hrest ih => exact List.forall_mem_cons.mpr ⟨hP _ _ hfirst, ih⟩

theorem exists_of_rel_some {α : Type} {describes : Value → α → Prop} {v? : Option Value} {a : α}
    (h : Option.Rel describes v? (some a)) : ∃ v, v? = some v ∧ describes v a := by
  cases h with
  | some h => exact ⟨_, rfl, h⟩

theorem eq_none_of_rel_none {α : Type} {describes : Value → α → Prop} {v? : Option Value}
    (h : Option.Rel describes v? none) : v? = none := by
  cases h
  rfl

/-- What has content is no empty table. -/
theorem ne_nil_of_table {v : Value} {names : Table Value} (htruthy : v.truthy = true)
    (h : v.table = .ok names) : names ≠ [] := by
  rintro rfl
  cases v with
  | object fields =>
    cases h
    cases htruthy
  | null | bool | int | float | str | list =>
    obtain ⟨parts, hparts, h⟩ := bind_eq_ok.mp h
    obtain ⟨entries, hentries, h⟩ := bind_eq_ok.mp h
    obtain ⟨part, hpart⟩ := List.exists_mem_of_ne_nil _ (ne_nil_of_elements htruthy hparts)
    obtain ⟨e, he, -⟩ := exists_result_of_mapM hentries hpart
    -- The key of any pair would be found in the table.
    have hfound := (Table.isSome_find?_ofList entries e.1).mpr ⟨e, he, Key.same_self _⟩
    rw [pure_eq_ok.mp h] at hfound
    cases hfound

theorem Rule.Describes.canonical {doc : Value} {r : Rule} (h : Rule.Describes doc r) :
    r.Canonical where
  flags flags hflags := Value.truthy_of_given? (h.flags.trans hflags)
  rename := by
    intro hempty
    obtain ⟨names, hnames, htable⟩ := exists_of_rel_some (hempty ▸ h.rename)
    exact ne_nil_of_table (Value.truthy_of_given? hnames) htable rfl
  action := h.actions.forall fun _ _ ↦ Action.Describes.canonical
  transition t ht := by
    obtain ⟨v, -, hdoc⟩ := exists_of_rel_some (ht ▸ h.transition)
    rw [← hdoc.condition]
    exact Value.truthy_orElse rfl

/-- The fields of a written rule that may be left out. -/
theorem Rule.fields_write (r : Rule) :
    fieldOrNull r.write "flags" = r.flags.getD .null ∧
      fieldOrNull r.write "map" = ((r.rename.map Value.object).getD .null).orNull ∧
      fieldOrNull r.write "actions" = .list (r.actions.map Action.write) ∧
      fieldOrNull r.write "transition" = (r.transition.map Transition.write).getD .null := by
  rcases r with ⟨pattern, - | flags, - | names, actions, - | transition⟩ <;>
    simp [Rule.write, fieldOrNull_ofFields, List.lookup_cons, List.lookup_append]

/-- A written rule describes the rule. -/
theorem Rule.describes_write {r : Rule} (h : r.Canonical) : Rule.Describes r.write r := by
  obtain ⟨hflags, hnames, hactions, htransition⟩ := r.fields_write
  refine ⟨has_ofFields rfl, ?_, ?_, ?_, ?_⟩
  · rw [hflags]
    rcases hr : r.flags with - | flags
    · rfl
    · exact Value.given?_of_truthy (h.flags flags hr)
  · rw [hnames]
    rcases hr : r.rename with - | names
    · exact .none
    · have hne : names ≠ [] := fun hempty ↦ h.rename (hempty ▸ hr)
      have htruthy : (Value.object names).truthy = true := by simpa [Value.truthy] using hne
      rw [Option.map_some, Option.getD_some, Value.orNull_eq_self.mpr (.inl htruthy),
        Value.given?_of_truthy htruthy]
      exact .some rfl
  · rw [hactions]
    exact lists_write (List.forall₂_same.mpr fun a ha ↦ Action.describes_write (h.action a ha))
  · rw [htransition]
    rcases hr : r.transition with - | t
    · exact .none
    · exact .some (Transition.describes_write (h.transition t hr))

/-- Holds of a state that some document describes. -/
def State.Canonical (s : State) : Prop :=
  ∀ r ∈ s.rules, r.Canonical

theorem State.Describes.canonical {doc : Value} {s : State} (h : State.Describes doc s) :
    s.Canonical :=
  h.rules.forall fun _ _ ↦ Rule.Describes.canonical

theorem State.describes_write {s : State} (h : s.Canonical) : State.Describes s.write s :=
  ⟨has_ofFields rfl,
    lists_write (List.forall₂_same.mpr fun r hr ↦ Rule.describes_write (h r hr))⟩

/-! ## Variables -/

/-- Holds of a variable that some document declares. -/
structure Variable.Canonical (v : Variable) : Prop where
  type : v.type.truthy = true
  description : v.description.orElse (.str "") = v.description

/-- A variable as it is left by writing and reading it. -/
def Variable.settled (v : Variable) : Variable :=
  { v with validation := v.validation.orNull }

theorem Variable.Describes.canonical {doc : Value} {v : Variable} (h : Variable.Describes doc v) :
    v.Canonical where
  type := by
    rw [← h.type]
    exact Value.truthy_orElse rfl
  description := by rw [← h.description, Value.orElse_orElse]

/-- A written variable declares the variable, but for a validation without content. -/
theorem Variable.describes_write {v : Variable} (h : v.Canonical) :
    Variable.Describes v.write v.settled where
  name := has_ofFields rfl
  type := Value.orElse_of_truthy h.type
  validation := by
    simp [Variable.write, fieldOrNull_ofFields, List.lookup_cons, List.lookup_append, settled]
  description := by
    have hfield : fieldOrNull v.write "description" = v.description.orNull := by
      simp [Variable.write, fieldOrNull_ofFields, List.lookup_cons, List.lookup_append]
    rw [hfield, Value.orElse_orNull]
    exact h.description

/-! ## Templates -/

namespace Template

/-- Holds of a template that some document describes. -/
structure Canonical (t : Template) : Prop where
  name : t.name.orElse (.str "") = t.name
  states : ∀ s ∈ t.states, s.Canonical
  vendor : t.vendor.truthy = true
  description : t.description.orElse (.str "") = t.description
  declared : ∀ v ∈ t.declared, v.Canonical

/-- A template as it is left by writing and reading it. -/
def settled (t : Template) : Template :=
  { t with
    deviceOs := t.deviceOs.orNull
    command := t.command.orNull
    declared := t.declared.map Variable.settled }

theorem Describes.canonical {doc : Value} {t : Template} (h : Describes doc t) : t.Canonical where
  name := by rw [← h.name, Value.orElse_orElse]
  states := h.states.forall fun _ _ ↦ State.Describes.canonical
  vendor := by
    rw [← h.vendor]
    exact Value.truthy_orElse rfl
  description := by rw [← h.description, Value.orElse_orElse]
  declared := h.declared.forall fun _ _ ↦ Variable.Describes.canonical

/-- The fields of a written template. -/
theorem fields_write (t : Template) :
    fieldOrNull t.write "deviceOs" = t.deviceOs.orNull ∧
      fieldOrNull t.write "command" = t.command.orNull ∧
      fieldOrNull t.write "description" = t.description.orNull ∧
      (fieldOrNull t.write "variables").elementsOrNone = .ok (t.declared.map Variable.write) ∧
      fieldOrNull t.write "states" = .list (t.states.map State.write) ∧
      fieldOrNull t.write "metadata" = (Value.object t.metadata).orNull := by
  rcases t with ⟨id, name, states, vendor, deviceOs, command, description, - | ⟨v, declared⟩,
    metadata⟩ <;>
    simp [write, fieldOrNull_ofFields, List.lookup_cons, List.lookup_append, elementsOrNone_list,
      elementsOrNone_null]

/-- A written template describes the template, but for three fields without content. -/
theorem describes_write {t : Template} (h : t.Canonical) : Describes t.write t.settled := by
  obtain ⟨hdeviceOs, hcommand, hdescription, hdeclared, hstates, hmetadata⟩ := t.fields_write
  exact {
    id := has_ofFields rfl
    name := h.name
    states := by
      rw [hstates]
      exact lists_write (List.forall₂_same.mpr fun s hs ↦ State.describes_write (h.states s hs))
    vendor := Value.orElse_of_truthy h.vendor
    deviceOs := hdeviceOs
    command := hcommand
    description := by
      rw [hdescription, Value.orElse_orNull]
      exact h.description
    declared := by
      refine ⟨_, hdeclared, ?_⟩
      rw [settled, List.forall₂_map_left_iff, List.forall₂_map_right_iff]
      exact List.forall₂_same.mpr fun v hv ↦ Variable.describes_write (h.declared v hv)
    metadata := by
      rw [hmetadata, Value.orElse_orNull, settled]
      rcases t.metadata with - | ⟨e, fields⟩ <;> rfl }

end Template

end LineMachine
