import LineMachine.Proofs.Template.WellFormed
import LineMachine.Proofs.Template.Written

/-!
# Templates whose documents are accepted

A template is validated through the document that is written of it. Every field that validation asks
for is written there, whatever it holds, so what validation asks of the document can be said of the
template itself (`wellFormed_write`, `checkable_write`): of its states and not of what is found in
the field that they are listed in.
-/

namespace LineMachine.Validation

/-! ## Fields of written parts -/

@[simp] theorem partsOf_list (items : List Value) : partsOf (.list items) = items := rfl

theorem iterable_list (items : List Value) : Iterable (.list items) :=
  fun _ ↦ rfl

theorem truthy_list {items : List Value} : (Value.list items).truthy = true ↔ items ≠ [] := by
  simp [Value.truthy]

theorem isObject_ofFields (fields : List (String × Value)) :
    isObject (Value.ofFields fields) = true := rfl

/-- What is written of a part has content. -/
theorem truthy_ofFields_cons (e : String × Value) (fields : List (String × Value)) :
    (Value.ofFields (e :: fields)).truthy = true := rfl

/-! ## Parts -/

theorem wellFormedVariable_write {v : Variable} :
    WellFormedVariable v.write ↔
      v.name.truthy = true ∧ (v.type.truthy = true → v.type ∈ variableTypes) := by
  have hname : fieldOrNull v.write "name" = v.name := Has.fieldOrNull (has_ofFields rfl)
  have htype : fieldOrNull v.write "type" = v.type := Has.fieldOrNull (has_ofFields rfl)
  constructor
  · intro h
    exact ⟨hname ▸ h.name, htype ▸ h.type⟩
  · rintro ⟨hcontent, hknown⟩
    exact ⟨isObject_ofFields _, hname.symm ▸ hcontent, htype.symm ▸ hknown⟩

theorem wellFormedTransition_write {names : List Value} {t : Transition} :
    WellFormedTransition names t.write ↔
      t.target.truthy = true ∧ (t.target = .str selfTarget ∨ t.target = .str endTarget ∨
        ∃ name ∈ names, t.target.sameKey name = true) := by
  have htarget : fieldOrNull t.write "to" = t.target := Has.fieldOrNull (has_ofFields rfl)
  have hobject : isObject t.write = true := isObject_ofFields _
  rw [wellFormedTransition_iff, htarget, and_iff_right hobject]

/-- Holds of a rule of a template whose names of states are given, if what is written of it is well
formed. -/
theorem wellFormedPattern_write {names : List Value} {r : Rule} :
    WellFormedPattern names r.write ↔
      WellFormedRegex r.pattern (r.flags.getD .null) ∧
        (∀ a ∈ r.actions, WellFormedAction a.write) ∧
        ∀ t, r.transition = some t → WellFormedTransition names t.write := by
  obtain ⟨hflags, -, hactions, htransition⟩ := r.fields_write
  have hpattern : fieldOrNull r.write "regex" = r.pattern := Has.fieldOrNull (has_ofFields rfl)
  have hobject : isObject r.write = true := isObject_ofFields _
  rw [wellFormedPattern_iff, hpattern, hflags, hactions, htransition, partsOf_list,
    List.forall_mem_map, and_iff_right hobject]
  rcases r.transition with - | t
  · simp [Value.truthy]
  · have hcontent : t.write.truthy = true := truthy_ofFields_cons _ _
    simp [hcontent]

theorem wellFormedState_write {names : List Value} {s : State} :
    WellFormedState names s.write ↔
      s.name.truthy = true ∧ s.rules ≠ [] ∧ ∀ r ∈ s.rules, WellFormedPattern names r.write := by
  have hname : fieldOrNull s.write "name" = s.name := Has.fieldOrNull (has_ofFields rfl)
  have hpatterns : fieldOrNull s.write "patterns" = .list (s.rules.map Rule.write) :=
    Has.fieldOrNull (has_ofFields rfl)
  have hobject : isObject s.write = true := isObject_ofFields _
  rw [wellFormedState_iff, hname, hpatterns, truthy_list, partsOf_list, List.forall_mem_map,
    and_iff_right hobject, Ne, List.map_eq_nil_iff]

/-! ## Templates -/

theorem partsOf_variables (t : Template) :
    partsOf (fieldOrNull t.write "variables") = t.declared.map Variable.write :=
  (elementsOrNone_eq_ok.mp t.fields_write.2.2.2.1).2

theorem partsOf_states (t : Template) :
    partsOf (fieldOrNull t.write "states") = t.states.map State.write := by
  rw [t.fields_write.2.2.2.2.1, partsOf_list]

theorem stateNames_write (t : Template) : stateNames t.write = t.states.map State.name := by
  have hname : ∀ s : State, fieldOrNull s.write "name" = s.name :=
    fun s ↦ Has.fieldOrNull (has_ofFields rfl)
  rw [stateNames, partsOf_states, List.map_map]
  exact List.map_congr_left fun s _ ↦ hname s

/-- The document of a template is well formed exactly if the parts of the template are. -/
theorem wellFormed_write {t : Template} :
    WellFormed t.write ↔
      t.id.truthy = true ∧ t.name.truthy = true ∧ t.vendor.truthy = true ∧ t.states ≠ [] ∧
        (∀ v ∈ t.declared, WellFormedVariable v.write) ∧
        (t.states.map State.name).Pairwise (fun m n ↦ m.sameKey n = false) ∧
        ∀ s ∈ t.states, WellFormedState (t.states.map State.name) s.write := by
  have hid : fieldOrNull t.write "id" = t.id := Has.fieldOrNull (has_ofFields rfl)
  have hname : fieldOrNull t.write "name" = t.name := Has.fieldOrNull (has_ofFields rfl)
  have hvendor : fieldOrNull t.write "vendor" = t.vendor := Has.fieldOrNull (has_ofFields rfl)
  have hobject : isObject t.write = true := isObject_ofFields _
  rw [wellFormed_iff, hid, hname, hvendor, partsOf_variables, stateNames_write, partsOf_states,
    t.fields_write.2.2.2.2.1, truthy_list, Ne, List.map_eq_nil_iff, List.forall_mem_map,
    List.forall_mem_map, and_iff_right hobject]

/-- Validation can go through a template whose states have scalars for names, if it can go through
the patterns and the transitions of their rules. -/
theorem checkable_write {t : Template} (hnames : ∀ s ∈ t.states, s.name.key?.isSome = true)
    (hpatterns : ∀ s ∈ t.states, ∀ r ∈ s.rules, CheckableRegex r.pattern (r.flags.getD .null))
    (htargets : ∀ s ∈ t.states, ∀ r ∈ s.rules, ∀ goal, r.transition = some goal →
      goal.target.key?.isSome = true) : Checkable t.write := by
  rw [checkable_iff, stateNames_write, partsOf_states, t.fields_write.2.2.2.2.1,
    List.forall_mem_map, List.forall_mem_map]
  refine ⟨(elementsOrNone_eq_ok.mp t.fields_write.2.2.2.1).1, iterable_list _, hnames, ?_⟩
  intro s hs
  have hlisted : fieldOrNull s.write "patterns" = .list (s.rules.map Rule.write) :=
    Has.fieldOrNull (has_ofFields rfl)
  rw [checkableState_iff, hlisted, partsOf_list, List.forall_mem_map]
  refine ⟨iterable_list _, fun r hr ↦ ?_⟩
  obtain ⟨hflags, -, hactions, htransition⟩ := r.fields_write
  have hpattern : fieldOrNull r.write "regex" = r.pattern := Has.fieldOrNull (has_ofFields rfl)
  rw [checkablePattern_iff, hpattern, hflags, hactions, htransition]
  refine ⟨hpatterns s hs r hr, iterable_list _, ?_⟩
  rcases hgoal : r.transition with - | goal
  · exact checkableTransition_null
  · have htarget : fieldOrNull goal.write "to" = goal.target := Has.fieldOrNull (has_ofFields rfl)
    intro _
    rw [Option.map_some, Option.getD_some, htarget]
    exact htargets s hs r hr goal hgoal

end LineMachine.Validation
