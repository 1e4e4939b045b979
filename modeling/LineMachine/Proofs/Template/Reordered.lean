import LineMachine.Proofs.Engine
import LineMachine.Proofs.Template.WellFormed

/-!
# The order of the parts of a document

Two documents are rearrangements of each other if they differ in the order of their states, of the
patterns in a state and of their variables only (`Rearranged`), whatever else they hold that
validation does not look at. Being well formed does not depend on that order, and neither does being
checkable: of the other states, a state depends on no more than which names there are. So validation
returns for both or for neither, and finds both valid or neither (`isValid_iff_wellFormed`).
-/

namespace LineMachine

namespace Validation

/-! ## Lists in another order -/

/-- Holds of fields that are equal, or of lists such that the second has related items in another
order. -/
def Reordered (R : Value → Value → Prop) (v w : Value) : Prop :=
  v = w ∨ ∃ xs ys zs, v = .list xs ∧ w = .list ys ∧ List.Forall₂ R xs zs ∧ zs.Perm ys

theorem forall_mem_congr {R : Value → Value → Prop} {P : Value → Prop} {xs ys : List Value}
    (h : List.Forall₂ R xs ys) (hR : ∀ x y, R x y → (P x ↔ P y)) :
    (∀ x ∈ xs, P x) ↔ ∀ y ∈ ys, P y := by
  induction h with
  | nil => rfl
  | cons hxy _ ih => rw [List.forall_mem_cons, List.forall_mem_cons, hR _ _ hxy, ih]

namespace Reordered

variable {R : Value → Value → Prop} {v w : Value}

theorem truthy_eq (h : Reordered R v w) : w.truthy = v.truthy := by
  rcases h with rfl | ⟨xs, ys, zs, rfl, rfl, hrel, hperm⟩
  · rfl
  · have hempty : xs.isEmpty = zs.isEmpty := by
      cases hrel <;> rfl
    rw [Value.truthy, Value.truthy, hempty, hperm.isEmpty_eq]

theorem iterable_iff (h : Reordered R v w) : Iterable w ↔ Iterable v := by
  rcases h with rfl | ⟨xs, ys, zs, rfl, rfl, -⟩
  · exact .rfl
  · exact ⟨fun _ _ ↦ rfl, fun _ _ ↦ rfl⟩

theorem forall_iff {P : Value → Prop} (h : Reordered R v w) (hR : ∀ x y, R x y → (P x ↔ P y)) :
    (∀ y ∈ partsOf w, P y) ↔ ∀ x ∈ partsOf v, P x := by
  rcases h with rfl | ⟨xs, ys, zs, rfl, rfl, hrel, hperm⟩
  · exact .rfl
  · calc (∀ y ∈ ys, P y) ↔ ∀ z ∈ zs, P z := forall_congr' fun _ ↦ imp_congr_left hperm.mem_iff.symm
      _ ↔ ∀ x ∈ xs, P x := (forall_mem_congr hrel hR).symm

theorem perm_map {f : Value → Value} (h : Reordered R v w) (hR : ∀ x y, R x y → f y = f x) :
    ((partsOf w).map f).Perm ((partsOf v).map f) := by
  rcases h with rfl | ⟨xs, ys, zs, rfl, rfl, hrel, hperm⟩
  · exact .refl _
  · have hsame : zs.map f = xs.map f := by
      rw [← List.forall₂_eq_eq_eq, List.forall₂_map_left_iff, List.forall₂_map_right_iff]
      exact hrel.flip.imp fun x y hyx ↦ hR y x hyx
    calc (ys.map f).Perm (zs.map f) := hperm.symm.map f
      _ = xs.map f := hsame

end Reordered

/-! ## Documents in another order -/

/-- Holds of states that differ in the order of their patterns only. -/
structure StateRearranged (s t : Value) : Prop where
  object : isObject t = isObject s
  name : fieldOrNull t "name" = fieldOrNull s "name"
  patterns : Reordered Eq (fieldOrNull s "patterns") (fieldOrNull t "patterns")

/-- Holds of template documents that differ in the order of their states, of the patterns in these
and of their variables only. -/
structure Rearranged (doc other : Value) : Prop where
  object : isObject other = isObject doc
  id : fieldOrNull other "id" = fieldOrNull doc "id"
  name : fieldOrNull other "name" = fieldOrNull doc "name"
  vendor : fieldOrNull other "vendor" = fieldOrNull doc "vendor"
  declared : Reordered Eq (fieldOrNull doc "variables") (fieldOrNull other "variables")
  states : Reordered StateRearranged (fieldOrNull doc "states") (fieldOrNull other "states")

theorem wellFormedPattern_perm {names others : List Value} (h : others.Perm names) (doc : Value) :
    WellFormedPattern others doc ↔ WellFormedPattern names doc := by
  simp only [wellFormedPattern_iff, wellFormedTransition_iff, h.mem_iff]

theorem wellFormedState_perm {names others : List Value} (h : others.Perm names) (doc : Value) :
    WellFormedState others doc ↔ WellFormedState names doc := by
  simp only [wellFormedState_iff, wellFormedPattern_perm h]

namespace StateRearranged

variable {s t : Value}

theorem wellFormed_iff (h : StateRearranged s t) (names : List Value) :
    WellFormedState names t ↔ WellFormedState names s := by
  rw [wellFormedState_iff, wellFormedState_iff, h.object, h.name, h.patterns.truthy_eq,
    h.patterns.forall_iff fun x y hxy ↦ by rw [hxy]]

theorem checkable_iff (h : StateRearranged s t) : CheckableState t ↔ CheckableState s := by
  rw [checkableState_iff, checkableState_iff, h.patterns.iterable_iff,
    h.patterns.forall_iff fun x y hxy ↦ by rw [hxy]]

end StateRearranged

namespace Rearranged

variable {doc other : Value}

theorem perm_stateNames (h : Rearranged doc other) : (stateNames other).Perm (stateNames doc) :=
  h.states.perm_map fun _ _ hstate ↦ hstate.name

theorem wellFormed_iff (h : Rearranged doc other) : WellFormed other ↔ WellFormed doc := by
  have hnames := h.perm_stateNames
  have hdistinct : (stateNames other).Pairwise (fun m n ↦ m.sameKey n = false) ↔
      (stateNames doc).Pairwise (fun m n ↦ m.sameKey n = false) :=
    hnames.pairwise_iff fun {m n} hmn ↦ (Value.sameKey_comm n m).trans hmn
  have hstates : (∀ t ∈ partsOf (fieldOrNull other "states"),
        WellFormedState (stateNames other) t) ↔
      ∀ s ∈ partsOf (fieldOrNull doc "states"), WellFormedState (stateNames doc) s := by
    simp only [wellFormedState_perm hnames]
    exact h.states.forall_iff fun _ _ hstate ↦ (hstate.wellFormed_iff _).symm
  rw [Validation.wellFormed_iff, Validation.wellFormed_iff, h.object, h.id, h.name, h.vendor,
    h.states.truthy_eq, h.declared.forall_iff fun x y hxy ↦ by rw [hxy], hdistinct, hstates]

theorem checkable_iff (h : Rearranged doc other) : Checkable other ↔ Checkable doc := by
  have hnames : (∀ name ∈ stateNames other, name.key?.isSome = true) ↔
      ∀ name ∈ stateNames doc, name.key?.isSome = true :=
    forall_congr' fun _ ↦ imp_congr_left h.perm_stateNames.mem_iff
  rw [Validation.checkable_iff, Validation.checkable_iff, h.declared.iterable_iff,
    h.states.iterable_iff, hnames,
    h.states.forall_iff fun _ _ hstate ↦ hstate.checkable_iff.symm]

end Rearranged

/-! ## Valid documents -/

/-- **The valid documents are the well-formed ones.** If validation returns, it finds a document
valid exactly if it is well formed. And then it returns for every rearrangement of the document, and
finds it valid or not just the same. -/
theorem isValid_iff_wellFormed {doc : Value} {valid : Bool} (h : isValid doc = .ok valid) :
    (valid = true ↔ WellFormed doc) ∧
      ∀ other, Rearranged doc other → isValid other = .ok valid := by
  obtain ⟨problems, hproblems, hvalid⟩ := bind_eq_ok.mp h
  rw [← pure_eq_ok.mp hvalid]
  have hwell : problems.isEmpty = true ↔ WellFormed doc :=
    List.isEmpty_iff.trans ((decides_validate doc).fine problems hproblems)
  refine ⟨hwell, fun other hother ↦ ?_⟩
  have hcheckable : Checkable other :=
    hother.checkable_iff.mpr ((decides_validate doc).ends.mp ⟨problems, hproblems⟩)
  obtain ⟨found, hfound⟩ := (decides_validate other).ends.mpr hcheckable
  have hsame : found.isEmpty = true ↔ problems.isEmpty = true := by
    rw [hwell, ← hother.wellFormed_iff, List.isEmpty_iff,
      (decides_validate other).fine found hfound]
  rw [isValid, hfound, ok_bind, Bool.eq_iff_iff.mpr hsame]
  rfl

/-- The list of ports with its states, and the patterns in each of them, in the opposite order. -/
def backToFront : Template :=
  { Engine.ports with
    states := (Engine.ports.states.map fun s ↦ { s with rules := s.rules.reverse }).reverse }

/-- The list of ports is valid both ways: the state that is led to may stand after or before. -/
theorem isValid_iff_wellFormed_ports :
    WellFormed Engine.ports.write ∧ Rearranged Engine.ports.write backToFront.write ∧
      isValid backToFront.write = .ok true := by
  have hvalid : isValid Engine.ports.write = .ok true := rfl
  have hstates : List.Forall₂ StateRearranged (Engine.ports.states.map State.write)
      (backToFront.states.reverse.map State.write) := by
    refine .cons ⟨rfl, rfl, .inl rfl⟩ (.cons ⟨rfl, rfl, .inr ?_⟩ .nil)
    exact ⟨_, _, _, rfl, rfl, .cons rfl (.cons rfl .nil), .swap _ _ _⟩
  have hrearranged : Rearranged Engine.ports.write backToFront.write :=
    ⟨rfl, rfl, rfl, rfl, .inl rfl, .inr ⟨_, _, _, rfl, rfl, hstates, .swap _ _ _⟩⟩
  exact ⟨(isValid_iff_wellFormed hvalid).1.mp rfl, hrearranged,
    (isValid_iff_wellFormed hvalid).2 _ hrearranged⟩

end Validation

end LineMachine
