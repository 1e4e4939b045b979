import Mathlib.Data.List.Nodup
import LineMachine.Proofs.Except
import LineMachine.TextFsm.Reader
import LineMachine.TextFsm.Import

/-!
# TextFSM templates that were read

Reading a TextFSM template ends with its states checked against each other, and no Value and no
state is taken whose name is there already. A document that was read is therefore *coherent*
(`coherent_of_read`): its names are distinct, it has a state to start in, its final states are
empty, and every rule that is no error leads to one of its states or to a final one.
-/

namespace LineMachine.TextFsm

/-- Holds of a document whose Values and states go together. -/
structure Document.Coherent (d : Document) : Prop where
  /-- No two Values have the same name. -/
  values : d.valueNames.Nodup
  /-- No two states have the same name. -/
  states : (d.states.map (·.name)).Nodup
  /-- There is a state to start in. -/
  start : ∃ s ∈ d.states, s.name = startState
  /-- A final state has no rules. -/
  final : ∀ s ∈ d.states, s.name ∈ finalStates → s.rules = []
  /-- A rule that is no error leads to a final state or to one that is there. -/
  target : ∀ s ∈ d.states, ∀ r ∈ s.rules, r.action.line ≠ some .error →
    ∀ name, r.action.target = some name → name ∉ finalStates → ∃ u ∈ d.states, u.name = name

/-! ## Names -/

theorem ValueDecl.nodup_of_readAll {found values : List ValueDecl} {lines rest : List Line}
    (h : readAll found lines = .ok (values, rest)) (hfound : (found.map (·.name)).Nodup) :
    (values.map (·.name)).Nodup := by
  induction lines generalizing found with
  | nil =>
    cases h
    exact hfound
  | cons l lines ih =>
    rw [readAll] at h
    split at h
    · cases h
      exact hfound
    split at h
    · exact ih h hfound
    split at h
    · obtain ⟨v, -, h⟩ := bind_eq_ok.mp h
      split at h
      · cases h
      · rename_i hnew
        have hname : v.name ∉ found.map (·.name) := by
          intro hmem
          obtain ⟨w, hw, hwv⟩ := List.mem_map.mp hmem
          exact hnew (List.any_eq_true.mpr ⟨w, hw, beq_iff_eq.mpr hwv⟩)
        refine ih h ?_
        rw [List.map_append, List.map_singleton, ← List.concat_eq_append]
        exact hfound.concat hname
    split at h
    · cases h
    · cases h

namespace StateDecl

theorem name_of_addRule {values : List ValueDecl} {s t : StateDecl} {l : Line}
    (h : addRule values s l = .ok t) : t.name = s.name := by
  rw [addRule] at h
  split at h
  · obtain ⟨r, -, h⟩ := bind_eq_ok.mp h
    cases h
    rfl
  · cases h

theorem name_of_readName {found : List StateDecl} {s : StateDecl} {l : Line}
    (h : readName found l = .ok s) : s.name ∉ found.map (·.name) := by
  simp only [readName] at h
  split at h
  · cases h
  split at h
  · cases h
  rename_i hnew
  cases h
  intro hmem
  obtain ⟨t, ht, hts⟩ := List.mem_map.mp hmem
  exact hnew (List.any_eq_true.mpr ⟨t, ht, beq_iff_eq.mpr hts⟩)

theorem nodup_of_readAll {values : List ValueDecl} {found states : List StateDecl}
    {current : Option StateDecl} {lines : List Line}
    (h : readAll values found current lines = .ok states)
    (hfound : ((found ++ current.toList).map (·.name)).Nodup) :
    (states.map (·.name)).Nodup := by
  -- The names found so far are those in front and that of the state being read.
  induction lines generalizing found current with
  | nil =>
    rw [readAll] at h
    cases h
    exact hfound
  | cons l lines ih =>
    rcases current with - | s
    · rw [readAll] at h
      split at h
      · exact ih h hfound
      · obtain ⟨s, hs, h⟩ := bind_eq_ok.mp h
        rw [Option.toList_none, List.append_nil] at hfound
        refine ih h ?_
        rw [Option.toList_some, List.map_append, List.map_singleton, ← List.concat_eq_append]
        exact hfound.concat (name_of_readName hs)
    · rw [readAll] at h
      split at h
      · refine ih h ?_
        rw [Option.toList_none, List.append_nil]
        exact hfound
      split at h
      · exact ih h hfound
      · obtain ⟨t, ht, h⟩ := bind_eq_ok.mp h
        refine ih h ?_
        rw [Option.toList_some, List.map_append, List.map_singleton, name_of_addRule ht]
        rwa [Option.toList_some, List.map_append, List.map_singleton] at hfound

end StateDecl

/-! ## Documents -/

namespace Document

/-- A state is found by its name, where no two states have the same one. -/
theorem rulesOf_eq {states : List StateDecl} (hnames : (states.map (·.name)).Nodup)
    {s : StateDecl} (hs : s ∈ states) : rulesOf states s.name = s.rules := by
  induction states with
  | nil => cases hs
  | cons t states ih =>
    rw [List.map_cons, List.nodup_cons] at hnames
    rw [rulesOf, List.find?_cons]
    rcases List.mem_cons.mp hs with rfl | hs
    · simp
    · have hne : (t.name == s.name) = false :=
        beq_eq_false_iff_ne.mpr fun h ↦ hnames.1 (List.mem_map.mpr ⟨s, hs, h.symm⟩)
      rw [hne]
      exact ih hnames.2 hs

/-- What checking the states leaves: all but the final one that is only named to be left out. -/
theorem coherent_of_checkStates {values : List ValueDecl} {states kept : List StateDecl}
    (hvalues : (values.map (·.name)).Nodup) (hstates : (states.map (·.name)).Nodup)
    (h : checkStates states = .ok kept) : Coherent ⟨values, kept⟩ := by
  rw [checkStates] at h
  split at h
  · cases h
  rename_i hstart
  split at h
  · cases h
  rename_i hempty
  simp only at h
  split at h
  · cases h
  rename_i hdangling
  cases h
  have hempty := List.find?_eq_none.mp hempty
  constructor
  · exact hvalues
  · exact hstates.sublist (List.filter_sublist.map _)
  · rw [Bool.not_eq_true', Bool.not_eq_false] at hstart
    obtain ⟨s, hs, hname⟩ := List.any_eq_true.mp hstart
    refine ⟨s, List.mem_filter.mpr ⟨hs, ?_⟩, beq_iff_eq.mp hname⟩
    rw [beq_iff_eq.mp hname]
    decide
  · intro s hs hfinal
    have hrules := hempty s.name hfinal
    rw [rulesOf_eq hstates (List.mem_filter.mp hs).1] at hrules
    simpa using hrules
  · intro s hs r hr hline name htarget hfinal
    have hnone := List.findSome?_eq_none_iff.mp hdangling s hs
    rw [Option.map_eq_none_iff, List.findSome?_eq_none_iff] at hnone
    have hfound := hnone r hr
    rw [danglingTarget?, if_neg hline, htarget] at hfound
    simp only [ite_eq_left_iff, reduceCtorEq, imp_false, Bool.not_eq_true, Bool.not_eq_false,
      Bool.or_eq_true, List.contains_iff_mem, hfinal, false_or] at hfound
    obtain ⟨u, hu, hname⟩ := List.any_eq_true.mp hfound
    exact ⟨u, hu, beq_iff_eq.mp hname⟩

/-- **What was read is coherent.** -/
theorem coherent_of_read {content : String} {d : Document} (h : read content = .ok d) :
    d.Coherent := by
  obtain ⟨⟨values, rest⟩, hvalues, h⟩ := bind_eq_ok.mp h
  obtain ⟨found, hfound, h⟩ := bind_eq_ok.mp h
  obtain ⟨states, hstates, h⟩ := bind_eq_ok.mp h
  cases h
  exact coherent_of_checkStates (ValueDecl.nodup_of_readAll hvalues List.nodup_nil)
    (StateDecl.nodup_of_readAll hfound List.nodup_nil) hstates

end Document

end LineMachine.TextFsm
