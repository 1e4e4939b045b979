import Mathlib.Data.List.DropRight
import Mathlib.Tactic.FinCases
import LineMachine.Proofs.TextFsm.Reader

/-!
# Nothing that was read is without a text

Whatever a TextFSM template names is a text with content, so it is not taken for something that was
left out: every state has a name, every rule has an expression, and a rule that has a target leads
to a name (`Document.worded_of_read`). For the expressions this is so because of the circumflex: a
rule starts with one, neither its arrow nor a placeholder is found there, and so the circumflex
comes first in what the rule looks for. Of Values it is not so; one whose name is empty is read like
any other.
-/

namespace LineMachine.TextFsm

open Text

/-- Holds of a state that has a name, and whose rules have expressions and no target without a
name. -/
structure StateDecl.Worded (s : StateDecl) : Prop where
  name : s.name ≠ ""
  expression : ∀ r ∈ s.rules, r.expression ≠ ""
  target : ∀ r ∈ s.rules, r.action.target ≠ some ""

theorem ofList_ne_empty {s : List Char} (h : s ≠ []) : String.ofList s ≠ "" :=
  fun hempty ↦ h (String.ofList_eq_empty_iff.mp hempty)

/-! ## The circumflex of a rule -/

/-- Trimming a text that starts with a character other than a blank leaves that character first. -/
theorem exists_trim {c : Char} (hc : isBlank c = false) (rest : List Char) :
    ∃ after, trim (c :: rest) = c :: after := by
  have htrim : trim (c :: rest) = (c :: rest).rdropWhile isBlank := by
    rw [trim, List.dropWhile_cons, hc, if_neg Bool.false_ne_true]
    rfl
  rw [htrim]
  rcases hkept : (c :: rest).rdropWhile isBlank with - | ⟨d, after⟩
  · have hblank := List.rdropWhile_eq_nil_iff.mp hkept c List.mem_cons_self
    rw [hc] at hblank
    cases hblank
  · have hfront := List.rdropWhile_prefix isBlank (c :: rest)
    rw [hkept, List.cons_prefix_cons] at hfront
    rw [hfront.1]
    exact ⟨after, rfl⟩

theorem trim_cons_of_blank {c : Char} (hc : isBlank c = true) (s : List Char) :
    trim (c :: s) = trim s := by
  rw [trim, List.dropWhile_cons, if_pos hc, trim]

/-- A line that starts a rule has a circumflex behind its blanks. -/
theorem exists_trim_of_starts {s : List Char} (h : RuleDecl.starts.any (·.isPrefixOf s) = true) :
    ∃ after, trim s = '^' :: after := by
  have hcaret (rest : List Char) : ∃ after, trim ('^' :: rest) = '^' :: after :=
    exists_trim (by decide) rest
  obtain ⟨start, hstart, hfront⟩ := List.any_eq_true.mp h
  obtain ⟨rest, rfl⟩ := List.isPrefixOf_iff_prefix.mp hfront
  fin_cases hstart <;>
    simpa only [List.cons_append, List.nil_append, trim_cons_of_blank (c := ' ') (by decide),
      trim_cons_of_blank (c := '\t') (by decide)] using hcaret rest

/-- What stands in front of an arrow starts as the whole does. -/
theorem exists_atArrow? {c : Char} (hc : isBlank c = false) {rest before after : List Char}
    (h : RuleDecl.atArrow? (c :: rest) = some (before, after)) :
    ∃ others, before = c :: others := by
  rw [RuleDecl.atArrow?.eq_def] at h
  simp only [hc] at h
  split at h
  · cases h
    exact ⟨_, rfl⟩
  · split at h <;> cases h

/-- A character that is no dollar sign is not replaced. -/
theorem exists_substitute? {texts : List (String × String)} {c : Char} (hc : c ≠ '$')
    {rest : List Char} {replaced : String}
    (h : substitute? texts (String.ofList (c :: rest)) = some replaced) : replaced ≠ "" := by
  obtain ⟨found, hfound, rfl⟩ := Option.map_eq_some_iff.mp h
  rw [String.toList_ofList, substituteFrom] at hfound
  · obtain ⟨others, -, rfl⟩ := Option.map_eq_some_iff.mp hfound
    exact ofList_ne_empty (List.cons_ne_nil _ _)
  · exact fun _ hdollar _ ↦ hc hdollar
  · exact fun hdollar ↦ hc hdollar

/-! ## Rules -/

theorem RuleDecl.expression_ne_empty {values : List ValueDecl} {rest : List Char} {line : Nat}
    {expression : String}
    (h : expressionOf values (String.ofList ('^' :: rest)) line = .ok expression) :
    expression ≠ "" := by
  rw [expressionOf] at h
  split at h
  · cases h
    exact ofList_ne_empty (List.cons_ne_nil _ _)
  · split at h
    · rename_i hreplaced
      cases h
      exact exists_substitute? (by decide) hreplaced
    · cases h

/-- A target is a name or stands between quotes, so it is not empty. -/
theorem RuleAction.target_of_isTarget {s : List Char} (h : isTarget s = true) :
    String.ofList s ≠ "" := by
  refine ofList_ne_empty ?_
  rintro rfl
  cases h

theorem RuleAction.target_of_read? {s : List Char} {a : RuleAction} (h : read? s = some a) :
    a.target ≠ some "" := by
  simp only [read?] at h
  split at h
  · cases h
    nofun
  split at h
  · cases h
  split at h
  · split at h
    · cases h
      nofun
    split at h
    · rename_i htarget
      cases h
      exact fun hempty ↦ target_of_isTarget htarget (Option.some.inj hempty)
    · cases h
  · split at h
    · rename_i htarget
      cases h
      exact fun hempty ↦ target_of_isTarget htarget (Option.some.inj hempty)
    · cases h

theorem RuleAction.eq_of_checked {line : Nat} {a b : RuleAction} (h : a.checked line = .ok b) :
    b = a := by
  rw [checked] at h
  split at h
  · cases h
    rfl
  split at h
  · cases h
  split at h
  · cases h
  · cases h
    rfl

/-- A rule whose line starts with a circumflex has an expression, and leads to no empty name. -/
theorem RuleDecl.worded_of_read {values : List ValueDecl} {l : Line} {r : RuleDecl}
    (hstarts : starts.any (·.isPrefixOf l.text) = true) (h : read values l = .ok r) :
    r.expression ≠ "" ∧ r.action.target ≠ some "" := by
  obtain ⟨rest, htext⟩ := exists_trim_of_starts hstarts
  have hsource : ∃ others, ((atArrow? (trim l.text)).map (·.1)).getD (trim l.text) =
      '^' :: others := by
    rcases harrow : atArrow? (trim l.text) with - | ⟨before, after⟩
    · exact ⟨rest, htext⟩
    · rw [htext] at harrow
      exact exists_atArrow? (by decide) harrow
  obtain ⟨others, hothers⟩ := hsource
  simp only [read, hothers] at h
  obtain ⟨expression, hexpression, h⟩ := bind_eq_ok.mp h
  obtain ⟨-, -, h⟩ := bind_eq_ok.mp h
  have hcontent := expression_ne_empty hexpression
  split at h
  · cases h
    exact ⟨hcontent, nofun⟩
  · split at h
    · cases h
    · rename_i action hread
      obtain ⟨checked, hchecked, h⟩ := bind_eq_ok.mp h
      cases h
      refine ⟨hcontent, ?_⟩
      rw [RuleAction.eq_of_checked hchecked]
      exact RuleAction.target_of_read? hread

/-! ## States -/

namespace StateDecl

theorem worded_of_readName {found : List StateDecl} {l : Line} {s : StateDecl}
    (hline : l.isEmpty = false) (h : readName found l = .ok s) : s.Worded := by
  simp only [readName] at h
  split at h
  · cases h
  split at h
  · cases h
  cases h
  exact {
    name := ofList_ne_empty (List.isEmpty_eq_false_iff.mp hline)
    expression := List.forall_mem_nil _
    target := List.forall_mem_nil _ }

theorem worded_of_addRule {values : List ValueDecl} {s t : StateDecl} {l : Line}
    (hs : s.Worded) (h : addRule values s l = .ok t) : t.Worded := by
  rw [addRule] at h
  split at h
  · rename_i hstarts
    obtain ⟨r, hr, h⟩ := bind_eq_ok.mp h
    cases h
    obtain ⟨hexpression, htarget⟩ := RuleDecl.worded_of_read hstarts hr
    exact {
      name := hs.name
      expression := List.forall_mem_append.mpr
        ⟨hs.expression, List.forall_mem_singleton.mpr hexpression⟩
      target := List.forall_mem_append.mpr ⟨hs.target, List.forall_mem_singleton.mpr htarget⟩ }
  · cases h

/-- States that are worded stay so while more of them are read. -/
theorem worded_of_readAll {values : List ValueDecl} {found states : List StateDecl}
    {current : Option StateDecl} {lines : List Line}
    (h : readAll values found current lines = .ok states)
    (hfound : ∀ s ∈ found ++ current.toList, s.Worded) : ∀ s ∈ states, s.Worded := by
  induction lines generalizing found current with
  | nil =>
    rw [readAll] at h
    cases h
    exact hfound
  | cons l lines ih =>
    obtain ⟨hfront, hcurrent⟩ := List.forall_mem_append.mp hfound
    rcases current with - | s
    · rw [readAll] at h
      split at h
      · exact ih h hfound
      · rename_i hline
        rw [Bool.or_eq_true, not_or, Bool.not_eq_true] at hline
        obtain ⟨s, hs, h⟩ := bind_eq_ok.mp h
        have hnamed : s.Worded := worded_of_readName hline.1 hs
        exact ih h (List.forall_mem_append.mpr ⟨hfront, List.forall_mem_singleton.mpr hnamed⟩)
    · rw [readAll] at h
      split at h
      · refine ih h ?_
        rw [Option.toList_none, List.append_nil]
        exact hfound
      split at h
      · exact ih h hfound
      · obtain ⟨t, ht, h⟩ := bind_eq_ok.mp h
        have hadded : t.Worded := worded_of_addRule (List.forall_mem_singleton.mp hcurrent) ht
        exact ih h (List.forall_mem_append.mpr ⟨hfront, List.forall_mem_singleton.mpr hadded⟩)

end StateDecl

/-! ## Documents -/

namespace Document

theorem subset_of_checkStates {states kept : List StateDecl} (h : checkStates states = .ok kept) :
    kept ⊆ states := by
  rw [checkStates] at h
  split at h
  · cases h
  split at h
  · cases h
  simp only at h
  split at h
  · cases h
  cases h
  exact List.filter_subset_self _

/-- **The states of what was read are worded.** -/
theorem worded_of_read {content : String} {d : Document} (h : read content = .ok d) :
    ∀ s ∈ d.states, s.Worded := by
  obtain ⟨⟨values, rest⟩, -, h⟩ := bind_eq_ok.mp h
  obtain ⟨found, hfound, h⟩ := bind_eq_ok.mp h
  obtain ⟨states, hstates, h⟩ := bind_eq_ok.mp h
  cases h
  intro s hs
  exact StateDecl.worded_of_readAll hfound (List.forall_mem_nil _) s
    (subset_of_checkStates hstates hs)

end Document

end LineMachine.TextFsm
