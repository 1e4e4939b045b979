import LineMachine.Proofs.Run.Change
import LineMachine.Proofs.Template.Described
import LineMachine.Proofs.Template.WellFormed

/-!
# What validation vouches for

A document that validation has no problem with can be read, and every part that is read is *sound*:
patterns compile, names that will be keys are scalars, and transitions lead to states that exist.

Validation does not look at the kinds of all fields. Those that it passes over and that a run
depends on are listed by `wellKinded`: the id and the names of variables and groups are scalars,
renamings map to scalars, and renamings and metadata are objects. Every document whose fields have
the kinds that templates are written with is of that sort.
-/

namespace LineMachine

namespace Validation

/-! ## Kinds of fields -/

/-- Whether a field of a document is a scalar. A field that is absent counts as null. -/
def hasScalar (doc : Value) (name : String) : Bool :=
  (fieldOrNull doc name).key?.isSome

/-- Whether a value is an object, or absent. -/
def isObjectOrNone (v : Value) : Bool :=
  isObject v || !v.truthy

/-- The values of an object's fields; none of anything else. -/
def fieldValues (v : Value) : List Value :=
  match v with
  | .object fields => Table.values fields
  | _ => []

/-- Whether the names in an action are scalars. -/
def wellKindedAction (doc : Value) : Bool :=
  hasScalar doc "variable" && hasScalar doc "fromGroup"

/-- Whether a pattern renames its groups by an object of scalars and its actions are well kinded. -/
def wellKindedPattern (doc : Value) : Bool :=
  isObjectOrNone (fieldOrNull doc "map") &&
    (fieldValues (fieldOrNull doc "map")).all (·.key?.isSome) &&
    (items (fieldOrNull doc "actions")).all wellKindedAction

/-- Whether the patterns of a state are well kinded. -/
def wellKindedState (doc : Value) : Bool :=
  (items (fieldOrNull doc "patterns")).all wellKindedPattern

/-- Whether the fields of a template document that validation passes over, and that a run depends
on, have the kinds that they need. -/
def wellKinded (doc : Value) : Bool :=
  hasScalar doc "id" && isObjectOrNone (fieldOrNull doc "metadata") &&
    (items (fieldOrNull doc "variables")).all (hasScalar · "name") &&
    (items (fieldOrNull doc "states")).all wellKindedState

theorem exists_object_of_truthy {v : Value} (h : isObjectOrNone v = true)
    (htruthy : v.truthy = true) : ∃ fields, v = .object fields := by
  rw [isObjectOrNone, htruthy, Bool.not_true, Bool.or_false] at h
  exact exists_fields_of_isObject h

end Validation

open Validation

/-! ## Actions -/

/-- Holds of an action that a run can carry out after any match. -/
def Action.Sound : Action → Prop
  | .set name operand => name.key?.isSome = true ∧ Machine.Sourced operand
  | .append name operand => name.key?.isSome = true ∧ Machine.Sourced operand
  | .clear name => name.key?.isSome = true
  | .emit => True

/-- The operand of a well-kinded action has a value. -/
theorem sourced_readOperand {fields : Table Value}
    (h : hasScalar (.object fields) "fromGroup" = true) :
    Machine.Sourced (Action.readOperand fields) := by
  intro group hgroup
  rw [Action.readOperand, Value.given?] at hgroup
  obtain ⟨-, hgroup⟩ := Option.ite_none_right_eq_some.mp hgroup
  cases hgroup
  exact h

/-- A well-kinded action without a problem is read, and it is sound. -/
theorem Action.read_of_check {state doc : Value} (hkinds : wellKindedAction doc = true)
    (h : checkAction state doc = []) : ∃ a, Action.read doc = .ok a ∧ a.Sound := by
  obtain ⟨hname, hgroup⟩ := Bool.and_eq_true_iff.mp hkinds
  have hfine := checkAction_eq_nil.mp h
  have htype : fieldOrNull doc "type" = .str "emit" ∨ fieldOrNull doc "type" = .str "set" ∨
      fieldOrNull doc "type" = .str "clear" ∨ fieldOrNull doc "type" = .str "append" := by
    simpa [actionTypes] using hfine.type
  have htruthy : (fieldOrNull doc "type").truthy = true := by
    rcases htype with htype | htype | htype | htype <;> rw [htype] <;> rfl
  obtain ⟨fields, rfl⟩ := exists_fields_of_truthy htruthy
  rw [Action.read, require_of_truthy htruthy, ok_bind]
  -- An emission needs nothing else; the others require the variable that the check saw.
  rcases htype with htype | htype | htype | htype
  · rw [htype]
    exact ⟨.emit, rfl, trivial⟩
  · have hrequire := require_of_truthy (hfine.named (by rw [htype]; decide)) "Action 'set'"
    simp only [htype, Value.key_str, ok_bind, hrequire]
    exact ⟨_, rfl, hname, sourced_readOperand hgroup⟩
  · have hrequire := require_of_truthy (hfine.named (by rw [htype]; decide)) "Action 'clear'"
    simp only [htype, Value.key_str, ok_bind, hrequire]
    exact ⟨_, rfl, hname⟩
  · have hrequire := require_of_truthy (hfine.named (by rw [htype]; decide)) "Action 'append'"
    simp only [htype, Value.key_str, ok_bind, hrequire]
    exact ⟨_, rfl, hname, sourced_readOperand hgroup⟩

/-! ## Transitions -/

/-- Holds of a target that leads somewhere, given the names of the states. -/
def KnownTarget (names : List Key) (target : Value) : Prop :=
  target = .str selfTarget ∨ target = .str endTarget ∨
    ∃ k, target.key? = some k ∧ names.any k.same = true

/-- A transition without a problem is read, and its target is known. -/
theorem Transition.read_of_check {names : List Key} {state doc : Value} (hdoc : doc.truthy = true)
    (h : checkTransition names state doc = .ok []) :
    ∃ t, Transition.read doc = .ok t ∧ KnownTarget names t.target := by
  rw [checkTransition] at h
  simp only [hdoc, Bool.not_true, Bool.false_eq_true, if_false] at h
  by_cases htarget : (fieldOrNull doc "to").truthy = true
  · have hread : Transition.read doc = .ok ⟨fieldOrNull doc "to",
        (fieldOrNull doc "when").orElse (.str "match")⟩ := by
      rw [Transition.read, require_of_truthy htarget, ok_bind,
        get_of_isObject (isObject_of_truthy htarget), ok_bind]
      rfl
    refine ⟨_, hread, ?_⟩
    simp only [htarget, Bool.not_true, Bool.false_eq_true, if_false] at h
    by_cases hreserved : fieldOrNull doc "to" = .str selfTarget ∨
        fieldOrNull doc "to" = .str endTarget
    · exact hreserved.elim .inl fun hend ↦ .inr (.inl hend)
    · rw [if_neg hreserved] at h
      obtain ⟨k, hk, hproblem⟩ := bind_eq_ok.mp h
      refine .inr (.inr ⟨k, Value.key_eq_ok.mp hk, ?_⟩)
      simpa using problemIf_eq_nil.mp (pure_eq_ok.mp hproblem)
  · simp only [htarget, Bool.not_false, if_true] at h
    cases h

/-! ## Rules -/

/-- Holds of a rule that compiles and that a run can take, given the names of the states. -/
structure Rule.Sound (names : List Key) (r : Rule) : Prop where
  /-- The pattern can be read. -/
  pattern : ∃ p, Regex.Pattern.ofValues r.pattern (r.flags.getD .null) = .ok p
  /-- Groups are stored in variables named by scalars. -/
  rename : ∀ table, r.rename = some table → ∀ v ∈ Table.values table, v.key?.isSome = true
  /-- The actions can be carried out. -/
  action : ∀ a ∈ r.actions, a.Sound
  /-- The transition leads somewhere. -/
  target : ∀ t, r.transition = some t → KnownTarget names t.target

/-- Flags without content are no flags. -/
theorem ofValues_given (source flags : Value) :
    Regex.Pattern.ofValues source (flags.given?.getD .null) =
      Regex.Pattern.ofValues source flags := by
  by_cases h : flags.truthy = true
  · rw [Value.given?, if_pos h, Option.getD_some]
  · rw [Value.given?, if_neg h, Option.getD_none, Regex.Pattern.ofValues, Regex.Pattern.ofValues,
      Regex.Flags.ofValue_null, Regex.Flags.ofValue, if_neg h]

/-- What a pattern without a problem consists of has no problem. -/
theorem parts_of_checkPattern {names : List Key} {state doc : Value} {index : Nat}
    (h : checkPattern names state index doc = .ok []) :
    isObject doc = true ∧
      checkRegex state index (fieldOrNull doc "regex") (fieldOrNull doc "flags") = .ok [] ∧
      (∃ actions, (fieldOrNull doc "actions").elementsOrNone = .ok actions ∧
        ∀ a ∈ actions, checkAction state a = []) ∧
      checkTransition names state (fieldOrNull doc "transition") = .ok [] := by
  rw [checkPattern] at h
  by_cases hobject : isObject doc = true
  · simp only [hobject, Bool.not_true, Bool.false_eq_true, if_false] at h
    obtain ⟨ofRegex, hregex, h⟩ := bind_eq_ok.mp h
    obtain ⟨actions, hactions, h⟩ := bind_eq_ok.mp h
    obtain ⟨ofTransition, htransition, h⟩ := bind_eq_ok.mp h
    rw [pure_eq_ok, List.append_eq_nil_iff, List.append_eq_nil_iff, List.flatMap_eq_nil_iff] at h
    obtain ⟨⟨rfl, hnone⟩, rfl⟩ := h
    exact ⟨hobject, hregex, ⟨actions, hactions, hnone⟩, htransition⟩
  · simp only [hobject, Bool.not_false, if_true] at h
    cases h

/-- The renaming of a well-kinded pattern is read as it stands. -/
theorem table_of_wellKinded {v : Value} (hobject : isObjectOrNone v = true)
    (hvalues : ∀ found ∈ fieldValues v, found.key?.isSome = true) (htruthy : v.truthy = true) :
    ∃ table, v.table = .ok table ∧ ∀ found ∈ Table.values table, found.key?.isSome = true := by
  obtain ⟨fields, rfl⟩ := exists_object_of_truthy hobject htruthy
  exact ⟨fields, rfl, hvalues⟩

/-- A well-kinded pattern without a problem is read, and the rule is sound. -/
theorem Rule.read_of_check {names : List Key} {state doc : Value} {index : Nat}
    (hkinds : wellKindedPattern doc = true) (h : checkPattern names state index doc = .ok []) :
    ∃ r, Rule.read doc = .ok r ∧ r.Sound names := by
  obtain ⟨hobject, hregex, ⟨parts, hparts, hnone⟩, htransition⟩ := parts_of_checkPattern h
  rw [wellKindedPattern, Bool.and_eq_true, Bool.and_eq_true, List.all_eq_true,
    List.all_eq_true] at hkinds
  obtain ⟨⟨hmap, hvalues⟩, hkinded⟩ := hkinds
  obtain ⟨⟨text, htext, hcontent⟩, p, hp⟩ := (decides_checkRegex.fine [] hregex).mp rfl
  have htruthy : (fieldOrNull doc "regex").truthy = true := by
    simpa [htext, Value.truthy] using hcontent
  obtain ⟨rename, hrename, hscalars⟩ := exists_readGiven (table_of_wellKinded hmap hvalues)
  obtain ⟨transition, hread, hknown⟩ := exists_readGiven fun htruthy ↦
    Transition.read_of_check htruthy htransition
  have hactions : ∀ a ∈ parts, ∃ found, Action.read a = .ok found ∧ found.Sound := by
    intro a ha
    have hitem := mem_items hparts ha (checkAction_eq_nil.mp (hnone a ha)).object
    exact Action.read_of_check (hkinded a hitem) (hnone a ha)
  obtain ⟨actions, hfound, hsound⟩ := exists_mapM hactions
  refine ⟨⟨fieldOrNull doc "regex", (fieldOrNull doc "flags").given?, rename, actions, transition⟩,
    ?_, ⟨p, (ofValues_given _ _).trans hp⟩, hscalars, hsound, hknown⟩
  simp only [Rule.read_eq, get_of_isObject hobject, require_of_truthy htruthy, ok_bind, hrename,
    hparts, hfound, hread]
  rfl

/-! ## States -/

/-- Holds of a state that compiles and whose rules are sound, given the names of the states. -/
structure State.Sound (names : List Key) (s : State) : Prop where
  /-- The state is named by a scalar. -/
  name : s.name.key?.isSome = true
  /-- Its rules can be taken. -/
  rule : ∀ r ∈ s.rules, r.Sound names

/-- What a state without a problem consists of has no problem. -/
theorem parts_of_checkState {names : List Key} {doc : Value} (h : checkState names doc = .ok []) :
    (fieldOrNull doc "name").truthy = true ∧
      ∃ patterns, (fieldOrNull doc "patterns").elementsOrNone = .ok patterns ∧
        ∀ p ∈ patterns, ∃ index, checkPattern names (fieldOrNull doc "name") index p = .ok [] := by
  rw [checkState] at h
  by_cases hobject : isObject doc = true
  · simp only [hobject, Bool.not_true, Bool.false_eq_true, if_false] at h
    by_cases hpatterns : (fieldOrNull doc "patterns").truthy = true
    · simp only [hpatterns, Bool.not_true, Bool.false_eq_true, if_false] at h
      obtain ⟨patterns, hfound, h⟩ := bind_eq_ok.mp h
      obtain ⟨problems, hproblems, h⟩ := bind_eq_ok.mp h
      obtain ⟨hname, rfl⟩ := List.append_eq_nil_iff.mp (pure_eq_ok.mp h)
      refine ⟨by simpa using problemIf_eq_nil.mp hname, patterns, ?_, ?_⟩
      · rw [elementsOrNone_of_truthy hpatterns, hfound]
      · intro p hp
        obtain ⟨index, hindex⟩ := List.mem_iff_getElem?.mp hp
        exact ⟨index, eq_nil_of_collect hproblems (p, index)
          (List.mem_zipIdx_iff_getElem?.mpr hindex)⟩
    · simp only [hpatterns, Bool.not_false, if_true] at h
      cases (List.append_eq_nil_iff.mp (pure_eq_ok.mp h)).2
  · simp only [hobject, Bool.not_false, if_true] at h
    cases h

/-- A state that was read bears the name that it has in the document. -/
theorem State.name_of_read {doc : Value} {s : State} (h : State.read doc = .ok s) :
    s.name = fieldOrNull doc "name" :=
  (State.read_eq_ok.mp h).name.fieldOrNull.symm

/-- A well-kinded state without a problem is read, and it is sound. -/
theorem State.read_of_check {names : List Key} {doc : Value}
    (hkinds : wellKindedState doc = true) (hname : (fieldOrNull doc "name").key?.isSome = true)
    (h : checkState names doc = .ok []) : ∃ s, State.read doc = .ok s ∧ s.Sound names := by
  obtain ⟨htruthy, patterns, hpatterns, hnone⟩ := parts_of_checkState h
  have hrules : ∀ p ∈ patterns, ∃ r, Rule.read p = .ok r ∧ r.Sound names := by
    intro p hp
    obtain ⟨index, hcheck⟩ := hnone p hp
    have hitem := mem_items hpatterns hp (parts_of_checkPattern hcheck).1
    exact Rule.read_of_check (List.all_eq_true.mp hkinds p hitem) hcheck
  obtain ⟨rules, hread, hsound⟩ := exists_mapM hrules
  refine ⟨⟨fieldOrNull doc "name", rules⟩, ?_, hname, hsound⟩
  rw [State.read, require_of_truthy htruthy, ok_bind,
    get_of_isObject (isObject_of_truthy htruthy), ok_bind, hpatterns, ok_bind, hread]
  rfl

/-! ## Names -/

theorem nameState_eq_ok {found : List Key × List Problem} {state : Value}
    {next : List Key × List Problem} (h : nameState found state = .ok next) :
    ∃ k, (fieldOrNull state "name").key? = some k ∧ ∀ j ∈ next.1, j ∈ found.1 ∨ j = k := by
  obtain ⟨k, hk, h⟩ := bind_eq_ok.mp h
  refine ⟨k, Value.key_eq_ok.mp hk, ?_⟩
  rw [← pure_eq_ok.mp h]
  intro j hj
  by_cases htruthy : (fieldOrNull state "name").truthy = true
  · simp only [htruthy, if_true] at hj
    exact (List.mem_append.mp hj).imp_right List.mem_singleton.mp
  · simp only [htruthy] at hj
    exact .inl hj

/-- The names that are found are the names of states. -/
theorem names_of_foldlM {states : List Value} {found next : List Key × List Problem}
    (h : states.foldlM nameState found = .ok next) :
    ∀ k ∈ next.1, k ∈ found.1 ∨ ∃ s ∈ states, (fieldOrNull s "name").key? = some k := by
  induction states generalizing found with
  | nil =>
    cases h
    exact fun k hk ↦ .inl hk
  | cons s states ih =>
    obtain ⟨between, hbetween, hrest⟩ := bind_eq_ok.mp h
    obtain ⟨k, hk, hmem⟩ := nameState_eq_ok hbetween
    intro j hj
    rcases ih hrest j hj with hj | ⟨s', hs', hname⟩
    · rcases hmem j hj with hj | rfl
      · exact .inl hj
      · exact .inr ⟨s, List.mem_cons_self, hk⟩
    · exact .inr ⟨s', List.mem_cons_of_mem s hs', hname⟩

/-! ## Variables -/

/-- A variable without a problem is read, and bears the name that it has in the document. -/
theorem Variable.read_of_check {doc : Value} (hname : hasScalar doc "name" = true)
    (h : checkVariable doc = []) :
    ∃ v, Variable.read doc = .ok v ∧ v.name.key?.isSome = true := by
  obtain ⟨hobject, htruthy, -⟩ := checkVariable_eq_nil.mp h
  have hread : Variable.read doc = .ok ⟨fieldOrNull doc "name",
      (fieldOrNull doc "type").orElse (.str "string"), fieldOrNull doc "validation",
      (fieldOrNull doc "description").orElse (.str "")⟩ := by
    simp only [Variable.read, require_of_truthy htruthy, get_of_isObject hobject, ok_bind]
    rfl
  exact ⟨_, hread, hname⟩

/-! ## Templates -/

/-- Holds of a template that compiles and whose machine is safe. -/
structure Template.Sound (t : Template) : Prop where
  /-- The id can be used as a key. -/
  id : t.id.key?.isSome = true
  /-- There is a state to start in. -/
  states : t.states ≠ []
  /-- The declared variables are named by scalars. -/
  declared : ∀ v ∈ t.declared, v.name.key?.isSome = true
  /-- The states are sound, given names that they bear. -/
  names : ∃ names, (∀ k ∈ names, ∃ s ∈ t.states, s.name.key? = some k) ∧
    ∀ s ∈ t.states, s.Sound names

/-- What a template document without a problem consists of has no problem. -/
theorem parts_of_validate {doc : Value} (h : validate doc = .ok []) :
    (fieldOrNull doc "id").truthy = true ∧ (fieldOrNull doc "states").truthy = true ∧
      (∃ declared, (fieldOrNull doc "variables").elementsOrNone = .ok declared ∧
        ∀ v ∈ declared, checkVariable v = []) ∧
      ∃ states names, (fieldOrNull doc "states").elementsOrNone = .ok states ∧
        states.foldlM nameState ([], []) = .ok (names, []) ∧
        ∀ s ∈ states, checkState names s = .ok [] := by
  rw [validate] at h
  by_cases hobject : isObject doc = true
  · simp only [hobject, Bool.not_true, Bool.false_eq_true, if_false] at h
    obtain ⟨declared, hdeclared, h⟩ := bind_eq_ok.mp h
    obtain ⟨states, hstates, h⟩ := bind_eq_ok.mp h
    obtain ⟨⟨names, ofNames⟩, hnames, h⟩ := bind_eq_ok.mp h
    obtain ⟨ofStates, hchecked, h⟩ := bind_eq_ok.mp h
    simp only [pure_eq_ok, List.append_eq_nil_iff, problemIf_eq_nil, lacks, Bool.not_eq_false',
      List.flatMap_eq_nil_iff] at h
    obtain ⟨⟨⟨⟨⟨⟨hid, -⟩, -⟩, htruthy⟩, hvariables⟩, rfl⟩, rfl⟩ := h
    exact ⟨hid, htruthy, ⟨declared, hdeclared, hvariables⟩, states, names, hstates, hnames,
      eq_nil_of_collect hchecked⟩
  · simp only [hobject, Bool.not_false, if_true] at h
    cases h

/-- The metadata of a well-kinded document is read. -/
theorem metadata_of_wellKinded {v : Value} (h : isObjectOrNone v = true) :
    ∃ table, (v.orElse (.object [])).table = .ok table := by
  rw [Value.orElse]
  by_cases htruthy : v.truthy = true
  · rw [if_pos htruthy]
    obtain ⟨fields, rfl⟩ := exists_object_of_truthy h htruthy
    exact ⟨fields, rfl⟩
  · rw [if_neg htruthy]
    exact ⟨[], rfl⟩

/-- **A well-kinded document without a problem is read**, and the template is sound. -/
theorem Template.read_of_validate {doc : Value} (hkinds : wellKinded doc = true)
    (h : Validation.validate doc = .ok []) : ∃ t, Template.read doc = .ok t ∧ t.Sound := by
  obtain ⟨hid, htruthy, ⟨parts, hparts, hchecked⟩, docs, names, hdocs, hnames, hnone⟩ :=
    parts_of_validate h
  rw [wellKinded, Bool.and_eq_true, Bool.and_eq_true, Bool.and_eq_true, List.all_eq_true,
    List.all_eq_true] at hkinds
  obtain ⟨⟨⟨hscalar, hmetadata⟩, hvariables⟩, hstates⟩ := hkinds
  have hnamed := List.forall_mem_map.mp (exists_nameStates.mp ⟨_, hnames⟩)
  have hfound := names_of_foldlM hnames
  have hobject := isObject_of_truthy hid
  -- The parts are read one by one, each of them because validation had no problem with it.
  have hdeclared : ∀ v ∈ parts, ∃ d, Variable.read v = .ok d ∧ d.name.key?.isSome = true := by
    intro v hv
    have hitem := mem_items hparts hv (checkVariable_eq_nil.mp (hchecked v hv)).object
    exact Variable.read_of_check (hvariables v hitem) (hchecked v hv)
  have hread : ∀ s ∈ docs, ∃ found, State.read s = .ok found ∧ found.Sound names := by
    intro s hs
    have hitem := mem_items hdocs hs (isObject_of_truthy (parts_of_checkState (hnone s hs)).1)
    exact State.read_of_check (hstates s hitem) (hnamed s hs) (hnone s hs)
  obtain ⟨declared, hdeclared, hscalars⟩ := exists_mapM hdeclared
  obtain ⟨states, hread, hsound⟩ := exists_mapM hread
  obtain ⟨metadata, hmetadata⟩ := metadata_of_wellKinded hmetadata
  refine ⟨⟨fieldOrNull doc "id", (fieldOrNull doc "name").orElse (.str ""), states,
    (fieldOrNull doc "vendor").orElse (.str "generic"), fieldOrNull doc "deviceOs",
    fieldOrNull doc "command", (fieldOrNull doc "description").orElse (.str ""), declared,
    metadata⟩, ?_, hscalar, ?_, hscalars, names, ?_, hsound⟩
  · simp only [Template.read, require_of_truthy hid, get_of_isObject hobject, ok_bind, hdocs,
      hparts, hread, hdeclared, hmetadata]
    rfl
  · rintro rfl
    rw [elementsOrNone_of_truthy htruthy] at hdocs
    obtain ⟨first, hfirst⟩ := List.exists_mem_of_ne_nil _ (ne_nil_of_elements htruthy hdocs)
    obtain ⟨s, hs, -⟩ := exists_result_of_mapM hread hfirst
    cases hs
  · intro k hk
    obtain ⟨s, hs, hname⟩ := (hfound k hk).resolve_left List.not_mem_nil
    obtain ⟨found, hmem, hbuilt⟩ := exists_result_of_mapM hread hs
    exact ⟨found, hmem, by rw [State.name_of_read hbuilt, hname]⟩

end LineMachine
