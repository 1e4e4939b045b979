import Mathlib.Tactic.MkIffOfInductiveProp
import LineMachine.Proofs.Template.Fields
import LineMachine.Proofs.Value

/-!
# Well-formed documents

What validation decides. A document is *well formed* if its parts have what they need, whatever the
order in which validation comes to them (`WellFormed`), and it is *checkable* if validation can go
through it (`Checkable`). Validation returns exactly on the checkable documents, and then it has no
problem exactly with the well-formed ones (`decides_validate`).

Each check of a part is given by two such conditions, one under which it returns and one under which
it has no problem (`Decides`), and the conditions of a part are made up of those of its own parts.
What a check is told about the rest of the document is the names of the states: the names that the
first walk over the states has found are those of all states that have one, and it has no problem
with names no two of which are the same (`nameStates_spec`). So a transition may lead to a state
that stands before or after its own.
-/

namespace LineMachine

namespace Validation

/-! ## Fields that are gone through -/

/-- What a value consists of when it is gone through; nothing if it cannot be. -/
def partsOf (v : Value) : List Value :=
  v.elements?.getD []

/-- Holds of a field that can be gone through, or that has no content. -/
def Iterable (v : Value) : Prop :=
  v.truthy = true → v.elements?.isSome = true

theorem partsOf_of_falsy {v : Value} (h : ¬ v.truthy = true) : partsOf v = [] := by
  cases v with
  | null | bool | int | float => rfl
  | str s =>
    have hempty : s = "" := by simpa [Value.truthy] using h
    rw [hempty]
    rfl
  | list items =>
    have hempty : items = [] := by simpa [Value.truthy] using h
    rw [hempty]
    rfl
  | object fields =>
    have hempty : fields = [] := by simpa [Value.truthy] using h
    rw [hempty]
    rfl

theorem elements_eq_ok_iff {v : Value} {found : List Value} (htruthy : v.truthy = true) :
    v.elements = .ok found ↔ Iterable v ∧ partsOf v = found := by
  rw [elements_eq_ok, Iterable, partsOf]
  cases v.elements? <;> simp [htruthy]

theorem elementsOrNone_eq_ok {v : Value} {found : List Value} :
    v.elementsOrNone = .ok found ↔ Iterable v ∧ partsOf v = found := by
  by_cases htruthy : v.truthy = true
  · rw [elementsOrNone_of_truthy htruthy, elements_eq_ok_iff htruthy]
  · rw [Value.elementsOrNone, if_neg htruthy, Except.ok.injEq, partsOf_of_falsy htruthy]
    exact ⟨fun h ↦ ⟨fun hcontent ↦ absurd hcontent htruthy, h⟩, fun h ↦ h.2⟩

theorem exists_elementsOrNone {v : Value} :
    (∃ found, v.elementsOrNone = .ok found) ↔ Iterable v := by
  simp only [elementsOrNone_eq_ok, exists_and_left, exists_eq', and_true]

theorem exists_elements {v : Value} (htruthy : v.truthy = true) :
    (∃ found, v.elements = .ok found) ↔ Iterable v := by
  rw [← elementsOrNone_of_truthy htruthy, exists_elementsOrNone]

/-! ## Well-formed parts -/

/-- Holds of a declared variable that has a name and, if it has a type, one of the known types. -/
structure WellFormedVariable (doc : Value) : Prop where
  object : isObject doc = true
  name : (fieldOrNull doc "name").truthy = true
  type : (fieldOrNull doc "type").truthy = true → fieldOrNull doc "type" ∈ variableTypes

/-- Holds of an action that has one of the known types and, unless it is an emission, a variable. -/
structure WellFormedAction (doc : Value) : Prop where
  object : isObject doc = true
  type : fieldOrNull doc "type" ∈ actionTypes
  named : fieldOrNull doc "type" ≠ .str "emit" → (fieldOrNull doc "variable").truthy = true

/-- Holds of a transition that leads to a reserved target or to a state of one of the names. -/
@[mk_iff]
structure WellFormedTransition (names : List Value) (doc : Value) : Prop where
  object : isObject doc = true
  target : (fieldOrNull doc "to").truthy = true
  leads : fieldOrNull doc "to" = .str selfTarget ∨ fieldOrNull doc "to" = .str endTarget ∨
    ∃ name ∈ names, (fieldOrNull doc "to").sameKey name = true

/-- Holds of a text with content that compiles under its flags. -/
structure WellFormedRegex (source flags : Value) : Prop where
  text : ∃ text, source = .str text ∧ text ≠ ""
  compiles : ∃ p, Regex.Pattern.ofValues source flags = .ok p

/-- Holds of a pattern whose text, actions and transition are well formed. -/
@[mk_iff]
structure WellFormedPattern (names : List Value) (doc : Value) : Prop where
  object : isObject doc = true
  regex : WellFormedRegex (fieldOrNull doc "regex") (fieldOrNull doc "flags")
  actions : ∀ a ∈ partsOf (fieldOrNull doc "actions"), WellFormedAction a
  transition : (fieldOrNull doc "transition").truthy = true →
    WellFormedTransition names (fieldOrNull doc "transition")

/-- Holds of a state with a name and with patterns, all of them well formed. -/
@[mk_iff]
structure WellFormedState (names : List Value) (doc : Value) : Prop where
  object : isObject doc = true
  name : (fieldOrNull doc "name").truthy = true
  nonempty : (fieldOrNull doc "patterns").truthy = true
  patterns : ∀ p ∈ partsOf (fieldOrNull doc "patterns"), WellFormedPattern names p

/-- The names of the states of a document, in their order. -/
def stateNames (doc : Value) : List Value :=
  (partsOf (fieldOrNull doc "states")).map (fieldOrNull · "name")

/-- Holds of a template document that is well formed in all its parts, and the names of whose states
differ. -/
@[mk_iff]
structure WellFormed (doc : Value) : Prop where
  object : isObject doc = true
  id : (fieldOrNull doc "id").truthy = true
  name : (fieldOrNull doc "name").truthy = true
  vendor : (fieldOrNull doc "vendor").truthy = true
  nonempty : (fieldOrNull doc "states").truthy = true
  declared : ∀ v ∈ partsOf (fieldOrNull doc "variables"), WellFormedVariable v
  distinct : (stateNames doc).Pairwise fun m n ↦ m.sameKey n = false
  states : ∀ s ∈ partsOf (fieldOrNull doc "states"), WellFormedState (stateNames doc) s

/-! ## Parts that can be checked -/

/-- Holds of a pattern text unless it has a fault that is not reported. -/
def CheckableRegex (source flags : Value) : Prop :=
  ∀ text fault, source = .str text → text ≠ "" →
    Regex.Pattern.ofValues source flags = .error fault → fault.isReported = true

/-- Holds of a transition unless it has a target that is no scalar. -/
def CheckableTransition (doc : Value) : Prop :=
  (fieldOrNull doc "to").truthy = true → (fieldOrNull doc "to").key?.isSome = true

/-- Holds of a pattern that validation can go through. -/
@[mk_iff]
structure CheckablePattern (doc : Value) : Prop where
  regex : CheckableRegex (fieldOrNull doc "regex") (fieldOrNull doc "flags")
  actions : Iterable (fieldOrNull doc "actions")
  transition : CheckableTransition (fieldOrNull doc "transition")

/-- Holds of a state that validation can go through. -/
@[mk_iff]
structure CheckableState (doc : Value) : Prop where
  iterable : Iterable (fieldOrNull doc "patterns")
  patterns : ∀ p ∈ partsOf (fieldOrNull doc "patterns"), CheckablePattern p

/-- Holds of a template document that validation can go through. -/
@[mk_iff]
structure Checkable (doc : Value) : Prop where
  declared : Iterable (fieldOrNull doc "variables")
  iterable : Iterable (fieldOrNull doc "states")
  names : ∀ name ∈ stateNames doc, name.key?.isSome = true
  states : ∀ s ∈ partsOf (fieldOrNull doc "states"), CheckableState s

/-! What is no object has no fields, and can be checked. -/

theorem iterable_null : Iterable .null := by
  intro htruthy
  cases htruthy

theorem checkableRegex_null (flags : Value) : CheckableRegex .null flags := by
  intro text fault htext
  cases htext

theorem checkableTransition_null : CheckableTransition .null := by
  intro htruthy
  cases htruthy

theorem fieldOrNull_of_not_object {doc : Value} (h : ¬ isObject doc = true) (name : String) :
    fieldOrNull doc name = .null := by
  cases doc with
  | object fields => exact absurd rfl h
  | null | bool | int | float | str | list => rfl

/-! ## What a check decides -/

/-- Holds of a check that returns under one condition, and then has no problem under another. -/
structure Decides (check : Except Fault (List Problem)) (ends fine : Prop) : Prop where
  ends : (∃ problems, check = .ok problems) ↔ ends
  fine : ∀ problems, check = .ok problems → (problems = [] ↔ fine)

namespace Decides

variable {α : Type} {ends fine : Prop}

theorem ok {problems : List Problem} (hends : ends) (h : problems = [] ↔ fine) :
    Decides (.ok problems) ends fine :=
  ⟨⟨fun _ ↦ hends, fun _ ↦ ⟨problems, rfl⟩⟩, fun _ hfound ↦ Except.ok.inj hfound ▸ h⟩

theorem problem {first : Problem} {others : List Problem} (hends : ends) (h : ¬ fine) :
    Decides (.ok (first :: others)) ends fine :=
  .ok hends (iff_of_false (List.cons_ne_nil first others) h)

theorem error {fault : Fault} (h : ¬ ends) : Decides (.error fault) ends fine := by
  constructor
  · refine iff_of_false ?_ h
    rintro ⟨problems, hproblems⟩
    cases hproblems
  · intro problems hproblems
    cases hproblems

theorem congr {check : Except Fault (List Problem)} {ends' : Prop} (h : Decides check ends fine)
    (hends : ends ↔ ends') : Decides check ends' fine :=
  ⟨h.ends.trans hends, h.fine⟩

/-- A check after a first step returns where both do. -/
theorem bind {first : Except Fault α} {rest : α → Except Fault (List Problem)} {steps : Prop}
    (hfirst : (∃ a, first = .ok a) ↔ steps)
    (hrest : ∀ a, first = .ok a → Decides (rest a) ends fine) :
    Decides (first >>= rest) (steps ∧ ends) fine := by
  constructor
  · simp only [bind_eq_ok]
    constructor
    · rintro ⟨problems, a, ha, hproblems⟩
      exact ⟨hfirst.mp ⟨a, ha⟩, (hrest a ha).ends.mp ⟨problems, hproblems⟩⟩
    · rintro ⟨hsteps, hends⟩
      obtain ⟨a, ha⟩ := hfirst.mpr hsteps
      obtain ⟨problems, hproblems⟩ := (hrest a ha).ends.mpr hends
      exact ⟨problems, a, ha, hproblems⟩
  · intro problems hproblems
    obtain ⟨a, ha, hproblems⟩ := bind_eq_ok.mp hproblems
    exact (hrest a ha).fine problems hproblems

end Decides

/-- Checking several parts returns if all checks do, and has no problem if none of them has one. -/
theorem decides_collect {α : Type} {check : α → Except Fault (List Problem)} {parts : List α}
    {ends fine : α → Prop} (h : ∀ p ∈ parts, Decides (check p) (ends p) (fine p)) :
    Decides (collect check parts) (∀ p ∈ parts, ends p) (∀ p ∈ parts, fine p) := by
  have hall : (∃ lists, parts.mapM check = .ok lists) ↔ ∀ p ∈ parts, ends p :=
    exists_mapM_iff.trans (forall₂_congr fun p hp ↦ (h p hp).ends)
  refine (Decides.bind hall fun lists hlists ↦ Decides.ok trivial ?_).congr (and_iff_left trivial)
  rw [List.flatten_eq_nil_iff]
  constructor
  · intro hnone p hp
    obtain ⟨problems, hmem, hproblems⟩ := exists_result_of_mapM hlists hp
    exact ((h p hp).fine problems hproblems).mp (hnone problems hmem)
  · intro hfine problems hmem
    obtain ⟨p, hp, hproblems⟩ := exists_source_of_mapM hlists hmem
    exact ((h p hp).fine problems hproblems).mpr (hfine p hp)

/-! ## Variables and actions -/

theorem checkVariable_eq_nil {doc : Value} : checkVariable doc = [] ↔ WellFormedVariable doc := by
  simp only [checkVariable]
  by_cases hname : (fieldOrNull doc "name").truthy = true
  · rw [if_neg (by simpa using hname), problemIf_eq_nil]
    constructor
    · intro h
      exact ⟨isObject_of_truthy hname, hname, fun htype ↦ by simpa [htype] using h⟩
    · intro h
      by_cases htype : (fieldOrNull doc "type").truthy = true
      · simpa [htype] using h.type htype
      · simp [htype]
  · rw [if_pos (by simpa using hname)]
    exact iff_of_false (List.cons_ne_nil _ _) fun h ↦ hname h.name

theorem checkAction_eq_nil {state doc : Value} :
    checkAction state doc = [] ↔ WellFormedAction doc := by
  simp only [checkAction]
  by_cases htype : fieldOrNull doc "type" ∈ actionTypes
  · have hobject : isObject doc = true := by
      by_contra hobject
      rw [fieldOrNull_of_not_object hobject] at htype
      simp [actionTypes] at htype
    rw [if_neg (by simpa using htype), problemIf_eq_nil]
    constructor
    · intro h
      exact ⟨hobject, htype, fun hemit ↦ by simpa [hemit] using h⟩
    · intro h
      by_cases hemit : fieldOrNull doc "type" = .str "emit"
      · simp [hemit]
      · simpa [hemit] using h.named hemit
  · rw [if_pos (by simpa using htype)]
    exact iff_of_false (List.cons_ne_nil _ _) fun h ↦ htype h.type

/-! ## Names -/

/-- Holds of a value that is the same as one of several keys. -/
def Among (keys : List Key) (v : Value) : Prop :=
  ∃ k, v.key? = some k ∧ keys.any k.same = true

theorem among_iff {keys : List Key} {v : Value} {k : Key} (h : v.key? = some k) :
    Among keys v ↔ keys.any k.same = true := by
  simp [Among, h]

theorem among_append {keys : List Key} {v : Value} {k : Key} {w : Value} (h : w.key? = some k) :
    Among (keys ++ [k]) v ↔ Among keys v ∨ v.sameKey w = true := by
  cases hv : v.key? with
  | none => simp [Among, hv, Value.sameKey]
  | some j => simp [among_iff hv, Value.sameKey_eq hv h]

/-- One more state adds its name, if it has one, and has no problem if its name is a new one. -/
theorem nameState_spec {found next : List Key × List Problem} {state : Value}
    (h : nameState found state = .ok next) :
    (∀ v, Among next.1 v ↔ Among found.1 v ∨
      ((fieldOrNull state "name").truthy = true ∧ v.sameKey (fieldOrNull state "name") = true)) ∧
      (next.2 = [] ↔ found.2 = [] ∧ ¬ Among found.1 (fieldOrNull state "name")) := by
  obtain ⟨k, hk, h⟩ := bind_eq_ok.mp h
  rw [Value.key_eq_ok] at hk
  rw [← pure_eq_ok.mp h]
  constructor
  · intro v
    by_cases htruthy : (fieldOrNull state "name").truthy = true
    · simp only [htruthy, if_true, among_append hk, true_and]
    · simp only [htruthy, Bool.false_eq_true, if_false, false_and, or_false]
  · rw [List.append_eq_nil_iff, problemIf_eq_nil, among_iff hk, Bool.not_eq_true]

theorem exists_nameState {found : List Key × List Problem} {state : Value} :
    (∃ next, nameState found state = .ok next) ↔
      (fieldOrNull state "name").key?.isSome = true := by
  rw [Option.isSome_iff_exists]
  constructor
  · rintro ⟨next, h⟩
    obtain ⟨k, hk, -⟩ := bind_eq_ok.mp h
    exact ⟨k, Value.key_eq_ok.mp hk⟩
  · rintro ⟨k, hk⟩
    exact ⟨_, bind_eq_ok.mpr ⟨k, Value.key_eq_ok.mpr hk, rfl⟩⟩

theorem exists_nameStates {states : List Value} {found : List Key × List Problem} :
    (∃ next, states.foldlM nameState found = .ok next) ↔
      ∀ name ∈ states.map (fieldOrNull · "name"), name.key?.isSome = true := by
  rw [List.forall_mem_map]
  exact exists_foldlM_iff (f := nameState) fun _ _ ↦ exists_nameState

/-- **The first walk over the states** finds the names that are there, and has no problem if none of
them is found a second time. -/
theorem nameStates_spec {states : List Value} {found next : List Key × List Problem}
    (h : states.foldlM nameState found = .ok next) :
    (∀ v, Among next.1 v ↔ Among found.1 v ∨
      ∃ name ∈ states.map (fieldOrNull · "name"), name.truthy = true ∧ v.sameKey name = true) ∧
      (next.2 = [] ↔ found.2 = [] ∧
        (∀ name ∈ states.map (fieldOrNull · "name"), ¬ Among found.1 name) ∧
        (states.map (fieldOrNull · "name")).Pairwise fun m n ↦
          ¬ (m.truthy = true ∧ n.sameKey m = true)) := by
  induction states generalizing found with
  | nil =>
    cases h
    simp
  | cons s states ih =>
    obtain ⟨between, hbetween, hrest⟩ := bind_eq_ok.mp h
    obtain ⟨hamong, hnone⟩ := nameState_spec hbetween
    obtain ⟨ihamong, ihnone⟩ := ih hrest
    simp only [List.map_cons, List.exists_mem_cons_iff, List.forall_mem_cons, List.pairwise_cons]
    constructor
    · intro v
      rw [ihamong, hamong, or_assoc]
    · simp only [ihnone, hnone, hamong, not_or, forall_and]
      tauto

/-! ## Patterns -/

theorem decides_checkRegex {state source flags : Value} {index : Nat} :
    Decides (checkRegex state index source flags) (CheckableRegex source flags)
      (WellFormedRegex source flags) := by
  cases source with
  | null | bool | int | float | list | object =>
    refine .problem ?_ ?_
    · intro text fault htext
      cases htext
    · rintro ⟨⟨text, htext, -⟩, -⟩
      cases htext
  | str text =>
    rw [checkRegex]
    by_cases hempty : text.isEmpty = true
    · have hnone : ∀ found, Value.str text = .str found → found ≠ "" → False := by
        rintro found ⟨⟩ hcontent
        exact hcontent (String.isEmpty_iff.mp hempty)
      rw [if_pos hempty]
      refine .problem (fun found fault hfound hcontent ↦ (hnone found hfound hcontent).elim) ?_
      rintro ⟨⟨found, hfound, hcontent⟩, -⟩
      exact hnone found hfound hcontent
    · have hcontent : text ≠ "" := fun h ↦ hempty (String.isEmpty_iff.mpr h)
      rw [if_neg hempty]
      cases hpattern : Regex.Pattern.ofValues (.str text) flags with
      | ok p =>
        refine .ok ?_ ⟨fun _ ↦ ⟨⟨text, rfl, hcontent⟩, p, hpattern⟩, fun _ ↦ rfl⟩
        intro found fault hfound _ hfault
        rw [hpattern] at hfault
        cases hfault
      | error fault =>
        have hmalformed : ¬ WellFormedRegex (.str text) flags := by
          rintro ⟨-, p, hp⟩
          rw [hpattern] at hp
          cases hp
        by_cases hreported : fault.isReported = true
        · simp only [hreported, if_true]
          refine .problem ?_ hmalformed
          intro found other _ _ hother
          rw [hpattern] at hother
          cases hother
          exact hreported
        · simp only [hreported, Bool.false_eq_true, if_false]
          exact .error fun h ↦ hreported (h text fault rfl hcontent hpattern)

/-- Holds of keys that tell, of every value with content, whether it is one of several names. -/
def Knows (keys : List Key) (names : List Value) : Prop :=
  ∀ v : Value, v.truthy = true → (Among keys v ↔ ∃ name ∈ names, v.sameKey name = true)

theorem truthy_of_field {doc : Value} {name : String} (h : (fieldOrNull doc name).truthy = true) :
    doc.truthy = true := by
  obtain ⟨fields, rfl⟩ := exists_fields_of_truthy h
  cases fields with
  | nil => cases h
  | cons => rfl

theorem decides_checkTransition {keys : List Key} {names : List Value} (hkeys : Knows keys names)
    {state doc : Value} :
    Decides (checkTransition keys state doc) (CheckableTransition doc)
      (doc.truthy = true → WellFormedTransition names doc) := by
  simp only [checkTransition]
  by_cases hdoc : doc.truthy = true
  · simp only [hdoc, Bool.not_true, Bool.false_eq_true, if_false, forall_const]
    by_cases htarget : (fieldOrNull doc "to").truthy = true
    · have hobject := isObject_of_truthy htarget
      simp only [htarget, Bool.not_true, Bool.false_eq_true, if_false]
      by_cases hreserved : fieldOrNull doc "to" = .str selfTarget ∨
          fieldOrNull doc "to" = .str endTarget
      · rw [if_pos hreserved]
        refine .ok (fun _ ↦ ?_) ⟨fun _ ↦ ⟨hobject, htarget, ?_⟩, fun _ ↦ rfl⟩
        · rcases hreserved with hreserved | hreserved <;> rw [hreserved] <;> rfl
        · exact or_assoc.mp (.inl hreserved)
      · rw [if_neg hreserved]
        have hkey : (∃ k, (fieldOrNull doc "to").key = .ok k) ↔ CheckableTransition doc := by
          simp only [Value.key_eq_ok, CheckableTransition, htarget, forall_const,
            Option.isSome_iff_exists]
        refine (Decides.bind hkey fun k hk ↦ .ok trivial ?_).congr (and_iff_left trivial)
        rw [problemIf_eq_nil, Bool.not_eq_false', ← among_iff (Value.key_eq_ok.mp hk),
          hkeys _ htarget]
        constructor
        · intro h
          exact ⟨hobject, htarget, .inr (.inr h)⟩
        · intro h
          exact (or_assoc.mpr h.leads).resolve_left hreserved
    · simp only [htarget, Bool.not_false, if_true]
      exact .problem (fun h ↦ absurd h htarget) fun h ↦ htarget h.target
  · simp only [hdoc, Bool.not_false, if_true]
    exact .ok (fun h ↦ absurd (truthy_of_field h) hdoc) (iff_of_true rfl Bool.false_ne_true.elim)

theorem checkablePattern_of_not_object {doc : Value} (h : ¬ isObject doc = true) :
    CheckablePattern doc := by
  simp only [checkablePattern_iff, fieldOrNull_of_not_object h]
  exact ⟨checkableRegex_null .null, iterable_null, checkableTransition_null⟩

theorem decides_checkPattern {keys : List Key} {names : List Value} (hkeys : Knows keys names)
    {state doc : Value} {index : Nat} :
    Decides (checkPattern keys state index doc) (CheckablePattern doc)
      (WellFormedPattern names doc) := by
  rw [checkPattern]
  by_cases hobject : isObject doc = true
  · simp only [hobject, Bool.not_true, Bool.false_eq_true, if_false]
    refine (Decides.bind decides_checkRegex.ends fun ofRegex hregex ↦
      Decides.bind exists_elementsOrNone fun actions hactions ↦
      Decides.bind (decides_checkTransition hkeys).ends fun ofTransition htransition ↦
      .ok trivial ?_).congr ?_
    · obtain ⟨-, rfl⟩ := elementsOrNone_eq_ok.mp hactions
      rw [List.append_eq_nil_iff, List.append_eq_nil_iff, List.flatMap_eq_nil_iff,
        decides_checkRegex.fine ofRegex hregex,
        (decides_checkTransition hkeys).fine ofTransition htransition, wellFormedPattern_iff]
      simp only [checkAction_eq_nil, hobject, true_and, and_assoc]
    · rw [and_true, checkablePattern_iff]
  · simp only [hobject, Bool.not_false, if_true]
    exact .problem (checkablePattern_of_not_object hobject) fun h ↦ hobject h.object

/-! ## States -/

theorem checkableState_of_not_object {doc : Value} (h : ¬ isObject doc = true) :
    CheckableState doc := by
  simp only [checkableState_iff, fieldOrNull_of_not_object h]
  exact ⟨iterable_null, List.forall_mem_nil _⟩

theorem decides_checkState {keys : List Key} {names : List Value} (hkeys : Knows keys names)
    {doc : Value} :
    Decides (checkState keys doc) (CheckableState doc) (WellFormedState names doc) := by
  simp only [checkState]
  by_cases hobject : isObject doc = true
  · simp only [hobject, Bool.not_true, Bool.false_eq_true, if_false]
    by_cases hpatterns : (fieldOrNull doc "patterns").truthy = true
    · simp only [hpatterns, Bool.not_true, Bool.false_eq_true, if_false]
      refine (Decides.bind (exists_elements hpatterns) fun patterns hfound ↦ ?_).congr
        (checkableState_iff doc).symm
      obtain ⟨-, rfl⟩ := (elements_eq_ok_iff hpatterns).mp hfound
      have hall : Decides (collect (fun e ↦ checkPattern keys (fieldOrNull doc "name") e.2 e.1)
          (partsOf (fieldOrNull doc "patterns")).zipIdx)
          (∀ e ∈ (partsOf (fieldOrNull doc "patterns")).zipIdx, CheckablePattern e.1)
          (∀ e ∈ (partsOf (fieldOrNull doc "patterns")).zipIdx, WellFormedPattern names e.1) :=
        decides_collect fun e _ ↦ decides_checkPattern hkeys
      simp only [forall_mem_zipIdx] at hall
      refine (Decides.bind hall.ends fun problems hproblems ↦ .ok trivial ?_).congr
        (and_iff_left trivial)
      rw [List.append_eq_nil_iff, problemIf_eq_nil, Bool.not_eq_false', hall.fine _ hproblems,
        wellFormedState_iff]
      simp only [hobject, hpatterns, true_and]
    · simp only [hpatterns, Bool.not_false, if_true]
      have hcheckable : CheckableState doc := by
        rw [checkableState_iff, partsOf_of_falsy hpatterns]
        exact ⟨fun h ↦ absurd h hpatterns, List.forall_mem_nil _⟩
      exact .ok hcheckable (iff_of_false (by simp) fun h ↦ hpatterns h.nonempty)
  · simp only [hobject, Bool.not_false, if_true]
    exact .problem (checkableState_of_not_object hobject) fun h ↦ hobject h.object

theorem among_nil (v : Value) : ¬ Among [] v := by
  rintro ⟨k, -, h⟩
  cases h

/-- The names that the first walk has found tell which names there are. -/
theorem knows_of_nameStates {states : List Value} {next : List Key × List Problem}
    (h : states.foldlM nameState ([], []) = .ok next) :
    Knows next.1 (states.map (fieldOrNull · "name")) := by
  intro v hv
  rw [(nameStates_spec h).1, or_iff_right (among_nil v)]
  refine exists_congr fun name ↦ and_congr_right fun _ ↦ and_iff_right_of_imp fun hsame ↦ ?_
  rw [← Value.truthy_eq_of_sameKey hsame, hv]

/-- **The two walks over the states** return if the names are scalars and the states can be checked,
and then add no problem if the states are well formed and no two names are the same. -/
theorem decides_checkStates (before : List Problem) (states : List Value) :
    Decides
      (do
        let (names, ofNames) ← states.foldlM nameState ([], [])
        let ofStates ← collect (checkState names) states
        pure (before ++ ofNames ++ ofStates))
      ((∀ name ∈ states.map (fieldOrNull · "name"), name.key?.isSome = true) ∧
        ∀ s ∈ states, CheckableState s)
      (before = [] ∧
        (states.map (fieldOrNull · "name")).Pairwise (fun m n ↦ m.sameKey n = false) ∧
        ∀ s ∈ states, WellFormedState (states.map (fieldOrNull · "name")) s) := by
  refine .bind exists_nameStates fun next hnext ↦ ?_
  have hall : Decides (collect (checkState next.1) states) (∀ s ∈ states, CheckableState s)
      (∀ s ∈ states, WellFormedState (states.map (fieldOrNull · "name")) s) :=
    decides_collect fun s _ ↦ decides_checkState (knows_of_nameStates hnext)
  refine (Decides.bind hall.ends fun ofStates hofStates ↦ .ok trivial ?_).congr
    (and_iff_left trivial)
  rw [List.append_eq_nil_iff, List.append_eq_nil_iff, hall.fine ofStates hofStates,
    (nameStates_spec hnext).2, and_iff_right rfl, and_iff_right fun name _ ↦ among_nil name,
    and_assoc]
  -- Well-formed states have names, so a name that was not found before is a new one.
  refine and_congr_right fun _ ↦ and_congr_left fun hstates ↦
    List.Pairwise.iff_of_mem fun {m n} hm _ ↦ ?_
  obtain ⟨s, hs, rfl⟩ := List.mem_map.mp hm
  rw [and_iff_right (hstates s hs).name, Bool.not_eq_true, Value.sameKey_comm]

/-! ## Documents -/

theorem lacks_eq_false {doc : Value} {name : String} :
    lacks doc name = false ↔ (fieldOrNull doc name).truthy = true := by
  rw [lacks, Bool.not_eq_false']

theorem checkable_of_not_object {doc : Value} (h : ¬ isObject doc = true) : Checkable doc := by
  simp only [checkable_iff, stateNames, fieldOrNull_of_not_object h]
  exact ⟨iterable_null, iterable_null, List.forall_mem_nil _, List.forall_mem_nil _⟩

/-- **What validation decides.** It returns exactly if it can go through the document, and then has
no problem exactly if the document is well formed. -/
theorem decides_validate (doc : Value) :
    Decides (validate doc) (Checkable doc) (WellFormed doc) := by
  rw [validate]
  by_cases hobject : isObject doc = true
  · simp only [hobject, Bool.not_true, Bool.false_eq_true, if_false]
    refine (Decides.bind exists_elementsOrNone fun declared hdeclared ↦
      Decides.bind exists_elementsOrNone fun states hstates ↦ ?_).congr (checkable_iff doc).symm
    obtain ⟨-, rfl⟩ := elementsOrNone_eq_ok.mp hdeclared
    obtain ⟨-, rfl⟩ := elementsOrNone_eq_ok.mp hstates
    refine ⟨(decides_checkStates _ _).ends, fun problems hproblems ↦ ?_⟩
    rw [(decides_checkStates _ _).fine problems hproblems, wellFormed_iff]
    simp only [List.append_eq_nil_iff, problemIf_eq_nil, lacks_eq_false, List.flatMap_eq_nil_iff,
      checkVariable_eq_nil, hobject, true_and, and_assoc]
    rfl
  · simp only [hobject, Bool.not_false, if_true]
    exact .problem (checkable_of_not_object hobject) fun h ↦ hobject h.object

end Validation

end LineMachine
