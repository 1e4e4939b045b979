import LineMachine.Proofs.Template.Sound
import LineMachine.Proofs.Template.Written

/-!
# Validating templates that were read

Validation sees no difference between two documents that describe the same part: it looks at no
field that reading ignores, and where reading puts in a default, it finds no problem in either
(`checkPattern_congr` and its like). What is written of a template that was read describes the same
parts as the document that it was read from. So validating the one has the problems of validating
the other, in the same order, and stops where the other stops. There is one exception, the vendor:
a document may lack it, and a template has one (`Template.validate_read`).
-/

namespace LineMachine

namespace Validation

/-! ## Documents that describe the same -/

theorem forall₂_both {α β γ : Type} {R : α → γ → Prop} {S : β → γ → Prop} {xs : List α}
    {ys : List β} {zs : List γ} (h : List.Forall₂ R xs zs) (h' : List.Forall₂ S ys zs) :
    List.Forall₂ (fun x y ↦ ∃ z, R x z ∧ S y z) xs ys := by
  induction h generalizing ys with
  | nil =>
    cases h'
    exact .nil
  | cons hx hrest ih =>
    cases h' with
    | cons hy hrest' => exact .cons ⟨_, hx, hy⟩ (ih hrest')

theorem forall₂_zipIdx {α β : Type} {R : α → β → Prop} {xs : List α} {ys : List β}
    (h : List.Forall₂ R xs ys) (n : Nat) :
    List.Forall₂ (fun x y ↦ R x.1 y.1 ∧ x.2 = y.2) (xs.zipIdx n) (ys.zipIdx n) := by
  induction h generalizing n with
  | nil => exact .nil
  | cons hxy hrest ih => exact .cons ⟨hxy, rfl⟩ (ih (n + 1))

theorem collect_congr {α β : Type} {check : α → Except Fault (List Problem)}
    {check' : β → Except Fault (List Problem)} {xs : List α} {ys : List β}
    (h : List.Forall₂ (fun x y ↦ check x = check' y) xs ys) :
    collect check xs = collect check' ys := by
  rw [collect, collect, mapM_congr h]

theorem flatMap_congr_forall₂ {α β γ : Type} {f : α → List γ} {g : β → List γ} {xs : List α}
    {ys : List β} (h : List.Forall₂ (fun x y ↦ f x = g y) xs ys) :
    xs.flatMap f = ys.flatMap g := by
  induction h with
  | nil => rfl
  | cons hxy hrest ih => rw [List.flatMap_cons, List.flatMap_cons, hxy, ih]

variable {doc other : Value}

/-- Of a variable, validation sees the name and the type. -/
theorem checkVariable_congr {v w : Variable} (h : Variable.Describes doc v)
    (h' : Variable.Describes other w) (hname : v.name = w.name) (htype : v.type = w.type) :
    checkVariable doc = checkVariable other := by
  have hcheck {doc : Value} {v : Variable} (h : Variable.Describes doc v) : checkVariable doc =
      if !v.name.truthy then [.unnamedVariable]
      else problemIf (!variableTypes.contains v.type) (.unknownType v.name v.type) := by
    rw [checkVariable, h.name.fieldOrNull, ← h.type, Value.orElse]
    by_cases htruthy : (fieldOrNull doc "type").truthy = true
    · simp [htruthy]
    · -- The default is a type that is known.
      have hknown : Value.str "string" ∈ variableTypes := by decide
      simp [htruthy, problemIf, hknown]
  rw [hcheck h, hcheck h', hname, htype]

theorem checkAction_congr {a : Action} (h : Action.Describes doc a)
    (h' : Action.Describes other a) (state : Value) :
    checkAction state doc = checkAction state other := by
  cases h with
  | emit htype =>
    cases h' with
    | emit htype' => simp [checkAction, htype.fieldOrNull, htype'.fieldOrNull, problemIf]
  | clear name htype hname =>
    cases h' with
    | clear _ htype' hname' =>
      simp only [checkAction, htype.fieldOrNull, htype'.fieldOrNull, hname.fieldOrNull,
        hname'.fieldOrNull]
  | set name operand htype hname =>
    cases h' with
    | set _ _ htype' hname' =>
      simp only [checkAction, htype.fieldOrNull, htype'.fieldOrNull, hname.fieldOrNull,
        hname'.fieldOrNull]
  | append name operand htype hname =>
    cases h' with
    | append _ _ htype' hname' =>
      simp only [checkAction, htype.fieldOrNull, htype'.fieldOrNull, hname.fieldOrNull,
        hname'.fieldOrNull]

theorem checkTransition_congr {t : Option Transition} {v w : Value}
    (h : Option.Rel Transition.Describes v.given? t)
    (h' : Option.Rel Transition.Describes w.given? t) (names : List Key) (state : Value) :
    checkTransition names state v = checkTransition names state w := by
  cases t with
  | none =>
    have hfalsy := Value.given?_eq_none.mp (eq_none_of_rel_none h)
    have hfalsy' := Value.given?_eq_none.mp (eq_none_of_rel_none h')
    simp only [checkTransition, hfalsy, hfalsy', Bool.not_false, if_true]
  | some t =>
    obtain ⟨found, hfound, hdoc⟩ := exists_of_rel_some h
    obtain ⟨found', hfound', hdoc'⟩ := exists_of_rel_some h'
    obtain ⟨htruthy, rfl⟩ := Value.given?_eq_some.mp hfound
    obtain ⟨htruthy', rfl⟩ := Value.given?_eq_some.mp hfound'
    simp only [checkTransition, htruthy, htruthy', hdoc.target.fieldOrNull,
      hdoc'.target.fieldOrNull]

/-- Flags without content are no flags. -/
theorem checkRegex_orNull (state : Value) (index : Nat) (source flags : Value) :
    checkRegex state index source flags.orNull = checkRegex state index source flags := by
  cases source with
  | str text => rw [checkRegex, checkRegex, ← Value.getD_given?, ofValues_given]
  | null | bool | int | float | list | object => rfl

theorem checkPattern_congr {r : Rule} (h : Rule.Describes doc r) (h' : Rule.Describes other r)
    (names : List Key) (state : Value) (index : Nat) :
    checkPattern names state index doc = checkPattern names state index other := by
  have hflags : (fieldOrNull doc "flags").orNull = (fieldOrNull other "flags").orNull := by
    rw [← Value.getD_given?, ← Value.getD_given?, h.flags, h'.flags]
  obtain ⟨docs, hdocs, hactions⟩ := h.actions
  obtain ⟨others, hothers, hactions'⟩ := h'.actions
  have hproblems : docs.flatMap (checkAction state) = others.flatMap (checkAction state) := by
    refine flatMap_congr_forall₂ ((forall₂_both hactions hactions').imp ?_)
    rintro x y ⟨a, hx, hy⟩
    exact checkAction_congr hx hy state
  rw [checkPattern, checkPattern, h.pattern.isObject, h'.pattern.isObject, h.pattern.fieldOrNull,
    h'.pattern.fieldOrNull, ← checkRegex_orNull, ← checkRegex_orNull _ _ _ (fieldOrNull other _),
    hflags, hdocs, hothers, checkTransition_congr h.transition h'.transition]
  simp only [ok_bind, hproblems]

/-- A field that lists parts has content exactly if there are any. -/
theorem truthy_of_lists {α : Type} {describes : Value → α → Prop} {v : Value} {parts : List α}
    (h : Lists describes v parts) : v.truthy = !parts.isEmpty := by
  obtain ⟨docs, hdocs, hparts⟩ := h
  have hempty : parts.isEmpty = docs.isEmpty := by
    cases hparts <;> rfl
  rw [hempty]
  by_cases htruthy : v.truthy = true
  · rw [elementsOrNone_of_truthy htruthy] at hdocs
    simpa [htruthy] using ne_nil_of_elements htruthy hdocs
  · rw [Value.elementsOrNone, if_neg htruthy] at hdocs
    cases hdocs
    simpa using htruthy

theorem checkState_congr {s : State} (h : State.Describes doc s) (h' : State.Describes other s)
    (names : List Key) : checkState names doc = checkState names other := by
  simp only [checkState, h.name.isObject, h'.name.isObject, h.name.fieldOrNull,
    h'.name.fieldOrNull, truthy_of_lists h.rules, truthy_of_lists h'.rules]
  by_cases hrules : s.rules = []
  · simp [hrules]
  · have hcontent {v : Value} (h : Lists Rule.Describes v s.rules) :
        v.elementsOrNone = v.elements :=
      elementsOrNone_of_truthy (by simpa [truthy_of_lists h] using hrules)
    obtain ⟨docs, hdocs, hlisted⟩ := h.rules
    obtain ⟨others, hothers, hlisted'⟩ := h'.rules
    have hproblems : collect (fun e ↦ checkPattern names s.name e.2 e.1) docs.zipIdx =
        collect (fun e ↦ checkPattern names s.name e.2 e.1) others.zipIdx := by
      refine collect_congr ((forall₂_zipIdx (forall₂_both hlisted hlisted') 0).imp ?_)
      rintro x y ⟨⟨r, hx, hy⟩, hindex⟩
      rw [hindex]
      exact checkPattern_congr hx hy names s.name y.2
    simp only [← hcontent h.rules, ← hcontent h'.rules, hdocs, hothers, ok_bind, hproblems]

theorem nameState_congr {s : State} (h : State.Describes doc s) (h' : State.Describes other s)
    (found : List Key × List Problem) : nameState found doc = nameState found other := by
  rw [nameState, nameState, h.name.fieldOrNull, h'.name.fieldOrNull]

/-! ## The vendor -/

/-- Holds of problems none of which is a missing vendor. -/
def Vendored (problems : List Problem) : Prop :=
  Problem.missingVendor ∉ problems

theorem vendored_problemIf {condition : Bool} {problem : Problem}
    (h : problem ≠ .missingVendor) : Vendored (problemIf condition problem) := by
  cases condition <;> simp [Vendored, problemIf, h.symm]

theorem Vendored.append {first second : List Problem} (h : Vendored first)
    (h' : Vendored second) : Vendored (first ++ second) := by
  simp_all [Vendored]

theorem vendored_flatMap {check : Value → List Problem} (h : ∀ part, Vendored (check part))
    (parts : List Value) : Vendored (parts.flatMap check) := by
  intro hmem
  obtain ⟨part, -, hpart⟩ := List.mem_flatMap.mp hmem
  exact h part hpart

theorem vendored_of_collect {α : Type} {check : α → Except Fault (List Problem)}
    (h : ∀ part problems, check part = .ok problems → Vendored problems) {parts : List α}
    {problems : List Problem} (hcollect : collect check parts = .ok problems) :
    Vendored problems := by
  obtain ⟨lists, hlists, hflat⟩ := bind_eq_ok.mp hcollect
  rw [← pure_eq_ok.mp hflat]
  intro hmem
  obtain ⟨found, hfound, hin⟩ := List.mem_flatten.mp hmem
  obtain ⟨part, -, hpart⟩ := exists_source_of_mapM hlists hfound
  exact h part found hpart hin

theorem vendored_checkVariable (v : Value) : Vendored (checkVariable v) := by
  simp only [checkVariable]
  split
  · simp [Vendored]
  · exact vendored_problemIf (by simp)

theorem vendored_checkAction (state action : Value) : Vendored (checkAction state action) := by
  simp only [checkAction]
  split
  · simp [Vendored]
  · exact vendored_problemIf (by simp)

theorem vendored_of_checkTransition {names : List Key} {state transition : Value}
    {problems : List Problem} (h : checkTransition names state transition = .ok problems) :
    Vendored problems := by
  simp only [checkTransition] at h
  split at h
  · cases h
    exact List.not_mem_nil
  · split at h
    · cases h
      simp [Vendored]
    · split at h
      · cases h
        exact List.not_mem_nil
      · obtain ⟨k, -, h⟩ := bind_eq_ok.mp h
        rw [← pure_eq_ok.mp h]
        exact vendored_problemIf (by simp)

theorem vendored_of_checkRegex {state source flags : Value} {index : Nat}
    {problems : List Problem} (h : checkRegex state index source flags = .ok problems) :
    Vendored problems := by
  rw [checkRegex.eq_def] at h
  split at h
  · split at h
    · cases h
      simp [Vendored]
    · split at h
      · cases h
        exact List.not_mem_nil
      · split at h
        · cases h
          simp [Vendored]
        · cases h
  · cases h
    simp [Vendored]

theorem vendored_of_checkPattern {names : List Key} {state pattern : Value} {index : Nat}
    {problems : List Problem} (h : checkPattern names state index pattern = .ok problems) :
    Vendored problems := by
  rw [checkPattern] at h
  split at h
  · cases h
    simp [Vendored]
  · obtain ⟨ofRegex, hregex, h⟩ := bind_eq_ok.mp h
    obtain ⟨actions, -, h⟩ := bind_eq_ok.mp h
    obtain ⟨ofTransition, htransition, h⟩ := bind_eq_ok.mp h
    rw [← pure_eq_ok.mp h]
    exact ((vendored_of_checkRegex hregex).append
      (vendored_flatMap (vendored_checkAction state) actions)).append
        (vendored_of_checkTransition htransition)

theorem vendored_of_checkState {names : List Key} {state : Value} {problems : List Problem}
    (h : checkState names state = .ok problems) : Vendored problems := by
  have hunnamed : Vendored (problemIf (!(fieldOrNull state "name").truthy) .unnamedState) :=
    vendored_problemIf (by simp)
  simp only [checkState] at h
  split at h
  · cases h
    simp [Vendored]
  · split at h
    · rw [← pure_eq_ok.mp h]
      refine hunnamed.append ?_
      simp [Vendored]
    · obtain ⟨patterns, -, h⟩ := bind_eq_ok.mp h
      obtain ⟨found, hfound, h⟩ := bind_eq_ok.mp h
      rw [← pure_eq_ok.mp h]
      exact hunnamed.append (vendored_of_collect (fun e _ ↦ vendored_of_checkPattern) hfound)

theorem vendored_of_nameStates {states : List Value} {found next : List Key × List Problem}
    (h : states.foldlM nameState found = .ok next) (hfound : Vendored found.2) :
    Vendored next.2 := by
  induction states generalizing found with
  | nil =>
    cases h
    exact hfound
  | cons s states ih =>
    obtain ⟨between, hbetween, hrest⟩ := bind_eq_ok.mp h
    obtain ⟨k, -, hbetween⟩ := bind_eq_ok.mp hbetween
    rw [← pure_eq_ok.mp hbetween] at hrest
    exact ih hrest (hfound.append (vendored_problemIf (by simp)))

/-- Among the problems of the fields of a template, the missing vendor is one of its own. -/
theorem filter_fields (id name vendor states : Bool) :
    (problemIf id .missingId ++ problemIf name .missingName ++ problemIf vendor .missingVendor ++
      problemIf states .noStates).filter (· ≠ .missingVendor) =
        problemIf id .missingId ++ problemIf name .missingName ++ problemIf false .missingVendor ++
          problemIf states .noStates := by
  cases id <;> cases name <;> cases vendor <;> cases states <;> rfl

theorem Vendored.filter_eq {problems : List Problem} (h : Vendored problems) :
    problems.filter (· ≠ .missingVendor) = problems := by
  rw [List.filter_eq_self]
  intro problem hproblem
  simpa using ne_of_mem_of_not_mem hproblem h

end Validation

/-! ## Wordings -/

theorem head?_append_of_head? {s : String} {c : Char} (h : s.toList.head? = some c) (t : String) :
    (s ++ t).toList.head? = some c := by
  rw [String.toList_append, List.head?_append, h]
  rfl

namespace Problem

/-- The letter that the wording of a problem begins with. -/
def initial : Problem → Char
  | .notObject | .noStates | .noTarget _ | .unknownTarget _ _ => 'T'
  | .missingId | .missingName | .missingVendor => 'M'
  | .unnamedVariable | .unknownType _ _ => 'V'
  | .duplicateState _ => 'D'
  | .stateNotObject | .unnamedState | .noPatterns _ => 'S'
  | .patternNotObject _ _ | .noRegex _ _ => 'P'
  | .badRegex _ _ => 'I'
  | .unknownAction _ _ => 'U'
  | .noVariable _ _ => 'A'

theorem head?_message (problem : Problem) :
    problem.message.toList.head? = some problem.initial := by
  cases problem with
  | notObject | missingId | missingName | missingVendor | noStates | unnamedVariable
  | stateNotObject | unnamedState => rfl
  | duplicateState name => exact head?_append_of_head? rfl _
  | noPatterns state | noTarget state =>
    exact head?_append_of_head? (head?_append_of_head? rfl _) _
  | unknownType name type | badRegex state type | unknownAction state type
  | unknownTarget state type =>
    exact head?_append_of_head? (head?_append_of_head? (head?_append_of_head? rfl _) _) _
  | patternNotObject state index | noRegex state index | noVariable state index =>
    exact head?_append_of_head? (head?_append_of_head? (head?_append_of_head?
      (head?_append_of_head? rfl _) _) _) _

/-- No other problem reads like a missing vendor. -/
theorem message_eq_missingVendor {problem : Problem} :
    problem.message = Problem.missingVendor.message ↔ problem = .missingVendor := by
  constructor
  · intro h
    have hinitial : problem.initial = 'M' := by
      have hhead := problem.head?_message
      rw [h, head?_message] at hhead
      exact (Option.some.inj hhead).symm
    cases problem with
    | missingVendor => rfl
    | missingId | missingName =>
      revert h
      decide
    | _ => cases hinitial
  · rintro rfl
    rfl
end Problem

/-! ## Templates -/

open Validation

namespace Template

/-- What is written of a template lacks what its document lacks, but for the vendor. -/
theorem lacks_write {doc : Value} {t : Template} (h : Describes doc t) :
    lacks t.write "id" = lacks doc "id" ∧ lacks t.write "name" = lacks doc "name" ∧
      lacks t.write "vendor" = false ∧ lacks t.write "states" = lacks doc "states" := by
  have hwritten := describes_write h.canonical
  refine ⟨?_, ?_, ?_, ?_⟩
  · rw [lacks, lacks, hwritten.id.fieldOrNull, h.id.fieldOrNull, settled]
  · -- A name without content is read as the empty text, which has none either.
    have hfalsy : (Value.str "").truthy = false := rfl
    rw [lacks, lacks, ← Value.truthy_orElse_of_falsy hfalsy, hwritten.name,
      ← Value.truthy_orElse_of_falsy hfalsy (fieldOrNull doc "name"), h.name, settled]
  · have hfield : Has t.write "vendor" t.vendor := has_ofFields rfl
    rw [lacks, hfield.fieldOrNull, h.canonical.vendor, Bool.not_true]
  · rw [lacks, lacks, truthy_of_lists h.states, truthy_of_lists hwritten.states, settled]

/-- **What is written of a template has the problems of a document that it was read from**, but for
a missing vendor. -/
theorem validate_write {doc : Value} {t : Template} (h : Describes doc t) :
    Validation.validate t.write =
      (Validation.validate doc).map (·.filter (· ≠ .missingVendor)) := by
  have hwritten := describes_write h.canonical
  obtain ⟨docs, hdocs, hstates⟩ := h.states
  obtain ⟨others, hothers, hstates'⟩ := hwritten.states
  obtain ⟨parts, hparts, hdeclared⟩ := h.declared
  obtain ⟨known, hknown, hdeclared'⟩ := hwritten.declared
  have hboth := forall₂_both hstates hstates'
  have hvariables : parts.flatMap checkVariable = known.flatMap checkVariable := by
    rw [settled, List.forall₂_map_right_iff] at hdeclared'
    refine flatMap_congr_forall₂ ((forall₂_both hdeclared hdeclared').imp ?_)
    rintro x y ⟨v, hx, hy⟩
    exact checkVariable_congr hx hy rfl rfl
  have hnames : docs.foldlM nameState ([], []) = others.foldlM nameState ([], []) := by
    refine foldlM_congr (hboth.imp ?_) _
    rintro x y ⟨s, hx, hy⟩ found
    exact nameState_congr hx hy found
  have hchecked (names : List Key) : collect (checkState names) docs =
      collect (checkState names) others := by
    refine collect_congr (hboth.imp ?_)
    rintro x y ⟨s, hx, hy⟩
    exact checkState_congr hx hy names
  obtain ⟨hid, hname, hvendor, hempty⟩ := lacks_write h
  simp only [Validation.validate, h.id.isObject, hwritten.id.isObject, hdocs, hothers, hparts,
    hknown, ok_bind, hid, hname, hvendor, hempty, ← hnames, ← hchecked, ← hvariables,
    Bool.not_true, Bool.false_eq_true, if_false]
  cases hfold : docs.foldlM nameState ([], []) with
  | error fault => rfl
  | ok found =>
    simp only [ok_bind]
    cases hstates : collect (checkState found.1) docs with
    | error fault => rfl
    | ok ofStates =>
      have hof := vendored_of_collect (fun _ _ ↦ vendored_of_checkState) hstates
      have hfound := vendored_of_nameStates hfold List.not_mem_nil
      have hof' := vendored_flatMap vendored_checkVariable parts
      refine congrArg Except.ok ?_
      beta_reduce
      rw [List.filter_append, List.filter_append, List.filter_append, filter_fields, hof.filter_eq,
        hfound.filter_eq, hof'.filter_eq]

/-- **Validating a template that was read** stops with the fault that validating its document stops
with, and otherwise has the same problems in the same order, but for a missing vendor; so do the
texts of the problems. A valid document is read as a valid template. -/
theorem validate_read {doc : Value} {t : Template} (h : Template.read doc = .ok t) :
    (∀ fault, t.validate = .error fault ↔ Validation.validate doc = .error fault) ∧
      (∀ problems, Validation.validate doc = .ok problems →
        t.validate = .ok (problems.filter (· ≠ .missingVendor)) ∧
          (problems.filter (· ≠ .missingVendor)).map Problem.message =
            (problems.map Problem.message).filter (· ≠ "Missing vendor")) ∧
      (Validation.isValid doc = .ok true → t.validate = .ok []) := by
  have hsame : t.validate = _ := validate_write (Template.read_eq_ok.mp h)
  refine ⟨?_, ?_, ?_⟩
  · intro fault
    rw [hsame]
    cases Validation.validate doc with
    | error found => rfl
    | ok problems => simp only [Except.map, reduceCtorEq]
  · intro problems hproblems
    rw [hsame, hproblems]
    refine ⟨rfl, ?_⟩
    rw [List.filter_map]
    refine congrArg _ (List.filter_congr fun problem _ ↦ ?_)
    exact decide_eq_decide.mpr (not_congr Problem.message_eq_missingVendor.symm)
  · intro hvalid
    obtain ⟨problems, hproblems, hempty⟩ := bind_eq_ok.mp hvalid
    rw [hsame, hproblems, List.isEmpty_iff.mp (pure_eq_ok.mp hempty)]
    rfl

/-- A document without a name and a vendor, and with a pattern in which nothing is right. -/
def unnamed : Value :=
  Value.ofFields [
    ("id", .str "unnamed"),
    ("states", .list [Value.ofFields [
      ("name", .str "first"),
      ("patterns", .list [Value.ofFields [
        ("regex", .str "(a"),
        ("actions", .list [Value.ofFields [("type", .str "set"), ("variable", .str "")]]),
        ("transition", Value.ofFields [("to", .str "last")])]])]])]

/-- What is wrong with its pattern. -/
def unnamedPattern : List Problem :=
  [.badRegex (.str "first") (.malformed "(a" ⟨.missing ')', 2⟩),
    .noVariable (.str "first") (.str "set"),
    .unknownTarget (.str "first") (.str "last")]

/-- The template that it is read as has a vendor, and all other problems. -/
theorem validate_read_unnamed :
    ∃ t, Template.read unnamed = .ok t ∧
      Validation.validate unnamed = .ok (.missingName :: .missingVendor :: unnamedPattern) ∧
      t.validate = .ok (.missingName :: unnamedPattern) := by
  obtain ⟨t, ht⟩ : ∃ t, Template.read unnamed = .ok t := ⟨_, rfl⟩
  have hproblems : Validation.validate unnamed =
      .ok (.missingName :: .missingVendor :: unnamedPattern) := by
    decide +kernel
  obtain ⟨hvalidate, -⟩ := (validate_read ht).2.1 _ hproblems
  exact ⟨t, ht, hproblems, hvalidate⟩

end Template

end LineMachine
