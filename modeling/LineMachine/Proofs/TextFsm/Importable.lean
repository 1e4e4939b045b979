import LineMachine.Proofs.Template.Accepted
import LineMachine.Proofs.TextFsm.Converted
import LineMachine.Proofs.TextFsm.Filldown

/-!
# Which imports are valid

A TextFSM template that was read may still be imported as a template that is not valid. Four things
decide it, and they can be seen in the document: a state with rules has to be left; the expressions
have to be patterns here as well; every target has to be a state that is left, or one of the names
that need none; and every Value has to have a name (`Document.validate_toTemplate`). Nothing else
can go wrong, since the names and the expressions that come from the reader have content and no two
of its states have the same name.
-/

namespace LineMachine

open Validation

/-! ## Patterns without flags -/

theorem Regex.Pattern.ofValues_str (text : String) :
    Regex.Pattern.ofValues (.str text) .null =
      (Regex.Pattern.read? text {}).mapError (.malformed text) := by
  rw [Regex.Pattern.ofValues, Regex.Flags.ofValue_null, ok_bind, Regex.Pattern.ofValue]
  rcases Regex.Pattern.read? text {} with fault | p <;> rfl

theorem wellFormedRegex_str {text : String} (h : text ≠ "") :
    WellFormedRegex (.str text) .null ↔ ∃ p, Regex.Pattern.read? text {} = .ok p := by
  have hcompiles : (∃ p, Regex.Pattern.ofValues (.str text) .null = .ok p) ↔
      ∃ p, Regex.Pattern.read? text {} = .ok p := by
    simp only [Regex.Pattern.ofValues_str, mapError_eq_ok]
  constructor
  · intro hformed
    exact hcompiles.mp hformed.compiles
  · intro hread
    exact ⟨⟨text, rfl, h⟩, hcompiles.mpr hread⟩

/-- A pattern text without flags has only faults that are reported. -/
theorem checkableRegex_str (text : String) : CheckableRegex (.str text) .null := by
  intro found fault hfound _ hfault
  cases hfound
  rw [Regex.Pattern.ofValues_str] at hfault
  rcases hread : Regex.Pattern.read? text {} with other | p
  · rw [hread] at hfault
    cases hfault
    rfl
  · rw [hread] at hfault
    cases hfault

theorem Value.sameKey_str {s t : String} : (Value.str s).sameKey (.str t) = true ↔ s = t := by
  rw [Value.sameKey_eq (Value.key?_str s) (Value.key?_str t), Key.same_str, beq_iff_eq]

theorem Value.truthy_str {s : String} : (Value.str s).truthy = true ↔ s ≠ "" :=
  bne_iff_ne

namespace TextFsm.Document

variable {d : Document}

/-! ## What an import asks of a document -/

/-- Holds of a name that an imported rule may lead to: that of a final state, one of the two
reserved names, or that of a state with rules. -/
def Leads (d : Document) (target : String) : Prop :=
  target ∈ finalStates ∨ target = selfTarget ∨ target = endTarget ∨
    ∃ s ∈ d.states, s.name = target ∧ s.rules ≠ []

/-- Holds of a document whose states can be run once they are imported. -/
structure Runnable (d : Document) : Prop where
  /-- There is a state with rules. -/
  rules : ∃ s ∈ d.states, s.name ∉ finalStates ∧ s.rules ≠ []
  /-- The expressions are patterns. -/
  compiles : ∀ s ∈ d.states, ∀ r ∈ s.rules, ∃ p, Regex.Pattern.read? r.expression {} = .ok p
  /-- Where a rule has a target, it can lead there. -/
  leads : ∀ s ∈ d.states, ∀ r ∈ s.rules, ∀ target, r.action.target = some target → d.Leads target

/-! ## Imported parts -/

theorem stateNames_toTemplate (d : Document) (h : Heading) :
    (d.toTemplate h).states.map State.name = d.importedStates.map fun s ↦ .str s.name :=
  List.map_map

/-- A record operation clears nothing but Values. -/
theorem wellFormedAction_imported (hnamed : ∀ v ∈ d.values, v.name ≠ "")
    {operation : Option RecordOperation} {a : Action} (ha : a ∈ d.recordActions operation) :
    WellFormedAction a.write := by
  have hclear : ∀ names ⊆ d.valueNames, a ∈ clearAll names → WellFormedAction a.write := by
    intro names hnames hmem
    obtain ⟨name, hname, rfl⟩ := List.mem_map.mp hmem
    obtain ⟨v, hv, rfl⟩ := List.mem_map.mp (hnames hname)
    have htype : fieldOrNull (Action.clear (.str v.name)).write "type" = .str "clear" := rfl
    have hvariable : fieldOrNull (Action.clear (.str v.name)).write "variable" = .str v.name := rfl
    refine ⟨rfl, ?_, fun _ ↦ ?_⟩
    · rw [htype]
      decide
    · rw [hvariable]
      exact Value.truthy_str.mpr (hnamed v hv)
  have hregular : d.filldown.2 ⊆ d.valueNames := fun name hname ↦
    d.perm_filldown.subset (List.mem_append_right _ hname)
  have hemit : WellFormedAction Action.emit.write := ⟨rfl, by decide, fun h ↦ absurd rfl h⟩
  rcases operation with - | - | - | - | -
  · cases ha
  · exact hclear _ hregular ha
  · exact hclear _ (List.Subset.refl _) ha
  · rcases List.mem_cons.mp ha with rfl | hmem
    · exact hemit
    · exact hclear _ hregular hmem
  · cases ha

/-- The name that an imported rule leads to is among those of the imported states, or needs none. -/
theorem wellFormedTransition_imported (hd : d.Coherent) {target : String} (hcontent : target ≠ "") :
    WellFormedTransition (d.importedStates.map fun s ↦ .str s.name) (transitionTo target).write ↔
      d.Leads target := by
  have hlisted : (∃ name ∈ d.importedStates.map fun s ↦ Value.str s.name,
      (Value.str target).sameKey name = true) ↔
        ∃ s ∈ d.states, s.name = target ∧ s.rules ≠ [] := by
    constructor
    · rintro ⟨name, hname, hsame⟩
      obtain ⟨s, hs, rfl⟩ := List.mem_map.mp hname
      obtain ⟨hmem, hrules⟩ := (mem_importedStates hd).mp hs
      exact ⟨s, hmem, (Value.sameKey_str.mp hsame).symm, hrules⟩
    · rintro ⟨s, hmem, rfl, hrules⟩
      exact ⟨_, List.mem_map_of_mem ((mem_importedStates hd).mpr ⟨hmem, hrules⟩),
        Value.sameKey_str.mpr rfl⟩
  rw [wellFormedTransition_write, transitionTo, Leads, List.contains_eq_mem]
  by_cases hfinal : target ∈ finalStates
  · -- A final state is left out, and the rule ends the run.
    simp [hfinal, Value.truthy_str, endTarget]
  · simp only [hfinal, decide_false, Bool.false_eq_true, if_false, false_or, Value.str.injEq,
      Value.truthy_str, hlisted, and_iff_right hcontent]

theorem wellFormedPattern_imported (hd : d.Coherent) (hnamed : ∀ v ∈ d.values, v.name ≠ "")
    {r : RuleDecl} (hexpression : r.expression ≠ "") (hcontent : r.action.target ≠ some "") :
    WellFormedPattern (d.importedStates.map fun s ↦ .str s.name) (d.importRule r).write ↔
      (∃ p, Regex.Pattern.read? r.expression {} = .ok p) ∧
        ∀ target, r.action.target = some target → d.Leads target := by
  have hactions : ∀ a ∈ (d.importRule r).actions, WellFormedAction a.write :=
    fun a ha ↦ wellFormedAction_imported hnamed ha
  rw [wellFormedPattern_write, and_iff_right hactions]
  refine and_congr (wellFormedRegex_str hexpression) ?_
  rcases htarget : r.action.target with - | target
  · simp [importRule, htarget]
  · have hne : target ≠ "" := fun hempty ↦ hcontent (hempty ▸ htarget)
    simp only [importRule, htarget, Option.map_some, Option.some.injEq, forall_eq',
      wellFormedTransition_imported hd hne]

/-! ## Imported templates -/

/-- No two states of an imported template have the same name. -/
theorem pairwise_importedStates (hd : d.Coherent) :
    (d.importedStates.map fun s ↦ Value.str s.name).Pairwise fun m n ↦ m.sameKey n = false := by
  have hnodup : (d.importedStates.map (·.name)).Nodup :=
    hd.states.sublist (List.filter_sublist.map _)
  rw [List.pairwise_map]
  refine (List.pairwise_map.mp hnodup).imp fun hne ↦ ?_
  rw [← Bool.not_eq_true, Value.sameKey_str]
  exact hne

/-- What an import asks of the rules, it asks of those of the imported states. -/
theorem forall_importedStates_iff (hd : d.Coherent) {P : RuleDecl → Prop} :
    (∀ s ∈ d.importedStates, ∀ r ∈ s.rules, P r) ↔ ∀ s ∈ d.states, ∀ r ∈ s.rules, P r := by
  constructor
  · intro h s hs r hr
    exact h s ((mem_importedStates hd).mpr ⟨hs, List.ne_nil_of_mem hr⟩) r hr
  · intro h s hs r hr
    exact h s ((mem_importedStates hd).mp hs).1 r hr

theorem importedStates_ne_nil_iff (hd : d.Coherent) :
    d.importedStates ≠ [] ↔ ∃ s ∈ d.states, s.name ∉ finalStates ∧ s.rules ≠ [] := by
  constructor
  · intro h
    obtain ⟨s, hs⟩ := List.exists_mem_of_ne_nil _ h
    obtain ⟨hmem, hrules⟩ := (mem_importedStates hd).mp hs
    exact ⟨s, hmem, fun hfinal ↦ hrules (hd.final s hmem hfinal), hrules⟩
  · rintro ⟨s, hmem, -, hrules⟩
    exact List.ne_nil_of_mem ((mem_importedStates hd).mpr ⟨hmem, hrules⟩)

/-- An imported template is well formed exactly if its document can be run and its Values are
named. -/
theorem wellFormed_toTemplate (hd : d.Coherent) (hworded : ∀ s ∈ d.states, s.Worded) {h : Heading}
    (hid : h.id.truthy = true) (hvendor : h.vendor.truthy = true) :
    WellFormed (d.toTemplate h).write ↔ d.Runnable ∧ ∀ v ∈ d.values, v.name ≠ "" := by
  have hdeclared : (∀ v ∈ (d.toTemplate h).declared, WellFormedVariable v.write) ↔
      ∀ v ∈ d.values, v.name ≠ "" := by
    rw [toTemplate, valueNames, List.forall_mem_map, List.forall_mem_map]
    refine forall₂_congr fun v _ ↦ ?_
    rw [wellFormedVariable_write, importValue, Value.truthy_str]
    have hknown : Value.str "string" ∈ variableTypes := by decide
    exact and_iff_left fun _ ↦ hknown
  have hstates (hnamed : ∀ v ∈ d.values, v.name ≠ "") :
      (∀ s ∈ (d.toTemplate h).states,
        WellFormedState ((d.toTemplate h).states.map State.name) s.write) ↔
      ∀ s ∈ d.states, ∀ r ∈ s.rules, (∃ p, Regex.Pattern.read? r.expression {} = .ok p) ∧
        ∀ target, r.action.target = some target → d.Leads target := by
    rw [stateNames_toTemplate, ← forall_importedStates_iff hd, toTemplate, List.forall_mem_map]
    refine forall₂_congr fun s hs ↦ ?_
    obtain ⟨hmem, hrules⟩ := (mem_importedStates hd).mp hs
    have hlisted : s.rules.map d.importRule ≠ [] := fun hnil ↦ hrules (List.map_eq_nil_iff.mp hnil)
    rw [wellFormedState_write, Value.truthy_str, and_iff_right (hworded s hmem).name,
      and_iff_right hlisted, List.forall_mem_map]
    exact forall₂_congr fun r hr ↦ wellFormedPattern_imported hd hnamed
      ((hworded s hmem).expression r hr) ((hworded s hmem).target r hr)
  have hname : (d.toTemplate h).name.truthy = true := Value.truthy_orElse hid
  have hlisted : (d.toTemplate h).states ≠ [] ↔
      ∃ s ∈ d.states, s.name ∉ finalStates ∧ s.rules ≠ [] := by
    rw [← importedStates_ne_nil_iff hd, toTemplate, Ne, List.map_eq_nil_iff]
  rw [wellFormed_write, hdeclared, hlisted, stateNames_toTemplate]
  constructor
  · rintro ⟨-, -, -, hrules, hnamed, -, hformed⟩
    rw [← stateNames_toTemplate d h] at hformed
    have hparts := (hstates hnamed).mp hformed
    exact ⟨⟨hrules, fun s hs r hr ↦ (hparts s hs r hr).1, fun s hs r hr ↦ (hparts s hs r hr).2⟩,
      hnamed⟩
  · rintro ⟨hrunnable, hnamed⟩
    refine ⟨hid, hname, hvendor, hrunnable.rules, hnamed, pairwise_importedStates hd, ?_⟩
    rw [← stateNames_toTemplate d h]
    exact (hstates hnamed).mpr fun s hs r hr ↦
      ⟨hrunnable.compiles s hs r hr, hrunnable.leads s hs r hr⟩

/-- Validation can go through every imported template. -/
theorem checkable_toTemplate (d : Document) (h : Heading) : Checkable (d.toTemplate h).write := by
  refine checkable_write ?_ ?_ ?_
  · exact List.forall_mem_map.mpr fun s _ ↦ rfl
  · refine List.forall_mem_map.mpr fun s _ ↦ List.forall_mem_map.mpr fun r _ ↦ ?_
    exact checkableRegex_str r.expression
  · refine List.forall_mem_map.mpr fun s _ ↦ List.forall_mem_map.mpr fun r _ goal hgoal ↦ ?_
    obtain ⟨target, -, rfl⟩ := Option.map_eq_some_iff.mp hgoal
    rfl

/-- **Which imports are valid.** Let a TextFSM template be one that a lawful reader accepts, and let
its id and its vendor have content. Validating the imported template comes to an end. It finds no
problem exactly if a state with rules is left, the expressions are patterns, every target is a state
that is left or needs none, and every Value has a name. The imported template has the states with
rules that are not final, as they were declared and rule by rule, and a variable for each Value. -/
theorem validate_toTemplate {ε : Type} {read : String → Except ε Document} (hlawful : Lawful read)
    {content : String} {d : Document} (hread : read content = .ok d) {h : Heading}
    (hid : h.id.truthy = true) (hvendor : h.vendor.truthy = true) :
    (∃ problems, (d.toTemplate h).validate = .ok problems ∧
      (problems = [] ↔ d.Runnable ∧ ∀ v ∈ d.values, v.name ≠ "")) ∧
    List.Forall₂
      (fun s t ↦ t.name = .str s.name ∧
        List.Forall₂ (fun (r : RuleDecl) (rule : Rule) ↦ rule.pattern = .str r.expression)
          s.rules t.rules)
      (d.states.filter fun s ↦ s.name ∉ finalStates ∧ s.rules ≠ []) (d.toTemplate h).states ∧
    List.Forall₂ (fun v var ↦ var.name = .str v.name ∧ var.type = .str "string")
      d.values (d.toTemplate h).declared := by
  have hd := hlawful.coherent hread
  have hworded := hlawful.worded hread
  have hdecides := decides_validate (d.toTemplate h).write
  refine ⟨?_, ?_, ?_⟩
  · obtain ⟨problems, hproblems⟩ := hdecides.ends.mpr (d.checkable_toTemplate h)
    refine ⟨problems, hproblems, ?_⟩
    rw [hdecides.fine problems hproblems, wellFormed_toTemplate hd hworded hid hvendor]
  · have hsame : (d.states.filter fun s ↦ s.name ∉ finalStates ∧ s.rules ≠ []) =
        d.importedStates := by
      refine List.filter_congr fun s _ ↦ ?_
      rcases s.rules with - | ⟨r, rules⟩ <;> simp
    rw [hsame, toTemplate, List.forall₂_map_right_iff, List.forall₂_same]
    intro s _
    refine ⟨rfl, ?_⟩
    rw [List.forall₂_map_right_iff, List.forall₂_same]
    exact fun r _ ↦ rfl
  · rw [toTemplate, valueNames, List.forall₂_map_right_iff, List.forall₂_map_right_iff,
      List.forall₂_same]
    exact fun v _ ↦ ⟨rfl, rfl⟩

open Engine (hosts hostsText readDocument_hosts)

/-- The list of hosts can be run and is valid. -/
theorem validate_toTemplate_hosts :
    readDocument hostsText = .ok hosts ∧ hosts.Runnable ∧
      (hosts.toTemplate { id := .str "hosts" }).validate = .ok [] := by
  obtain ⟨⟨problems, hproblems, hvalid⟩, -⟩ :=
    validate_toTemplate lawful_readDocument readDocument_hosts (h := { id := .str "hosts" }) rfl rfl
  have hnone : (hosts.toTemplate { id := .str "hosts" }).validate = .ok [] := by decide +kernel
  obtain rfl : [] = problems := Except.ok.inj (hnone.symm.trans hproblems)
  exact ⟨readDocument_hosts, (hvalid.mp rfl).1, hnone⟩

/-- A document that can be run and has a Value without a name. -/
def nameless : Document where
  values := [⟨"", [], "(a)"⟩]
  states := [⟨"Start", [⟨"^a", "^a", {}⟩]⟩]

/-- The text that it is read from: the Value has two blanks in front of its expression. -/
def namelessText : String :=
  "Value  (a)\n\nStart\n  ^a\n"

/-- The variable for a Value without a name is a problem. -/
theorem not_valid_nameless :
    readDocument namelessText = .ok nameless ∧ nameless.Runnable ∧
      (nameless.toTemplate { id := .str "tpl" }).validate = .ok [.unnamedVariable] := by
  have hrules : ∀ s ∈ nameless.states, ∀ r ∈ s.rules, r = ⟨"^a", "^a", {}⟩ := by decide
  refine ⟨by decide +kernel, ⟨?_, ?_, ?_⟩, by decide +kernel⟩
  · exact ⟨_, List.mem_cons_self, by decide, List.cons_ne_nil _ _⟩
  · intro s hs r hr
    rw [hrules s hs r hr]
    have hread : (Regex.Pattern.read? "^a" {}).toOption.isSome = true := by decide +kernel
    rcases hp : Regex.Pattern.read? "^a" {} with fault | p
    · rw [hp] at hread
      cases hread
    · exact ⟨p, rfl⟩
  · intro s hs r hr target htarget
    rw [hrules s hs r hr] at htarget
    cases htarget

end TextFsm.Document

end LineMachine
