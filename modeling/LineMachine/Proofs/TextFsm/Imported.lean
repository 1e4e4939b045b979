import Mathlib.Data.List.Forall2
import LineMachine.Proofs.Engine
import LineMachine.Proofs.Machine
import LineMachine.Proofs.Run.Blind
import LineMachine.Proofs.Run.Told
import LineMachine.Proofs.TextFsm.Lawful

/-!
# Machines of TextFSM templates

What is in the machine that is built from an imported template, said in the terms of the document:
a state of the machine is a state of the document that has rules, its rules are those of the
document one by one (`Document.Makes`), and its variables take texts as they are. All of it is
`Document.Imported`, read off once (`imported_of_ofTemplate`), so that what a run of an imported
template does can be followed on the document alone.
-/

namespace LineMachine.TextFsm

open Machine (TraceEntry)

/-! ## Rules of a document -/

namespace RuleDecl

/-- What the groups of a rule capture in a line, if its expression is a pattern that is found
there. -/
def captures? (r : RuleDecl) (line : String) : Option Machine.Groups :=
  (Regex.Pattern.read? r.expression {}).toOption.bind (·.captures? line)

/-- Whether the expression of a rule is found in a line. -/
def finds (line : String) (r : RuleDecl) : Bool :=
  (r.captures? line).isSome

end RuleDecl

namespace Document

/-- The rules of the state that a value names. -/
def rulesAt (d : Document) : Value → List RuleDecl
  | .str name => rulesOf d.states name
  | _ => []

/-- The rule of the document that an entry says was taken. -/
def ruleAt? (d : Document) (e : TraceEntry) : Option RuleDecl :=
  e.matched.bind fun k ↦ (d.rulesAt e.state)[k]?

theorem rulesAt_of_mem {d : Document} (hd : d.Coherent) {s : StateDecl} (hs : s ∈ d.states) :
    d.rulesAt (.str s.name) = s.rules :=
  rulesOf_eq hd.states hs

/-- A name with rules is that of a state. -/
theorem exists_of_rulesAt {d : Document} {state : Value} (h : d.rulesAt state ≠ []) :
    ∃ s ∈ d.states, state = .str s.name ∧ s.rules = d.rulesAt state := by
  cases state with
  | null | bool | int | float | list | object => exact absurd rfl h
  | str name =>
    rw [rulesAt, rulesOf] at h ⊢
    rcases hfind : d.states.find? (·.name == name) with - | s
    · rw [hfind] at h
      exact absurd rfl h
    · have hname := List.find?_some hfind
      exact ⟨s, List.mem_of_find?_eq_some hfind, by rw [beq_iff_eq.mp hname], by rw [hfind]; rfl⟩

/-- The states of an imported template are those with rules. -/
theorem mem_importedStates {d : Document} (hd : d.Coherent) {s : StateDecl} :
    s ∈ d.importedStates ↔ s ∈ d.states ∧ s.rules ≠ [] := by
  rw [importedStates, List.mem_filter, Bool.and_eq_true, Bool.not_eq_true', Bool.not_eq_true',
    List.isEmpty_eq_false_iff, List.contains_eq_mem, decide_eq_false_iff_not]
  constructor
  · rintro ⟨hs, -, hrules⟩
    exact ⟨hs, hrules⟩
  · rintro ⟨hs, hrules⟩
    exact ⟨hs, fun hfinal ↦ hrules (hd.final s hs hfinal), hrules⟩

/-! ## Rules of its machine -/

/-- Holds of a rule of a machine that was made from a rule of a document. -/
structure Makes (d : Document) (decl : RuleDecl) (r : Machine.Rule) : Prop where
  /-- The pattern is the expression. -/
  pattern : Regex.Pattern.read? decl.expression {} = .ok r.pattern
  /-- Groups are stored under their own names. -/
  rename : r.rename = none
  /-- The actions are those of the record operation. -/
  actions : r.actions = d.recordActions decl.action.record
  /-- The transition leads to the target. -/
  transition : r.transition = decl.action.target.map transitionTo

theorem makes_of_ofTemplate {d : Document} {state : Value} {index : Nat} {decl : RuleDecl}
    {r : Machine.Rule} (h : Machine.Rule.ofTemplate state index (d.importRule decl) = .ok r) :
    d.Makes decl r := by
  obtain ⟨pattern, hpattern, rfl⟩ := Machine.rule_of_ofTemplate h
  refine ⟨?_, rfl, rfl, rfl⟩
  -- An imported rule has no flags.
  rw [importRule, Option.getD_none, Regex.Pattern.ofValues, Regex.Flags.ofValue_null, ok_bind,
    Regex.Pattern.ofValue] at hpattern
  split at hpattern
  · rename_i found hread
    cases hpattern
    exact hread
  · cases hpattern

theorem makes_of_ofTemplates {d : Document} {state : Value} {index : Nat} {decls : List RuleDecl}
    {rules : List Machine.Rule}
    (h : Machine.Rule.ofTemplates state index (decls.map d.importRule) = .ok rules) :
    List.Forall₂ d.Makes decls rules := by
  induction decls generalizing index rules with
  | nil =>
    cases h
    exact .nil
  | cons decl decls ih =>
    obtain ⟨r, hr, h⟩ := bind_eq_ok.mp h
    obtain ⟨rest, hrest, h⟩ := bind_eq_ok.mp h
    cases h
    exact .cons (makes_of_ofTemplate hr) (ih hrest)

theorem Makes.captures? {d : Document} {decl : RuleDecl} {r : Machine.Rule} (h : d.Makes decl r)
    (line : String) : decl.captures? line = r.pattern.captures? line := by
  rw [RuleDecl.captures?, h.pattern]
  rfl

/-- The same rule comes first in a line. -/
theorem findIdx?_of_makes {d : Document} {decls : List RuleDecl} {rules : List Machine.Rule}
    (h : List.Forall₂ d.Makes decls rules) (line : String) :
    rules.findIdx? (Machine.Rule.finds line) = decls.findIdx? (RuleDecl.finds line) := by
  induction h with
  | nil => rfl
  | cons hmakes hrest ih =>
    rw [List.findIdx?_cons, List.findIdx?_cons, ih, Machine.Rule.finds, RuleDecl.finds,
      hmakes.captures?]

/-- In one place there are two rules one of which was made from the other, or none. -/
theorem rel_of_makes {d : Document} {decls : List RuleDecl} {rules : List Machine.Rule}
    (h : List.Forall₂ d.Makes decls rules) (k : Nat) : Option.Rel d.Makes decls[k]? rules[k]? := by
  induction h generalizing k with
  | nil => exact .none
  | cons hmakes hrest ih =>
    rcases k with - | k
    · exact .some hmakes
    · exact ih k

/-! ## The machine -/

/-- Holds of a machine that is as a document says. -/
structure Imported (d : Document) (m : Machine) : Prop where
  /-- States are found under their own names and have their rules numbered. -/
  orderly : m.Orderly
  /-- A run starts in the first state that has a counterpart. -/
  start : ∃ first, d.importedStates.head? = some first ∧ m.start = .str first.name
  /-- The states of the table are those with rules. -/
  known (state : Value) : (m.stateAt? state).isSome = true ↔ d.rulesAt state ≠ []
  /-- The rules of a state are those of the document. -/
  rules (state : Value) : List.Forall₂ d.Makes (d.rulesAt state) (m.rulesIn state)
  /-- A variable takes texts as they are. -/
  coerce (o : Options) (name : String) (v : Value) : m.coerce o (.str name) v = .ok v

/-- A state in the table is a state of the document with its rules made. -/
theorem exists_of_stateAt? {d : Document} {heading : Heading} {m : Machine}
    (h : Machine.Built (d.toTemplate heading) m) {name : Value} {s : Machine.State}
    (hs : m.stateAt? name = some s) :
    ∃ decl ∈ d.importedStates, name = .str decl.name ∧ List.Forall₂ d.Makes decl.rules s.rules := by
  obtain ⟨k, hk, hfound⟩ := Option.bind_eq_some_iff.mp hs
  obtain ⟨source, hsource, j, hj, hsame, hstate⟩ := Machine.exists_of_find?_states h hfound
  obtain ⟨decl, hdecl, rfl⟩ := List.mem_map.mp hsource
  cases hj
  refine ⟨decl, hdecl, Value.eq_str_of_key? (Key.eq_str_of_same hsame ▸ hk), ?_⟩
  exact makes_of_ofTemplates (Machine.state_of_ofTemplate hstate).2

/-- The rules of a state in the table were made from those of the document, and there are some. -/
theorem rulesAt_of_stateAt? {d : Document} (hd : d.Coherent) {heading : Heading} {m : Machine}
    (h : Machine.Built (d.toTemplate heading) m) {name : Value} {s : Machine.State}
    (hs : m.stateAt? name = some s) :
    d.rulesAt name ≠ [] ∧ List.Forall₂ d.Makes (d.rulesAt name) s.rules := by
  obtain ⟨decl, hmem, rfl, hmakes⟩ := exists_of_stateAt? h hs
  obtain ⟨hmem, hrules⟩ := (mem_importedStates hd).mp hmem
  rw [rulesAt_of_mem hd hmem]
  exact ⟨hrules, hmakes⟩

theorem isSome_stateAt?_iff {d : Document} (hd : d.Coherent) {heading : Heading} {m : Machine}
    (h : Machine.Built (d.toTemplate heading) m) (name : Value) :
    (m.stateAt? name).isSome = true ↔ d.rulesAt name ≠ [] := by
  constructor
  · intro hsome
    obtain ⟨s, hs⟩ := Option.isSome_iff_exists.mp hsome
    exact (rulesAt_of_stateAt? hd h hs).1
  · intro hrules
    obtain ⟨decl, hmem, rfl, hsame⟩ := exists_of_rulesAt hrules
    have hsource : ⟨.str decl.name, decl.rules.map d.importRule⟩ ∈ (d.toTemplate heading).states :=
      List.mem_map.mpr ⟨decl, (mem_importedStates hd).mpr ⟨hmem, hsame ▸ hrules⟩, rfl⟩
    exact Machine.isSome_stateAt?_of_mem h hsource rfl rfl (Key.same_self _)

/-- No variable of an imported template is a number or a list. -/
theorem type?_of_imported {d : Document} {heading : Heading} {m : Machine}
    (h : Machine.ofTemplate (d.toTemplate heading) = .ok m) (v : Key) {type : Value}
    (htype : m.type? v = some type) : type = .str "string" := by
  rw [Machine.type?_of_ofTemplate h, Template.typeOf?] at htype
  obtain ⟨declared, hfind, rfl⟩ := Option.map_eq_some_iff.mp htype
  have hmem := List.mem_reverse.mp (List.mem_of_find?_eq_some hfind)
  obtain ⟨name, -, rfl⟩ := List.mem_map.mp hmem
  rfl

/-- **The machine of an imported template is as the document says.** -/
theorem imported_of_ofTemplate {d : Document} (hd : d.Coherent) {heading : Heading} {m : Machine}
    (h : Machine.ofTemplate (d.toTemplate heading) = .ok m) : d.Imported m := by
  have hbuilt := Machine.built_of_ofTemplate h
  refine ⟨?_, ?_, isSome_stateAt?_iff hd hbuilt, ?_, ?_⟩
  · refine Machine.orderly_of_built hbuilt fun s hs ↦ ?_
    obtain ⟨decl, -, rfl⟩ := List.mem_map.mp hs
    exact ⟨decl.name, rfl⟩
  · obtain ⟨first, rest, hstates, hstart⟩ := hbuilt.start
    rw [toTemplate] at hstates
    obtain ⟨decl, decls, himported, rfl, -⟩ := List.map_eq_cons_iff.mp hstates
    exact ⟨decl, by rw [himported]; rfl, hstart⟩
  · intro name
    rcases hstate : m.stateAt? name with - | s
    · -- A name that is not in the table has no rules on either side.
      have hnone : d.rulesAt name = [] := by
        by_contra hrules
        have hsome := (isSome_stateAt?_iff hd hbuilt name).mpr hrules
        rw [hstate] at hsome
        cases hsome
      rw [Machine.rulesIn_of_unknown hstate, hnone]
      exact .nil
    · rw [Machine.rulesIn_of_stateAt? hstate]
      exact (rulesAt_of_stateAt? hd hbuilt hstate).2
  · intro o name v
    refine Machine.coerce_of_untyped ?_ ?_ o v
    · intro htype
      exact absurd (type?_of_imported h _ htype) (by decide)
    · intro htype
      exact absurd (type?_of_imported h _ htype) (by decide)

/-! ## Entries -/

/-- The rule that an entry names in the machine was made from the one that it names in the
document. -/
theorem Imported.rel_ruleAt? {d : Document} {m : Machine} (h : d.Imported m) (e : TraceEntry) :
    Option.Rel d.Makes (d.ruleAt? e) (m.ruleOf? e) := by
  rw [ruleAt?, Machine.ruleOf?]
  rcases e.matched with - | k
  · exact .none
  · exact rel_of_makes (h.rules e.state) k

theorem Imported.exists_ruleAt? {d : Document} {m : Machine} (h : d.Imported m) {e : TraceEntry}
    {r : Machine.Rule} (hr : m.ruleOf? e = some r) :
    ∃ decl, d.ruleAt? e = some decl ∧ d.Makes decl r := by
  have hrel := h.rel_ruleAt? e
  rw [hr] at hrel
  generalize d.ruleAt? e = decl? at hrel ⊢
  obtain ⟨hmakes⟩ := hrel
  exact ⟨_, rfl, hmakes⟩

end Document

end LineMachine.TextFsm

namespace LineMachine.Engine

open TextFsm

/-- A run of an imported template that comes to an end is a run of a machine that is as the
document says. -/
theorem exists_imported {d : Document} (hd : d.Coherent)
    {heading : Heading} {cache : Cache} (hsuits : Suits cache (d.toTemplate heading))
    {text : String} {o : Options} {r : ParseResult}
    (h : (parse cache (.str text) (d.toTemplate heading) o).result = .ok r) :
    ∃ m c, Machine.ofTemplate (d.toTemplate heading) = .ok m ∧ d.Imported m ∧
      m.run o (Text.splitLines text) = .ok c ∧ r = .ofConfig (d.toTemplate heading) o c := by
  obtain ⟨stored, c, hcompile, hrun, hr⟩ := parse_eq_ok h
  have hm := hsuits stored hcompile
  exact ⟨stored.machine, c, hm, Document.imported_of_ofTemplate hd hm, hrun, hr⟩

end LineMachine.Engine
