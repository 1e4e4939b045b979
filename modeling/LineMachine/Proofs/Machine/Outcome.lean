import LineMachine.Proofs.Engine
import LineMachine.Proofs.Machine

/-!
# Making a template ready

What comes of making a template ready, where its states and its variables are named by texts. It
stops at the first pattern that does not compile, in the order of the document (`FirstBroken`), and
where all patterns compile it stops if there is no state to start in. Nothing else stops it.

Otherwise the machine holds what the template says (`Tabulates`). Each name of a state has one place
in the table, that of the first state of the name, and there the rules of the last one; each rule
bears the number of its place and what the template gives it (`Machine.Rule.MadeFrom`). So the first
pattern that is broken is reported even if it stands in a state that a later one of its name would
have replaced.
-/

namespace LineMachine

/-! ## Broken templates -/

/-- Holds of a template whose states and variables are named by texts. -/
structure Template.NamedByTexts (t : Template) : Prop where
  states : ∀ s ∈ t.states, ∃ text, s.name = .str text
  declared : ∀ v ∈ t.declared, ∃ text, v.name = .str text

/-- Holds of a template and the first of its rules whose pattern does not compile: the name of its
state, its place there, and what is wrong with it. -/
inductive Template.FirstBroken (t : Template) : Value → Nat → PatternFault → Prop
  | intro {before after : List State} {s : State} {front back : List Rule} {r : Rule}
      {fault : PatternFault} (hstates : t.states = before ++ s :: after)
      (hbefore : ∀ s' ∈ before, s'.Compiles)
      (hrules : s.rules = front ++ r :: back) (hfront : ∀ r' ∈ front, r'.Compiles)
      (hfault : Regex.Pattern.ofValues r.pattern (r.flags.getD .null) = .error fault) :
      FirstBroken t s.name front.length fault

namespace Machine

/-- Holds of a rule of a machine that was made from a rule of a template in a given place. -/
structure Rule.MadeFrom (source : LineMachine.Rule) (index : Nat) (r : Rule) : Prop where
  index : r.index = index
  pattern : Regex.Pattern.ofValues source.pattern (source.flags.getD .null) = .ok r.pattern
  rename : r.rename = source.rename
  actions : r.actions = source.actions
  transition : r.transition = source.transition

/-- Holds of a state of a machine that was made from a state of a template, rule by rule. -/
structure State.MadeFrom (source : LineMachine.State) (s : State) : Prop where
  name : s.name = source.name
  rules : List.Forall₂ (fun e r ↦ Rule.MadeFrom e.1 e.2 r) source.rules.zipIdx s.rules

/-- Holds of a template and a machine that has its states and its variables in tables, each name in
the place where it came first and with what it was last given. -/
structure Tabulates (t : Template) (m : Machine) : Prop where
  template : m.template = t
  start : (t.states.head?.map LineMachine.State.name) = some m.start
  /-- The names of the states, in the order in which they first occur. -/
  names : Table.keys m.states = (t.states.filterMap (·.name.key?)).eraseDups
  /-- Under each name, the last state that bears it. -/
  states : ∀ k, Option.Rel State.MadeFrom (t.stateOf? k) (Table.find? m.states k)
  /-- The names of the variables, in the order in which they are first declared. -/
  declared : Table.keys m.types = (t.declared.filterMap (·.name.key?)).eraseDups
  /-- For each name, the type that it is last declared with. -/
  types : ∀ v, m.type? v = t.typeOf? v

/-! ## Rules -/

theorem rule_eq_ok {state : Value} {index : Nat} {source : LineMachine.Rule} {r : Rule} :
    Rule.ofTemplate state index source = .ok r ↔ Rule.MadeFrom source index r := by
  constructor
  · intro h
    obtain ⟨pattern, hpattern, rfl⟩ := rule_of_ofTemplate h
    exact ⟨rfl, hpattern, rfl, rfl, rfl⟩
  · rintro ⟨rfl, hpattern, hrename, hactions, htransition⟩
    rw [Rule.ofTemplate, hpattern, ← hrename, ← hactions, ← htransition]

theorem rule_eq_error {state : Value} {index : Nat} {source : LineMachine.Rule}
    {fault : Fault} :
    Rule.ofTemplate state index source = .error fault ↔
      ∃ found, Regex.Pattern.ofValues source.pattern (source.flags.getD .null) = .error found ∧
        fault = .invalidPattern state index found := by
  rw [Rule.ofTemplate]
  cases Regex.Pattern.ofValues source.pattern (source.flags.getD .null) with
  | ok pattern => simp
  | error found => simp [eq_comm]

/-- The rules of a state stop at the first one that does not compile. -/
theorem rules_eq_error {state : Value} {sources : List LineMachine.Rule} {fault : Fault} :
    Rule.ofTemplates state 0 sources = .error fault ↔
      ∃ front r back found, sources = front ++ r :: back ∧ (∀ r' ∈ front, r'.Compiles) ∧
        Regex.Pattern.ofValues r.pattern (r.flags.getD .null) = .error found ∧
        fault = .invalidPattern state front.length found := by
  rw [rules_eq_mapM, mapM_eq_error]
  simp only [exists_rule_iff]
  constructor
  · rintro ⟨before, e, after, hsplit, hbefore, he⟩
    obtain ⟨front, rest, rfl, rfl, hrest⟩ := List.zipIdx_eq_append_iff.mp hsplit
    obtain ⟨r, back, rfl, rfl, -⟩ := List.zipIdx_eq_cons_iff.mp hrest.symm
    obtain ⟨found, hfound, rfl⟩ := rule_eq_error.mp he
    exact ⟨front, r, back, found, rfl, forall_mem_zipIdx.mp hbefore, hfound, by rw [Nat.zero_add]⟩
  · rintro ⟨front, r, back, found, rfl, hfront, hfound, rfl⟩
    refine ⟨front.zipIdx, (r, front.length), back.zipIdx (front.length + 1), ?_,
      forall_mem_zipIdx.mpr hfront, rule_eq_error.mpr ⟨found, hfound, rfl⟩⟩
    rw [List.zipIdx_append, List.zipIdx_cons, Nat.zero_add]

/-! ## States -/

theorem madeFrom_of_ofTemplate {source : LineMachine.State} {s : State}
    (h : State.ofTemplate source = .ok s) : State.MadeFrom source s := by
  obtain ⟨hname, hrules⟩ := state_of_ofTemplate h
  rw [rules_eq_mapM, mapM_eq_ok] at hrules
  exact ⟨hname, hrules.imp fun _ _ ↦ rule_eq_ok.mp⟩

/-- A state that is named by a scalar stops where its rules do. -/
theorem stateEntry_eq_error {source : LineMachine.State}
    (hname : source.name.key?.isSome = true) {fault : Fault} :
    stateEntry source = .error fault ↔
      Rule.ofTemplates source.name 0 source.rules = .error fault := by
  obtain ⟨k, hk⟩ := Option.isSome_iff_exists.mp hname
  rw [stateEntry, State.ofTemplate, Value.key_eq_ok.mpr hk]
  cases Rule.ofTemplates source.name 0 source.rules with
  | error found => simp only [error_bind, Except.error.injEq]
  | ok rules => simp

/-! ## Templates -/

section Templates

variable {t : Template}

theorem scalar_of_named (h : t.NamedByTexts) {s : LineMachine.State} (hs : s ∈ t.states) :
    s.name.key?.isSome = true := by
  obtain ⟨text, hname⟩ := h.states s hs
  rw [hname]
  rfl

theorem exists_states_iff (h : t.NamedByTexts) :
    (∃ pairs, t.states.mapM stateEntry = .ok pairs) ↔ ∀ s ∈ t.states, s.Compiles := by
  rw [exists_mapM_iff]
  exact forall₂_congr fun s hs ↦
    exists_stateEntry_iff.trans (and_iff_left (scalar_of_named h hs))

/-- The states of a template stop at the first pattern that does not compile. -/
theorem states_eq_error (h : t.NamedByTexts) {fault : Fault} :
    t.states.mapM stateEntry = .error fault ↔
      ∃ state index found, t.FirstBroken state index found ∧
        fault = .invalidPattern state index found := by
  rw [mapM_eq_error]
  constructor
  · rintro ⟨before, s, after, hsplit, hbefore, hs⟩
    have hname := scalar_of_named h (hsplit ▸ List.mem_append_right before List.mem_cons_self)
    obtain ⟨front, r, back, found, hrules, hfront, hfound, rfl⟩ :=
      rules_eq_error.mp ((stateEntry_eq_error hname).mp hs)
    exact ⟨_, _, _, .intro hsplit (fun s' hs' ↦ (exists_stateEntry_iff.mp (hbefore s' hs')).1)
      hrules hfront hfound, rfl⟩
  · rintro ⟨_, _, found, ⟨hsplit, hbefore, hrules, hfront, hfound⟩, rfl⟩
    refine ⟨_, _, _, hsplit, fun s' hs' ↦ exists_stateEntry_iff.mpr ⟨hbefore s' hs', ?_⟩, ?_⟩
    · exact scalar_of_named h (hsplit ▸ List.mem_append_left _ hs')
    · have hname := scalar_of_named h (hsplit ▸ List.mem_append_right _ List.mem_cons_self)
      exact (stateEntry_eq_error hname).mpr
        (rules_eq_error.mpr ⟨_, _, _, found, hrules, hfront, hfound, rfl⟩)

/-- Some rule is the first broken one exactly if some pattern does not compile. -/
theorem exists_firstBroken_iff (h : t.NamedByTexts) :
    (∃ state index fault, t.FirstBroken state index fault) ↔
      ∃ s ∈ t.states, ∃ r ∈ s.rules, ¬ r.Compiles := by
  have hall := exists_states_iff h
  constructor
  · rintro ⟨_, _, fault, hsplit, -, hrules, -, hfault⟩
    refine ⟨_, hsplit ▸ List.mem_append_right _ List.mem_cons_self, _,
      hrules ▸ List.mem_append_right _ List.mem_cons_self, ?_⟩
    rintro ⟨pattern, hpattern⟩
    cases hfault.symm.trans hpattern
  · rintro ⟨s, hs, r, hr, hbroken⟩
    cases hstates : t.states.mapM stateEntry with
    | ok pairs => exact absurd (hall.mp ⟨pairs, hstates⟩ s hs r hr) hbroken
    | error fault =>
      obtain ⟨state, index, found, hfirst, -⟩ := (states_eq_error h).mp hstates
      exact ⟨state, index, found, hfirst⟩

theorem exists_types (h : t.NamedByTexts) : ∃ types, t.declared.mapM typeEntry = .ok types := by
  refine exists_mapM_iff.mpr fun v hv ↦ exists_typeEntry_iff.mpr ?_
  obtain ⟨text, hname⟩ := h.declared v hv
  rw [hname]
  rfl

/-- Beyond its patterns, a template needs no more than a state to start in. -/
theorem ofTemplate_eq_error (h : t.NamedByTexts) {fault : Fault} :
    ofTemplate t = .error fault ↔ t.states.mapM stateEntry = .error fault ∨
      (∀ s ∈ t.states, s.Compiles) ∧ t.states = [] ∧ fault = .noStates := by
  obtain ⟨types, htypes⟩ := exists_types h
  rw [ofTemplate, bind_eq_error, ← exists_states_iff h]
  refine or_congr_right ?_
  simp only [htypes, ok_bind]
  constructor
  · rintro ⟨pairs, hpairs, hfault⟩
    split at hfault
    · next hempty =>
      cases hfault
      exact ⟨⟨pairs, hpairs⟩, hempty, rfl⟩
    · cases hfault
  · rintro ⟨⟨pairs, hpairs⟩, hempty, rfl⟩
    refine ⟨pairs, hpairs, ?_⟩
    rw [hempty]
    rfl

theorem tabulates_of_ofTemplate (h : t.NamedByTexts) {m : Machine} (hm : ofTemplate t = .ok m) :
    Tabulates t m := by
  have hbuilt := built_of_ofTemplate hm
  obtain ⟨first, rest, hcons, hstart⟩ := hbuilt.start
  obtain ⟨pairs, hpairs, hstates⟩ := hbuilt.states
  obtain ⟨types, hdeclared, htypes⟩ := types_of_ofTemplate hm
  have hentered := (mapM_eq_ok.mp hpairs).imp fun _ _ ↦ stateEntry_eq_ok
  constructor
  · exact hbuilt.template
  · rw [hcons, hstart]
    rfl
  · rw [hstates]
    exact keys_ofList_of_named LineMachine.State.name (hentered.imp fun _ _ he ↦ he.1) h.states
  · intro k
    rw [hstates]
    exact rel_find?_ofList_of_named LineMachine.State.name
      (hentered.imp fun _ _ he ↦ ⟨he.1, madeFrom_of_ofTemplate he.2⟩) k
  · rw [htypes]
    exact keys_ofList_of_named Variable.name (hdeclared.imp fun _ _ he ↦ he.1) h.declared
  · exact type?_of_ofTemplate hm

/-- **What comes of making a template ready**, if its states and variables are named by texts. It
stops with the first pattern that does not compile, and that is so if there is one; it stops for
want of a state if all patterns compile and there is none; and otherwise there is a machine that
holds what the template says. -/
theorem ofTemplate_outcome (h : t.NamedByTexts) :
    (∀ state index fault, ofTemplate t = .error (.invalidPattern state index fault) ↔
        t.FirstBroken state index fault) ∧
      ((∃ state index fault, ofTemplate t = .error (.invalidPattern state index fault)) ↔
        ∃ s ∈ t.states, ∃ r ∈ s.rules, ¬ r.Compiles) ∧
      (ofTemplate t = .error .noStates ↔
        (∀ s ∈ t.states, ∀ r ∈ s.rules, r.Compiles) ∧ t.states = []) ∧
      ((∀ s ∈ t.states, ∀ r ∈ s.rules, r.Compiles) → t.states ≠ [] →
        ∃ m, ofTemplate t = .ok m ∧ Tabulates t m) := by
  have hfirst (state : Value) (index : Nat) (fault : PatternFault) :
      ofTemplate t = .error (.invalidPattern state index fault) ↔
        t.FirstBroken state index fault := by
    rw [ofTemplate_eq_error h, states_eq_error h]
    simp
  refine ⟨hfirst, ?_, ?_, ?_⟩
  · simp only [hfirst]
    rw [← exists_firstBroken_iff h]
  · rw [ofTemplate_eq_error h, states_eq_error h]
    simp [LineMachine.State.Compiles]
  · intro hcompile hne
    obtain ⟨m, hm⟩ : ∃ m, ofTemplate t = .ok m := by
      cases hm : ofTemplate t with
      | ok m => exact ⟨m, rfl⟩
      | error fault =>
        obtain ⟨pairs, hpairs⟩ := (exists_states_iff h).mpr hcompile
        rcases (ofTemplate_eq_error h).mp hm with hstates | ⟨-, hempty, -⟩
        · cases hpairs.symm.trans hstates
        · exact absurd hempty hne
    exact ⟨m, hm, tabulates_of_ofTemplate h hm⟩

end Templates

/-- The list of ports with its first state told again, to stay there, and its variable declared
again. -/
def portsTwice : Template :=
  { Engine.ports with
    states := Engine.ports.states ++
      [⟨.str "heading", [⟨.str "ports", some (.str "i"), none, [], none⟩]⟩]
    declared := Engine.ports.declared ++ [⟨.str "port", .str "string", .null, .str ""⟩] }

/-- The same with a flag that does not exist, in a state that is told again behind it. -/
def portsFlagged : Template :=
  { portsTwice with
    states := ⟨.str "list", [⟨.str "port", none, none, [], none⟩,
      ⟨.str "end", some (.list [.str "q"]), none, [], none⟩]⟩ :: portsTwice.states }

/-- What is told again keeps its place in the table, and what is broken is reported although it is
told again. -/
theorem ofTemplate_outcome_ports :
    (∃ m, ofTemplate portsTwice = .ok m ∧
        Table.keys m.states = [.str "heading", .str "list"] ∧ m.start = .str "heading" ∧
        m.type? (.str "port") = some (.str "string") ∧
        ∃ s r, Table.find? m.states (.str "heading") = some s ∧ s.rules = [r] ∧ r.index = 0 ∧
          r.transition = none) ∧
      ofTemplate portsFlagged =
        .error (.invalidPattern (.str "list") 1 (.unknownFlag (.str "q"))) ∧
      ofTemplate { Engine.ports with states := [] } = .error .noStates := by
  have hports : ∀ s ∈ portsTwice.states, ∀ r ∈ s.rules, r.Compiles := by
    simp only [portsTwice, Engine.ports, List.forall_mem_append, List.forall_mem_cons,
      List.not_mem_nil, false_imp_iff, implies_true, and_true]
    exact ⟨⟨⟨_, rfl⟩, ⟨_, rfl⟩, ⟨_, rfl⟩⟩, ⟨_, rfl⟩⟩
  have htexts : portsFlagged.NamedByTexts := by
    constructor <;> simp [portsFlagged, portsTwice, Engine.ports]
  have htwice : portsTwice.NamedByTexts :=
    ⟨fun s hs ↦ htexts.states s (List.mem_cons_of_mem _ hs), htexts.declared⟩
  have hempty : Template.NamedByTexts { Engine.ports with states := [] } :=
    ⟨List.forall_mem_nil _,
      fun v hv ↦ htwice.declared v (List.mem_append_left _ hv)⟩
  refine ⟨?_, ?_, ?_⟩
  · obtain ⟨-, -, -, hmachine⟩ := ofTemplate_outcome htwice
    obtain ⟨m, hm, htable⟩ := hmachine hports (by decide)
    refine ⟨m, hm, htable.names.trans (by decide), ?_, (htable.types _).trans (by decide), ?_⟩
    · exact (Option.some.inj htable.start).symm
    · have hheading := htable.states (.str "heading")
      cases hfound : Table.find? m.states (.str "heading") with
      | none =>
        rw [hfound] at hheading
        cases hheading
      | some s =>
        rw [hfound] at hheading
        cases hheading with
        | some hmade =>
          cases hrules : s.rules with
          | nil =>
            cases hrules ▸ hmade.rules
          | cons r rest =>
            cases hrules ▸ hmade.rules with
            | cons hrule hrest =>
              cases hrest
              exact ⟨s, r, rfl, hrules, hrule.index, hrule.transition⟩
  · obtain ⟨hfirst, -, -, -⟩ := ofTemplate_outcome htexts
    have hstates : portsFlagged.states = [] ++
        ⟨.str "list", [⟨.str "port", none, none, [], none⟩,
          ⟨.str "end", some (.list [.str "q"]), none, [], none⟩]⟩ :: portsTwice.states := rfl
    exact (hfirst _ _ _).mpr (.intro hstates (List.forall_mem_nil _) List.singleton_append.symm
      (List.forall_mem_singleton.mpr ⟨_, rfl⟩) rfl)
  · obtain ⟨-, -, hnone, -⟩ := ofTemplate_outcome hempty
    exact hnone.mpr ⟨List.forall_mem_nil _, rfl⟩

end Machine

end LineMachine
