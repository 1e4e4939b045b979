import LineMachine.Machine
import LineMachine.Proofs.Except
import LineMachine.Proofs.Regex.Lawful
import LineMachine.Proofs.Table

/-!
# Machines of templates

What is in a machine that was built from a template. Its states are states of the template with
their patterns read, in a table that has a name exactly when some state of the template bears it;
its rules are numbered by their places; and the named groups of its patterns stand in the order of
their numbers. The type that a machine has for a variable is the one that the template declares
(`type?_of_ofTemplate`).

Both tables are made of named parts: under a name stands what the last part of that name was made
into (`rel_find?_ofList_of_named`), in the place of the first (`keys_ofList_of_named`).
-/

namespace LineMachine

/-- Only a text is found by a text. -/
theorem Value.eq_str_of_key? {v : Value} {s : String} (h : v.key? = some (.str s)) :
    v = .str s := by
  cases v with
  | str t =>
    cases h
    rfl
  | null | bool | int | float | list | object => cases h

/-- Holds of a rule whose pattern compiles under its flags. -/
def Rule.Compiles (r : Rule) : Prop :=
  ∃ pattern, Regex.Pattern.ofValues r.pattern (r.flags.getD .null) = .ok pattern

/-- Holds of a state all of whose patterns compile. -/
def State.Compiles (s : State) : Prop :=
  ∀ r ∈ s.rules, r.Compiles

namespace Machine

/-! ## Rules -/

/-- A rule of a machine is a rule of the template under its index, with its pattern read. -/
theorem rule_of_ofTemplate {state : Value} {index : Nat} {source : LineMachine.Rule} {r : Rule}
    (h : Rule.ofTemplate state index source = .ok r) :
    ∃ pattern, Regex.Pattern.ofValues source.pattern (source.flags.getD .null) = .ok pattern ∧
      r = ⟨index, pattern, source.rename, source.actions, source.transition⟩ := by
  rw [Rule.ofTemplate] at h
  split at h
  · rename_i pattern hpattern
    exact ⟨pattern, hpattern, (Except.ok.inj h).symm⟩
  · cases h

theorem exists_rule_iff {state : Value} {index : Nat} {source : LineMachine.Rule} :
    (∃ r, Rule.ofTemplate state index source = .ok r) ↔ source.Compiles := by
  rw [LineMachine.Rule.Compiles, Rule.ofTemplate]
  cases Regex.Pattern.ofValues source.pattern (source.flags.getD .null) <;> simp

/-- Reading the rules of a state is reading each of them in its place. -/
theorem rules_eq_mapM (state : Value) (index : Nat) (sources : List LineMachine.Rule) :
    Rule.ofTemplates state index sources =
      (sources.zipIdx index).mapM fun e ↦ Rule.ofTemplate state e.2 e.1 := by
  induction sources generalizing index with
  | nil => rfl
  | cons source sources ih => rw [Rule.ofTemplates, ih, List.zipIdx_cons, List.mapM_cons]

theorem exists_rules_iff (state : Value) {sources : List LineMachine.Rule} :
    (∃ rules, Rule.ofTemplates state 0 sources = .ok rules) ↔ ∀ r ∈ sources, r.Compiles := by
  rw [rules_eq_mapM, exists_mapM_iff]
  simp only [exists_rule_iff]
  exact forall_mem_zipIdx

/-- The rules of a state of a machine are those of the template, one by one. -/
theorem getElem?_rules_of_ofTemplates {state : Value} {index : Nat}
    {sources : List LineMachine.Rule} {rules : List Rule}
    (h : Rule.ofTemplates state index sources = .ok rules) {n : Nat} {r : Rule}
    (hr : rules[n]? = some r) :
    ∃ source, sources[n]? = some source ∧ Rule.ofTemplate state (index + n) source = .ok r := by
  induction sources generalizing index rules n with
  | nil =>
    cases h
    cases hr
  | cons source sources ih =>
    obtain ⟨first, hfirst, h⟩ := bind_eq_ok.mp h
    obtain ⟨rest, hrest, h⟩ := bind_eq_ok.mp h
    cases h
    cases n with
    | zero =>
      cases hr
      exact ⟨source, rfl, hfirst⟩
    | succ n =>
      obtain ⟨found, hfound, hbuilt⟩ := ih hrest hr
      -- The rest is numbered from `index + 1`, and its rule `n` is rule `n + 1` of the whole.
      refine ⟨found, hfound, ?_⟩
      rwa [Nat.add_assoc, Nat.add_comm 1 n] at hbuilt

/-- A pattern that was read was a text. -/
theorem read?_of_ofValues {source flags : Value} {pattern : Regex.Pattern}
    (h : Regex.Pattern.ofValues source flags = .ok pattern) :
    ∃ text options, source = .str text ∧ Regex.Pattern.read? text options = .ok pattern := by
  obtain ⟨options, -, h⟩ := bind_eq_ok.mp h
  cases source with
  | null | bool | int | float | list | object => cases h
  | str text =>
    rw [Regex.Pattern.ofValue] at h
    split at h
    · rename_i found hread
      cases h
      exact ⟨text, options, rfl, hread⟩
    · cases h

theorem names_of_rule {state : Value} {index : Nat} {source : LineMachine.Rule} {r : Rule}
    (h : Rule.ofTemplate state index source = .ok r) :
    (r.pattern.names.map (·.2)).Pairwise (· < ·) := by
  obtain ⟨pattern, hpattern, rfl⟩ := rule_of_ofTemplate h
  obtain ⟨text, options, -, hread⟩ := read?_of_ofValues hpattern
  exact Regex.lawful.increasing hread

/-! ## States -/

theorem state_of_ofTemplate {source : LineMachine.State} {s : State}
    (h : State.ofTemplate source = .ok s) :
    s.name = source.name ∧ Rule.ofTemplates source.name 0 source.rules = .ok s.rules := by
  obtain ⟨rules, hrules, h⟩ := bind_eq_ok.mp h
  cases h
  exact ⟨rfl, hrules⟩

/-- A rule of a state bears the number of its place. -/
theorem index_of_getElem? {source : LineMachine.State} {s : State}
    (h : State.ofTemplate source = .ok s) {n : Nat} {r : Rule} (hr : s.rules[n]? = some r) :
    r.index = n := by
  obtain ⟨found, -, hbuilt⟩ := getElem?_rules_of_ofTemplates (state_of_ofTemplate h).2 hr
  obtain ⟨pattern, -, rfl⟩ := rule_of_ofTemplate hbuilt
  exact Nat.zero_add n

/-! ## Machines -/

/-- What is in a machine that was built. -/
structure Built (t : Template) (m : Machine) : Prop where
  /-- The machine is of the template. -/
  template : m.template = t
  /-- The run starts in the first state. -/
  start : ∃ first rest, t.states = first :: rest ∧ m.start = first.name
  /-- The table is made from the states of the template. -/
  states : ∃ pairs, t.states.mapM stateEntry = .ok pairs ∧ m.states = Table.ofList pairs

theorem built_of_ofTemplate {t : Template} {m : Machine} (h : ofTemplate t = .ok m) :
    Built t m := by
  obtain ⟨pairs, hpairs, h⟩ := bind_eq_ok.mp h
  obtain ⟨types, htypes, h⟩ := bind_eq_ok.mp h
  split at h
  · cases h
  · rename_i first rest hstates
    cases h
    exact ⟨rfl, ⟨first, rest, hstates, rfl⟩, pairs, hpairs, rfl⟩

theorem stateEntry_eq_ok {source : LineMachine.State} {e : Key × State}
    (h : stateEntry source = .ok e) :
    source.name.key? = some e.1 ∧ State.ofTemplate source = .ok e.2 := by
  obtain ⟨s, hs, h⟩ := bind_eq_ok.mp h
  obtain ⟨k, hk, h⟩ := bind_eq_ok.mp h
  cases h
  exact ⟨Value.key_eq_ok.mp hk, hs⟩

theorem exists_stateEntry_iff {source : LineMachine.State} :
    (∃ e, stateEntry source = .ok e) ↔
      source.Compiles ∧ source.name.key?.isSome = true := by
  rw [LineMachine.State.Compiles, ← exists_rules_iff source.name, stateEntry, State.ofTemplate,
    Value.key]
  cases Rule.ofTemplates source.name 0 source.rules <;> cases source.name.key? <;> simp

theorem exists_typeEntry_iff {v : Variable} :
    (∃ e, typeEntry v = .ok e) ↔ v.name.key?.isSome = true := by
  rw [typeEntry, Value.key]
  cases v.name.key? <;> simp

/-- A state in the table is a state of the template, under its own name. -/
theorem exists_of_find?_states {t : Template} {m : Machine} (h : Built t m) {k : Key} {s : State}
    (hs : Table.find? m.states k = some s) :
    ∃ source ∈ t.states, ∃ j, source.name.key? = some j ∧ k.same j = true ∧
      State.ofTemplate source = .ok s := by
  obtain ⟨pairs, hpairs, hstates⟩ := h.states
  rw [hstates] at hs
  obtain ⟨e, he, rfl, hsame⟩ := Table.find?_ofList hs
  obtain ⟨source, hsource, hentry⟩ := exists_source_of_mapM hpairs he
  obtain ⟨hkey, hstate⟩ := stateEntry_eq_ok hentry
  exact ⟨source, hsource, e.1, hkey, hsame, hstate⟩

/-- A rule of a state in the table is a rule of the template with its pattern read. -/
theorem exists_rule_of_find?_states {t : Template} {m : Machine} (h : Built t m) {k : Key}
    {s : State} (hs : Table.find? m.states k = some s) {r : Rule} (hr : r ∈ s.rules) :
    ∃ state ∈ t.states, ∃ source ∈ state.rules, ∃ index,
      Rule.ofTemplate state.name index source = .ok r := by
  obtain ⟨state, hstate, -, -, -, hbuilt⟩ := exists_of_find?_states h hs
  obtain ⟨n, hn⟩ := List.mem_iff_getElem?.mp hr
  obtain ⟨source, hsource, hread⟩ := getElem?_rules_of_ofTemplates (state_of_ofTemplate hbuilt).2 hn
  exact ⟨state, hstate, source, List.mem_of_getElem? hsource, 0 + n, hread⟩

/-- A template has a machine exactly when it has states and every part of it can be made ready. -/
theorem exists_ofTemplate_iff {t : Template} :
    (∃ m, ofTemplate t = .ok m) ↔ t.states ≠ [] ∧ (∀ s ∈ t.states, ∃ e, stateEntry s = .ok e) ∧
      ∀ v ∈ t.declared, ∃ e, typeEntry v = .ok e := by
  constructor
  · rintro ⟨m, hm⟩
    obtain ⟨states, hstates, h⟩ := bind_eq_ok.mp hm
    obtain ⟨types, htypes, h⟩ := bind_eq_ok.mp h
    refine ⟨?_, exists_mapM_iff.mp ⟨states, hstates⟩, exists_mapM_iff.mp ⟨types, htypes⟩⟩
    obtain ⟨first, rest, hcons, -⟩ := (built_of_ofTemplate hm).start
    rw [hcons]
    exact List.cons_ne_nil first rest
  · rintro ⟨hempty, hstates, htypes⟩
    obtain ⟨states, hstates⟩ := exists_mapM_iff.mpr hstates
    obtain ⟨types, htypes⟩ := exists_mapM_iff.mpr htypes
    rw [ofTemplate, hstates, ok_bind, htypes, ok_bind]
    cases hcons : t.states with
    | nil => exact absurd hcons hempty
    | cons first rest => exact ⟨_, rfl⟩

/-! ## Tables of named parts -/

section Named

variable {α β : Type} (name : α → Value) {R : α → β → Prop} {parts : List α}
  {entries : List (Key × β)}

/-- Entries that were made of parts under their names are found where the parts are. -/
theorem rel_find?_of_named
    (h : List.Forall₂ (fun x e ↦ (name x).key? = some e.1 ∧ R x e.2) parts entries) (k : Key) :
    Option.Rel R (parts.find? fun x ↦ (name x).key?.any k.same)
      ((entries.find? fun e ↦ k.same e.1).map (·.2)) := by
  induction h with
  | nil => exact .none
  | cons hentry hrest ih =>
    rw [List.find?_cons, List.find?_cons, hentry.1, Option.any_some]
    split
    · exact .some hentry.2
    · exact ih

/-- What a table of such entries has under a key was made of the last part of that name. -/
theorem rel_find?_ofList_of_named
    (h : List.Forall₂ (fun x e ↦ (name x).key? = some e.1 ∧ R x e.2) parts entries) (k : Key) :
    Option.Rel R (parts.reverse.find? fun x ↦ (name x).key?.any k.same)
      (Table.find? (Table.ofList entries) k) := by
  rw [Table.find?_ofList_eq]
  exact rel_find?_of_named name (List.forall₂_reverse_iff.mpr h) k

theorem keys_of_named (h : List.Forall₂ (fun x e ↦ (name x).key? = some e.1) parts entries) :
    entries.map (·.1) = parts.filterMap fun x ↦ (name x).key? := by
  induction h with
  | nil => rfl
  | cons hentry hrest ih =>
    rw [List.map_cons, ih, List.filterMap_cons, hentry]

/-- The names in such a table, if they are texts, stand where they first occur. -/
theorem keys_ofList_of_named
    (h : List.Forall₂ (fun x e ↦ (name x).key? = some e.1) parts entries)
    (hnames : ∀ x ∈ parts, ∃ text, name x = .str text) :
    Table.keys (Table.ofList entries) = (parts.filterMap fun x ↦ (name x).key?).eraseDups := by
  rw [Table.keys_ofList_of_texts, keys_of_named name h]
  intro e he
  have hmem : e.1 ∈ parts.filterMap fun x ↦ (name x).key? :=
    keys_of_named name h ▸ List.mem_map_of_mem he
  obtain ⟨x, hx, hkey⟩ := List.mem_filterMap.mp hmem
  obtain ⟨text, htext⟩ := hnames x hx
  rw [htext] at hkey
  exact ⟨text, (Option.some.inj hkey).symm⟩

end Named

end Machine

/-- The state that a template has under a name: of several states of one name, the last one
counts. -/
def Template.stateOf? (t : Template) (k : Key) : Option State :=
  t.states.reverse.find? fun s ↦ s.name.key?.any k.same

/-- The type that a template declares for a variable: of several declarations of one name, the last
one counts. -/
def Template.typeOf? (t : Template) (v : Key) : Option Value :=
  (t.declared.reverse.find? fun d ↦ d.name.key?.any v.same).map Variable.type

namespace Machine

/-- What is found in the table of a machine is the state that the template has, with its patterns
read. -/
theorem rel_states_of_built {t : Template} {m : Machine} (h : Built t m) (k : Key) :
    Option.Rel (fun source s ↦ State.ofTemplate source = .ok s) (t.stateOf? k)
      (Table.find? m.states k) := by
  obtain ⟨pairs, hpairs, hstates⟩ := h.states
  rw [hstates]
  exact rel_find?_ofList_of_named LineMachine.State.name
    ((mapM_eq_ok.mp hpairs).imp fun _ _ ↦ stateEntry_eq_ok) k

theorem typeEntry_eq_ok {d : Variable} {e : Key × Value} (h : typeEntry d = .ok e) :
    d.name.key? = some e.1 ∧ d.type = e.2 := by
  obtain ⟨k, hk, h⟩ := bind_eq_ok.mp h
  cases h
  exact ⟨Value.key_eq_ok.mp hk, rfl⟩

/-- The types of a machine are made from the declarations of the template. -/
theorem types_of_ofTemplate {t : Template} {m : Machine} (h : ofTemplate t = .ok m) :
    ∃ pairs, List.Forall₂ (fun d e ↦ d.name.key? = some e.1 ∧ d.type = e.2) t.declared pairs ∧
      m.types = Table.ofList pairs := by
  obtain ⟨states, -, h⟩ := bind_eq_ok.mp h
  obtain ⟨types, htypes, h⟩ := bind_eq_ok.mp h
  refine ⟨types, (mapM_eq_ok.mp htypes).imp fun _ _ ↦ typeEntry_eq_ok, ?_⟩
  split at h
  · cases h
  · cases h
    rfl

/-- The type of a variable in a machine is the one that the template declares. -/
theorem type?_of_ofTemplate {t : Template} {m : Machine} (h : ofTemplate t = .ok m) (v : Key) :
    m.type? v = t.typeOf? v := by
  obtain ⟨pairs, hpairs, htypes⟩ := types_of_ofTemplate h
  have hrel := rel_find?_ofList_of_named Variable.name hpairs v
  rw [type?, htypes, Template.typeOf?]
  generalize t.declared.reverse.find? _ = declared, Table.find? _ v = found at hrel ⊢
  cases hrel with
  | none => rfl
  | some htype => exact congrArg some htype.symm

end Machine

end LineMachine
