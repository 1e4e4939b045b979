import LineMachine.Proofs.Cache.Past
import LineMachine.Proofs.Run.Replay
import LineMachine.Proofs.Run.Step
import LineMachine.Proofs.Simulation
import LineMachine.Proofs.Template.Renamed

/-!
# Names of variables are opaque

Running a template with its variables renamed gives the records of the template itself under the
renamed variables, and nothing else differs (`parse_renamed`). The renaming has to meet the same
names everywhere: a variable is written under the name that its group is mapped to, its type is
looked up by that name, and an operand speaks of a group by the name that the pattern has for it.

The machines of the two templates are made side by side, faults included (`ofTemplate_renames`).
From there on renaming is a function on configurations that commutes with every step: what a
machine with renamed variables makes of a renamed configuration is what the first machine makes of
the configuration itself, renamed (`step_renamed`, `run_renamed`).
-/

namespace LineMachine

namespace Machine

/-! ## Machines with renamed variables -/

/-- Holds of rules of machines of which the second one does with renamed variables what the first
one does. -/
structure Rule.Renames (f : Renaming) (r r' : Rule) : Prop where
  index : r'.index = r.index
  pattern : r'.pattern = r.pattern
  actions : r'.actions = r.actions.map (·.renamed f)
  transition : r'.transition = r.transition
  groups : RenamesGroups f (r.pattern.names.map (·.1)) r.rename r'.rename

structure State.Renames (f : Renaming) (s s' : State) : Prop where
  name : s'.name = s.name
  rules : List.Forall₂ (Rule.Renames f) s.rules s'.rules

/-- Holds of machines of which the second one is the first one with its variables renamed. -/
structure Renames (f : Renaming) (m n : Machine) : Prop where
  start : n.start = m.start
  states (name : Value) : Option.Rel (State.Renames f) (m.stateAt? name) (n.stateAt? name)
  types (k : Key) : n.type? (f k) = m.type? k

section Building

variable {f : Renaming}

theorem rule_renames {r r' : LineMachine.Rule} (h : r.Renames f r') (state : Value) (index : Nat) :
    SideBySide (Rule.Renames f) (Rule.ofTemplate state index r)
      (Rule.ofTemplate state index r') := by
  rw [Rule.ofTemplate, Rule.ofTemplate, h.pattern, h.flags]
  cases hp : Regex.Pattern.ofValues r.pattern (r.flags.getD .null) with
  | error fault => exact .error _
  | ok p => exact .ok ⟨rfl, rfl, h.actions, h.transition, h.groups hp⟩

theorem rules_renames {rules rules' : List LineMachine.Rule}
    (h : List.Forall₂ (LineMachine.Rule.Renames f) rules rules') (state : Value) (index : Nat) :
    SideBySide (List.Forall₂ (Rule.Renames f)) (Rule.ofTemplates state index rules)
      (Rule.ofTemplates state index rules') := by
  induction h generalizing index with
  | nil => exact .ok .nil
  | cons hfirst hrest ih =>
    rw [Rule.ofTemplates, Rule.ofTemplates]
    exact (rule_renames hfirst state index).bind fun r r' hr ↦
      (ih (index + 1)).bind fun rs rs' hrs ↦ .ok (.cons hr hrs)

theorem stateEntry_renames {s s' : LineMachine.State} (h : s.Renames f s') :
    SideBySide (fun e e' ↦ e'.1 = e.1 ∧ State.Renames f e.2 e'.2) (stateEntry s)
      (stateEntry s') := by
  have hstate : SideBySide (State.Renames f) (State.ofTemplate s) (State.ofTemplate s') := by
    rw [State.ofTemplate, State.ofTemplate, h.name]
    exact (rules_renames h.rules s.name 0).bind fun rules rules' hrules ↦ .ok ⟨rfl, hrules⟩
  rw [stateEntry, stateEntry, h.name]
  refine hstate.bind fun state state' hstate ↦ ?_
  cases s.name.key with
  | error fault => exact .error fault
  | ok k => exact .ok ⟨rfl, hstate⟩

theorem typeEntry_renames {v v' : Variable} (h : v.Renames f v') :
    SideBySide (fun e e' ↦ e' = (f e.1, e.2)) (typeEntry v) (typeEntry v') := by
  rw [typeEntry, typeEntry, h.name, h.type, Value.key_renamed]
  cases v.name.key with
  | error fault => exact .error fault
  | ok k => exact .ok rfl

/-- Entries under the same keys are found side by side. -/
theorem rel_find? {α β : Type} {R : α → β → Prop} {es : List (Key × α)} {es' : List (Key × β)}
    (h : List.Forall₂ (fun e e' ↦ e'.1 = e.1 ∧ R e.2 e'.2) es es') (k : Key) :
    Option.Rel R ((es.find? fun e ↦ k.same e.1).map (·.2))
      ((es'.find? fun e ↦ k.same e.1).map (·.2)) := by
  induction h with
  | nil => exact .none
  | cons hfirst _ ih =>
    obtain ⟨hkey, hvalue⟩ := hfirst
    rw [List.find?_cons, List.find?_cons, hkey]
    split
    · exact .some hvalue
    · exact ih

theorem find?_ofList_map {α : Type} (f : Renaming) (es : List (Key × α)) (k : Key) :
    Table.find? (Table.ofList (es.map fun e ↦ (f e.1, e.2))) (f k) =
      Table.find? (Table.ofList es) k := by
  rw [Table.find?_ofList_eq, Table.find?_ofList_eq, ← List.map_reverse, List.find?_map,
    Option.map_map]
  simp only [Function.comp_def, f.same_iff]

/-- Two templates of which the second one is the first one with its variables renamed fail to have
machines in the same way, or they have machines of which the same is true. -/
theorem ofTemplate_renames {t u : Template} (h : t.Renames f u) :
    SideBySide (Renames f) (ofTemplate t) (ofTemplate u) := by
  rw [ofTemplate, ofTemplate]
  refine (SideBySide.mapM (h.states.imp fun _ _ ↦ stateEntry_renames)).bind
    fun states states' hstates ↦ ?_
  refine (SideBySide.mapM (h.declared.imp fun _ _ ↦ typeEntry_renames)).bind
    fun types types' htypes ↦ ?_
  have htypes : types' = types.map fun e ↦ (f e.1, e.2) := by
    rw [eq_comm, ← List.forall₂_eq_eq_eq, List.forall₂_map_left_iff]
    exact htypes.imp fun _ _ ↦ Eq.symm
  cases hfirst : t.states with
  | nil =>
    have hempty : u.states = [] := List.forall₂_nil_left_iff.mp (hfirst ▸ h.states)
    rw [hempty]
    exact .error _
  | cons first rest =>
    obtain ⟨first', rest', hname, -, hcons⟩ := List.forall₂_cons_left_iff.mp (hfirst ▸ h.states)
    rw [hcons]
    refine .ok ⟨hname.name, fun name ↦ ?_, fun k ↦ ?_⟩
    · rw [stateAt?, stateAt?]
      cases name.key? with
      | none => exact .none
      | some k =>
        rw [Option.bind_some, Option.bind_some, Table.find?_ofList_eq, Table.find?_ofList_eq]
        exact rel_find? (List.forall₂_reverse_iff.mpr hstates) k
    · rw [type?, type?, htypes]
      exact find?_ofList_map f types k

end Building

/-! ## Runs with renamed variables -/

/-- A configuration with its variables renamed, in its records too. -/
def Config.renamed (f : Renaming) (c : Config) : Config :=
  { c with
    bindings := Table.renamed f c.bindings
    records := c.records.map (Table.renamed f) }

section Running

variable {f : Renaming} {m n : Machine}

theorem coerce_renamed (h : Renames f m n) (o : Options) (k : Key) (v : Value) :
    n.coerce o (f k) v = m.coerce o k v := by
  rw [coerce, coerce, h.types]

theorem assign_renamed (h : Renames f m n) (o : Options) (name v : Value)
    (bindings : Table Value) :
    n.assign o (name.renamed f) v (Table.renamed f bindings) =
      (m.assign o name v bindings).map (Table.renamed f) := by
  rw [assign, assign, Value.key_renamed]
  cases name.key with
  | error fault => rfl
  | ok k =>
    change n.coerce o (f k) v >>= _ = _
    rw [coerce_renamed h, ok_bind]
    cases m.coerce o k v with
    | error fault => rfl
    | ok y => exact congrArg Except.ok (Table.put_renamed f bindings k y)

theorem append_renamed (h : Renames f m n) (o : Options) (name v : Value)
    (bindings : Table Value) :
    n.append o (name.renamed f) v (Table.renamed f bindings) =
      (m.append o name v bindings).map (Table.renamed f) := by
  rw [append, append, Value.key_renamed]
  cases name.key with
  | error fault => rfl
  | ok k =>
    have hitems (y : Value) : n.newItems o (f k) y = m.newItems o k y := by
      rw [newItems_eq, newItems_eq, h.types]
    change n.coerce o (f k) v >>= _ = _
    rw [coerce_renamed h, ok_bind]
    cases m.coerce o k v with
    | error fault => rfl
    | ok y =>
      refine congrArg Except.ok ?_
      rw [hitems, Table.find?_renamed]
      exact Table.put_renamed f bindings k _

theorem unset_renamed (f : Renaming) (name : Value) (bindings : Table Value) :
    unset (name.renamed f) (Table.renamed f bindings) =
      (unset name bindings).map (Table.renamed f) := by
  rw [unset, unset, Table.isEmpty_renamed, Value.key_renamed]
  split
  · rfl
  · cases name.key with
    | error fault => rfl
    | ok k => exact congrArg Except.ok (Table.remove_renamed f bindings k)

theorem map_renamed (f : Renaming) (x : Except Fault (Table Value)) (c : Config) :
    (x.map (Table.renamed f) >>= fun b ↦ pure { c.renamed f with bindings := b }) =
      (x >>= fun b ↦ pure { c with bindings := b }).map (Config.renamed f) := by
  cases x <;> rfl

theorem act_renamed (h : Renames f m n) (o : Options) (groups : Groups) (c : Config)
    (a : Action) :
    n.act o groups (c.renamed f) (a.renamed f) = (m.act o groups c a).map (Config.renamed f) := by
  cases a with
  | emit =>
    refine congrArg Except.ok ?_
    simp only [Config.renamed, List.map_append, List.map_cons, List.map_nil]
    cases o.resetOnEmit <;> rfl
  | clear name =>
    refine Eq.trans ?_ (map_renamed f (unset name c.bindings) c)
    rw [← unset_renamed]
    rfl
  | set name operand =>
    rw [act, Action.renamed, act]
    cases operandValue groups operand with
    | error fault => rfl
    | ok v =>
      refine Eq.trans ?_ (map_renamed f (m.assign o name v c.bindings) c)
      rw [← assign_renamed h]
      rfl
  | append name operand =>
    rw [act, Action.renamed, act]
    cases operandValue groups operand with
    | error fault => rfl
    | ok v =>
      refine Eq.trans ?_ (map_renamed f (m.append o name v c.bindings) c)
      rw [← append_renamed h]
      rfl

/-- The groups of a match are named groups of the pattern, and these are stored in the renamed
variables. -/
theorem bind_renamed (h : Renames f m n) (o : Options) {r r' : Rule} (hr : Rule.Renames f r r')
    {line : String} {groups : Groups} (hgroups : r.pattern.captures? line = some groups)
    (bindings : Table Value) :
    n.bind o r' groups (Table.renamed f bindings) =
      (m.bind o r groups bindings).map (Table.renamed f) := by
  refine foldlM_hom (List.forall₂_same.mpr fun g hg b ↦ ?_) bindings
  have hnamed : g.1 ∈ r.pattern.names.map (·.1) := by
    rw [← Regex.lawful.named hgroups]
    exact List.mem_map_of_mem hg
  rw [hr.groups g.1 hnamed]
  exact assign_renamed h o _ _ b

theorem take_renamed (h : Renames f m n) (o : Options) (c : Config) {r r' : Rule}
    (hr : Rule.Renames f r r') {line : String} {groups : Groups}
    (hgroups : r.pattern.captures? line = some groups) :
    n.take o (c.renamed f) r' groups = (m.take o c r groups).map (Config.renamed f) := by
  have hbind : n.bind o r' groups (c.renamed f).bindings =
      (m.bind o r groups c.bindings).map (Table.renamed f) := bind_renamed h o hr hgroups c.bindings
  have hact : List.Forall₂ (fun a a' ↦ ∀ d : Config,
      n.act o groups (d.renamed f) a' = (m.act o groups d a).map (Config.renamed f))
      r.actions r'.actions := by
    rw [hr.actions, List.forall₂_map_right_iff]
    exact List.forall₂_same.mpr fun a _ d ↦ act_renamed h o groups d a
  rw [take, take, hbind]
  cases m.bind o r groups c.bindings with
  | error fault => rfl
  | ok bindings => exact foldlM_hom hact { c with bindings := bindings }

/-- A line matches the same rule, up to the names of variables, with the same groups. -/
theorem findSome?_renames {rules rules' : List Rule}
    (h : List.Forall₂ (Rule.Renames f) rules rules') (line : String) :
    Option.Rel (fun e e' ↦ Rule.Renames f e.1 e'.1 ∧ e.1.pattern.captures? line = some e.2 ∧
        e'.2 = e.2)
      (rules.findSome? fun r ↦ (r.pattern.captures? line).map (r, ·))
      (rules'.findSome? fun r ↦ (r.pattern.captures? line).map (r, ·)) := by
  induction h with
  | nil => exact .none
  | @cons r r' _ _ hr _ ih =>
    rw [List.findSome?_cons, List.findSome?_cons, hr.pattern]
    cases hgroups : r.pattern.captures? line with
    | none => exact ih
    | some groups => exact .some ⟨hr, hgroups, rfl⟩

theorem follow_renamed (f : Renaming) (c : Config) (transition : Option Transition) :
    follow (c.renamed f) transition = (follow c transition).renamed f := by
  have hstate : (c.renamed f).state = c.state := rfl
  rw [follow_eq, follow_eq, hstate]
  cases nextState? transition c.state <;> rfl

/-- A look at a line commutes with renaming the variables. -/
theorem look_renamed (h : Renames f m n) (o : Options) (c : Config) (line : String) :
    SideBySide (fun d e ↦ e = d.renamed f) (m.look o c line) (n.look o (c.renamed f) line) := by
  have hstate : SideBySide (Option.Rel (State.Renames f)) (m.state? c.state)
      (n.state? c.state) := by
    have hentry := h.states c.state
    cases hk : c.state.key? with
    | none =>
      rw [state?, state?, Value.key, hk]
      exact .error _
    | some k =>
      have hkey : c.state.key?.isSome = true := by rw [hk]; rfl
      rw [state?_eq_ok.mpr ⟨hkey, rfl⟩, state?_eq_ok.mpr ⟨hkey, rfl⟩]
      exact .ok hentry
  rw [look, look]
  refine hstate.bind fun found found' hfound ↦ ?_
  cases hfound with
  | none => exact .ok rfl
  | @some s s' hs =>
    have hmatch := findSome?_renames hs.rules line
    change Option.Rel _ (s.firstMatch? line) (s'.firstMatch? line) at hmatch
    simp only [hs.name]
    generalize s.firstMatch? line = taken, s'.firstMatch? line = taken' at hmatch ⊢
    cases hmatch with
    | none => exact .ok rfl
    | @some e e' he =>
      obtain ⟨r, groups⟩ := e
      obtain ⟨r', groups'⟩ := e'
      obtain ⟨hr, hgroups, hsame⟩ := he
      cases hsame
      let counted : Config := { c with lines := c.lines + 1, matched := c.matched + 1 }
      have htake := SideBySide.changed (m.take o counted r groups) (Config.renamed f)
      rw [← take_renamed h o counted hr hgroups] at htake
      refine htake.bind fun d d' hd ↦ .ok ?_
      rw [hd.2, hr.index, hr.transition, ← follow_renamed]
      rfl

theorem step_renamed (h : Renames f m n) (o : Options) (c : Config) (line : String) :
    SideBySide (fun d e ↦ e = d.renamed f) (m.step o c line) (n.step o (c.renamed f) line) := by
  cases hstatus : c.status with
  | running =>
    rw [step_of_running hstatus, step_of_running (by exact hstatus)]
    exact look_renamed h o c line
  | ended =>
    rw [step_of_ended hstatus, step_of_ended (by exact hstatus)]
    exact .ok rfl
  | lost =>
    rw [step_of_lost hstatus, step_of_lost (by exact hstatus)]
    exact .ok rfl

/-- **A run commutes with renaming the variables.** -/
theorem run_renamed (h : Renames f m n) (o : Options) (lines : List String) :
    n.run o lines = (m.run o lines).map (Config.renamed f) := by
  have hbegin : n.begin = m.begin.renamed f := by
    rw [begin, begin, h.start]
    rfl
  rw [run, hbegin]
  exact foldlM_hom (List.forall₂_same.mpr fun line _ c ↦ (step_renamed h o c line).eq_map) m.begin

end Running

end Machine

/-- A result with its variables renamed: the same result, with the keys of the records renamed. -/
def ParseResult.renamed (f : Renaming) (r : ParseResult) : ParseResult :=
  { r with records := r.records.map (Table.renamed f) }

theorem ParseResult.ofConfig_renamed (f : Renaming) {t u : Template} (h : t.Renames f u)
    (o : Options) (c : Machine.Config) :
    ofConfig u o (c.renamed f) = (ofConfig t o c).renamed f := by
  rw [ofConfig, ofConfig, h.id, h.name]
  rfl

namespace Engine

theorem result_parse_renames {f : Renaming} {t u : Template} (h : t.Renames f u) (text : Value)
    (o : Options) :
    (parse Cache.empty text u o).result =
      (parse Cache.empty text t o).result.map (ParseResult.renamed f) := by
  rw [result_parse_empty, result_parse_empty, h.id]
  cases t.id.key with
  | error fault => rfl
  | ok k =>
    refine SideBySide.eq_map ((Machine.ofTemplate_renames h).bind fun m n hmn ↦ ?_)
    cases textOf text with
    | error fault => exact .error fault
    | ok s =>
      rw [ok_bind, ok_bind, Machine.run_renamed hmn]
      cases m.run o (Text.splitLines s) with
      | error fault => exact .error fault
      | ok c => exact .ok (ParseResult.ofConfig_renamed f h o c)

/-- **Names of variables are opaque.** Let the variables of a template be renamed, different ones
differently and none to an empty name: in the declarations, in the actions, and in the variables
that the named groups of its patterns are stored in, but not where an operand speaks of a group.
This can be done by giving every rule a map of its groups. However it is done, the renamed template
comes to an end over a text exactly when the first one does, with the same counts, message and
trace, and with the records of the first one, whose keys are renamed where they stand; where the
first one fails, the renamed one fails in the same way. -/
theorem parse_renamed (f : Renaming) (t : Template) :
    t.Renames f (t.renamed f) ∧
      ∀ u, t.Renames f u → ∀ (text : Value) (o : Options),
        (parse Cache.empty text u o).result =
          (parse Cache.empty text t o).result.map (ParseResult.renamed f) :=
  ⟨t.renames_renamed f, fun _ h text o ↦ result_parse_renames h text o⟩

/-- The two variables of the list of ports, each in place of the other. Every other name gets a
longer one, so that none becomes empty. -/
def swappedName (s : String) : String :=
  if s = "port" then "seen" else if s = "seen" then "port" else String.ofList ('_' :: s.toList)

theorem toList_swappedName {s : String} (hport : s ≠ "port") (hseen : s ≠ "seen") :
    (swappedName s).toList = '_' :: s.toList := by
  rw [swappedName, if_neg hport, if_neg hseen, String.toList_ofList]

theorem swappedName_injective : Function.Injective swappedName := by
  intro s t h
  -- A longer name starts with a letter that the two names do not start with.
  by_cases hs : s = "port" ∨ s = "seen"
  · by_cases ht : t = "port" ∨ t = "seen"
    · rcases hs with rfl | rfl <;> rcases ht with rfl | rfl <;>
        first | rfl | exact absurd h (by decide)
    · have hlist := toList_swappedName (not_or.mp ht).1 (not_or.mp ht).2
      rw [← h] at hlist
      rcases hs with rfl | rfl <;> cases hlist
  · have hlist := toList_swappedName (not_or.mp hs).1 (not_or.mp hs).2
    rw [h] at hlist
    by_cases ht : t = "port" ∨ t = "seen"
    · rcases ht with rfl | rfl <;> cases hlist
    · rw [toList_swappedName (not_or.mp ht).1 (not_or.mp ht).2] at hlist
      exact (String.toList_inj.mp (List.cons.inj hlist).2).symm

theorem swappedName_ne_empty (s : String) : swappedName s ≠ "" := by
  by_cases hs : s = "port" ∨ s = "seen"
  · rcases hs with rfl | rfl <;> decide
  · intro h
    have hlist := toList_swappedName (not_or.mp hs).1 (not_or.mp hs).2
    rw [h] at hlist
    cases hlist

def swapped : Renaming := .ofTexts swappedName swappedName_injective swappedName_ne_empty

/-- With the two variables swapped, the group is stored in the variable that the list was in, and
what is appended is still what the group captured. -/
theorem parse_renamed_ports :
    ∃ r, (parse Cache.empty (.str "ports\np1\n") (ports.renamed swapped) {}).result = .ok r ∧
      r.records = [[(.str "seen", .str "1"), (.str "port", .list [.str "1"])]] := by
  obtain ⟨hrenames, hparse⟩ := parse_renamed swapped ports
  obtain ⟨r, hr, hrecords⟩ := map_eq_ok.mp (show
    (parse Cache.empty (.str "ports\np1\n") ports {}).result.map ParseResult.records =
      .ok [[(.str "port", .str "1"), (.str "seen", .list [.str "1"])]] by decide +kernel)
  refine ⟨r.renamed swapped, ?_, ?_⟩
  · rw [hparse _ hrenames, hr]
    rfl
  · rw [ParseResult.renamed, hrecords]
    rfl

end Engine

end LineMachine
