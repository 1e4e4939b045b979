import LineMachine.Proofs.Cache.Past
import LineMachine.Proofs.Run.Replay
import LineMachine.Proofs.Run.Trace
import LineMachine.Proofs.Simulation
import LineMachine.Proofs.Value

/-!
# States that a run can come to

A name is *reachable* in a machine if it is the one at which runs start, or the target of a
transition of a state that is reachable. A run only ever looks at reachable states: that is the
invariant of the simulation below, in which a second machine that *agrees* with the first one on
the reachable names goes side by side with it (`look_of_agree`, `run_of_agree`). The second machine
may have any states besides, and need not have the template of the first.

Names are compared as keys, and a state is noted in the trace under its own name, so two machines
may spell one state in two ways; texts have a single spelling. How the names of two states that
stand for each other are related is therefore a parameter of the simulation.

States can be moved, left out and put in where no run gets to see it (`parse_of_agree`).
-/

namespace LineMachine

namespace Machine

/-! ## Reachable names -/

/-- The names of the states that a run can come to, whatever the lines. -/
inductive Reachable (m : Machine) : Value → Prop where
  /-- Runs start there. -/
  | start : Reachable m m.start
  /-- A transition leads there. -/
  | next {name : Value} {s : State} {r : Rule} {t : Transition} (h : Reachable m name)
    (hentry : m.stateAt? name = some s) (hrule : r ∈ s.rules) (htransition : r.transition = some t)
    (hcondition : t.condition = .str "match" ∨ t.condition = .str "always")
    (hself : t.target ≠ .str selfTarget) (hend : t.target ≠ .str endTarget) :
    Reachable m t.target

theorem reachable_of_nextState? {m : Machine} {name next : Value} {s : State} {r : Rule}
    (h : m.Reachable name) (hentry : m.stateAt? name = some s) (hrule : r ∈ s.rules)
    (hnext : nextState? r.transition name = some next) : m.Reachable next := by
  cases htransition : r.transition with
  | none =>
    rw [htransition] at hnext
    cases hnext
    exact h
  | some t =>
    rw [htransition, nextState?] at hnext
    by_cases hcondition : t.condition ≠ .str "match" ∧ t.condition ≠ .str "always"
    · rw [if_pos hcondition] at hnext
      cases hnext
      exact h
    · rw [if_neg hcondition] at hnext
      by_cases hself : t.target = .str selfTarget
      · rw [if_pos hself] at hnext
        cases hnext
        exact h
      · rw [if_neg hself] at hnext
        by_cases hend : t.target = .str endTarget
        · rw [if_pos hend] at hnext
          cases hnext
        · rw [if_neg hend] at hnext
          cases hnext
          have hgiven : t.condition = .str "match" ∨ t.condition = .str "always" := by
            by_contra hnot
            exact hcondition (not_or.mp hnot)
          exact .next h hentry hrule htransition hgiven hself hend

/-! ## Agreement -/

/-- Holds of machines that agree on all that a run of the first can come to: they start at the same
name, have the same types, and under every reachable name the same rules, or no state. -/
structure Agree (m n : Machine) : Prop where
  start : m.start = n.start
  types : ∀ v, m.type? v = n.type? v
  rules : ∀ name, m.Reachable name →
    (m.stateAt? name).map State.rules = (n.stateAt? name).map State.rules

/-- Holds of a relation that connects the names of the states which two machines have under one
name, and connects every scalar with itself. -/
structure Spelled (Q : Value → Value → Prop) (m n : Machine) : Prop where
  found {name : Value} {s s' : State} : m.Reachable name → m.stateAt? name = some s →
    n.stateAt? name = some s' → Q s.name s'.name
  unknown {name : Value} : name.key?.isSome = true → Q name name

/-- Holds of entries of a trace that differ at most in the name of the state. -/
structure SameEntry (Q : Value → Value → Prop) (e f : TraceEntry) : Prop where
  state : Q e.state f.state
  rest : f = { e with state := f.state }

/-- A configuration with another trace. -/
def Config.withTrace (c : Config) (trace : List TraceEntry) : Config :=
  { c with trace := trace }

/-- Holds of configurations that differ at most in the names noted in their traces, where the
current state is one that the first machine can come to. -/
inductive Abreast (Q : Value → Value → Prop) (m : Machine) (c : Config) : Config → Prop where
  | intro (trace : List TraceEntry) (hstate : m.Reachable c.state)
    (htrace : List.Forall₂ (SameEntry Q) c.trace trace) : Abreast Q m c (c.withTrace trace)

/-! ## Taking a rule

Apart from its states a machine is read for the types of its variables only, and taking a rule does
not read the trace. -/

section Take

variable {m n : Machine}

theorem assign_eq_of_types (h : ∀ v, m.type? v = n.type? v) (o : Options) :
    n.assign o = m.assign o := by
  funext name v bindings
  have hcoerce (k : Key) : n.coerce o k v = m.coerce o k v := by rw [coerce, coerce, h]
  simp only [assign, hcoerce]

theorem append_eq_of_types (h : ∀ v, m.type? v = n.type? v) (o : Options) :
    n.append o = m.append o := by
  funext name v bindings
  have hcoerce (k : Key) : n.coerce o k v = m.coerce o k v := by rw [coerce, coerce, h]
  have hitems (k : Key) (y : Value) : n.newItems o k y = m.newItems o k y := by
    rw [newItems_eq, newItems_eq, h]
  simp only [append, hcoerce, hitems]

theorem map_withTrace (x : Except Fault (Table Value)) (c : Config) (trace : List TraceEntry) :
    (x >>= fun b ↦ pure { c.withTrace trace with bindings := b }) =
      (x >>= fun b ↦ pure { c with bindings := b }).map (·.withTrace trace) := by
  cases x <;> rfl

/-- Neither the states of the machine nor the trace have a say in what an action does. -/
theorem act_withTrace (h : ∀ v, m.type? v = n.type? v) (o : Options) (groups : Groups)
    (trace : List TraceEntry) (c : Config) (a : Action) :
    n.act o groups (c.withTrace trace) a = (m.act o groups c a).map (·.withTrace trace) := by
  cases a with
  | emit => rfl
  | clear name => exact map_withTrace _ c trace
  | set name operand =>
    rw [act, act, assign_eq_of_types h]
    cases operandValue groups operand with
    | error fault => rfl
    | ok v => exact map_withTrace _ c trace
  | append name operand =>
    rw [act, act, append_eq_of_types h]
    cases operandValue groups operand with
    | error fault => rfl
    | ok v => exact map_withTrace _ c trace

theorem take_withTrace (h : ∀ v, m.type? v = n.type? v) (o : Options) (c : Config)
    (trace : List TraceEntry) (r : Rule) (groups : Groups) :
    n.take o (c.withTrace trace) r groups = (m.take o c r groups).map (·.withTrace trace) := by
  have hbind : n.bind o r groups = m.bind o r groups := by
    funext bindings
    rw [bind, bind, assign_eq_of_types h]
  rw [take, take, hbind]
  have hact : List.Forall₂ (fun a b ↦ ∀ d : Config,
      n.act o groups (d.withTrace trace) b = (m.act o groups d a).map (·.withTrace trace))
      r.actions r.actions :=
    List.forall₂_same.mpr fun a _ d ↦ act_withTrace h o groups trace d a
  change (m.bind o r groups c.bindings >>= _) = _
  cases m.bind o r groups c.bindings with
  | error fault => rfl
  | ok bindings => exact foldlM_hom hact { c with bindings := bindings }

end Take

/-! ## The simulation -/

section Simulation

variable {Q : Value → Value → Prop} {m n : Machine}

/-- What two machines that agree find under a reachable name: states of the same rules. -/
theorem state?_of_agree (h : Agree m n) (hspelled : Spelled Q m n) {name : Value}
    (hname : m.Reachable name) :
    SideBySide (fun found found' ↦ m.stateAt? name = found ∧ name.key?.isSome = true ∧
        Option.Rel (fun s s' ↦ Q s.name s'.name ∧ s.rules = s'.rules) found found')
      (m.state? name) (n.state? name) := by
  cases hk : name.key? with
  | none =>
    rw [state?, state?, Value.key, hk]
    exact .error _
  | some k =>
    have hkey : name.key?.isSome = true := by rw [hk]; rfl
    rw [state?_eq_ok.mpr ⟨hkey, rfl⟩, state?_eq_ok.mpr ⟨hkey, rfl⟩]
    refine .ok ⟨rfl, rfl, ?_⟩
    have hrules := h.rules name hname
    cases hentry : m.stateAt? name with
    | none =>
      rw [hentry, Option.map_none, eq_comm, Option.map_eq_none_iff] at hrules
      rw [hrules]
      exact .none
    | some s =>
      rw [hentry, Option.map_some, eq_comm, Option.map_eq_some_iff] at hrules
      obtain ⟨s', hentry', hsame⟩ := hrules
      rw [hentry']
      exact .some ⟨hspelled.found hname hentry hentry', hsame.symm⟩

/-- A transition leads both configurations to the same state, or ends both runs. -/
theorem abreast_follow {c d : Config} {transition : Option Transition} (hcd : Abreast Q m c d)
    (hnext : ∀ next, nextState? transition c.state = some next → m.Reachable next) :
    Abreast Q m (follow c transition) (follow d transition) := by
  obtain ⟨trace, hstate, htrace⟩ := hcd
  have hsame : (c.withTrace trace).state = c.state := rfl
  rw [follow_eq, follow_eq, hsame]
  cases hfollowed : nextState? transition c.state with
  | none => exact .intro trace hstate htrace
  | some next => exact .intro trace (hnext next hfollowed) htrace

/-- A look of two machines that agree. The state that the first one comes to is reachable again. -/
theorem look_of_agree (h : Agree m n) (hspelled : Spelled Q m n) (o : Options) (line : String)
    {c d : Config} (hcd : Abreast Q m c d) :
    SideBySide (Abreast Q m) (m.look o c line) (n.look o d line) := by
  obtain ⟨trace, hstate, htrace⟩ := hcd
  rw [look, look]
  refine (state?_of_agree h hspelled hstate).bind fun found found' hboth ↦ ?_
  obtain ⟨hentry, hkey, hfound⟩ := hboth
  have hnoted {state state' : Value} (hQ : Q state state') (matched : Option Nat) :
      List.Forall₂ (SameEntry Q) (c.trace ++ [⟨c.lines + 1, line, state, matched⟩])
        (trace ++ [⟨c.lines + 1, line, state', matched⟩]) :=
    List.rel_append htrace (.cons ⟨hQ, rfl⟩ .nil)
  cases hfound with
  | none => exact .ok (.intro _ hstate (hnoted (hspelled.unknown hkey) none))
  | @some s s' hrel =>
    obtain ⟨hQ, hrules⟩ := hrel
    have hsame : s.firstMatch? line = s'.firstMatch? line := by
      rw [State.firstMatch?, State.firstMatch?, hrules]
    simp only [← hsame]
    cases hmatch : s.firstMatch? line with
    | none => exact .ok (.intro _ hstate (hnoted hQ none))
    | some taken =>
      obtain ⟨r, groups⟩ := taken
      obtain ⟨hrule, -⟩ := captures?_of_firstMatch? hmatch
      -- What the two machines take is the same rule, and the trace is changed at the end only.
      let counted : Config := { c with lines := c.lines + 1, matched := c.matched + 1 }
      have htake := SideBySide.changed (m.take o counted r groups) (·.withTrace trace)
      rw [← take_withTrace h.types] at htake
      refine htake.bind fun d e hde ↦ .ok ?_
      obtain ⟨hd, rfl⟩ := hde
      obtain ⟨-, sheet, -, rfl⟩ := take_eq_ok.mp hd
      exact abreast_follow (.intro _ hstate (hnoted hQ (some r.index))) fun next hnext ↦
        reachable_of_nextState? hstate hentry hrule hnext

theorem step_of_agree (h : Agree m n) (hspelled : Spelled Q m n) (o : Options) (line : String)
    {c d : Config} (hcd : Abreast Q m c d) :
    SideBySide (Abreast Q m) (m.step o c line) (n.step o d line) := by
  cases hstatus : c.status with
  | running =>
    have hrunning : d.status = .running := by
      cases hcd
      exact hstatus
    rw [step_of_running hstatus, step_of_running hrunning]
    exact look_of_agree h hspelled o line hcd
  | ended =>
    obtain ⟨trace, hstate, htrace⟩ := hcd
    rw [step_of_ended hstatus, step_of_ended (by exact hstatus)]
    exact .ok (.intro _ hstate htrace)
  | lost =>
    obtain ⟨trace, hstate, htrace⟩ := hcd
    rw [step_of_lost hstatus, step_of_lost (by exact hstatus)]
    exact .ok (.intro _ hstate htrace)

/-- **Machines that agree run side by side.** -/
theorem run_of_agree (h : Agree m n) (hspelled : Spelled Q m n) (o : Options)
    (lines : List String) : SideBySide (Abreast Q m) (m.run o lines) (n.run o lines) := by
  have hbegin : Abreast Q m m.begin n.begin := by
    rw [begin, begin, ← h.start]
    exact .intro [] .start .nil
  refine SideBySide.foldlM (S := Eq) ?_ (List.forall₂_refl lines) hbegin
  rintro c d line _ hcd rfl
  exact step_of_agree h hspelled o line hcd

end Simulation

/-! ## Names of states -/

section Names

variable {t u : Template} {m n : Machine}

theorem key_of_stateAt? (h : Built t m) {name : Value} {s : State}
    (hentry : m.stateAt? name = some s) :
    ∃ k j, name.key? = some k ∧ s.name.key? = some j ∧ k.same j = true := by
  obtain ⟨k, hk, hfound⟩ := Option.bind_eq_some_iff.mp hentry
  obtain ⟨source, -, j, hj, hsame, hstate⟩ := exists_of_find?_states h hfound
  exact ⟨k, j, hk, (state_of_ofTemplate hstate).1 ▸ hj, hsame⟩

/-- A state that is found under a text is named by that text. -/
theorem name_of_stateAt?_str (h : Built t m) {text : String} {s : State}
    (hentry : m.stateAt? (.str text) = some s) : s.name = .str text := by
  obtain ⟨k, j, hk, hj, hsame⟩ := key_of_stateAt? h hentry
  cases hk
  rw [Key.same_comm] at hsame
  rw [Key.eq_str_of_same hsame] at hj
  exact Value.eq_str_of_key? hj

/-- What two machines find under one name has names that are the same as keys. -/
theorem spelled_sameKey (hm : Built t m) (hn : Built u n) :
    Spelled (fun v w ↦ v.sameKey w = true) m n where
  found {name s s'} _ hentry hentry' := by
    obtain ⟨k, j, hk, hj, hsame⟩ := key_of_stateAt? hm hentry
    obtain ⟨k', j', hk', hj', hsame'⟩ := key_of_stateAt? hn hentry'
    cases hk.symm.trans hk'
    rw [Key.same_comm] at hsame
    rw [Value.sameKey_eq hj hj', Key.same_trans hsame hsame']
  unknown {name} hkey := by
    obtain ⟨k, hk⟩ := Option.isSome_iff_exists.mp hkey
    rw [Value.sameKey_eq hk hk, Key.same_self]

/-- Where all reachable names are texts, the states found under them have these very names. -/
theorem spelled_eq_of_texts (hm : Built t m) (hn : Built u n)
    (h : ∀ name, m.Reachable name → ∃ text, name = .str text) : Spelled Eq m n where
  found {name s s'} hname hentry hentry' := by
    obtain ⟨text, rfl⟩ := h name hname
    rw [name_of_stateAt?_str hm hentry, name_of_stateAt?_str hn hentry']
  unknown _ := rfl

/-- Machines that find the same states under the reachable names agree, and so do the names. -/
theorem agree_of_stateAt? (hstart : m.start = n.start) (htypes : ∀ v, m.type? v = n.type? v)
    (h : ∀ name, m.Reachable name → m.stateAt? name = n.stateAt? name) :
    Agree m n ∧ Spelled Eq m n := by
  refine ⟨⟨hstart, htypes, fun name hname ↦ by rw [h name hname]⟩, ?_, fun _ ↦ rfl⟩
  intro name s s' hname hentry hentry'
  rw [h name hname, hentry'] at hentry
  cases hentry
  rfl

end Names

/-! ## States of a template by their names -/

/-- The state of a name in a machine is the one that the template has, with its patterns read. -/
theorem stateAt?_of_ofTemplate {t : Template} {m : Machine} (h : ofTemplate t = .ok m)
    (name : Value) :
    m.stateAt? name = name.key?.bind fun k ↦ (t.stateOf? k).bind fun s ↦
      (State.ofTemplate s).toOption := by
  refine Option.bind_congr fun k _ ↦ ?_
  generalize hsource : t.stateOf? k = source, hfound : Table.find? m.states k = found
  have hrel := rel_states_of_built (built_of_ofTemplate h) k
  rw [hsource, hfound] at hrel
  cases hrel with
  | none => rfl
  | some hstate =>
    rw [Option.bind_some, hstate]
    rfl

/-! ## Names that no run comes to -/

/-- Holds of a state that bears no reachable name. -/
def Unreached (m : Machine) (s : LineMachine.State) : Prop :=
  ∀ name, m.Reachable name → s.name.sameKey name = false

theorem any_same_of_unreached {m : Machine} {s : LineMachine.State} (h : m.Unreached s)
    {name : Value} {k : Key} (hname : m.Reachable name) (hk : name.key? = some k) :
    s.name.key?.any k.same = false := by
  have hdiffer := h name hname
  cases hj : s.name.key? with
  | none => rfl
  | some j => rwa [Value.sameKey_eq hj hk, Key.same_comm] at hdiffer

/-- The first state of a template is reached. -/
theorem not_unreached_first {t : Template} {m : Machine} (hm : ofTemplate t = .ok m)
    {first : LineMachine.State} {rest : List LineMachine.State} (hcons : t.states = first :: rest) :
    ¬ m.Unreached first := by
  intro h
  obtain ⟨first', rest', hstates, hstart⟩ := (built_of_ofTemplate hm).start
  cases hcons.symm.trans hstates
  obtain ⟨pairs, hpairs, -⟩ := (built_of_ofTemplate hm).states
  obtain ⟨e, -, he⟩ := exists_result_of_mapM hpairs (hcons ▸ List.mem_cons_self)
  have hkey := (stateEntry_eq_ok he).1
  have hdiffer := h first.name (hstart ▸ .start)
  rw [Value.sameKey_eq hkey hkey, Key.same_self] at hdiffer
  cases hdiffer

end Machine

/-- The names at which a run can come in: that of the first state, and the targets of transitions
to states. -/
def Template.landings (t : Template) : List Value :=
  (t.states.head?.map State.name).toList ++
    ((t.states.flatMap State.rules).filterMap fun r ↦ r.transition.map Transition.target).filter
      fun v ↦ v != .str selfTarget && v != .str endTarget

namespace Machine

/-- Every reachable name is one at which a run can come in. -/
theorem mem_landings_of_reachable {t : Template} {m : Machine} (hm : ofTemplate t = .ok m)
    {name : Value} (h : m.Reachable name) : name ∈ t.landings := by
  rw [Template.landings, List.mem_append]
  cases h with
  | start =>
    obtain ⟨first, rest, hcons, hstart⟩ := (built_of_ofTemplate hm).start
    rw [hcons, hstart]
    exact .inl List.mem_cons_self
  | next _ hentry hrule htransition _ hself hend =>
    obtain ⟨k, -, hfound⟩ := Option.bind_eq_some_iff.mp hentry
    obtain ⟨state, hstate, source, hsource, index, hread⟩ :=
      exists_rule_of_find?_states (built_of_ofTemplate hm) hfound hrule
    obtain ⟨pattern, -, rfl⟩ := rule_of_ofTemplate hread
    refine .inr (List.mem_filter.mpr ⟨List.mem_filterMap.mpr ⟨source, ?_, ?_⟩, ?_⟩)
    · exact List.mem_flatMap.mpr ⟨state, hstate, hsource⟩
    · exact Option.map_eq_some_iff.mpr ⟨_, htransition, rfl⟩
    · rw [Bool.and_eq_true, bne_iff_ne, bne_iff_ne]
      exact ⟨hself, hend⟩

theorem unreached_of_landings {t : Template} {m : Machine} (hm : ofTemplate t = .ok m)
    {s : LineMachine.State} (h : ∀ name ∈ t.landings, s.name.sameKey name = false) :
    m.Unreached s :=
  fun name hname ↦ h name (mem_landings_of_reachable hm hname)

/-! ## Moving states and leaving them out -/

theorem find?_eq_of_perm {α : Type} {p : α → Bool} {xs ys : List α} (h : xs.Perm ys)
    (hone : xs.Pairwise fun a b ↦ ¬ (p a = true ∧ p b = true)) : xs.find? p = ys.find? p := by
  rw [← List.head?_filter, ← List.head?_filter]
  have hperm := h.filter p
  -- At most one item passes, and a list of at most one item has no other order.
  cases hpassed : xs.filter p with
  | nil =>
    rw [hpassed, List.nil_perm] at hperm
    rw [hperm]
  | cons a rest =>
    have hnil : rest = [] := by
      refine List.eq_nil_iff_forall_not_mem.mpr fun b hb ↦ ?_
      have hpair := hone.filter p
      rw [hpassed] at hpair
      have hpass {c : α} (hc : c ∈ a :: rest) : p c = true := by
        rw [← hpassed] at hc
        exact (List.mem_filter.mp hc).2
      exact (List.pairwise_cons.mp hpair).1 b hb
        ⟨hpass List.mem_cons_self, hpass (List.mem_cons_of_mem a hb)⟩
    rw [hpassed, hnil, List.singleton_perm] at hperm
    rw [← hperm, hnil]

/-- States of different names are found in whatever order they stand. -/
theorem stateOf?_of_perm {t u : Template} (h : t.states.Perm u.states)
    (hdistinct : t.states.Pairwise fun r s ↦ r.name.sameKey s.name = false) (k : Key) :
    u.stateOf? k = t.stateOf? k := by
  have hperm : t.states.reverse.Perm u.states.reverse :=
    (List.reverse_perm _).trans (h.trans (List.reverse_perm _).symm)
  refine (find?_eq_of_perm hperm (List.pairwise_reverse.mpr (hdistinct.imp ?_))).symm
  rintro r s hdiffer ⟨hs, hr⟩
  obtain ⟨i, hi, hsamei⟩ := (Option.any_eq_true _ _).mp hr
  obtain ⟨j, hj, hsamej⟩ := (Option.any_eq_true _ _).mp hs
  rw [Key.same_comm] at hsamei
  rw [Value.sameKey_eq hi hj, Key.same_trans hsamei hsamej] at hdiffer
  cases hdiffer

/-- Leaving out states of other names does not change what is found under a name. -/
theorem stateOf?_of_filter {t u : Template} {keep : LineMachine.State → Bool}
    (h : u.states.filter keep = t.states) {k : Key}
    (hk : ∀ s ∈ u.states, keep s = false → s.name.key?.any k.same = false) :
    u.stateOf? k = t.stateOf? k := by
  rw [Template.stateOf?, Template.stateOf?, ← h, ← List.filter_reverse, ← List.head?_filter,
    ← List.head?_filter, List.filter_filter]
  refine congrArg List.head? (List.filter_congr fun s hs ↦ ?_)
  cases hkeep : keep s with
  | true => rw [Bool.and_true]
  | false => rw [hk s (List.mem_reverse.mp hs) hkeep, Bool.and_false]

/-- Templates of the same declarations whose states have the same names in front and the same
states under the reachable names have machines that agree. -/
theorem agree_of_stateOf? {t u : Template} {m n : Machine} (hm : ofTemplate t = .ok m)
    (hn : ofTemplate u = .ok n) (hdeclared : u.declared = t.declared)
    (hstart : u.states.head?.map (·.name) = t.states.head?.map (·.name))
    (h : ∀ name k, m.Reachable name → name.key? = some k → u.stateOf? k = t.stateOf? k) :
    Agree m n ∧ Spelled Eq m n := by
  refine agree_of_stateAt? ?_ (fun v ↦ ?_) fun name hname ↦ ?_
  · obtain ⟨first, rest, hstates, hfirst⟩ := (built_of_ofTemplate hm).start
    obtain ⟨first', rest', hstates', hfirst'⟩ := (built_of_ofTemplate hn).start
    rw [hstates, hstates'] at hstart
    rw [hfirst, hfirst']
    exact (Option.some.inj hstart).symm
  · rw [type?_of_ofTemplate hm, type?_of_ofTemplate hn, Template.typeOf?, Template.typeOf?,
      hdeclared]
  · rw [stateAt?_of_ofTemplate hm, stateAt?_of_ofTemplate hn]
    exact Option.bind_congr fun k hk ↦ by rw [h name k hname hk]

end Machine

/-! ## Results -/

/-- Holds of results that differ at most in the names of the states in their traces. -/
structure ParseResult.SameUpTo (Q : Value → Value → Prop) (r s : ParseResult) : Prop where
  trace : Option.Rel (List.Forall₂ (Machine.SameEntry Q)) r.trace s.trace
  rest : s = { r with trace := s.trace }

theorem ParseResult.eq_of_sameUpTo {r s : ParseResult} (h : r.SameUpTo Eq s) : s = r := by
  have hentry : Machine.SameEntry Eq = Eq := by
    funext e f
    refine propext ⟨fun hef ↦ ?_, fun hef ↦ hef ▸ ⟨rfl, rfl⟩⟩
    rw [hef.rest, ← hef.state]
  have htrace := h.trace
  rw [hentry, List.forall₂_eq_eq_eq] at htrace
  have hsame {x y : Option (List Machine.TraceEntry)} (hxy : Option.Rel Eq x y) : x = y := by
    cases hxy with
    | some hab => rw [hab]
    | none => rfl
  rw [h.rest, ← hsame htrace]

theorem ParseResult.ofConfig_of_abreast {Q : Value → Value → Prop} {t u : Template} {m : Machine}
    (hid : u.id = t.id) (hname : u.name = t.name) (o : Options) {c d : Machine.Config}
    (h : Machine.Abreast Q m c d) : (ofConfig t o c).SameUpTo Q (ofConfig u o d) := by
  obtain ⟨trace, -, htrace⟩ := h
  rw [ofConfig, ofConfig, hid, hname]
  cases o.debug with
  | false => exact ⟨.none, rfl⟩
  | true => exact ⟨.some htrace, rfl⟩

namespace Engine

/-- Templates of one id and name whose machines agree give results side by side. -/
theorem result_parse_of_agree {Q : Value → Value → Prop} {t u : Template} {m n : Machine}
    (hm : Machine.ofTemplate t = .ok m) (hn : Machine.ofTemplate u = .ok n) (hid : u.id = t.id)
    (hname : u.name = t.name) (h : m.Agree n) (hspelled : Machine.Spelled Q m n) (text : Value)
    (o : Options) :
    SideBySide (ParseResult.SameUpTo Q) (parse Cache.empty text t o).result
      (parse Cache.empty text u o).result := by
  rw [result_parse_empty, result_parse_empty, hid, hm, hn, ok_bind, ok_bind]
  cases t.id.key with
  | error fault => exact .error fault
  | ok k =>
    cases textOf text with
    | error fault => exact .error fault
    | ok s =>
      exact (Machine.run_of_agree h hspelled o (Text.splitLines s)).map fun c d ↦
        ParseResult.ofConfig_of_abreast hid hname o

theorem parse_eq_of_agree {t u : Template} {m n : Machine} (hm : Machine.ofTemplate t = .ok m)
    (hn : Machine.ofTemplate u = .ok n) (hid : u.id = t.id) (hname : u.name = t.name)
    (h : m.Agree n ∧ Machine.Spelled Eq m n) (text : Value) (o : Options) :
    (parse Cache.empty text u o).result = (parse Cache.empty text t o).result := by
  have hside := result_parse_of_agree hm hn hid hname h.1 h.2 text o
  have heq := (hside.mono fun r s ↦ ParseResult.eq_of_sameUpTo).eq_map (g := id)
  rw [heq]
  cases (parse Cache.empty text t o).result <;> rfl

/-- Other states give the same results if the first one has the same name and the states of the
reachable names are the same. -/
theorem parse_eq_of_stateOf? {t : Template} {m : Machine} (hm : Machine.ofTemplate t = .ok m)
    {states : List State} {n : Machine}
    (hn : Machine.ofTemplate { t with states := states } = .ok n)
    (hstart : states.head?.map (·.name) = t.states.head?.map (·.name))
    (h : ∀ name k, m.Reachable name → name.key? = some k →
      Template.stateOf? { t with states := states } k = t.stateOf? k) (text : Value)
    (o : Options) :
    (parse Cache.empty text { t with states := states } o).result =
      (parse Cache.empty text t o).result :=
  parse_eq_of_agree hm hn rfl rfl (Machine.agree_of_stateOf? hm hn rfl hstart h) text o

section Parse

variable {t : Template} {m : Machine} (hm : Machine.ofTemplate t = .ok m)
include hm

/-- The order of the states behind the first does not matter where no two have the same name. -/
theorem parse_reordered {first : State} {rest rest' : List State}
    (hcons : t.states = first :: rest) (hperm : rest.Perm rest')
    (hdistinct : t.states.Pairwise fun r s ↦ r.name.sameKey s.name = false) (text : Value)
    (o : Options) :
    (parse Cache.empty text { t with states := first :: rest' } o).result =
      (parse Cache.empty text t o).result := by
  obtain ⟨-, hstates, htypes⟩ := Machine.exists_ofTemplate_iff.mp ⟨m, hm⟩
  have hmoved : t.states.Perm (first :: rest') := hcons ▸ hperm.cons first
  obtain ⟨n, hn⟩ : ∃ n, Machine.ofTemplate { t with states := first :: rest' } = .ok n :=
    Machine.exists_ofTemplate_iff.mpr ⟨List.cons_ne_nil first rest',
      fun s hs ↦ hstates s (hmoved.mem_iff.mpr hs), htypes⟩
  refine parse_eq_of_stateOf? hm hn ?_ (fun _ k _ _ ↦ ?_) text o
  · rw [hcons]
    rfl
  · exact Machine.stateOf?_of_perm (u := { t with states := first :: rest' }) hmoved hdistinct k

/-- States that no run comes to can be left out. -/
theorem parse_dropped {keep : State → Bool}
    (hdrop : ∀ s ∈ t.states, keep s = false → m.Unreached s) (text : Value) (o : Options) :
    (parse Cache.empty text { t with states := t.states.filter keep } o).result =
      (parse Cache.empty text t o).result := by
  obtain ⟨-, hstates, htypes⟩ := Machine.exists_ofTemplate_iff.mp ⟨m, hm⟩
  obtain ⟨first, rest, hcons, -⟩ := (Machine.built_of_ofTemplate hm).start
  have hfirst : keep first = true := by
    rw [← Bool.not_eq_false]
    intro hdropped
    exact Machine.not_unreached_first hm hcons
      (hdrop first (hcons ▸ List.mem_cons_self) hdropped)
  have hkept : t.states.filter keep = first :: rest.filter keep := by
    rw [hcons, List.filter_cons_of_pos hfirst]
  obtain ⟨n, hn⟩ : ∃ n, Machine.ofTemplate { t with states := t.states.filter keep } = .ok n :=
    Machine.exists_ofTemplate_iff.mpr ⟨hkept ▸ List.cons_ne_nil first _,
      fun s hs ↦ hstates s (List.mem_of_mem_filter hs), htypes⟩
  refine parse_eq_of_stateOf? hm hn ?_ (fun name k hname hk ↦ ?_) text o
  · rw [hkept, hcons]
    rfl
  · exact (Machine.stateOf?_of_filter (t := { t with states := t.states.filter keep }) rfl
      fun s hs hdropped ↦
        Machine.any_same_of_unreached (hdrop s hs hdropped) hname hk).symm

/-- States that no run comes to can be put in, as long as runs start where they did. -/
theorem parse_extended {states : List State} {keep : State → Bool} {n : Machine}
    (hn : Machine.ofTemplate { t with states := states } = .ok n)
    (hkept : states.filter keep = t.states)
    (hstart : states.head?.map (·.name) = t.states.head?.map (·.name))
    (hnew : ∀ s ∈ states, keep s = false → m.Unreached s) (text : Value) (o : Options) :
    (parse Cache.empty text { t with states := states } o).result =
      (parse Cache.empty text t o).result :=
  parse_eq_of_stateOf? hm hn hstart (fun _ _ hname hk ↦ Machine.stateOf?_of_filter hkept
    fun s hs hdropped ↦ Machine.any_same_of_unreached (hnew s hs hdropped) hname hk) text o

end Parse

/-- **Only the states that a run can come to matter.** Let a template have a machine.

Another template of the same id and name gives the same results as this one, for every text and all
options, if it has a machine that agrees with it on the reachable names: the names of states in the
traces are the same as keys, and they are equal if the reachable names are texts.

Hence the results stay as they are when the states behind the first are put in another order, if no
two states have the same name; when states are left out whose names are not reachable; and when
states are put in whose names are not, as long as runs start where they did. -/
theorem parse_of_agree {t : Template} {m : Machine} (hm : Machine.ofTemplate t = .ok m)
    (text : Value) (o : Options) :
    (∀ u n, Machine.ofTemplate u = .ok n → u.id = t.id → u.name = t.name → m.Agree n →
      SideBySide (ParseResult.SameUpTo fun v w ↦ v.sameKey w = true)
        (parse Cache.empty text t o).result (parse Cache.empty text u o).result ∧
      ((∀ name, m.Reachable name → ∃ s, name = .str s) →
        (parse Cache.empty text u o).result = (parse Cache.empty text t o).result)) ∧
    (∀ first rest rest', t.states = first :: rest → rest.Perm rest' →
      t.states.Pairwise (fun r s ↦ r.name.sameKey s.name = false) →
      (parse Cache.empty text { t with states := first :: rest' } o).result =
        (parse Cache.empty text t o).result) ∧
    (∀ keep : State → Bool, (∀ s ∈ t.states, keep s = false → m.Unreached s) →
      (parse Cache.empty text { t with states := t.states.filter keep } o).result =
        (parse Cache.empty text t o).result) ∧
    (∀ (states : List State) (keep : State → Bool) n,
      Machine.ofTemplate { t with states := states } = .ok n → states.filter keep = t.states →
      states.head?.map (·.name) = t.states.head?.map (·.name) →
      (∀ s ∈ states, keep s = false → m.Unreached s) →
      (parse Cache.empty text { t with states := states } o).result =
        (parse Cache.empty text t o).result) := by
  have hbuilt := Machine.built_of_ofTemplate hm
  refine ⟨fun u n hn hid hname hagree ↦ ⟨?_, fun htexts ↦ ?_⟩, fun first rest rest' hcons hperm
    hdistinct ↦ ?_, fun keep hdrop ↦ ?_, fun states keep n hn hkept hstart hnew ↦ ?_⟩
  · exact result_parse_of_agree hm hn hid hname hagree
      (Machine.spelled_sameKey hbuilt (Machine.built_of_ofTemplate hn)) text o
  · exact parse_eq_of_agree hm hn hid hname ⟨hagree,
      Machine.spelled_eq_of_texts hbuilt (Machine.built_of_ofTemplate hn) htexts⟩ text o
  · exact parse_reordered hm hcons hperm hdistinct text o
  · exact parse_dropped hm hdrop text o
  · exact parse_extended hm hn hkept hstart hnew text o

/-- The list of ports with two states that no run comes to: one named like the target that ends a
run, and one that no transition leads to. -/
def portsSpare : Template :=
  { ports with states := ports.states ++ [
    ⟨.str endTarget, [⟨.str "(?<port>.)", none, none, [.emit], none⟩]⟩,
    ⟨.str "spare", [⟨.str "x", none, none, [], some ⟨.str "list", .str "match"⟩⟩]⟩] }

/-- Holds of the states of the list of ports that are its own. -/
def inPorts (s : State) : Bool :=
  s.name != .str endTarget && s.name != .str "spare"

/-- The two states may stand anywhere behind the first, and they may be left out or put in. -/
theorem parse_of_agree_portsSpare :
    ∃ r, (parse Cache.empty (.str "ports\np1\nend\np2\n") portsSpare { debug := true }).result =
        .ok r ∧
      r.records = [[(.str "port", .str "1"), (.str "seen", .list [.str "1"])]] ∧
      (parse Cache.empty (.str "ports\np1\nend\np2\n") ports { debug := true }).result = .ok r ∧
      (parse Cache.empty (.str "ports\np1\nend\np2\n")
        { portsSpare with states := portsSpare.states.filter inPorts } { debug := true }).result =
          .ok r ∧
      (parse Cache.empty (.str "ports\np1\nend\np2\n")
        { portsSpare with
          states := portsSpare.states.take 1 ++ (portsSpare.states.drop 1).reverse }
        { debug := true }).result = .ok r := by
  obtain ⟨n, hn⟩ : ∃ n, Machine.ofTemplate ports = .ok n := ⟨_, rfl⟩
  obtain ⟨m, hm⟩ : ∃ m, Machine.ofTemplate portsSpare = .ok m := ⟨_, rfl⟩
  obtain ⟨r, hr, hrecords⟩ := map_eq_ok.mp (show
    (parse Cache.empty (.str "ports\np1\nend\np2\n") ports { debug := true }).result.map
      ParseResult.records = .ok [[(.str "port", .str "1"), (.str "seen", .list [.str "1"])]] by
    decide +kernel)
  obtain ⟨-, -, -, hextend⟩ := parse_of_agree hn (.str "ports\np1\nend\np2\n") { debug := true }
  obtain ⟨hagree, hreorder, hdrop, -⟩ :=
    parse_of_agree hm (.str "ports\np1\nend\np2\n") { debug := true }
  have hnew : ∀ s ∈ portsSpare.states, inPorts s = false → n.Unreached s := by
    have h : ∀ s ∈ portsSpare.states, inPorts s = false →
        ∀ name ∈ ports.landings, s.name.sameKey name = false := by decide
    exact fun s hs hnot ↦ Machine.unreached_of_landings hn (h s hs hnot)
  have hspare : ∀ s ∈ portsSpare.states, inPorts s = false → m.Unreached s := by
    have h : ∀ s ∈ portsSpare.states, inPorts s = false →
        ∀ name ∈ portsSpare.landings, s.name.sameKey name = false := by decide
    exact fun s hs hnot ↦ Machine.unreached_of_landings hm (h s hs hnot)
  -- The two machines agree, as what is left out is not found under a reachable name.
  have hmn : m.Agree n := (Machine.agree_of_stateOf? hm hn rfl rfl fun name k hname hk ↦
    (Machine.stateOf?_of_filter (t := ports) (u := portsSpare) (by decide) fun s hs hnot ↦
      Machine.any_same_of_unreached (hspare s hs hnot) hname hk).symm).1
  have htexts : ∀ name, m.Reachable name → ∃ text, name = .str text := by
    have h : ∀ name ∈ portsSpare.landings, name = .str "heading" ∨ name = .str "list" := by decide
    exact fun name hname ↦ (h name (Machine.mem_landings_of_reachable hm hname)).elim
      (fun h ↦ ⟨_, h⟩) fun h ↦ ⟨_, h⟩
  have hports := (hagree ports n hn rfl rfl hmn).2 htexts
  have hextended := hextend portsSpare.states inPorts m hm (by decide) rfl hnew
  have hdropped := hdrop inPorts hspare
  have hreordered := hreorder _ _ (portsSpare.states.drop 1).reverse rfl
    (List.reverse_perm _).symm (by decide)
  refine ⟨r, hextended.trans hr, hrecords, hr, ?_, ?_⟩
  · exact hdropped.trans (hports.symm.trans hr)
  · exact hreordered.trans (hports.symm.trans hr)

end Engine

end LineMachine
