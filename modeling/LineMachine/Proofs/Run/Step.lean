import LineMachine.Proofs.Run.Change

/-!
# What one line does to a run

`Looked` lists what looking at a line can do to a configuration: the current state is not in the
table, no rule of it matches, or a rule is taken and leads to a state or to the end. `look_eq_ok`
says that these are all the ways in which a look comes to an end, so that what a run keeps is
shown by going through four cases and never by unfolding the step itself.

A run that was stopped does nothing any more (`resume_of_ended`, `resume_of_lost`), and whatever
every step keeps a run keeps (`resume_invariant`).
-/

namespace LineMachine.Machine

/-! ## The state table -/

/-- The state in the table under a name. A name that is no scalar has none. -/
def stateAt? (m : Machine) (name : Value) : Option State :=
  name.key?.bind (Table.find? m.states)

theorem state?_eq_ok {m : Machine} {name : Value} {found : Option State} :
    m.state? name = .ok found ↔ name.key?.isSome = true ∧ m.stateAt? name = found := by
  rw [state?, stateAt?, Value.key]
  cases name.key? with
  | none =>
    constructor
    · intro h
      cases h
    · rintro ⟨h, -⟩
      cases h
  | some k =>
    rw [ok_bind, pure_eq_ok]
    simp only [Option.isSome_some, Option.bind_some, true_and]

/-! ## Transitions -/

/-- Where a transition leads from a state: to a state, or to the end of the run. No transition,
one under another condition, and one to the state itself leave the run in its state. -/
def nextState? (transition : Option Transition) (state : Value) : Option Value :=
  match transition with
  | none => some state
  | some t =>
    if t.condition ≠ .str "match" ∧ t.condition ≠ .str "always" then some state
    else if t.target = .str selfTarget then some state
    else if t.target = .str endTarget then none
    else some t.target

theorem follow_eq (c : Config) (transition : Option Transition) :
    follow c transition =
      match nextState? transition c.state with
      | some next => { c with state := next }
      | none => { c with status := .ended } := by
  cases transition with
  | none => rfl
  | some t =>
    -- `follow` tests the condition with Booleans, `nextState?` with propositions.
    have hcondition : (t.condition != .str "match" && t.condition != .str "always") = true ↔
        t.condition ≠ .str "match" ∧ t.condition ≠ .str "always" := by simp
    rw [follow, nextState?]
    by_cases hc : t.condition ≠ .str "match" ∧ t.condition ≠ .str "always"
    · rw [if_pos (hcondition.mpr hc), if_pos hc]
    · rw [if_neg (mt hcondition.mp hc), if_neg hc]
      by_cases hself : t.target = .str selfTarget
      · rw [if_pos hself, if_pos hself]
      · rw [if_neg hself, if_neg hself]
        by_cases hend : t.target = .str endTarget
        · rw [if_pos hend, if_pos hend]
        · rw [if_neg hend, if_neg hend]

/-! ## Looking at a line -/

/-- A configuration after one more line, which has an entry in the trace. -/
def Config.seen (c : Config) (line : String) (state : Value) (matched : Option Nat) : Config :=
  { c with
    lines := c.lines + 1
    trace := c.trace ++ [⟨c.lines + 1, line, state, matched⟩] }

/-- What looking at a line can do to a configuration. -/
inductive Looked (m : Machine) (o : Options) (c : Config) (line : String) : Config → Prop where
  /-- The current state is not in the table. -/
  | lost (hkey : c.state.key?.isSome = true) (hentry : m.stateAt? c.state = none) :
    Looked m o c line { c.seen line c.state none with status := .lost }
  /-- No rule of the current state matches. -/
  | passed {s : State} (hentry : m.stateAt? c.state = some s) (hmatch : s.firstMatch? line = none) :
    Looked m o c line (c.seen line s.name none)
  /-- A rule is taken, and the run goes on in some state. -/
  | moved {s : State} {r : Rule} {groups : Groups} {sheet : Sheet} {next : Value}
    (hentry : m.stateAt? c.state = some s) (hmatch : s.firstMatch? line = some (r, groups))
    (hsourced : ∀ a ∈ r.actions, SourcedAction a)
    (hsheet : c.sheet.applyAll m o (r.changes groups) = .ok sheet)
    (hnext : nextState? r.transition c.state = some next) :
    Looked m o c line
      { (c.seen line s.name (some r.index)).withSheet sheet with
        matched := c.matched + 1
        state := next }
  /-- A rule is taken, and its transition ends the run. -/
  | ended {s : State} {r : Rule} {groups : Groups} {sheet : Sheet}
    (hentry : m.stateAt? c.state = some s) (hmatch : s.firstMatch? line = some (r, groups))
    (hsourced : ∀ a ∈ r.actions, SourcedAction a)
    (hsheet : c.sheet.applyAll m o (r.changes groups) = .ok sheet)
    (hnext : nextState? r.transition c.state = none) :
    Looked m o c line
      { (c.seen line s.name (some r.index)).withSheet sheet with
        matched := c.matched + 1
        status := .ended }

theorem isSome_key?_of_stateAt? {m : Machine} {name : Value} {s : State}
    (h : m.stateAt? name = some s) : name.key?.isSome = true := by
  rw [stateAt?, Option.bind_eq_some_iff] at h
  obtain ⟨k, hk, -⟩ := h
  rw [hk]
  rfl

/-- Where a run stands once a rule was taken and its transition followed. -/
theorem follow_note (c : Config) (sheet : Sheet) (line : String) (state : Value) (r : Rule) :
    follow ((Config.withSheet { c with lines := c.lines + 1, matched := c.matched + 1 } sheet).note
        line state (some r.index)) r.transition =
      match nextState? r.transition c.state with
      | some next => { (c.seen line state (some r.index)).withSheet sheet with
          matched := c.matched + 1
          state := next }
      | none => { (c.seen line state (some r.index)).withSheet sheet with
          matched := c.matched + 1
          status := .ended } :=
  follow_eq _ _

/-- A look at a line that a rule matches is taking that rule and following its transition. -/
theorem look_of_match {m : Machine} {c : Config} {line : String} {s : State} {r : Rule}
    {groups : Groups} (o : Options) (hentry : m.stateAt? c.state = some s)
    (hmatch : s.firstMatch? line = some (r, groups)) :
    m.look o c line =
      m.take o { c with lines := c.lines + 1, matched := c.matched + 1 } r groups >>= fun d ↦
        pure (follow (d.note line s.name (some r.index)) r.transition) := by
  rw [look, state?_eq_ok.mpr ⟨isSome_key?_of_stateAt? hentry, hentry⟩, ok_bind]
  simp only [hmatch]

theorem look_of_changes {m : Machine} {o : Options} {c : Config} {line : String} {s : State}
    {r : Rule} {groups : Groups} {sheet : Sheet} (hentry : m.stateAt? c.state = some s)
    (hmatch : s.firstMatch? line = some (r, groups)) (hsourced : ∀ a ∈ r.actions, SourcedAction a)
    (hsheet : c.sheet.applyAll m o (r.changes groups) = .ok sheet) :
    m.look o c line = .ok (follow ((Config.withSheet { c with
      lines := c.lines + 1
      matched := c.matched + 1 } sheet).note line s.name (some r.index)) r.transition) := by
  have htake : m.take o { c with lines := c.lines + 1, matched := c.matched + 1 } r groups =
      .ok (Config.withSheet { c with lines := c.lines + 1, matched := c.matched + 1 } sheet) :=
    take_eq_ok.mpr ⟨hsourced, sheet, hsheet, rfl⟩
  rw [look_of_match o hentry hmatch, htake, ok_bind]
  rfl

/-- A look at a line fails with the fault of the changes that are made. -/
theorem look_of_changes_error {m : Machine} {o : Options} {c : Config} {line : String} {s : State}
    {r : Rule} {groups : Groups} {fault : Fault} (hentry : m.stateAt? c.state = some s)
    (hmatch : s.firstMatch? line = some (r, groups)) (hsourced : ∀ a ∈ r.actions, SourcedAction a)
    (hsheet : c.sheet.applyAll m o (r.changes groups) = .error fault) :
    m.look o c line = .error fault := by
  have htake : m.take o { c with lines := c.lines + 1, matched := c.matched + 1 } r groups =
      .error fault := by
    rw [take_of_sourced m o _ hsourced]
    exact congrArg (Functor.map _) hsheet
  rw [look_of_match o hentry hmatch, htake, error_bind]

/-- **What a look can do.** -/
theorem look_eq_ok {m : Machine} {o : Options} {c d : Config} {line : String} :
    m.look o c line = .ok d ↔ Looked m o c line d := by
  constructor
  · intro h
    obtain ⟨found, hfound, hrest⟩ := bind_eq_ok.mp h
    obtain ⟨hkey, hentry⟩ : c.state.key?.isSome = true ∧ m.stateAt? c.state = found :=
      state?_eq_ok.mp hfound
    cases found with
    | none =>
      cases hrest
      exact .lost hkey hentry
    | some s =>
      cases hmatch : s.firstMatch? line with
      | none =>
        simp only [hmatch] at hrest
        cases hrest
        exact .passed hentry hmatch
      | some taken =>
        obtain ⟨r, groups⟩ := taken
        -- The rule is taken on the sheet alone, and its transition then reads the old state.
        rw [look_of_match o hentry hmatch] at h
        obtain ⟨e, he, hd⟩ := bind_eq_ok.mp h
        obtain ⟨hsourced, sheet, hsheet, rfl⟩ := take_eq_ok.mp he
        rw [pure_eq_ok, follow_note] at hd
        cases hnext : nextState? r.transition c.state with
        | some next =>
          rw [hnext] at hd
          exact hd ▸ .moved hentry hmatch hsourced hsheet hnext
        | none =>
          rw [hnext] at hd
          exact hd ▸ .ended hentry hmatch hsourced hsheet hnext
  · intro h
    cases h with
    | lost hkey hentry =>
      rw [look, state?_eq_ok.mpr ⟨hkey, hentry⟩]
      rfl
    | passed hentry hmatch =>
      rw [look, state?_eq_ok.mpr ⟨isSome_key?_of_stateAt? hentry, hentry⟩, ok_bind]
      simp only [hmatch]
      rfl
    | moved hentry hmatch hsourced hsheet hnext =>
      rw [look_of_changes hentry hmatch hsourced hsheet, follow_note, hnext]
    | ended hentry hmatch hsourced hsheet hnext =>
      rw [look_of_changes hentry hmatch hsourced hsheet, follow_note, hnext]

/-! ## Steps -/

theorem step_of_running {m : Machine} {o : Options} {c : Config} (h : c.status = .running)
    (line : String) : m.step o c line = m.look o c line := by
  rw [step, h]

theorem step_of_ended {m : Machine} {o : Options} {c : Config} (h : c.status = .ended)
    (line : String) : m.step o c line = .ok { c with lines := c.lines + 1 } := by
  rw [step, h]

theorem step_of_lost {m : Machine} {o : Options} {c : Config} (h : c.status = .lost)
    (line : String) : m.step o c line = .ok c := by
  rw [step, h]

/-! ## Runs -/

theorem resume_cons_eq_ok {m : Machine} {o : Options} {c d : Config} {line : String}
    {lines : List String} :
    m.resume o c (line :: lines) = .ok d ↔
      ∃ e, m.step o c line = .ok e ∧ m.resume o e lines = .ok d := by
  rw [resume_cons, bind_eq_ok]

/-- A run that a transition has ended only counts the lines that follow. -/
theorem resume_of_ended {m : Machine} {o : Options} {c : Config} (h : c.status = .ended)
    (lines : List String) :
    m.resume o c lines = .ok { c with lines := c.lines + lines.length } := by
  induction lines generalizing c with
  | nil => rfl
  | cons line lines ih =>
    rw [resume_cons, step_of_ended h, ok_bind, ih (by exact h), List.length_cons]
    simp only [Nat.add_assoc, Nat.add_comm 1]

/-- A run that came to a state that does not exist stays as it is. -/
theorem resume_of_lost {m : Machine} {o : Options} {c : Config} (h : c.status = .lost)
    (lines : List String) : m.resume o c lines = .ok c := by
  induction lines with
  | nil => rfl
  | cons line lines ih => rw [resume_cons, step_of_lost h, ok_bind, ih]

/-- What holds where a run stands and is kept by every step holds where the run comes to. The
property may speak of the lines that the run has gone over. -/
theorem resume_invariant {m : Machine} {o : Options} (past : List String)
    (P : List String → Config → Prop)
    (hstep : ∀ {past c line d}, P past c → m.step o c line = .ok d → P (past ++ [line]) d)
    {c d : Config} {lines : List String} (hc : P past c) (h : m.resume o c lines = .ok d) :
    P (past ++ lines) d := by
  induction lines generalizing past c with
  | nil =>
    cases h
    rwa [List.append_nil]
  | cons line lines ih =>
    obtain ⟨e, he, hrest⟩ := resume_cons_eq_ok.mp h
    rw [← List.singleton_append, ← List.append_assoc]
    exact ih _ (hstep hc he) hrest

end LineMachine.Machine
