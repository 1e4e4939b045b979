import LineMachine.Proofs.Run.Step

/-!
# The history of a run

Which rules a run takes, and what their groups capture, depends on the states and the lines alone:
neither the options nor the variables have a say in it. `taken` follows the states over the lines
and lists the rules that are taken, each with the groups of its match; the *history* of a run is
the list of their changes, one after the other.

The sheet that a run comes to is the sheet that it started with after all changes of its history
(`resume_sheet`). Questions about variables and records are thereby questions about lists of
changes, without states, lines or patterns.
-/

namespace LineMachine.Machine

/-! ## Rules taken -/

/-- The rules that a run takes from a state over lines, each with the groups of its match. -/
def taken (m : Machine) (state : Value) : List String → List (Rule × Groups)
  | [] => []
  | line :: lines =>
    match m.stateAt? state with
    | none => []
    | some s =>
      match s.firstMatch? line with
      | none => taken m state lines
      | some (r, groups) =>
        (r, groups) ::
          match nextState? r.transition state with
          | none => []
          | some next => taken m next lines

theorem taken_of_unknown {m : Machine} {state : Value} (h : m.stateAt? state = none) (line : String)
    (lines : List String) : m.taken state (line :: lines) = [] := by
  rw [taken, h]

theorem taken_of_unmatched {m : Machine} {state : Value} {s : State} {line : String}
    (hentry : m.stateAt? state = some s) (hmatch : s.firstMatch? line = none)
    (lines : List String) : m.taken state (line :: lines) = m.taken state lines := by
  rw [taken, hentry]
  simp only [hmatch]

theorem taken_of_moved {m : Machine} {state next : Value} {s : State} {line : String} {r : Rule}
    {groups : Groups} (hentry : m.stateAt? state = some s)
    (hmatch : s.firstMatch? line = some (r, groups))
    (hnext : nextState? r.transition state = some next) (lines : List String) :
    m.taken state (line :: lines) = (r, groups) :: m.taken next lines := by
  rw [taken, hentry]
  simp only [hmatch, hnext]

theorem taken_of_ended {m : Machine} {state : Value} {s : State} {line : String} {r : Rule}
    {groups : Groups} (hentry : m.stateAt? state = some s)
    (hmatch : s.firstMatch? line = some (r, groups))
    (hnext : nextState? r.transition state = none) (lines : List String) :
    m.taken state (line :: lines) = [(r, groups)] := by
  rw [taken, hentry]
  simp only [hmatch, hnext]

/-- The first rule that matches is a rule of the state, and its groups are those of its match. -/
theorem captures?_of_firstMatch? {s : State} {line : String} {r : Rule} {groups : Groups}
    (h : s.firstMatch? line = some (r, groups)) :
    r ∈ s.rules ∧ r.pattern.captures? line = some groups := by
  obtain ⟨r', hr', hmatch⟩ := List.exists_of_findSome?_eq_some h
  obtain ⟨groups', hgroups, heq⟩ := Option.map_eq_some_iff.mp hmatch
  cases heq
  exact ⟨hr', hgroups⟩

/-- Every rule that is taken is the first one of a state of the table that matches a line. -/
theorem exists_of_mem_taken {m : Machine} {state : Value} {lines : List String}
    {e : Rule × Groups} (h : e ∈ m.taken state lines) :
    ∃ name s line, m.stateAt? name = some s ∧ line ∈ lines ∧ s.firstMatch? line = some e := by
  induction lines generalizing state with
  | nil => cases h
  | cons line lines ih =>
    have later {next : Value} (hmem : e ∈ m.taken next lines) :
        ∃ name s l, m.stateAt? name = some s ∧ l ∈ line :: lines ∧ s.firstMatch? l = some e := by
      obtain ⟨name, s, l, hs, hl, hmatch⟩ := ih hmem
      exact ⟨name, s, l, hs, List.mem_cons_of_mem line hl, hmatch⟩
    cases hentry : m.stateAt? state with
    | none =>
      rw [taken_of_unknown hentry] at h
      cases h
    | some s =>
      cases hmatch : s.firstMatch? line with
      | none =>
        rw [taken_of_unmatched hentry hmatch] at h
        exact later h
      | some first =>
        cases hnext : nextState? first.1.transition state with
        | none =>
          rw [taken_of_ended hentry hmatch hnext] at h
          cases List.mem_singleton.mp h
          exact ⟨state, s, line, hentry, List.mem_cons_self, hmatch⟩
        | some next =>
          rw [taken_of_moved hentry hmatch hnext] at h
          rcases List.mem_cons.mp h with rfl | h
          · exact ⟨state, s, line, hentry, List.mem_cons_self, hmatch⟩
          · exact later h

/-! ## Histories -/

/-- The changes of rules that are taken one after the other. -/
def changesOf (rules : List (Rule × Groups)) : List Change :=
  rules.flatMap fun e ↦ e.1.changes e.2

@[simp] theorem changesOf_nil : changesOf [] = [] := rfl

theorem changesOf_cons (e : Rule × Groups) (rules : List (Rule × Groups)) :
    changesOf (e :: rules) = e.1.changes e.2 ++ changesOf rules := rfl

/-- All changes that a run of a machine over lines makes. -/
def history (m : Machine) (lines : List String) : List Change :=
  changesOf (m.taken m.start lines)

/-- **A run applies its history.** The sheet that a run comes to is the one that it started with
after the changes of all rules that it takes. -/
theorem resume_sheet {m : Machine} {o : Options} {c d : Config} {lines : List String}
    (hc : c.status = .running) (h : m.resume o c lines = .ok d) :
    c.sheet.applyAll m o (changesOf (m.taken c.state lines)) = .ok d.sheet := by
  -- As long as the run goes on, what is left of the history is that of the rest of the lines from
  -- the current state; once it is stopped nothing is left.
  induction lines generalizing c with
  | nil =>
    cases h
    rfl
  | cons line lines ih =>
    obtain ⟨e, he, hrest⟩ := resume_cons_eq_ok.mp h
    rw [step_of_running hc, look_eq_ok] at he
    cases he with
    | lost hkey hentry =>
      cases (resume_of_lost (by rfl) lines).symm.trans hrest
      rw [taken_of_unknown hentry]
      rfl
    | passed hentry hmatch =>
      have hlater := ih (by exact hc) hrest
      rw [taken_of_unmatched hentry hmatch]
      exact hlater
    | moved hentry hmatch hsourced hsheet hnext =>
      rw [taken_of_moved hentry hmatch hnext, changesOf_cons, Sheet.applyAll_append, hsheet,
        ok_bind]
      exact ih (by exact hc) hrest
    | ended hentry hmatch hsourced hsheet hnext =>
      cases (resume_of_ended (by rfl) lines).symm.trans hrest
      rw [taken_of_ended hentry hmatch hnext, changesOf_cons, changesOf_nil, List.append_nil]
      exact hsheet

theorem run_sheet {m : Machine} {o : Options} {c : Config} {lines : List String}
    (h : m.run o lines = .ok c) : Sheet.applyAll m o {} (m.history lines) = .ok c.sheet :=
  resume_sheet (c := m.begin) rfl h

end LineMachine.Machine
