import LineMachine.Proofs.Run.Step

/-!
# The state that a run comes to

The state *in force* behind some lines is the one that the last transition to a state has led to,
or the state in which runs start. It stays in force where a transition ends the run, and where a
line is to be looked at in a state that is not in the table; no line behind that counts any more.

Which state is in force depends on the machine and the lines alone, and it is the state in which a
run stands that has gone over the lines (`state_of_run`).
-/

namespace LineMachine.Machine

/-- The state that is in force once lines were looked at, the first one of them in a given state. -/
def inForce (m : Machine) (state : Value) : List String → Value
  | [] => state
  | line :: lines =>
    match m.stateAt? state with
    | none => state
    | some s =>
      match s.firstMatch? line with
      | none => inForce m state lines
      | some (r, _) =>
        match nextState? r.transition state with
        | none => state
        | some next => inForce m next lines

/-- The state that is in force behind all lines. -/
def finalState (m : Machine) (lines : List String) : Value :=
  m.inForce m.start lines

section Equations

variable {m : Machine} {state : Value} {s : State} {line : String} {r : Rule} {groups : Groups}

theorem inForce_of_unknown (h : m.stateAt? state = none) (lines : List String) :
    m.inForce state (line :: lines) = state := by
  rw [inForce, h]

theorem inForce_of_unmatched (hentry : m.stateAt? state = some s)
    (hmatch : s.firstMatch? line = none) (lines : List String) :
    m.inForce state (line :: lines) = m.inForce state lines := by
  rw [inForce, hentry]
  simp only [hmatch]

theorem inForce_of_moved {next : Value} (hentry : m.stateAt? state = some s)
    (hmatch : s.firstMatch? line = some (r, groups))
    (hnext : nextState? r.transition state = some next) (lines : List String) :
    m.inForce state (line :: lines) = m.inForce next lines := by
  rw [inForce, hentry]
  simp only [hmatch, hnext]

theorem inForce_of_ended (hentry : m.stateAt? state = some s)
    (hmatch : s.firstMatch? line = some (r, groups))
    (hnext : nextState? r.transition state = none) (lines : List String) :
    m.inForce state (line :: lines) = state := by
  rw [inForce, hentry]
  simp only [hmatch, hnext]

end Equations

/-- A run goes on to the state that is in force behind the lines, seen from its own state. -/
theorem state_of_resume {m : Machine} {o : Options} {c d : Config} {lines : List String}
    (hc : c.status = .running) (h : m.resume o c lines = .ok d) :
    d.state = m.inForce c.state lines := by
  induction lines generalizing c with
  | nil =>
    cases h
    rfl
  | cons line lines ih =>
    obtain ⟨e, he, hrest⟩ := resume_cons_eq_ok.mp h
    rw [step_of_running hc, look_eq_ok] at he
    cases he with
    | lost hkey hentry =>
      cases (resume_of_lost (by rfl) lines).symm.trans hrest
      exact (inForce_of_unknown hentry lines).symm
    | passed hentry hmatch =>
      have hlater := ih (by exact hc) hrest
      rw [inForce_of_unmatched hentry hmatch]
      exact hlater
    | moved hentry hmatch hsourced hsheet hnext =>
      rw [inForce_of_moved hentry hmatch hnext]
      exact ih (by exact hc) hrest
    | ended hentry hmatch hsourced hsheet hnext =>
      cases (resume_of_ended (by rfl) lines).symm.trans hrest
      exact (inForce_of_ended hentry hmatch hnext lines).symm

/-- **A run comes to the state that is in force behind its lines.** -/
theorem state_of_run {m : Machine} {o : Options} {c : Config} {lines : List String}
    (h : m.run o lines = .ok c) : c.state = m.finalState lines :=
  state_of_resume (c := m.begin) rfl h

end LineMachine.Machine
