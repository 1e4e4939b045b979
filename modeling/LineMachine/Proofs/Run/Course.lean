import LineMachine.Proofs.Engine
import LineMachine.Proofs.Machine
import LineMachine.Proofs.Run.History

/-!
# The course of a run

What a run goes through apart from its variables and its records is its *course*: the states, the
counters, the trace, and how it was stopped. The course depends on the machine and the lines alone.
Another run over the same lines, with other options and from another sheet, takes the same course
as far as its changes can be applied (`resume_eq_applyAll`); so two runs that both come to an end
differ in their sheets at most (`eq_withSheet_of_run`), and their results have the same trace and
the same counts (`ParseResult.SameCourse`).

The rules that a run takes are rules of the template (`exists_source_of_mem_taken`).
-/

namespace LineMachine

/-- Holds of results that differ at most in what their records hold. -/
structure ParseResult.SameCourse (r s : ParseResult) : Prop where
  /-- The accounts of the lines are the same. -/
  trace : r.trace = s.trace
  /-- As many lines count as processed. -/
  linesProcessed : r.linesProcessed = s.linesProcessed
  /-- As many lines were matched. -/
  matched : r.matched = s.matched
  /-- Both came to the same state that does not exist, or neither came to one. -/
  unknownState : r.unknownState = s.unknownState
  /-- There are as many records. -/
  count : r.records.length = s.records.length

namespace Machine

/-! ## Another run over the same lines -/

/-- **The course of a run is decided by the lines.** Where a run comes to an end, a run over the
same lines from another sheet and with other options takes the same course, for as long as its
changes can be applied: it comes to the same end, or stops with the fault of its changes. -/
theorem resume_eq_applyAll {m : Machine} {o : Options} {c d : Config} {lines : List String}
    (hc : c.status = .running) (h : m.resume o c lines = .ok d) (o' : Options) (s : Sheet) :
    m.resume o' (c.withSheet s) lines =
      (s.applyAll m o' (changesOf (m.taken c.state lines))).map d.withSheet := by
  -- Both runs take the same rules, so at each line the other one looks in the same way.
  induction lines generalizing c s with
  | nil =>
    cases h
    rfl
  | cons line lines ih =>
    obtain ⟨e, he, hrest⟩ := resume_cons_eq_ok.mp h
    rw [step_of_running hc, look_eq_ok] at he
    rw [resume_cons, step_of_running (by exact hc)]
    cases he with
    | lost hkey hentry =>
      cases (resume_of_lost (by rfl) lines).symm.trans hrest
      rw [taken_of_unknown hentry, (look_eq_ok (c := c.withSheet s)).mpr (.lost hkey hentry),
        ok_bind]
      exact resume_of_lost rfl lines
    | passed hentry hmatch =>
      rw [taken_of_unmatched hentry hmatch,
        (look_eq_ok (c := c.withSheet s)).mpr (.passed hentry hmatch), ok_bind]
      exact ih (by exact hc) hrest s
    | moved hentry hmatch hsourced hsheet hnext =>
      rw [taken_of_moved hentry hmatch hnext, changesOf_cons, Sheet.applyAll_append]
      rcases hu : s.applyAll m o' _ with fault | u
      · rw [look_of_changes_error (c := c.withSheet s) hentry hmatch hsourced hu]
        rfl
      · rw [(look_eq_ok (c := c.withSheet s)).mpr (.moved hentry hmatch hsourced hu hnext),
          ok_bind, ok_bind]
        exact ih (by exact hc) hrest u
    | ended hentry hmatch hsourced hsheet hnext =>
      cases (resume_of_ended (by rfl) lines).symm.trans hrest
      rw [taken_of_ended hentry hmatch hnext, changesOf_cons, changesOf_nil, List.append_nil]
      rcases hu : s.applyAll m o' _ with fault | u
      · rw [look_of_changes_error (c := c.withSheet s) hentry hmatch hsourced hu]
        rfl
      · rw [(look_eq_ok (c := c.withSheet s)).mpr (.ended hentry hmatch hsourced hu hnext),
          ok_bind]
        exact resume_of_ended rfl lines

/-- Where a run comes to an end, the run under other options does what its changes do. -/
theorem run_eq_applyAll {m : Machine} {o : Options} {c : Config} {lines : List String}
    (h : m.run o lines = .ok c) (o' : Options) :
    m.run o' lines = (Sheet.applyAll m o' {} (m.history lines)).map c.withSheet :=
  resume_eq_applyAll (c := m.begin) rfl h o' {}

/-- Where a run comes to an end and its history can be applied under other options, the run under
these comes to an end as well, by the same course. -/
theorem run_withSheet {m : Machine} {o o' : Options} {c : Config} {lines : List String}
    (h : m.run o lines = .ok c) {t : Sheet}
    (ht : Sheet.applyAll m o' {} (m.history lines) = .ok t) :
    m.run o' lines = .ok (c.withSheet t) := by
  rw [run_eq_applyAll h, ht]
  rfl

/-- Two runs over the same lines differ at most in their sheets. -/
theorem eq_withSheet_of_run {m : Machine} {o o' : Options} {c d : Config} {lines : List String}
    (hc : m.run o lines = .ok c) (hd : m.run o' lines = .ok d) : d = c.withSheet d.sheet :=
  Except.ok.inj (hd.symm.trans (run_withSheet hc (run_sheet hd)))

/-! ## Results of two runs -/

/-- The results of two runs over the same lines have the same course, if both or neither keep an
account and they have as many records. -/
theorem sameCourse_of_run {m : Machine} {o o' : Options} {c d : Config} {lines : List String}
    (hc : m.run o lines = .ok c) (hd : m.run o' lines = .ok d) (t : Template)
    (hdebug : o.debug = o'.debug) (hcount : c.records.length = d.records.length) :
    (ParseResult.ofConfig t o c).SameCourse (ParseResult.ofConfig t o' d) := by
  -- Everything but the records is read off fields that the two configurations share.
  have hsame := eq_withSheet_of_run hc hd
  have hstatus : c.status = d.status := by rw [hsame]; rfl
  have hstate : c.state = d.state := by rw [hsame]; rfl
  have htrace : c.trace = d.trace := by rw [hsame]; rfl
  have hlines : c.lines = d.lines := by rw [hsame]; rfl
  have hmatched : c.matched = d.matched := by rw [hsame]; rfl
  constructor
  · rw [ParseResult.ofConfig, ParseResult.ofConfig, hdebug, htrace]
  · exact hlines
  · exact hmatched
  · rw [ParseResult.ofConfig, ParseResult.ofConfig, hstatus, hstate]
  · exact hcount

/-! ## The rules that are taken -/

/-- A rule that a run takes is a rule of the template with its pattern read. -/
theorem exists_source_of_mem_taken {t : Template} {m : Machine} (hm : ofTemplate t = .ok m)
    {state : Value} {lines : List String} {e : Rule × Groups} (he : e ∈ m.taken state lines) :
    ∃ s ∈ t.states, ∃ source ∈ s.rules,
      e.1.rename = source.rename ∧ e.1.actions = source.actions := by
  obtain ⟨name, s, line, hentry, -, hmatch⟩ := exists_of_mem_taken he
  obtain ⟨hrule, -⟩ := captures?_of_firstMatch? hmatch
  obtain ⟨k, -, hfind⟩ := Option.bind_eq_some_iff.mp hentry
  obtain ⟨parent, hparent, source, hsource, index, hbuilt⟩ :=
    exists_rule_of_find?_states (built_of_ofTemplate hm) hfind hrule
  obtain ⟨pattern, -, hread⟩ := rule_of_ofTemplate hbuilt
  refine ⟨parent, hparent, source, hsource, ?_⟩
  rw [hread]
  exact ⟨rfl, rfl⟩

end Machine

end LineMachine
