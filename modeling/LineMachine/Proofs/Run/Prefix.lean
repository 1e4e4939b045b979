import LineMachine.Proofs.Engine
import LineMachine.Proofs.Lines
import LineMachine.Proofs.Run.Step

/-!
# Runs over a text in two parts

A run over a terminated text with more text behind it is the run over the first part, gone on with
over the lines of the second. Where the first part already stopped the run, the second part adds
at most to the number of lines; where it did not, the run takes up the state, the variables, the
records, the counters and the trace that the first part left (`parse_append`).

In every case the records and the trace of the first part stay in front of what comes later. This
is a property of a single step (`records_prefix_step`, `trace_prefix_step`), so it needs no look at
how the run was stopped.
-/

namespace LineMachine.Machine

/-! ## What later lines cannot change -/

/-- A line adds records only behind those that are there. -/
theorem records_prefix_step {m : Machine} {o : Options} {c d : Config} {line : String}
    (h : m.step o c line = .ok d) : c.records <+: d.records := by
  cases hstatus : c.status with
  | ended =>
    rw [step_of_ended hstatus] at h
    cases h
    exact List.prefix_refl _
  | lost =>
    rw [step_of_lost hstatus] at h
    cases h
    exact List.prefix_refl _
  | running =>
    rw [step_of_running hstatus, look_eq_ok] at h
    cases h with
    | lost hkey hentry => exact List.prefix_refl _
    | passed hentry hmatch => exact List.prefix_refl _
    | moved hentry hmatch hsourced hsheet hnext => exact Sheet.records_prefix_applyAll hsheet
    | ended hentry hmatch hsourced hsheet hnext => exact Sheet.records_prefix_applyAll hsheet

/-- A line adds an entry only behind those that are there. -/
theorem trace_prefix_step {m : Machine} {o : Options} {c d : Config} {line : String}
    (h : m.step o c line = .ok d) : c.trace <+: d.trace := by
  cases hstatus : c.status with
  | ended =>
    rw [step_of_ended hstatus] at h
    cases h
    exact List.prefix_refl _
  | lost =>
    rw [step_of_lost hstatus] at h
    cases h
    exact List.prefix_refl _
  | running =>
    rw [step_of_running hstatus, look_eq_ok] at h
    cases h <;> exact List.prefix_append _ _

theorem records_prefix_resume {m : Machine} {o : Options} {c d : Config} {lines : List String}
    (h : m.resume o c lines = .ok d) : c.records <+: d.records :=
  resume_invariant [] (fun _ e ↦ c.records <+: e.records)
    (fun he hstep ↦ he.trans (records_prefix_step hstep)) (List.prefix_refl _) h

theorem trace_prefix_resume {m : Machine} {o : Options} {c d : Config} {lines : List String}
    (h : m.resume o c lines = .ok d) : c.trace <+: d.trace :=
  resume_invariant [] (fun _ e ↦ c.trace <+: e.trace)
    (fun he hstep ↦ he.trans (trace_prefix_step hstep)) (List.prefix_refl _) h

/-! ## Counting lines -/

/-- One more line counts, unless the run came to a state that does not exist. -/
theorem lines_step {m : Machine} {o : Options} {c d : Config} {line : String}
    (h : m.step o c line = .ok d) (hd : d.status ≠ .lost) :
    c.status ≠ .lost ∧ d.lines = c.lines + 1 := by
  cases hstatus : c.status with
  | ended =>
    rw [step_of_ended hstatus] at h
    cases h
    exact ⟨Status.noConfusion, rfl⟩
  | lost =>
    rw [step_of_lost hstatus] at h
    cases h
    exact absurd hstatus hd
  | running =>
    rw [step_of_running hstatus, look_eq_ok] at h
    refine ⟨Status.noConfusion, ?_⟩
    cases h <;> rfl

/-- A run that came to no state that does not exist counts all lines that it was given. -/
theorem lines_run {m : Machine} {o : Options} {lines : List String} {c : Config}
    (h : m.run o lines = .ok c) (hc : c.status ≠ .lost) : c.lines = lines.length := by
  -- A lost run stops counting, so the count is claimed only where the run is not lost.
  have hcount := resume_invariant (m := m) (o := o) []
    (fun past d ↦ d.status ≠ .lost → d.lines = past.length)
    (fun {past c line d} hpast hstep hd ↦ by
      obtain ⟨hc, hlines⟩ := lines_step hstep hd
      rw [hlines, hpast hc, List.length_append, List.length_singleton])
    (fun _ ↦ rfl) h
  exact hcount hc

end LineMachine.Machine

namespace LineMachine.Engine

/-! ## Texts in two parts -/

/-- A run over a terminated text with another one behind it is the run over the lines of the first,
gone on with over the lines of the second. -/
theorem parse_append_result {cache : Cache} {t : Template} {stored : Stored}
    (hcompile : (compile cache t).result = .ok stored) (o : Options) {first : String}
    (hfirst : Text.Terminated first) (second : String) :
    (parse cache (.str (first ++ second)) t o).result =
      (stored.machine.run o (Text.splitLines first) >>= fun c ↦
        stored.machine.resume o c (Text.splitLines second)).map (ParseResult.ofConfig t o) := by
  rw [parse_result hcompile, Text.splitLines_append hfirst, Machine.run, Machine.resume_append]
  rfl

/-- Where the run over the first text comes to decides what the second one adds. -/
theorem parse_append_of_run {cache : Cache} {t : Template} {stored : Stored}
    (hcompile : (compile cache t).result = .ok stored) {o : Options} {first : String}
    (hfirst : Text.Terminated first) {c : Machine.Config}
    (hrun : stored.machine.run o (Text.splitLines first) = .ok c) (second : String) :
    (parse cache (.str (first ++ second)) t o).result =
      (stored.machine.resume o c (Text.splitLines second)).map (ParseResult.ofConfig t o) := by
  rw [parse_append_result hcompile o hfirst, hrun, ok_bind]

/-- What follows on a run that a transition ended adds to the number of lines alone. -/
theorem ofConfig_of_ended {m : Machine} {t : Template} {o : Options} {first second : List String}
    {c : Machine.Config} (hrun : m.run o first = .ok c) (hstatus : c.status = .ended) :
    (m.resume o c second).map (ParseResult.ofConfig t o) =
      .ok { ParseResult.ofConfig t o c with linesProcessed := (first ++ second).length } := by
  have hlines : c.lines = first.length := Machine.lines_run hrun (by rw [hstatus]; decide)
  rw [Machine.resume_of_ended hstatus, List.length_append, ← hlines]
  rfl

/-- Where a shorter and a longer run both have results, those of the longer one begin with those
of the shorter one. -/
theorem ofConfig_prefix {m : Machine} {t : Template} {o : Options} {lines : List String}
    {c d : Machine.Config} (h : m.resume o c lines = .ok d) :
    (ParseResult.ofConfig t o c).records <+: (ParseResult.ofConfig t o d).records ∧
      ∀ entries, (ParseResult.ofConfig t o c).trace = some entries →
        ∃ more, (ParseResult.ofConfig t o d).trace = some (entries ++ more) := by
  refine ⟨Machine.records_prefix_resume h, ?_⟩
  intro entries hentries
  obtain ⟨more, hmore⟩ := Machine.trace_prefix_resume h
  rw [ParseResult.ofConfig] at hentries ⊢
  by_cases hdebug : o.debug = true
  · rw [if_pos hdebug] at hentries ⊢
    cases hentries
    exact ⟨more, congrArg some hmore.symm⟩
  · rw [if_neg hdebug] at hentries
    cases hentries

/-- **Running is compositional.** Let a text be empty or end in a line feed. A run over it that
fails makes every longer run fail in the same way. A run over it that a transition ended, or that
came to a state that does not exist, decides every longer run: only the number of lines grows, and
only in the first case. A run over it that goes on is gone on with over the lines that follow. In
each case records and trace of the shorter run come first in those of the longer one. -/
theorem parse_append {cache : Cache} {t : Template} {stored : Stored}
    (hcompile : (compile cache t).result = .ok stored) (o : Options) {first : String}
    (hfirst : Text.Terminated first) (second : String) :
    (∀ fault, (parse cache (.str first) t o).result = .error fault →
      (parse cache (.str (first ++ second)) t o).result = .error fault) ∧
    (∀ c, stored.machine.run o (Text.splitLines first) = .ok c →
      (parse cache (.str first) t o).result = .ok (.ofConfig t o c) ∧
      (c.status = .ended → (parse cache (.str (first ++ second)) t o).result =
        .ok { ParseResult.ofConfig t o c with
          linesProcessed := (Text.splitLines (first ++ second)).length }) ∧
      (c.status = .lost →
        (parse cache (.str (first ++ second)) t o).result = .ok (.ofConfig t o c)) ∧
      (c.status = .running → (parse cache (.str (first ++ second)) t o).result =
        (stored.machine.resume o c (Text.splitLines second)).map (ParseResult.ofConfig t o))) ∧
    ∀ r s, (parse cache (.str first) t o).result = .ok r →
      (parse cache (.str (first ++ second)) t o).result = .ok s →
      r.records <+: s.records ∧
        ∀ entries, r.trace = some entries → ∃ more, s.trace = some (entries ++ more) := by
  refine ⟨?_, ?_, ?_⟩
  · intro fault hfault
    rw [parse_append_result hcompile o hfirst]
    rw [parse_result hcompile] at hfault
    cases hrun : stored.machine.run o (Text.splitLines first) with
    | error e =>
      rw [hrun] at hfault
      cases hfault
      rfl
    | ok c =>
      rw [hrun] at hfault
      cases hfault
  · intro c hrun
    have hlonger := parse_append_of_run hcompile hfirst hrun second
    refine ⟨?_, ?_, ?_, fun _ ↦ hlonger⟩
    · rw [parse_result hcompile, hrun]
      rfl
    · intro hstatus
      rw [hlonger, ofConfig_of_ended hrun hstatus, Text.splitLines_append hfirst]
    · intro hstatus
      rw [hlonger, Machine.resume_of_lost hstatus]
      rfl
  · intro r s hr hs
    -- The longer run is the shorter one gone on with, so it has what that one made in front.
    rw [parse_result hcompile] at hr
    cases hrun : stored.machine.run o (Text.splitLines first) with
    | error e =>
      rw [hrun] at hr
      cases hr
    | ok c =>
      rw [hrun] at hr
      cases hr
      rw [parse_append_of_run hcompile hfirst hrun] at hs
      cases hresume : stored.machine.resume o c (Text.splitLines second) with
      | error e =>
        rw [hresume] at hs
        cases hs
      | ok d =>
        rw [hresume] at hs
        cases hs
        exact ofConfig_prefix hresume

/-- The records of a shorter list of ports come first in those of a longer one. -/
theorem parse_append_ports :
    ∃ r s, (parse Cache.empty (.str "ports\np1\n") ports {}).result = .ok r ∧
      (parse Cache.empty (.str ("ports\np1\n" ++ "p2\nend\n")) ports {}).result = .ok s ∧
      r.records <+: s.records := by
  obtain ⟨stored, hcompile⟩ : ∃ stored, (compile Cache.empty ports).result = .ok stored :=
    ⟨_, rfl⟩
  obtain ⟨r, hr⟩ : ∃ r, (parse Cache.empty (.str "ports\np1\n") ports {}).result = .ok r :=
    ⟨_, rfl⟩
  obtain ⟨s, hs⟩ : ∃ s,
      (parse Cache.empty (.str ("ports\np1\n" ++ "p2\nend\n")) ports {}).result = .ok s :=
    ⟨_, rfl⟩
  have hfirst : Text.Terminated "ports\np1\n" := .inr ⟨"ports\np1", rfl⟩
  exact ⟨r, s, hr, hs, ((parse_append hcompile {} hfirst "p2\nend\n").2.2 r s hr hs).1⟩

end LineMachine.Engine
