import LineMachine.Proofs.Run.History
import LineMachine.Proofs.Run.Trace

/-!
# What a trace tells

An entry names a rule by the number of its place, and the line is there to be searched again, so
the groups that a rule was taken with can be found out from the entry (`takenAt?`). The trace of a
run therefore tells which changes the run has made, and with them the variables and the records
that it came to (`sheet_of_trace`).

An account also tells which lines were looked at: where an entry is in a state of the table and its
rule does not end the run, the next line, if any, has the next entry (`Accounted.exists_next`).
-/

namespace LineMachine.Machine

/-! ## The rules that were taken -/

/-- The rule that an entry says was taken, with the groups of its match. -/
def takenAt? (m : Machine) (e : TraceEntry) : Option (Rule × Groups) :=
  (m.ruleOf? e).bind fun r ↦ (r.pattern.captures? e.line).map (r, ·)

theorem takenAt?_of_unmatched (m : Machine) (number : Nat) (line : String) (state : Value) :
    m.takenAt? ⟨number, line, state, none⟩ = none := rfl

theorem takenAt?_eq_some {m : Machine} {e : TraceEntry} {r : Rule} {groups : Groups} :
    m.takenAt? e = some (r, groups) ↔
      m.ruleOf? e = some r ∧ r.pattern.captures? e.line = some groups := by
  rw [takenAt?, Option.bind_eq_some_iff]
  constructor
  · rintro ⟨r', hrule, h⟩
    obtain ⟨groups', hcaptures, hpair⟩ := Option.map_eq_some_iff.mp h
    cases hpair
    exact ⟨hrule, hcaptures⟩
  · rintro ⟨hrule, hcaptures⟩
    exact ⟨r, hrule, Option.map_eq_some_iff.mpr ⟨groups, hcaptures, rfl⟩⟩

/-- The entry of a line that a rule matches tells that rule with its groups. -/
theorem takenAt?_of_firstMatch? {m : Machine} (horderly : Orderly m) {state : Value} {s : State}
    {line : String} {r : Rule} {groups : Groups} (hentry : m.stateAt? state = some s)
    (hmatch : s.firstMatch? line = some (r, groups)) (number : Nat) :
    m.takenAt? ⟨number, line, s.name, some r.index⟩ = some (r, groups) := by
  obtain ⟨-, hplace⟩ := findIdx?_of_match hmatch fun n r ↦ horderly.index hentry
  have hrule : m.ruleOf? ⟨number, line, s.name, some r.index⟩ = some r := by
    rw [ruleOf?, Option.bind_some, horderly.name hentry, rulesIn_of_stateAt? hentry, hplace]
  exact takenAt?_eq_some.mpr ⟨hrule, (captures?_of_firstMatch? hmatch).2⟩

/-- The changes that some entries tell of. -/
def changesAt (m : Machine) (entries : List TraceEntry) : List Change :=
  changesOf (entries.filterMap m.takenAt?)

theorem changesAt_concat_none {m : Machine} {e : TraceEntry} (h : m.takenAt? e = none)
    (entries : List TraceEntry) : m.changesAt (entries ++ [e]) = m.changesAt entries := by
  rw [changesAt, List.filterMap_append, List.filterMap_cons_none h, List.filterMap_nil,
    List.append_nil]
  rfl

theorem changesAt_concat_some {m : Machine} {e : TraceEntry} {r : Rule} {groups : Groups}
    (h : m.takenAt? e = some (r, groups)) (entries : List TraceEntry) :
    m.changesAt (entries ++ [e]) = m.changesAt entries ++ r.changes groups := by
  rw [changesAt, List.filterMap_append, List.filterMap_cons_some h, List.filterMap_nil, changesOf,
    List.flatMap_append, List.flatMap_singleton]
  rfl

/-- Holds of a configuration whose sheet is what the changes told by its trace make. -/
def Told (m : Machine) (o : Options) (c : Config) : Prop :=
  Sheet.applyAll m o {} (m.changesAt c.trace) = .ok c.sheet

/-- An entry that tells of a rule tells of the sheet that the rule leaves. -/
theorem Told.applyAll_concat {m : Machine} {o : Options} {c : Config} (hc : m.Told o c)
    {e : TraceEntry} {r : Rule} {groups : Groups} (htaken : m.takenAt? e = some (r, groups))
    {sheet : Sheet} (hsheet : c.sheet.applyAll m o (r.changes groups) = .ok sheet) :
    Sheet.applyAll m o {} (m.changesAt (c.trace ++ [e])) = .ok sheet := by
  have hbefore : Sheet.applyAll m o {} (m.changesAt c.trace) = .ok c.sheet := hc
  rw [changesAt_concat_some htaken, Sheet.applyAll_append, hbefore, ok_bind, hsheet]

theorem told_look {m : Machine} {o : Options} (horderly : Orderly m) {c d : Config} {line : String}
    (hc : m.Told o c) (h : Looked m o c line d) : m.Told o d := by
  cases h with
  | lost hkey hentry =>
    rw [Told, Config.seen, changesAt_concat_none (takenAt?_of_unmatched ..)]
    exact hc
  | passed hentry hmatch =>
    rw [Told, Config.seen, changesAt_concat_none (takenAt?_of_unmatched ..)]
    exact hc
  | moved hentry hmatch hsourced hsheet hnext =>
    exact hc.applyAll_concat (takenAt?_of_firstMatch? horderly hentry hmatch _) hsheet
  | ended hentry hmatch hsourced hsheet hnext =>
    exact hc.applyAll_concat (takenAt?_of_firstMatch? horderly hentry hmatch _) hsheet

theorem told_step {m : Machine} {o : Options} (horderly : Orderly m) {c d : Config} {line : String}
    (hc : m.Told o c) (h : m.step o c line = .ok d) : m.Told o d := by
  rcases hstatus : c.status with - | - | -
  · rw [step_of_running hstatus, look_eq_ok] at h
    exact told_look horderly hc h
  · rw [step_of_ended hstatus] at h
    cases h
    exact hc
  · rw [step_of_lost hstatus] at h
    cases h
    exact hc

/-- **A trace tells the sheet.** The variables and the records that a run comes to are what the
rules make that its trace names. -/
theorem sheet_of_trace {m : Machine} {o : Options} (horderly : Orderly m) {lines : List String}
    {c : Config} (h : m.run o lines = .ok c) :
    Sheet.applyAll m o {} (m.changesAt c.trace) = .ok c.sheet :=
  resume_invariant [] (fun _ c ↦ m.Told o c) (fun hc hd ↦ told_step horderly hc hd)
    (c := m.begin) rfl h

/-! ## The lines that were looked at -/

/-- The last entry is the one with no other behind it. -/
theorem getLast?_of_getElem? {entries : List TraceEntry} {i : Nat} {e : TraceEntry}
    (he : entries[i]? = some e) (hnone : entries[i + 1]? = none) :
    entries.length = i + 1 ∧ entries.getLast? = some e := by
  obtain ⟨hi, -⟩ := List.getElem?_eq_some_iff.mp he
  have hlength : entries.length = i + 1 := by
    have := List.getElem?_eq_none_iff.mp hnone
    omega
  refine ⟨hlength, ?_⟩
  rw [List.getLast?_eq_getElem?, hlength, Nat.add_sub_cancel, he]

namespace Account

variable {m : Machine} {lines : List String} {entries : List TraceEntry}

/-- An entry with a rule tells it with the groups of its match. -/
theorem exists_takenAt? (h : m.Account lines entries) {e : TraceEntry} (he : e ∈ entries) {k : Nat}
    (hk : e.matched = some k) : ∃ r groups, m.takenAt? e = some (r, groups) := by
  have hfirst := h.rule e he
  rw [hk] at hfirst
  obtain ⟨hlt, hfinds, -⟩ := List.findIdx?_eq_some_iff_getElem.mp hfirst.symm
  obtain ⟨groups, hcaptures⟩ := Option.isSome_iff_exists.mp hfinds
  have hrule : m.ruleOf? e = some (m.rulesIn e.state)[k] := by
    rw [ruleOf?, hk, Option.bind_some, List.getElem?_eq_getElem hlt]
  exact ⟨_, groups, takenAt?_eq_some.mpr ⟨hrule, hcaptures⟩⟩

/-- No line is looked at behind an entry whose rule ends the run. -/
theorem getElem?_of_ended (h : m.Account lines entries) {i : Nat} {e : TraceEntry}
    (he : entries[i]? = some e) (hend : m.successor? e = none) : entries[i + 1]? = none := by
  rcases hnext : entries[i + 1]? with - | f
  · rfl
  · obtain ⟨-, hsuccessor⟩ := h.next i e f he hnext
    rw [hend] at hsuccessor
    cases hsuccessor

/-- No line is looked at behind an entry in a state that is not in the table. -/
theorem getElem?_of_unknown (h : m.Account lines entries) {i : Nat} {e : TraceEntry}
    (he : entries[i]? = some e) (hunknown : m.stateAt? e.state = none) :
    entries[i + 1]? = none := by
  rcases hnext : entries[i + 1]? with - | f
  · rfl
  · obtain ⟨hknown, -⟩ := h.next i e f he hnext
    rw [hunknown] at hknown
    cases hknown

end Account

namespace Accounted

variable {m : Machine} {lines : List String} {c : Config}

/-- The first line, if any, is looked at in the state in which runs start. -/
theorem exists_first (h : m.Accounted lines c) {line : String} (hline : lines[0]? = some line) :
    ∃ f, c.trace[0]? = some f ∧ f.line = line ∧ f.state = m.start := by
  rcases hfirst : c.trace[0]? with - | f
  · -- A trace without entries gives no reason why there are fewer entries than lines.
    have hnil : c.trace = [] := by
      rcases htrace : c.trace with - | ⟨e, rest⟩
      · rfl
      · rw [htrace] at hfirst
        cases hfirst
    have hshort : c.trace.length < lines.length := by
      rw [hnil]
      exact (List.getElem?_eq_some_iff.mp hline).1
    rcases h.standing.ended_or_strayed hshort with ⟨e, he, -⟩ | ⟨e, he, -⟩ <;>
    · rw [hnil] at he
      cases he
  · have hsame := (h.account.line 0 f hfirst).2
    rw [hline] at hsame
    exact ⟨f, rfl, (Option.some.inj hsame).symm, h.account.start f hfirst⟩

/-- Behind an entry in a state of the table whose rule does not end the run, the next line, if any,
is looked at in the state that the rule leads to. -/
theorem exists_next (h : m.Accounted lines c) {i : Nat} {e : TraceEntry}
    (he : c.trace[i]? = some e) (hknown : (m.stateAt? e.state).isSome = true) {state : Value}
    (hsuccessor : m.successor? e = some state) {line : String}
    (hline : lines[i + 1]? = some line) :
    ∃ f, c.trace[i + 1]? = some f ∧ f.line = line ∧ f.state = state := by
  rcases hnext : c.trace[i + 1]? with - | f
  · obtain ⟨hlength, hlast⟩ := getLast?_of_getElem? he hnext
    have hshort : c.trace.length < lines.length := by
      rw [hlength]
      exact (List.getElem?_eq_some_iff.mp hline).1
    rcases h.standing.ended_or_strayed hshort with ⟨l, hl, hend⟩ | ⟨l, hl, hunknown⟩
    · cases hlast.symm.trans hl
      rw [hsuccessor] at hend
      cases hend
    · cases hlast.symm.trans hl
      rw [hunknown] at hknown
      cases hknown
  · have hsame := (h.account.line (i + 1) f hnext).2
    rw [hline] at hsame
    obtain ⟨-, hstate⟩ := h.account.next i e f he hnext
    rw [hsuccessor] at hstate
    exact ⟨f, rfl, (Option.some.inj hsame).symm, (Option.some.inj hstate).symm⟩

end Accounted

end LineMachine.Machine
