import LineMachine.Proofs.Engine
import LineMachine.Proofs.Machine
import LineMachine.Proofs.Run.Step

/-!
# The trace as an account of a run

A trace has one entry for each line that was looked at, in order, and each entry says in which
state that was and which rule was taken. `Account` lists what makes such a trace a faithful
account: every entry can be checked against the machine, its own line and the entry before it,
without running anything. The trace of a run is a faithful account of the lines that the run went
over, and the counters and the messages of its result can be read off the last entry and the number
of entries (`trace_account`).

The invariant behind this (`Accounted`) says in addition how a configuration is tied to its trace:
as long as the run goes on its state is the one in which the next line is due, and a run that was
stopped shows the reason in its last entry.
-/

namespace LineMachine.Machine

/-! ## Reading an entry -/

/-- Whether the pattern of a rule is found in a line. -/
def Rule.finds (line : String) (r : Rule) : Bool :=
  (r.pattern.captures? line).isSome

/-- The rules that are tried in a state. A state that is not in the table has none. -/
def rulesIn (m : Machine) (name : Value) : List Rule :=
  (m.stateAt? name).elim [] State.rules

/-- The rule that an entry says was taken. -/
def ruleOf? (m : Machine) (e : TraceEntry) : Option Rule :=
  e.matched.bind fun index ↦ (m.rulesIn e.state)[index]?

/-- The state that the line behind an entry is in; none if the transition of the rule that was
taken ends the run. -/
def successor? (m : Machine) (e : TraceEntry) : Option Value :=
  nextState? ((m.ruleOf? e).bind Rule.transition) e.state

/-- How many of some entries name a rule. -/
def matchCount (entries : List TraceEntry) : Nat :=
  entries.countP fun e ↦ e.matched.isSome

theorem matchCount_unmatched (entries : List TraceEntry) (number : Nat) (line : String)
    (state : Value) :
    matchCount (entries ++ [⟨number, line, state, none⟩]) = matchCount entries := by
  rw [matchCount, List.countP_append]
  rfl

theorem matchCount_matched (entries : List TraceEntry) (number : Nat) (line : String)
    (state : Value) (index : Nat) :
    matchCount (entries ++ [⟨number, line, state, some index⟩]) = matchCount entries + 1 := by
  rw [matchCount, List.countP_append]
  rfl

/-- Holds of entries that are a faithful account of how a machine goes over lines. -/
structure Account (m : Machine) (lines : List String) (entries : List TraceEntry) : Prop where
  /-- Entries stand for the lines in order and bear their numbers, counted from one. -/
  line : ∀ i e, entries[i]? = some e → e.lineNumber = i + 1 ∧ lines[i]? = some e.line
  /-- The first line is in the state in which runs start. -/
  start : ∀ e, entries[0]? = some e → e.state = m.start
  /-- The rule that is taken is the first one of the state that is found in the line. -/
  rule : ∀ e ∈ entries, e.matched = (m.rulesIn e.state).findIdx? (Rule.finds e.line)
  /-- Only an entry in a state of the table has another one behind it, and that one is in the
  state that the rule taken leads to. -/
  next : ∀ i e f, entries[i]? = some e → entries[i + 1]? = some f →
    (m.stateAt? e.state).isSome = true ∧ m.successor? e = some f.state

/-- The state that the line behind some entries is in: none if the last entry is in a state that is
not in the table, or if its transition ends the run. -/
def due? (m : Machine) (entries : List TraceEntry) : Option Value :=
  match entries.getLast? with
  | none => some m.start
  | some e => if (m.stateAt? e.state).isSome then m.successor? e else none

theorem due?_of_getLast? {m : Machine} {entries : List TraceEntry} {e : TraceEntry}
    (h : entries.getLast? = some e) :
    m.due? entries = if (m.stateAt? e.state).isSome then m.successor? e else none := by
  rw [due?, h]

theorem due?_concat {m : Machine} {e : TraceEntry} (h : (m.stateAt? e.state).isSome = true)
    (entries : List TraceEntry) : m.due? (entries ++ [e]) = m.successor? e := by
  rw [due?_of_getLast? List.getLast?_concat, if_pos h]

/-- At or behind the end of a list that an item was added to there is that item alone. -/
theorem eq_of_getElem?_concat {α : Type} {xs : List α} {x y : α} {i : Nat} (hi : xs.length ≤ i)
    (h : (xs ++ [x])[i]? = some y) : i = xs.length ∧ x = y := by
  rw [List.getElem?_append_right hi, List.getElem?_singleton] at h
  by_cases hzero : i - xs.length = 0
  · rw [if_pos hzero] at h
    exact ⟨by omega, Option.some.inj h⟩
  · rw [if_neg hzero] at h
    cases h

namespace Account

variable {m : Machine} {lines : List String} {entries : List TraceEntry}

theorem nil (m : Machine) (lines : List String) : Account m lines [] where
  line _ _ h := by cases h
  start _ h := by cases h
  rule _ h := by cases h
  next _ _ _ h := by cases h

/-- An account of some lines is one of those lines with more behind them. -/
theorem append (h : Account m lines entries) (more : List String) :
    Account m (lines ++ more) entries where
  line i e he := by
    obtain ⟨hnumber, hline⟩ := h.line i e he
    obtain ⟨hi, -⟩ := List.getElem?_eq_some_iff.mp hline
    exact ⟨hnumber, by rw [List.getElem?_append_left hi, hline]⟩
  start := h.start
  rule := h.rule
  next := h.next

/-- An account goes on with an entry for the next line, if that is in the state in which the line
is due and names the first rule that is found. -/
theorem concat (h : Account m lines entries) (hlength : entries.length = lines.length)
    (line : String) {state : Value} (hdue : m.due? entries = some state) (matched : Option Nat)
    (hmatched : matched = (m.rulesIn state).findIdx? (Rule.finds line)) :
    Account m (lines ++ [line])
      (entries ++ [⟨lines.length + 1, line, state, matched⟩]) where
  line i e he := by
    rcases Nat.lt_or_ge i entries.length with hi | hi
    · rw [List.getElem?_append_left hi] at he
      exact (h.append [line]).line i e he
    · obtain ⟨rfl, rfl⟩ := eq_of_getElem?_concat hi he
      rw [hlength]
      exact ⟨rfl, List.getElem?_concat_length⟩
  start e he := by
    cases entries with
    | nil =>
      cases he
      cases hdue
      rfl
    | cons first rest => exact h.start e he
  rule e he := by
    rcases List.mem_append.mp he with he | he
    · exact h.rule e he
    · cases List.mem_singleton.mp he
      exact hmatched
  next i e f he hf := by
    -- Only where the new entry is `f` is there something to show, and then `e` was the last one.
    rcases Nat.lt_or_ge (i + 1) entries.length with hi | hi
    · rw [List.getElem?_append_left hi] at hf
      rw [List.getElem?_append_left (by omega)] at he
      exact h.next i e f he hf
    · obtain ⟨hlast, rfl⟩ := eq_of_getElem?_concat hi hf
      rw [List.getElem?_append_left (by omega)] at he
      have hgetLast : entries.getLast? = some e := by
        rw [List.getLast?_eq_getElem?, ← hlast, Nat.add_sub_cancel, he]
      rwa [due?_of_getLast? hgetLast, Option.ite_none_right_eq_some] at hdue

end Account

/-! ## States by their names, rules by their numbers -/

/-- Holds of a machine whose states are found under their own names and have their rules numbered
by their places. -/
structure Orderly (m : Machine) : Prop where
  /-- A state is found under its own name alone. -/
  name {name : Value} {s : State} : m.stateAt? name = some s → s.name = name
  /-- A rule bears the number of its place. -/
  index {name : Value} {s : State} {n : Nat} {r : Rule} :
    m.stateAt? name = some s → s.rules[n]? = some r → r.index = n

/-- The machine of a template whose states are named by texts is orderly. -/
theorem orderly_of_built {t : Template} {m : Machine} (h : Built t m)
    (hnames : ∀ s ∈ t.states, ∃ text, s.name = .str text) : Orderly m where
  name {name s} hentry := by
    obtain ⟨k, hk, hfound⟩ := Option.bind_eq_some_iff.mp hentry
    obtain ⟨source, hsource, j, hj, hsame, hstate⟩ := exists_of_find?_states h hfound
    obtain ⟨text, htext⟩ := hnames source hsource
    rw [htext, Value.key?_str, Option.some_inj] at hj
    rw [← hj] at hsame
    rw [(state_of_ofTemplate hstate).1, htext]
    exact (Value.eq_str_of_key? (Key.eq_str_of_same hsame ▸ hk)).symm
  index {name s n r} hentry hr := by
    obtain ⟨k, hk, hfound⟩ := Option.bind_eq_some_iff.mp hentry
    obtain ⟨source, hsource, j, hj, hsame, hstate⟩ := exists_of_find?_states h hfound
    exact index_of_getElem? hstate hr

/-- The states of a template are in the table of its machine. -/
theorem isSome_stateAt?_of_mem {t : Template} {m : Machine} (h : Built t m)
    {source : LineMachine.State} (hsource : source ∈ t.states) {name : Value} {j k : Key}
    (hj : source.name.key? = some j) (hk : name.key? = some k) (hsame : k.same j = true) :
    (m.stateAt? name).isSome = true := by
  obtain ⟨pairs, hpairs, hstates⟩ := h.states
  obtain ⟨e, he, hentry⟩ := exists_result_of_mapM hpairs hsource
  -- Which state is found is left open, since another one may bear the same name.
  rw [stateAt?, hk, Option.bind_some, hstates, Table.isSome_find?_ofList]
  refine ⟨e, he, ?_⟩
  rw [(stateEntry_eq_ok hentry).1] at hj
  cases hj
  exact hsame

theorem rulesIn_of_stateAt? {m : Machine} {name : Value} {s : State}
    (h : m.stateAt? name = some s) : m.rulesIn name = s.rules := by
  rw [rulesIn, h, Option.elim_some]

theorem rulesIn_of_unknown {m : Machine} {name : Value} (h : m.stateAt? name = none) :
    m.rulesIn name = [] := by
  rw [rulesIn, h, Option.elim_none]

/-- No rule is taken exactly where no pattern is found. -/
theorem findIdx?_of_unmatched {s : State} {line : String} (h : s.firstMatch? line = none) :
    s.rules.findIdx? (Rule.finds line) = none := by
  rw [List.findIdx?_eq_none_iff]
  intro r hr
  have hnone := List.findSome?_eq_none_iff.mp h r hr
  rw [Rule.finds, Option.map_eq_none_iff.mp hnone]
  rfl

/-- The rule that is taken is the first one whose pattern is found, and it stands in its place. -/
theorem findIdx?_of_match {s : State} {line : String} {r : Rule} {groups : Groups}
    (h : s.firstMatch? line = some (r, groups))
    (hindex : ∀ (n : Nat) (r : Rule), s.rules[n]? = some r → r.index = n) :
    s.rules.findIdx? (Rule.finds line) = some r.index ∧ s.rules[r.index]? = some r := by
  obtain ⟨before, first, behind, hrules, hfirst, hbefore⟩ := List.findSome?_eq_some_iff.mp h
  obtain ⟨groups', hgroups, hpair⟩ := Option.map_eq_some_iff.mp hfirst
  obtain ⟨rfl, rfl⟩ := Prod.mk.inj hpair
  have hplace : s.rules[before.length]? = some first := by
    rw [hrules, List.getElem?_append_right (Nat.le_refl _), Nat.sub_self]
    rfl
  -- Its place is behind the rules that do not match, and so is its number.
  rw [hindex _ _ hplace]
  refine ⟨?_, hplace⟩
  have hnone : before.findIdx? (Rule.finds line) = none := by
    rw [List.findIdx?_eq_none_iff]
    intro r hr
    rw [Rule.finds, Option.map_eq_none_iff.mp (hbefore r hr)]
    rfl
  have hfinds : Rule.finds line first = true := by
    rw [Rule.finds, hgroups]
    rfl
  rw [hrules, List.findIdx?_append, hnone, List.findIdx?_cons, hfinds]
  simp only [Option.none_or, if_true, Option.map_some, Nat.zero_add]

theorem successor?_of_taken {m : Machine} {state : Value} {s : State} {r : Rule}
    (hentry : m.stateAt? state = some s) (hr : s.rules[r.index]? = some r) (number : Nat)
    (line : String) :
    m.successor? ⟨number, line, state, some r.index⟩ = nextState? r.transition state := by
  rw [successor?, ruleOf?, Option.bind_some, rulesIn_of_stateAt? hentry, hr, Option.bind_some]

/-! ## The invariant -/

/-- How a run stands after some lines, as its trace shows it. -/
inductive Standing (m : Machine) (past : List String) (c : Config) : Prop where
  /-- The run goes on, in the state in which the next line is due. -/
  | running (hstatus : c.status = .running) (hlines : c.lines = past.length)
    (hlength : c.trace.length = past.length) (hdue : m.due? c.trace = some c.state)
  /-- The last entry's transition ended the run, and all lines count. -/
  | ended (hstatus : c.status = .ended) (hlines : c.lines = past.length) {e : TraceEntry}
    (hlast : c.trace.getLast? = some e) (hknown : (m.stateAt? e.state).isSome = true)
    (hend : m.successor? e = none)
  /-- The last entry is in a state that is not in the table, and no line behind it counts. -/
  | lost (hstatus : c.status = .lost) (hlines : c.lines = c.trace.length) {e : TraceEntry}
    (hlast : c.trace.getLast? = some e) (hunknown : m.stateAt? e.state = none)
    (hstate : e.state = c.state)

/-- Holds of a configuration that is, after some lines, as its trace says. -/
structure Accounted (m : Machine) (past : List String) (c : Config) : Prop where
  /-- The trace is a faithful account. -/
  account : m.Account past c.trace
  /-- The matched lines are those with a rule in their entry. -/
  matched : c.matched = matchCount c.trace
  /-- The status shows in the last entry. -/
  standing : m.Standing past c

theorem accounted_begin (m : Machine) : m.Accounted [] m.begin where
  account := .nil m []
  matched := rfl
  standing := .running rfl rfl rfl rfl

/-- Looking at a line keeps a configuration as its trace says. -/
theorem accounted_look {m : Machine} {o : Options} (horderly : Orderly m) {past : List String}
    {c d : Config} {line : String} (haccount : m.Account past c.trace)
    (hmatched : c.matched = matchCount c.trace) (hstatus : c.status = .running)
    (hlines : c.lines = past.length) (hlength : c.trace.length = past.length)
    (hdue : m.due? c.trace = some c.state) (h : Looked m o c line d) :
    m.Accounted (past ++ [line]) d := by
  have hnumber : c.lines + 1 = (past ++ [line]).length := by
    rw [hlines, List.length_append, List.length_singleton]
  have hlonger (e : TraceEntry) : (c.trace ++ [e]).length = (past ++ [line]).length := by
    rw [List.length_append, List.length_append, hlength, List.length_singleton,
      List.length_singleton]
  -- The entry that the line gets goes on with the account, whichever rule it names.
  have hconcat := haccount.concat hlength line hdue
  rw [← hlines] at hconcat
  cases h with
  | lost hkey hentry =>
    refine ⟨hconcat none ?_, ?_, .lost rfl ?_ List.getLast?_concat hentry rfl⟩
    · rw [rulesIn_of_unknown hentry]
      rfl
    · exact hmatched.trans (matchCount_unmatched ..).symm
    · exact hnumber.trans (hlonger _).symm
  | passed hentry hmatch =>
    have hknown := Option.isSome_of_eq_some hentry
    rw [horderly.name hentry]
    refine ⟨hconcat none ?_, ?_, .running hstatus hnumber (hlonger _) ?_⟩
    · rw [rulesIn_of_stateAt? hentry, findIdx?_of_unmatched hmatch]
    · exact hmatched.trans (matchCount_unmatched ..).symm
    · exact due?_concat hknown c.trace
  | moved hentry hmatch hsourced hsheet hnext =>
    obtain ⟨hfirst, hplace⟩ := findIdx?_of_match hmatch fun n r ↦ horderly.index hentry
    have hknown := Option.isSome_of_eq_some hentry
    rw [horderly.name hentry]
    refine ⟨hconcat _ ?_, ?_, .running hstatus hnumber (hlonger _) ?_⟩
    · rw [rulesIn_of_stateAt? hentry, hfirst]
    · exact (congrArg (· + 1) hmatched).trans (matchCount_matched ..).symm
    · exact (due?_concat hknown c.trace).trans ((successor?_of_taken hentry hplace ..).trans hnext)
  | ended hentry hmatch hsourced hsheet hnext =>
    obtain ⟨hfirst, hplace⟩ := findIdx?_of_match hmatch fun n r ↦ horderly.index hentry
    have hknown := Option.isSome_of_eq_some hentry
    rw [horderly.name hentry]
    refine ⟨hconcat _ ?_, ?_, .ended rfl hnumber List.getLast?_concat ?_ ?_⟩
    · rw [rulesIn_of_stateAt? hentry, hfirst]
    · exact (congrArg (· + 1) hmatched).trans (matchCount_matched ..).symm
    · exact hknown
    · exact (successor?_of_taken hentry hplace ..).trans hnext

/-- A step keeps a configuration as its trace says. -/
theorem accounted_step {m : Machine} {o : Options} (horderly : Orderly m) {past : List String}
    {c d : Config} {line : String} (hc : m.Accounted past c) (h : m.step o c line = .ok d) :
    m.Accounted (past ++ [line]) d := by
  obtain ⟨haccount, hmatched, hstanding⟩ := hc
  cases hstanding with
  | running hstatus hlines hlength hdue =>
    rw [step_of_running hstatus, look_eq_ok] at h
    exact accounted_look horderly haccount hmatched hstatus hlines hlength hdue h
  | ended hstatus hlines hlast hknown hend =>
    rw [step_of_ended hstatus] at h
    cases h
    refine ⟨haccount.append [line], hmatched, .ended hstatus ?_ hlast hknown hend⟩
    rw [List.length_append, List.length_singleton, ← hlines]
  | lost hstatus hlines hlast hunknown hstate =>
    rw [step_of_lost hstatus] at h
    cases h
    exact ⟨haccount.append [line], hmatched, .lost hstatus hlines hlast hunknown hstate⟩

/-- A run is as its trace says wherever it comes to. -/
theorem accounted_run {m : Machine} {o : Options} (horderly : Orderly m) {lines : List String}
    {c : Config} (h : m.run o lines = .ok c) : m.Accounted lines c :=
  resume_invariant [] m.Accounted (accounted_step horderly) (accounted_begin m) h

/-! ## How a trace ends -/

/-- Holds when the transition of the last entry ends the run. -/
def Ended (m : Machine) (entries : List TraceEntry) : Prop :=
  ∃ e, entries.getLast? = some e ∧ m.successor? e = none

/-- Holds when the last entry is in a state that is not in the table. -/
def Strayed (m : Machine) (entries : List TraceEntry) : Prop :=
  ∃ e, entries.getLast? = some e ∧ m.stateAt? e.state = none

/-- A state that is not in the table has no transition that could end a run. -/
theorem successor?_of_unknown {m : Machine} {e : TraceEntry} (h : m.stateAt? e.state = none) :
    m.successor? e = some e.state := by
  have hrule : m.ruleOf? e = none := by
    rw [ruleOf?, rulesIn_of_unknown h]
    exact Option.bind_eq_none_iff.mpr fun _ _ ↦ rfl
  rw [successor?, hrule]
  rfl

/-- A state is due exactly if a trace neither ended nor strayed. -/
theorem due?_eq_none_iff {m : Machine} {entries : List TraceEntry} :
    m.due? entries = none ↔ m.Ended entries ∨ m.Strayed entries := by
  cases hlast : entries.getLast? with
  | none => simp [due?, Ended, Strayed, hlast]
  | some e =>
    rw [due?_of_getLast? hlast]
    simp only [Ended, Strayed, hlast, Option.some.injEq, exists_eq_left']
    cases hentry : m.stateAt? e.state with
    | none => simp
    | some s => simp

namespace Standing

variable {m : Machine} {past : List String} {c : Config}

/-- A trace that is shorter than the lines shows why. -/
theorem ended_or_strayed (h : m.Standing past c) (hshort : c.trace.length < past.length) :
    m.Ended c.trace ∨ m.Strayed c.trace := by
  cases h with
  | running hstatus hlines hlength hdue => omega
  | ended hstatus hlines hlast hknown hend => exact .inl ⟨_, hlast, hend⟩
  | lost hstatus hlines hlast hunknown hstate => exact .inr ⟨_, hlast, hunknown⟩

theorem lines_of_ended (h : m.Standing past c) (hended : m.Ended c.trace) :
    c.lines = past.length := by
  cases h with
  | running hstatus hlines hlength hdue => exact hlines
  | ended hstatus hlines hlast hknown hend => exact hlines
  | lost hstatus hlines hlast hunknown hstate =>
    obtain ⟨e, he, hend⟩ := hended
    cases hlast.symm.trans he
    rw [successor?_of_unknown hunknown] at hend
    cases hend

theorem lines_of_not_ended (h : m.Standing past c) (hended : ¬ m.Ended c.trace) :
    c.lines = c.trace.length := by
  cases h with
  | running hstatus hlines hlength hdue => exact hlines.trans hlength.symm
  | ended hstatus hlines hlast hknown hend => exact absurd ⟨_, hlast, hend⟩ hended
  | lost hstatus hlines hlast hunknown hstate => exact hlines

/-- The run came to a state that does not exist exactly if the last entry is in one. -/
theorem lost_iff_strayed (h : m.Standing past c) : c.status = .lost ↔ m.Strayed c.trace := by
  cases h with
  | running hstatus hlines hlength hdue =>
    refine iff_of_false (by rw [hstatus]; exact Status.noConfusion) ?_
    intro hstrayed
    rw [due?_eq_none_iff.mpr (.inr hstrayed)] at hdue
    cases hdue
  | ended hstatus hlines hlast hknown hend =>
    refine iff_of_false (by rw [hstatus]; exact Status.noConfusion) ?_
    rintro ⟨e, he, hunknown⟩
    cases hlast.symm.trans he
    rw [hunknown] at hknown
    cases hknown
  | lost hstatus hlines hlast hunknown hstate => exact iff_of_true hstatus ⟨_, hlast, hunknown⟩

theorem state_of_lost (h : m.Standing past c) (hlost : c.status = .lost) {e : TraceEntry}
    (he : c.trace.getLast? = some e) : c.state = e.state := by
  cases h with
  | running hstatus hlines hlength hdue => cases hstatus.symm.trans hlost
  | ended hstatus hlines hlast hknown hend => cases hstatus.symm.trans hlost
  | lost hstatus hlines hlast hunknown hstate =>
    cases hlast.symm.trans he
    exact hstate.symm

end Standing

end LineMachine.Machine

namespace LineMachine.Engine

/-- **The trace is a faithful account of the run.** Let the states of a template be named by texts.
The trace of a run that comes to an end starts in the first state and accounts for the lines of the
text, up to the last one or up to where the run was stopped. The counters and the messages of the
result follow from it: the matched lines are the entries with a rule; the lines that count are all
lines where the last entry's transition ended the run, and otherwise those with an entry; and there
is a message, about the last entry's state, exactly if that is not in the table. -/
theorem trace_account {cache : Cache} {t : Template} {o : Options} {text : String}
    {r : ParseResult} (hsuits : Suits cache t)
    (hnames : ∀ s ∈ t.states, ∃ name, s.name = .str name) (hdebug : o.debug = true)
    (h : (parse cache (.str text) t o).result = .ok r) :
    ∃ m entries, Machine.ofTemplate t = .ok m ∧ r.trace = some entries ∧
      t.states.head?.map State.name = some m.start ∧
      m.Account (Text.splitLines text) entries ∧
      (entries.length < (Text.splitLines text).length → m.Ended entries ∨ m.Strayed entries) ∧
      r.matched = Machine.matchCount entries ∧
      (m.Ended entries → r.linesProcessed = (Text.splitLines text).length) ∧
      (¬ m.Ended entries → r.linesProcessed = entries.length) ∧
      (∀ e, entries.getLast? = some e → m.stateAt? e.state = none →
        r.errors = ["UnknownStateError: Unknown state: " ++ e.state.text]) ∧
      (¬ m.Strayed entries → r.errors = []) := by
  obtain ⟨stored, c, hcompile, hrun, rfl⟩ := parse_eq_ok h
  have hmachine := hsuits stored hcompile
  have hbuilt := Machine.built_of_ofTemplate hmachine
  obtain ⟨haccount, hmatched, hstanding⟩ :=
    Machine.accounted_run (Machine.orderly_of_built hbuilt hnames) hrun
  refine ⟨stored.machine, c.trace, hmachine, if_pos hdebug, ?_, haccount,
    hstanding.ended_or_strayed, hmatched, hstanding.lines_of_ended, hstanding.lines_of_not_ended,
    ?_, ?_⟩
  · obtain ⟨first, rest, hstates, hstart⟩ := hbuilt.start
    rw [hstates, hstart]
    rfl
  · intro e hlast hunknown
    have hlost : c.status = .lost := hstanding.lost_iff_strayed.mpr ⟨e, hlast, hunknown⟩
    rw [errors_of_lost hlost, hstanding.state_of_lost hlost hlast]
  · intro hknown
    exact errors_of_not_lost (mt hstanding.lost_iff_strayed.mp hknown)

/-- A list of ports is accounted for up to the line that ends it. -/
theorem trace_account_ports :
    ∃ r m entries,
      (parse Cache.empty (.str "ports\np1\nend\np2\n") ports { debug := true }).result = .ok r ∧
      Machine.ofTemplate ports = .ok m ∧ r.trace = some entries ∧
      m.Account (Text.splitLines "ports\np1\nend\np2\n") entries ∧
      r.matched = Machine.matchCount entries := by
  obtain ⟨r, hr⟩ : ∃ r,
      (parse Cache.empty (.str "ports\np1\nend\np2\n") ports { debug := true }).result = .ok r :=
    ⟨_, rfl⟩
  have hnames : ∀ s ∈ ports.states, ∃ name, s.name = .str name := by
    rw [ports]
    simp
  obtain ⟨m, entries, hm, htrace, -, haccount, -, hmatched, -⟩ :=
    trace_account (suits_empty ports) hnames rfl hr
  exact ⟨r, m, entries, hr, hm, htrace, haccount, hmatched⟩

end LineMachine.Engine
