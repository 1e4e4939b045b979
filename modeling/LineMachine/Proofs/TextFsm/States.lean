import LineMachine.Proofs.Engine
import LineMachine.Proofs.TextFsm.Imported

/-!
# States of TextFSM templates

How a run of an imported template goes from state to state. A document says that a rule leads to its
target, whatever that is called (`RuleDecl.leadsTo?`). A run goes another way in two places
(`RuleDecl.reaches?`). Of the names that a state may have, `self` and `end` are reserved here, so a
rule that leads to such a state stays where it is or ends the run; and a state without rules is left
out, so that a line that is due there makes an error.

`Follows` says of a trace that it goes where the rules lead, in one sense or the other. A trace
always follows the document in the sense of the run; in a document that avoids the two names and
empty targets both senses agree, and there is no error (`follows_of_parse`).
-/

namespace LineMachine.TextFsm

open Machine (TraceEntry)

/-! ## Where rules lead -/

namespace RuleDecl

/-- Where a rule leads from a state, as the document says: to its target, and none if that is
final. -/
def leadsTo? (r : RuleDecl) (state : Value) : Option Value :=
  match r.action.target with
  | none => some state
  | some target => if target ∈ finalStates then none else some (.str target)

/-- Where a run is led by a rule from a state; none if it ends there. The reserved names mean the
state itself and the end. -/
def reaches? (r : RuleDecl) (state : Value) : Option Value :=
  match r.action.target with
  | none => some state
  | some target =>
    if target ∈ finalStates ∨ target = endTarget then none
    else if target = selfTarget then some state
    else some (.str target)

theorem reaches?_of_target {r : RuleDecl} {target : String}
    (htarget : r.action.target = some target) (hself : target ≠ selfTarget)
    (hend : target ≠ endTarget) (state : Value) : r.reaches? state = r.leadsTo? state := by
  rw [reaches?, leadsTo?, htarget]
  simp only [hself, hend, or_false, if_false]

theorem reaches?_of_final {r : RuleDecl} {target : String}
    (htarget : r.action.target = some target) (hfinal : target ∈ finalStates) (state : Value) :
    r.reaches? state = r.leadsTo? state := by
  rw [reaches?, leadsTo?, htarget]
  simp only [hfinal, true_or, if_true]

end RuleDecl

namespace Document

/-- The transition of a rule leads a run where the rule does. -/
theorem nextState?_transitionTo (r : RuleDecl) (state : Value) :
    Machine.nextState? (r.action.target.map transitionTo) state = r.reaches? state := by
  rcases htarget : r.action.target with - | target
  · rw [RuleDecl.reaches?, htarget]
    rfl
  · have hcondition : ¬ (Value.str "match" ≠ .str "match" ∧ Value.str "match" ≠ .str "always") :=
      fun h ↦ h.1 rfl
    rw [RuleDecl.reaches?, htarget, Option.map_some, transitionTo, Machine.nextState?]
    simp only [hcondition, if_false, Value.str.injEq, List.contains_iff_mem]
    by_cases hfinal : target ∈ finalStates
    · rw [if_pos hfinal, if_pos (Or.inl hfinal), if_neg (by decide), if_pos rfl]
    · rw [if_neg hfinal]
      by_cases hself : target = selfTarget
      · rw [if_pos hself, if_pos hself, if_neg]
        rintro (h | h)
        · exact hfinal h
        · exact absurd (hself.symm.trans h) (by decide)
      · rw [if_neg hself, if_neg hself]
        by_cases hend : target = endTarget
        · rw [if_pos hend, if_pos (Or.inr hend)]
        · rw [if_neg hend, if_neg (not_or.mpr ⟨hfinal, hend⟩)]

/-! ## Traces that follow a document -/

/-- Holds of entries that go over lines from state to state as the rules of a document say, where
`next?` is what a rule leads to from a state. -/
structure Follows (d : Document) (next? : RuleDecl → Value → Option Value) (lines : List String)
    (entries : List TraceEntry) : Prop where
  /-- Entries stand for the lines in order. -/
  line : ∀ (i : Nat) (e : TraceEntry), entries[i]? = some e → lines[i]? = some e.line
  /-- The rule that is taken is the first one of the state whose expression is found. -/
  rule : ∀ e ∈ entries, e.matched = (d.rulesAt e.state).findIdx? (RuleDecl.finds e.line)
  /-- Behind a matched line, the next one is looked at in the state that the rule leads to. -/
  onward : ∀ (i : Nat) (e : TraceEntry) r next line, entries[i]? = some e → d.ruleAt? e = some r →
    next? r e.state = some next → lines[i + 1]? = some line →
      ∃ f, entries[i + 1]? = some f ∧ f.line = line ∧ f.state = next
  /-- Behind a line whose rule leads to the end, none is looked at. -/
  stop : ∀ (i : Nat) (e : TraceEntry) r, entries[i]? = some e → d.ruleAt? e = some r →
    next? r e.state = none → entries[i + 1]? = none
  /-- Behind a line that no rule of the state matches, the next one is looked at in the same
  state. -/
  stay : ∀ (i : Nat) (e : TraceEntry) line, entries[i]? = some e → d.rulesAt e.state ≠ [] →
    e.matched = none → lines[i + 1]? = some line →
      ∃ f, entries[i + 1]? = some f ∧ f.line = line ∧ f.state = e.state
  /-- From a state without rules on, no line is matched. -/
  empty : ∀ (i : Nat) (e : TraceEntry), entries[i]? = some e → d.rulesAt e.state = [] →
    ∀ (j : Nat) (f : TraceEntry), i ≤ j → entries[j]? = some f → f.matched = none

/-- Entries follow a document in two senses alike if these agree about the rules that were taken. -/
theorem Follows.congr {d : Document} {next? next'? : RuleDecl → Value → Option Value}
    {lines : List String} {entries : List TraceEntry} (h : d.Follows next? lines entries)
    (hsame : ∀ e ∈ entries, ∀ r, d.ruleAt? e = some r → next? r e.state = next'? r e.state) :
    d.Follows next'? lines entries where
  line := h.line
  rule := h.rule
  onward i e r next line he hr hnext := by
    rw [← hsame e (List.mem_of_getElem? he) r hr] at hnext
    exact h.onward i e r next line he hr hnext
  stop i e r he hr hnext := by
    rw [← hsame e (List.mem_of_getElem? he) r hr] at hnext
    exact h.stop i e r he hr hnext
  stay := h.stay
  empty := h.empty

namespace Imported

variable {d : Document} {m : Machine}

theorem unknown_of_rulesAt (h : d.Imported m) {state : Value} (hrules : d.rulesAt state = []) :
    m.stateAt? state = none := by
  rcases hstate : m.stateAt? state with - | s
  · rfl
  · exact absurd hrules ((h.known state).mp (Option.isSome_of_eq_some hstate))

/-- The line behind an entry is in the state that the run is led to by the rule that was taken, and
in the same state if none was. -/
theorem successor?_eq (h : d.Imported m) (e : TraceEntry) :
    m.successor? e = (d.ruleAt? e).elim (some e.state) fun r ↦ r.reaches? e.state := by
  have hrel := h.rel_ruleAt? e
  rw [Machine.successor?]
  generalize d.ruleAt? e = decl?, m.ruleOf? e = made? at hrel ⊢
  rcases hrel with hmakes | -
  · rw [Option.bind_some, hmakes.transition, nextState?_transitionTo]
    rfl
  · rfl

theorem successor?_of_ruleAt? (h : d.Imported m) {e : TraceEntry} {r : RuleDecl}
    (hr : d.ruleAt? e = some r) : m.successor? e = r.reaches? e.state := by
  rw [h.successor?_eq, hr, Option.elim_some]

theorem known_of_ruleAt? (h : d.Imported m) {e : TraceEntry} {r : RuleDecl}
    (hr : d.ruleAt? e = some r) : (m.stateAt? e.state).isSome = true := by
  refine (h.known e.state).mpr fun hrules ↦ ?_
  obtain ⟨k, -, hplace⟩ := Option.bind_eq_some_iff.mp hr
  rw [hrules] at hplace
  cases hplace

theorem matched_of_account (h : d.Imported m) {lines : List String} {entries : List TraceEntry}
    (haccount : m.Account lines entries) {e : TraceEntry} (he : e ∈ entries) :
    e.matched = (d.rulesAt e.state).findIdx? (RuleDecl.finds e.line) := by
  rw [haccount.rule e he, findIdx?_of_makes (h.rules e.state)]

/-- **The trace of a run follows the document**, in the sense of the run. -/
theorem follows_of_accounted (h : d.Imported m) {lines : List String} {c : Machine.Config}
    (hc : m.Accounted lines c) : d.Follows RuleDecl.reaches? lines c.trace where
  line i e he := (hc.account.line i e he).2
  rule e he := h.matched_of_account hc.account he
  onward i e r next line he hr hnext hline := by
    rw [← h.successor?_of_ruleAt? hr] at hnext
    exact hc.exists_next he (h.known_of_ruleAt? hr) hnext hline
  stop i e r he hr hnext := by
    rw [← h.successor?_of_ruleAt? hr] at hnext
    exact hc.account.getElem?_of_ended he hnext
  stay i e line he hrules hmatched hline := by
    have hnext : m.successor? e = some e.state := by
      rw [h.successor?_eq, ruleAt?, hmatched]
      rfl
    exact hc.exists_next he ((h.known e.state).mpr hrules) hnext hline
  empty i e he hrules j f hij hf := by
    -- Such an entry is the last one, since its state is not in the table.
    have hnone := hc.account.getElem?_of_unknown he (h.unknown_of_rulesAt hrules)
    obtain ⟨hj, -⟩ := List.getElem?_eq_some_iff.mp hf
    have hlength := List.getElem?_eq_none_iff.mp hnone
    have hsame : j = i := by omega
    cases hsame
    cases he.symm.trans hf
    rw [h.matched_of_account hc.account (List.mem_of_getElem? he), hrules]
    rfl

end Imported

/-! ## Documents without pitfalls -/

/-- Holds of a document whose rules lead to final states and to states with rules that have no
reserved name. -/
def Plain (d : Document) : Prop :=
  ∀ s ∈ d.states, ∀ r ∈ s.rules, ∀ target ∈ r.action.target, target ∉ finalStates →
    target ≠ selfTarget ∧ target ≠ endTarget ∧ d.rulesAt (.str target) ≠ []

instance (d : Document) : Decidable d.Plain := by
  unfold Plain
  infer_instance

theorem exists_of_ruleAt? {d : Document} {e : TraceEntry} {r : RuleDecl}
    (hr : d.ruleAt? e = some r) : ∃ s ∈ d.states, r ∈ s.rules := by
  obtain ⟨k, -, hplace⟩ := Option.bind_eq_some_iff.mp hr
  have hmem := List.mem_of_getElem? hplace
  obtain ⟨s, hs, -, hrules⟩ := exists_of_rulesAt (List.ne_nil_of_mem hmem)
  exact ⟨s, hs, hrules ▸ hmem⟩

/-- In such a document runs are led where the rules lead. -/
theorem reaches?_of_plain {d : Document} (h : d.Plain) {e : TraceEntry} {r : RuleDecl}
    (hr : d.ruleAt? e = some r) (state : Value) : r.reaches? state = r.leadsTo? state := by
  obtain ⟨s, hs, hmem⟩ := exists_of_ruleAt? hr
  rcases htarget : r.action.target with - | target
  · rw [RuleDecl.reaches?, RuleDecl.leadsTo?, htarget]
  · by_cases hfinal : target ∈ finalStates
    · exact RuleDecl.reaches?_of_final htarget hfinal state
    · obtain ⟨hself, hend, -⟩ := h s hs r hmem target htarget hfinal
      exact RuleDecl.reaches?_of_target htarget hself hend state

/-- From a state with rules a rule leads to a state with rules. -/
theorem rulesAt_of_leadsTo? {d : Document} (h : d.Plain) {e : TraceEntry} {r : RuleDecl}
    (hr : d.ruleAt? e = some r) {next : Value} (hstate : d.rulesAt e.state ≠ [])
    (hnext : r.leadsTo? e.state = some next) : d.rulesAt next ≠ [] := by
  obtain ⟨s, hs, hmem⟩ := exists_of_ruleAt? hr
  rw [RuleDecl.leadsTo?] at hnext
  rcases htarget : r.action.target with - | target
  · rw [htarget] at hnext
    cases hnext
    exact hstate
  · rw [htarget] at hnext
    simp only [Option.ite_none_left_eq_some, Option.some.injEq] at hnext
    obtain ⟨hfinal, rfl⟩ := hnext
    exact (h s hs r hmem target htarget hfinal).2.2

/-- All lines are looked at in states with rules. -/
theorem rulesAt_of_plain {d : Document} (hd : d.Coherent) (hplain : d.Plain) {m : Machine}
    (h : d.Imported m) {lines : List String} {entries : List TraceEntry}
    (haccount : m.Account lines entries) {i : Nat} {e : TraceEntry} (he : entries[i]? = some e) :
    d.rulesAt e.state ≠ [] := by
  -- The induction is on the place of the entry: each one is where the one before it leads.
  induction i generalizing e with
  | zero =>
    obtain ⟨first, hfirst, hstart⟩ := h.start
    obtain ⟨hmem, hrules⟩ := (mem_importedStates hd).mp (List.mem_of_mem_head? hfirst)
    rw [haccount.start e he, hstart, rulesAt_of_mem hd hmem]
    exact hrules
  | succ i ih =>
    obtain ⟨hi, -⟩ := List.getElem?_eq_some_iff.mp he
    have hbefore : entries[i]? = some entries[i] := List.getElem?_eq_getElem (by omega)
    obtain ⟨-, hsuccessor⟩ := haccount.next i _ e hbefore he
    have hrules := ih hbefore
    rcases hr : d.ruleAt? entries[i] with - | r
    · rw [h.successor?_eq, hr, Option.elim_none] at hsuccessor
      rwa [← Option.some.inj hsuccessor]
    · rw [h.successor?_of_ruleAt? hr, reaches?_of_plain hplain hr] at hsuccessor
      exact rulesAt_of_leadsTo? hplain hr hrules hsuccessor

end Document

end LineMachine.TextFsm

namespace LineMachine.Engine

open TextFsm

/-! ## The way from state to state -/

/-- **Runs follow the document.** The trace of a run of an imported template goes from state to
state as the rules of the document lead it, but for the two reserved names, and up to a line that
is due in a state without rules: that line has the last entry, and the result has an error about
that state; otherwise there is none. If the rules of the document lead to no reserved name and to
no state without rules, the trace follows the document as it stands, and there is no error. -/
theorem follows_of_parse {ε : Type} {read : String → Except ε Document} (hlawful : Lawful read)
    {content : String} {d : Document} (hread : read content = .ok d)
    {heading : Heading} {cache : Cache} (hsuits : Suits cache (d.toTemplate heading))
    {text : String} {o : Options} (hdebug : o.debug = true) {r : ParseResult}
    (h : (parse cache (.str text) (d.toTemplate heading) o).result = .ok r) :
    ∃ entries, r.trace = some entries ∧
      d.Follows RuleDecl.reaches? (Text.splitLines text) entries ∧
      (∀ i e, entries[i]? = some e → d.rulesAt e.state = [] → entries.length = i + 1 ∧
        r.errors = ["UnknownStateError: Unknown state: " ++ e.state.text]) ∧
      ((∀ e ∈ entries, d.rulesAt e.state ≠ []) → r.errors = []) ∧
      (d.Plain → d.Follows RuleDecl.leadsTo? (Text.splitLines text) entries ∧ r.errors = []) := by
  have hd := hlawful.coherent hread
  obtain ⟨m, c, -, himported, hrun, rfl⟩ := exists_imported hd hsuits h
  have hc := Machine.accounted_run himported.orderly hrun
  have hfollows := himported.follows_of_accounted hc
  have herrors (hrules : ∀ e ∈ c.trace, d.rulesAt e.state ≠ []) :
      (ParseResult.ofConfig (d.toTemplate heading) o c).errors = [] := by
    refine errors_of_not_lost fun hlost ↦ ?_
    obtain ⟨e, hlast, hunknown⟩ := hc.standing.lost_iff_strayed.mp hlost
    have hknown := (himported.known e.state).mpr (hrules e (List.mem_of_mem_getLast? hlast))
    rw [hunknown] at hknown
    cases hknown
  refine ⟨c.trace, if_pos hdebug, hfollows, ?_, herrors, ?_⟩
  · intro i e he hrules
    have hunknown := himported.unknown_of_rulesAt hrules
    obtain ⟨hlength, hlast⟩ :=
      Machine.getLast?_of_getElem? he (hc.account.getElem?_of_unknown he hunknown)
    have hlost : c.status = .lost := hc.standing.lost_iff_strayed.mpr ⟨e, hlast, hunknown⟩
    exact ⟨hlength, by rw [errors_of_lost hlost, hc.standing.state_of_lost hlost hlast]⟩
  · intro hplain
    refine ⟨hfollows.congr fun e he r hr ↦ Document.reaches?_of_plain hplain hr e.state, ?_⟩
    refine herrors fun e he ↦ ?_
    obtain ⟨i, hi⟩ := List.mem_iff_getElem?.mp he
    exact Document.rulesAt_of_plain hd hplain himported hc.account hi

/-! ## Examples -/

/-- A list of hosts between a heading and a line of dashes. -/
def hosts : Document where
  values := [⟨"HOST", [], "(\\S+)"⟩]
  states := [
    ⟨"Start", [⟨"^Hosts", "^Hosts", { target := some "List" }⟩]⟩,
    ⟨"List", [
      ⟨"^--", "^--", { target := some "End" }⟩,
      ⟨"^$HOST", "^(?P<HOST>\\S+)", { record := some .record }⟩]⟩]

/-- The text that it is read from. -/
def hostsText : String :=
  "Value HOST (\\S+)\n\nStart\n  ^Hosts -> List\n\nList\n  ^-- -> End\n  ^$HOST -> Record\n"

theorem readDocument_hosts : readDocument hostsText = .ok hosts := by
  decide +kernel

/-- The list of hosts is followed from its heading to its end. -/
theorem follows_of_parse_hosts :
    ∃ r entries, readDocument hostsText = .ok hosts ∧ hosts.Plain ∧
      (parse Cache.empty (.str "Hosts\na\n--\nb\n")
        (hosts.toTemplate { id := .str "hosts" }) { debug := true }).result = .ok r ∧
      r.trace = some entries ∧ entries.length = 3 ∧
      hosts.Follows RuleDecl.leadsTo? (Text.splitLines "Hosts\na\n--\nb\n") entries ∧
      r.errors = [] := by
  have hplain : hosts.Plain := by decide
  obtain ⟨r, hr, htrace⟩ := map_eq_ok.mp (show
    (parse Cache.empty (.str "Hosts\na\n--\nb\n") (hosts.toTemplate { id := .str "hosts" })
      { debug := true }).result.map ParseResult.trace = .ok (some [
        ⟨1, "Hosts", .str "Start", some 0⟩, ⟨2, "a", .str "List", some 1⟩,
        ⟨3, "--", .str "List", some 0⟩]) by decide +kernel)
  obtain ⟨entries, hentries, -, -, -, hfollows⟩ :=
    follows_of_parse lawful_readDocument readDocument_hosts (suits_empty _) rfl hr
  cases htrace.symm.trans hentries
  obtain ⟨hfollows, herrors⟩ := hfollows hplain
  exact ⟨r, _, readDocument_hosts, hplain, hr, hentries, rfl, hfollows, herrors⟩

/-- A document with a state that is called `self` and one without rules. -/
def detours : Document where
  values := []
  states := [
    ⟨"Start", [
      ⟨"^go", "^go", { target := some "self" }⟩,
      ⟨"^stop", "^stop", { target := some "Empty" }⟩]⟩,
    ⟨"self", [⟨"^go", "^go", { target := some "Start" }⟩]⟩,
    ⟨"Empty", []⟩]

/-- The text that it is read from. -/
def detoursText : String :=
  "\nStart\n  ^go -> self\n  ^stop -> Empty\n\nself\n  ^go -> Start\n\nEmpty\n"

/-- A run never comes to the state that is called `self`, and a line that is due in the state
without rules makes an error. -/
theorem not_follows_detours :
    ∃ r entries, readDocument detoursText = .ok detours ∧
      (parse Cache.empty (.str "go\ngo\nstop\nmore\n")
        (detours.toTemplate { id := .str "detours" }) { debug := true }).result = .ok r ∧
      r.trace = some entries ∧
      ¬ detours.Follows RuleDecl.leadsTo? (Text.splitLines "go\ngo\nstop\nmore\n") entries ∧
      r.errors = ["UnknownStateError: Unknown state: Empty"] := by
  obtain ⟨r, hr, hboth⟩ := map_eq_ok.mp (show
    (parse Cache.empty (.str "go\ngo\nstop\nmore\n")
      (detours.toTemplate { id := .str "detours" }) { debug := true }).result.map
        (fun r ↦ (r.trace, r.errors)) = .ok (some [
          ⟨1, "go", .str "Start", some 0⟩, ⟨2, "go", .str "Start", some 0⟩,
          ⟨3, "stop", .str "Start", some 1⟩, ⟨4, "more", .str "Empty", none⟩],
          ["UnknownStateError: Unknown state: Empty"]) by decide +kernel)
  obtain ⟨htrace, herrors⟩ := Prod.mk.inj hboth
  refine ⟨r, _, by decide +kernel, hr, htrace, ?_, herrors⟩
  intro hfollows
  -- The first line is matched by the rule that leads to `self`.
  have hline : (Text.splitLines "go\ngo\nstop\nmore\n")[1]? = some "go" := by decide +kernel
  obtain ⟨f, hf, -, hstate⟩ := hfollows.onward 0 _ _ (.str "self") "go" rfl rfl rfl hline
  cases hf
  exact absurd hstate (by decide)

end LineMachine.Engine
