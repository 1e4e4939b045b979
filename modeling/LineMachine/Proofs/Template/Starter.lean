import LineMachine.Proofs.Lines.Terminators
import LineMachine.Proofs.Regex.Lawful
import LineMachine.Proofs.Run.Blind
import LineMachine.Proofs.Run.Step
import LineMachine.Proofs.Template.Safety
import LineMachine.Proofs.TextFsm.Importable
import LineMachine.Template.Starter

/-!
# What starter templates do

A starter template is valid whatever it is made from, and its machine has one state with one rule
that takes every line as a whole (`Regex.Lawful.wholeLine`). So a run over any lines stays in that
state, matches each line and records nothing, and the one variable holds the line that was read last
(`Captured`). One line keeps this up (`captured_step`), and so does a run (`captured_run`).
-/

namespace LineMachine.Starter

open Machine (Config nextState?)
open Validation

/-! ## The pattern -/

/-- Holds of a pattern that the text of the one rule is read to, and whose group captures every
line. -/
structure TakesLines (pattern : Regex.Pattern) : Prop where
  read : Regex.Pattern.read? "^(?<line>.*)$" {} = .ok pattern
  captures : ∀ line : String, '\n' ∉ line.toList →
    pattern.captures? line = some [("line", some line)]

theorem exists_takesLines : ∃ pattern, TakesLines pattern := by
  obtain ⟨pattern, hread, hcaptures⟩ := Regex.lawful.wholeLine
  exact ⟨pattern, hread, hcaptures⟩

theorem TakesLines.ofValues {pattern : Regex.Pattern} (hp : TakesLines pattern) :
    Regex.Pattern.ofValues lineRule.pattern (lineRule.flags.getD .null) = .ok pattern := by
  refine (Regex.Pattern.ofValues_str _).trans ?_
  exact mapError_eq_ok.mpr hp.read

/-! ## Validity -/

/-- Holds of a setting that is a text or not given. -/
def TextIfGiven (v : Value) : Prop :=
  v = .null ∨ ∃ text, v = .str text

/-- Holds of settings whose id and name are texts or not given. -/
structure Textual (s : Starter) : Prop where
  id : TextIfGiven s.id
  name : TextIfGiven s.name

theorem TextIfGiven.orElse {v default : Value} (hv : TextIfGiven v)
    (hdefault : TextIfGiven default) : TextIfGiven (v.orElse default) := by
  rw [Value.orElse]
  split
  · exact hv
  · exact hdefault

variable {s : Starter} {pattern : Regex.Pattern}

theorem truthy_id (s : Starter) (clock : Double) : (s.template clock).id.truthy = true := by
  refine Value.truthy_orElse (Value.truthy_str.mpr fun hempty ↦ ?_)
  have hprefix := congrArg String.toList hempty
  rw [String.toList_append] at hprefix
  cases hprefix

/-- The id that a starter template comes to is a text. -/
theorem exists_id (hs : s.Textual) (clock : Double) :
    ∃ text, (s.template clock).id = .str text := by
  have hid : TextIfGiven (s.template clock).id := (hs.id.orElse hs.name).orElse (.inr ⟨_, rfl⟩)
  refine hid.resolve_left fun hnull ↦ ?_
  have htruthy := truthy_id s clock
  rw [hnull] at htruthy
  cases htruthy

/-- Without any settings the id tells the time, in milliseconds. -/
example : (template {} (.ofInt 1700000000)).id = .str "tpl_1700000000000" := by decide +kernel

theorem wellFormed_template (s : Starter) (clock : Double) :
    WellFormed (s.template clock).write := by
  have hregex : WellFormedRegex lineRule.pattern (lineRule.flags.getD .null) := by
    obtain ⟨pattern, hp⟩ := exists_takesLines
    exact (wellFormedRegex_str (by decide)).mpr ⟨pattern, hp.read⟩
  have htarget : ∀ t, lineRule.transition = some t →
      WellFormedTransition [.str "start"] t.write := by
    rintro t ⟨⟩
    exact wellFormedTransition_write.mpr ⟨rfl, .inl rfl⟩
  have haction : ∀ a ∈ lineRule.actions, WellFormedAction a.write :=
    List.forall_mem_singleton.mpr ⟨rfl, by decide, fun _ ↦ rfl⟩
  have hrule : WellFormedPattern [.str "start"] lineRule.write :=
    wellFormedPattern_write.mpr ⟨hregex, haction, htarget⟩
  have hstate : WellFormedState [.str "start"] (State.write ⟨.str "start", [lineRule]⟩) :=
    wellFormedState_write.mpr ⟨rfl, List.cons_ne_nil _ _, List.forall_mem_singleton.mpr hrule⟩
  refine wellFormed_write.mpr ⟨truthy_id s clock, Value.truthy_orElse (truthy_id s clock),
    Value.truthy_orElse rfl, List.cons_ne_nil _ _, List.forall_mem_nil _,
    List.pairwise_singleton _ _, List.forall_mem_singleton.mpr hstate⟩

theorem validate_template (s : Starter) (clock : Double) :
    (s.template clock).validate = .ok [] := by
  have hcheckable : Checkable (s.template clock).write := by
    refine checkable_write ?_ ?_ ?_
    · exact List.forall_mem_singleton.mpr rfl
    · exact List.forall_mem_singleton.mpr (List.forall_mem_singleton.mpr (checkableRegex_str _))
    · refine List.forall_mem_singleton.mpr (List.forall_mem_singleton.mpr ?_)
      rintro goal ⟨⟩
      rfl
  have hdecides := decides_validate (s.template clock).write
  obtain ⟨problems, hproblems⟩ := hdecides.ends.mpr hcheckable
  rw [Template.validate, hproblems,
    (hdecides.fine problems hproblems).mpr (wellFormed_template s clock)]

/-! ## The machine -/

/-- The rule that takes a line as a whole, with its pattern read. -/
def wholeRule (pattern : Regex.Pattern) : Machine.Rule where
  index := 0
  pattern := pattern
  rename := lineRule.rename
  actions := lineRule.actions
  transition := lineRule.transition

/-- The machine of a starter template, with the pattern of its rule read. -/
def machine (s : Starter) (clock : Double) (pattern : Regex.Pattern) : Machine where
  template := s.template clock
  states := [(.str "start", ⟨.str "start", [wholeRule pattern]⟩)]
  start := .str "start"
  types := []

theorem ofTemplate_template (hp : TakesLines pattern) (s : Starter) (clock : Double) :
    Machine.ofTemplate (s.template clock) = .ok (s.machine clock pattern) := by
  have hrule : Machine.Rule.ofTemplate (.str "start") 0 lineRule = .ok (wholeRule pattern) := by
    rw [Machine.Rule.ofTemplate, hp.ofValues]
    rfl
  have hstate : Machine.State.ofTemplate ⟨.str "start", [lineRule]⟩ =
      .ok ⟨.str "start", [wholeRule pattern]⟩ := by
    rw [Machine.State.ofTemplate, Machine.Rule.ofTemplates, hrule]
    rfl
  have hentry : Machine.stateEntry ⟨.str "start", [lineRule]⟩ =
      .ok (.str "start", ⟨.str "start", [wholeRule pattern]⟩) := by
    rw [Machine.stateEntry, hstate]
    rfl
  have hstates : (s.template clock).states.mapM Machine.stateEntry =
      .ok (s.machine clock pattern).states := by
    rw [template, List.mapM_cons, hentry]
    rfl
  rw [Machine.ofTemplate, hstates]
  rfl

/-! ## Runs -/

/-- The variables once some lines were read: the last line, if there is one. -/
def lastLine (lines : List String) : Table Value :=
  lines.getLast?.toList.map fun line ↦ (.str "line", .str line)

/-- Holds where a run over some lines has captured each of them. -/
structure Captured (past : List String) (c : Config) : Prop where
  status : c.status = .running
  state : c.state = .str "start"
  bindings : c.bindings = lastLine past
  records : c.records = []
  lines : c.lines = past.length
  matched : c.matched = past.length

theorem captured_begin (s : Starter) (clock : Double) (pattern : Regex.Pattern) :
    Captured [] (s.machine clock pattern).begin :=
  ⟨rfl, rfl, rfl, rfl, rfl, rfl⟩

theorem put_lastLine (past : List String) (line : String) :
    Table.put (lastLine past) (.str "line") (.str line) = lastLine (past ++ [line]) := by
  rw [lastLine, lastLine, List.getLast?_concat]
  cases past.getLast? <;> rfl

theorem assign_line (s : Starter) (clock : Double) (pattern : Regex.Pattern) (o : Options)
    (line : String) (bindings : Table Value) :
    (s.machine clock pattern).assign o (.str "line") (.str line) bindings =
      .ok (Table.put bindings (.str "line") (.str line)) := by
  have hcoerce : (s.machine clock pattern).coerce o (.str "line") (.str line) =
      .ok (.str line) :=
    Machine.coerce_of_untyped (fun h ↦ by cases h) (fun h ↦ by cases h) o _
  rw [Machine.assign, Value.key_str, ok_bind, hcoerce, ok_bind]
  rfl

/-- The rule writes the line twice: its group does so, and its action once more. -/
theorem applyAll_line (s : Starter) (clock : Double) (pattern : Regex.Pattern) (o : Options)
    (line : String) (sheet : Machine.Sheet) :
    sheet.applyAll (s.machine clock pattern) o
        ((wholeRule pattern).changes [("line", some line)]) =
      .ok { sheet with bindings := Table.put sheet.bindings (.str "line") (.str line) } := by
  have hchanges : (wholeRule pattern).changes [("line", some line)] =
      [.write (.str "line") (.str line), .write (.str "line") (.str line)] := rfl
  have hwrite (sheet : Machine.Sheet) :
      sheet.apply (s.machine clock pattern) o (.write (.str "line") (.str line)) =
        .ok { sheet with bindings := Table.put sheet.bindings (.str "line") (.str line) } := by
    rw [Machine.Sheet.apply, assign_line, ok_bind]
    rfl
  rw [hchanges, Machine.Sheet.applyAll_cons, hwrite, ok_bind, Machine.Sheet.applyAll_cons, hwrite,
    ok_bind, Table.put_put]
  rfl

/-- One more line is captured. -/
theorem captured_step (hp : TakesLines pattern) {past : List String} {c : Config}
    (h : Captured past c) {line : String} (hline : '\n' ∉ line.toList) (clock : Double)
    (o : Options) :
    ∃ d, (s.machine clock pattern).step o c line = .ok d ∧ Captured (past ++ [line]) d := by
  have hentry : (s.machine clock pattern).stateAt? c.state =
      some ⟨.str "start", [wholeRule pattern]⟩ := by
    rw [h.state]
    rfl
  have hmatch : Machine.State.firstMatch? ⟨.str "start", [wholeRule pattern]⟩ line =
      some (wholeRule pattern, [("line", some line)]) := by
    have hcaptures : (wholeRule pattern).pattern.captures? line = some [("line", some line)] :=
      hp.captures line hline
    rw [Machine.State.firstMatch?, List.findSome?_cons, hcaptures]
    rfl
  have hsourced : ∀ a ∈ (wholeRule pattern).actions, Machine.SourcedAction a := by
    refine List.forall_mem_singleton.mpr ?_
    rintro group ⟨⟩
    rfl
  have hnext : nextState? (wholeRule pattern).transition c.state = some c.state := by
    rw [h.state]
    rfl
  have hsheet := applyAll_line s clock pattern o line c.sheet
  have hlook := Machine.look_of_changes hentry hmatch hsourced hsheet
  rw [Machine.follow_note, hnext] at hlook
  refine ⟨_, (Machine.step_of_running h.status line).trans hlook, h.status, h.state, ?_, h.records,
    ?_, ?_⟩
  · rw [← put_lastLine, ← h.bindings]
    rfl
  · rw [List.length_append, List.length_singleton, ← h.lines]
    rfl
  · rw [List.length_append, List.length_singleton, ← h.matched]

/-- A run captures all of its lines. -/
theorem captured_run (hp : TakesLines pattern) {lines : List String}
    (hlines : ∀ line ∈ lines, '\n' ∉ line.toList) (s : Starter) (clock : Double) (o : Options) :
    ∃ c, (s.machine clock pattern).run o lines = .ok c ∧ Captured lines c := by
  have hresume (past : List String) (c : Config) (hc : Captured past c) :
      ∃ d, (s.machine clock pattern).resume o c lines = .ok d ∧ Captured (past ++ lines) d := by
    induction lines generalizing past c with
    | nil => exact ⟨c, rfl, by rwa [List.append_nil]⟩
    | cons line lines ih =>
      obtain ⟨hline, hrest⟩ := List.forall_mem_cons.mp hlines
      obtain ⟨e, he, hcaptured⟩ := captured_step hp hc hline clock o
      obtain ⟨d, hd, hlast⟩ := ih hrest _ e hcaptured
      rw [List.append_assoc] at hlast
      exact ⟨d, Machine.resume_cons_eq_ok.mpr ⟨e, he, hd⟩, hlast⟩
  exact hresume [] _ (captured_begin s clock pattern)

/-- Running a starter template over a text has a result that accounts for all of its lines. -/
theorem parse_template (hp : TakesLines pattern) (hs : s.Textual) (clock : Double) (text : String)
    (o : Options) :
    ∃ r, (Engine.parse Cache.empty (.str text) (s.template clock) o).result = .ok r ∧
      r.records = [] ∧ r.errors = [] ∧ r.matched = (Text.splitLines text).length ∧
      r.linesProcessed = (Text.splitLines text).length := by
  obtain ⟨id, hid⟩ := exists_id hs clock
  have hkey : (s.template clock).id.key?.isSome = true := by
    rw [hid]
    rfl
  have hm := ofTemplate_template hp s clock
  obtain ⟨stored, hcompile⟩ := Engine.compile_empty hkey hm
  have hstored : stored.machine = s.machine clock pattern :=
    Except.ok.inj ((Engine.suits_empty _ stored hcompile).symm.trans hm)
  obtain ⟨c, hrun, hcaptured⟩ :
      ∃ c, (s.machine clock pattern).run o (Text.splitLines text) = .ok c ∧
        Captured (Text.splitLines text) c :=
    captured_run hp (fun _ ↦ Text.newline_not_mem_of_mem_splitLines) s clock o
  refine ⟨.ofConfig (s.template clock) o c, ?_, hcaptured.records, ?_, hcaptured.matched,
    hcaptured.lines⟩
  · rw [Engine.parse_result hcompile, hstored, hrun]
    rfl
  · refine Engine.errors_of_not_lost ?_
    rw [hcaptured.status]
    exact Machine.Status.noConfusion

/-- **Starter templates capture every line.** Whatever a starter template is made from, it is valid;
and if its id and its name are texts or not given, it can be run on a new cache over every text and
under all options. Its one pattern is found in every line, and its group captures the whole line.
The run has no records and no errors and matches as many lines as it processes, which are all lines
of the text; and wherever in the text it stands, its one variable holds the line that was read
last. -/
theorem captures_every_line (hs : s.Textual) (clock : Double) :
    (s.template clock).validate = .ok [] ∧
      ∃ m rule, Machine.ofTemplate (s.template clock) = .ok m ∧
        m.states = [(.str "start", ⟨.str "start", [rule]⟩)] ∧
        (∀ line : String, '\n' ∉ line.toList →
          rule.pattern.captures? line = some [("line", some line)]) ∧
        ∀ (text : String) (o : Options),
          (∃ r, (Engine.parse Cache.empty (.str text) (s.template clock) o).result = .ok r ∧
            r.records = [] ∧ r.errors = [] ∧ r.matched = (Text.splitLines text).length ∧
            r.linesProcessed = (Text.splitLines text).length) ∧
          ∀ lines, lines <+: Text.splitLines text →
            ∃ c, m.run o lines = .ok c ∧ c.bindings = lastLine lines := by
  obtain ⟨pattern, hp⟩ := exists_takesLines
  refine ⟨validate_template s clock, s.machine clock pattern, wholeRule pattern,
    ofTemplate_template hp s clock, rfl, hp.captures,
    fun text o ↦ ⟨parse_template hp hs clock text o, ?_⟩⟩
  intro lines hlines
  obtain ⟨c, hrun, hcaptured⟩ := captured_run hp
    (fun line hline ↦ Text.newline_not_mem_of_mem_splitLines (hlines.subset hline)) s clock o
  exact ⟨c, hrun, hcaptured.bindings⟩

/-- Nothing but a name is needed, and the lines of a text may be empty. -/
theorem captures_every_line_named :
    Textual { name := .str "Raw lines" } ∧
      ∃ r, (Engine.parse Cache.empty (.str "first\n\nlast")
          (template { name := .str "Raw lines" } (.ofInt 1700000000)) {}).result = .ok r ∧
        r.matched = 3 := by
  have hs : Textual { name := .str "Raw lines" } := ⟨.inl rfl, .inr ⟨_, rfl⟩⟩
  obtain ⟨-, m, rule, -, -, -, hruns⟩ := captures_every_line hs (.ofInt 1700000000)
  obtain ⟨⟨r, hr, -, -, hmatched, -⟩, -⟩ := hruns "first\n\nlast" {}
  exact ⟨hs, r, hr, hmatched⟩

end LineMachine.Starter
