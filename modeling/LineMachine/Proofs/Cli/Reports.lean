import LineMachine.Proofs.Cli.Files
import LineMachine.Proofs.Json.RoundTrip
import LineMachine.Proofs.Template.Misuse

/-!
# What validating files reports

The command that validates documents goes through its files one after the other. Of a text that is
no JSON, and of a document that can be checked, it writes a report; a document with a misuse, and a
numeral that is too long, stop it on the spot, and the files behind are not looked at.

So what the command comes to is decided file by file (`Report.of`): if all files are *reportable* it
reports each of them and tells whether all documents are valid, and otherwise it reports those in
front of the first that is not (`Memory.reports_of_validate`).
-/

namespace LineMachine.Cli

open Command

/-! ## Reports -/

/-- What is told of a file: some lines, and whether its document is valid. -/
structure Report where
  lines : List String
  valid : Bool

/-- The report on a file with a text, or the crash in place of it. -/
def Report.of (path text : String) : Except Crash Report :=
  match Json.read? (Text.universalNewlines text) with
  | .error .longNumeral => .error (.json .longNumeral)
  | .error fault => .ok ⟨[badMark ++ path ++ ": invalid JSON: " ++ fault.message], false⟩
  | .ok doc =>
    match Validation.validate doc with
    | .error fault => .error (.fault fault)
    | .ok problems => .ok {
        lines := ((if problems.isEmpty then goodMark else badMark) ++ path) ::
          problems.map fun p ↦ "    " ++ p.message
        valid := problems.isEmpty }

/-- Holds of a text that is reported on: it has no numeral that is too long, and if it is a document
that can be checked. -/
def Reportable (text : String) : Prop :=
  match Json.read? (Text.universalNewlines text) with
  | .error fault => fault ≠ .longNumeral
  | .ok doc => Validation.Checkable doc

theorem exists_report_iff (path : String) {text : String} :
    (∃ r, Report.of path text = .ok r) ↔ Reportable text := by
  rw [Report.of, Reportable]
  cases Json.read? (Text.universalNewlines text) with
  | error fault => cases fault <;> simp
  | ok doc =>
    simp only [← (Validation.decides_validate doc).ends]
    cases Validation.validate doc <;> simp

/-! ## Writing lines -/

namespace Memory

/-- A host to which lines were written. -/
def said (m : Memory) (lines : List String) : Memory :=
  { m with output := lines.foldl (fun output line ↦ output ++ written line) m.output }

theorem said_append (m : Memory) (xs ys : List String) :
    m.said (xs ++ ys) = (m.said xs).said ys := by
  rw [said, said, said, List.foldl_append]

theorem perform_say (m : Memory) (line : String) :
    m.perform (say line) = (.ok (), m.said [line]) := rfl

theorem perform_forM_say {α : Type} (m : Memory) (line : α → String) (xs : List α) :
    m.perform (xs.forM fun x ↦ say (line x)) = (.ok (), m.said (xs.map line)) := by
  induction xs generalizing m with
  | nil => rfl
  | cons x xs ih =>
    exact (perform_bind (perform_say m (line x)) _).trans (ih _)

/-! ## Validating files -/

/-- Holds of files that are there, each with its text. -/
def Holds (m : Memory) (files : List (String × String)) : Prop :=
  ∀ f ∈ files, m.files.kindOf f.1 = some .file ∧ m.files.read? f.1 = some f.2

theorem perform_validateFile {m : Memory} {path text : String}
    (hkind : m.files.kindOf path = some .file) (htext : m.files.read? path = some text) :
    m.perform (validateFile path) =
      match Report.of path text with
      | .ok r => (.ok r.valid, m.said r.lines)
      | .error crash => (.error (.crashed crash), m) := by
  rw [validateFile, perform_bind (perform_readDocument hkind htext), Report.of]
  cases Json.read? (Text.universalNewlines text) with
  | error fault =>
    cases fault with
    | longNumeral => rfl
    | malformed cause line column offset => exact perform_bind (perform_say m _) _
  | ok doc =>
    simp only
    cases hvalidate : Validation.validate doc with
    | error fault => rfl
    | ok problems =>
      have hproblems : m.perform (orCrash (.ok problems)) = (.ok problems, m) := rfl
      have hlines := perform_forM_say
        (m.said [(if problems.isEmpty then goodMark else badMark) ++ path])
        (fun p : Problem ↦ "    " ++ p.message) problems
      rw [← said_append] at hlines
      rw [perform_bind hproblems, perform_bind (perform_say m _), perform_bind hlines]
      rfl

section Files

variable {m : Memory} {files : List (String × String)}

/-- Files that are all reported on are reported on one after the other. -/
theorem perform_validateFiles (h : m.Holds files) {reports : List Report}
    (hreports : List.Forall₂ (fun f r ↦ Report.of f.1 f.2 = .ok r) files reports) :
    m.perform ((files.map Prod.fst).mapM validateFile) =
      (.ok (reports.map Report.valid), m.said (reports.flatMap Report.lines)) := by
  induction hreports generalizing m with
  | nil => rfl
  | @cons f r files reports hr hreports ih =>
    obtain ⟨⟨hkind, htext⟩, hrest⟩ := List.forall_mem_cons.mp h
    have hfile := perform_validateFile hkind htext
    rw [hr] at hfile
    have hothers := ih (m := m.said r.lines) hrest
    rw [List.map_cons, List.mapM_cons, perform_bind hfile, perform_bind hothers, List.flatMap_cons,
      said_append]
    rfl

/-- A file that is not reported on stops the command. -/
theorem perform_validate_crash {before after : List (String × String)} {f : String × String}
    (h : m.Holds (before ++ f :: after)) {reports : List Report} {crash : Crash}
    (hreports : List.Forall₂ (fun f r ↦ Report.of f.1 f.2 = .ok r) before reports)
    (hcrash : Report.of f.1 f.2 = .error crash) :
    m.perform (validate ((before ++ f :: after).map Prod.fst)) =
      (.error (.crashed crash), m.said (reports.flatMap Report.lines)) := by
  obtain ⟨hbefore, hrest⟩ := List.forall_mem_append.mp h
  obtain ⟨hkind, htext⟩ := (List.forall_mem_cons.mp hrest).1
  have hfile := perform_validateFile (m := m.said (reports.flatMap Report.lines)) hkind htext
  rw [hcrash] at hfile
  refine perform_bind_error ?_ _
  rw [List.map_append, List.map_cons, List.mapM_append,
    perform_bind (perform_validateFiles hbefore hreports), List.mapM_cons]
  exact perform_bind_error (perform_bind_error hfile _) _

/-- Where all files are reported on, the command tells whether all documents are valid. -/
theorem perform_validate (h : m.Holds files) {reports : List Report}
    (hreports : List.Forall₂ (fun f r ↦ Report.of f.1 f.2 = .ok r) files reports) :
    m.perform (validate (files.map Prod.fst)) =
      (if reports.all Report.valid then .ok () else .error .failed,
        m.said (reports.flatMap Report.lines)) := by
  rw [validate, perform_bind (perform_validateFiles h hreports), List.all_map, Function.id_comp]
  split <;> rfl

theorem exists_reports (h : ∀ f ∈ files, Reportable f.2) :
    ∃ reports, List.Forall₂ (fun f r ↦ Report.of f.1 f.2 = .ok r) files reports := by
  obtain ⟨reports, hreports⟩ :=
    exists_mapM_iff.mpr fun f hf ↦ (exists_report_iff f.1).mpr (h f hf)
  exact ⟨reports, mapM_eq_ok.mp hreports⟩

/-- **What validating files comes to.** Validation of a document stops with the first misuse in it,
if there is one, so it returns exactly on documents that can be checked. If all files are reportable
the command reports on each of them, and fails if one of the documents is not valid; otherwise it
crashes at the first file that is not, and has reported on those in front of it only. -/
theorem reports_of_validate (h : m.Holds files) :
    (∀ doc, ((∃ problems, Validation.validate doc = .ok problems) ↔ Validation.Checkable doc) ∧
        (∀ fault, Validation.validate doc = .error fault ↔
          (Validation.misuses doc).head? = some fault) ∧
        ∀ fault ∈ Validation.misuses doc, fault.isTemplateFault = false) ∧
      ((∀ f ∈ files, Reportable f.2) →
        ∃ reports, List.Forall₂ (fun f r ↦ Report.of f.1 f.2 = .ok r) files reports ∧
          m.perform (validate (files.map Prod.fst)) =
            (if reports.all Report.valid then .ok () else .error .failed,
              m.said (reports.flatMap Report.lines))) ∧
      ∀ before f after, files = before ++ f :: after → (∀ g ∈ before, Reportable g.2) →
        ¬ Reportable f.2 →
          ∃ reports crash, List.Forall₂ (fun f r ↦ Report.of f.1 f.2 = .ok r) before reports ∧
            Report.of f.1 f.2 = .error crash ∧
            m.perform (validate (files.map Prod.fst)) =
              (.error (.crashed crash), m.said (reports.flatMap Report.lines)) := by
  refine ⟨fun doc ↦ ?_, fun hall ↦ ?_, fun before f after hsplit hall hf ↦ ?_⟩
  · have hstops := Validation.stopsAtFirst_validate doc
    exact ⟨(Validation.decides_validate doc).ends, fun fault ↦ hstops.eq_error_iff,
      Validation.isTemplateFault_of_misuses doc⟩
  · obtain ⟨reports, hreports⟩ := exists_reports hall
    exact ⟨reports, hreports, perform_validate h hreports⟩
  · obtain ⟨reports, hreports⟩ := exists_reports hall
    cases hcrash : Report.of f.1 f.2 with
    | ok r => exact absurd ((exists_report_iff f.1).mp ⟨r, hcrash⟩) hf
    | error crash =>
      subst hsplit
      exact ⟨reports, crash, hreports, rfl, perform_validate_crash h hreports hcrash⟩

end Files

/-! ## A shelf of documents -/

/-- A document with one state, of a given name, and one pattern, with given flags. -/
def small (name flags : Value) : Value :=
  Value.ofFields [("id", .str "t"), ("name", .str "T"), ("vendor", .str "v"),
    ("states", .list [Value.ofFields [("name", name), ("patterns", .list [Value.ofFields
      [("regex", .str "x"), ("flags", flags)]])]])]

/-- The text of a small document is read as it was written. -/
theorem read_small (name flags : Value) (hname : name.NumberFree) (hflags : flags.NumberFree) :
    Json.read? (Text.universalNewlines (Json.indented (small name flags))) =
      .ok (small name flags) := by
  have hfree : (small name flags).NumberFree := by
    refine .ofFields (by simp) ?_
    simp only [List.forall_mem_cons, List.not_mem_nil, false_imp_iff, implies_true, and_true]
    refine ⟨.str "t", .str "T", .str "v", .list (List.forall_mem_singleton.mpr
      (.ofFields (by simp) ?_))⟩
    simp only [List.forall_mem_cons, List.not_mem_nil, false_imp_iff, implies_true, and_true]
    refine ⟨hname, .list (List.forall_mem_singleton.mpr (.ofFields (by simp) ?_))⟩
    simp only [List.forall_mem_cons, List.not_mem_nil, false_imp_iff, implies_true, and_true]
    exact ⟨.str "x", hflags⟩
  have hblanks : Json.Blanks "".toList := List.forall_mem_nil _
  rw [← String.append_empty (s := Json.indented _), Json.indented,
    Json.universalNewlines_write Json.Layout.loose_lines hfree 0 hblanks]
  exact Json.read?_write Json.Layout.loose_lines hfree 0 hblanks

/-- A text of a document that cannot be checked: its state is named by a list. -/
@[irreducible]
def listedText : String :=
  Json.indented (small (.list [.str "s"]) .null)

/-- A text of a valid document. -/
@[irreducible]
def plainText : String :=
  Json.indented (small (.str "s") .null)

theorem report_listedText :
    Report.of "listed.json" listedText = .error (.fault (.notScalar "list")) := by
  have hread := read_small (.list [.str "s"]) .null
    (.list (List.forall_mem_singleton.mpr (.str "s"))) .null
  rw [Report.of, listedText, hread]
  rfl

theorem report_plainText : Report.of "plain.json" plainText = .ok ⟨["✓ plain.json"], true⟩ := by
  have hread := read_small (.str "s") .null (.str "s") .null
  rw [Report.of, plainText, hread]
  rfl

/-- A host with the two texts. -/
def shelf : Memory where
  files := [(["listed.json"], listedText), (["plain.json"], plainText)]

theorem holds_listed : shelf.Holds [("listed.json", listedText)] :=
  List.forall_mem_singleton.mpr ⟨rfl, rfl⟩

theorem holds_plain : shelf.Holds [("plain.json", plainText)] :=
  List.forall_mem_singleton.mpr ⟨rfl, rfl⟩

/-- The valid document is reported on, and the one behind it stops the command. -/
theorem reports_of_validate_shelf :
    Validation.validate (small (.list [.str "s"]) .null) = .error (.notScalar "list") ∧
      shelf.perform (validate ["plain.json"]) = (.ok (), shelf.said ["✓ plain.json"]) ∧
      shelf.perform (validate ["plain.json", "listed.json"]) =
        (.error (.crashed (.fault (.notScalar "list"))), shelf.said ["✓ plain.json"]) := by
  have hplain : Reportable plainText :=
    (exists_report_iff "plain.json").mp ⟨_, report_plainText⟩
  have hlisted : ¬ Reportable listedText := by
    rw [← exists_report_iff "listed.json", report_listedText]
    exact (nomatch ·)
  obtain ⟨hdoc, hall, -⟩ := reports_of_validate holds_plain
  obtain ⟨-, -, hcrash⟩ :=
    reports_of_validate (List.forall_mem_append.mpr ⟨holds_plain, holds_listed⟩)
  refine ⟨((hdoc _).2.1 _).mpr rfl, ?_, ?_⟩
  · obtain ⟨reports, hreports, hrun⟩ := hall (List.forall_mem_singleton.mpr hplain)
    cases hreports with
    | cons hr hrest =>
      cases hrest
      cases report_plainText.symm.trans hr
      exact hrun
  · obtain ⟨reports, crash, hreports, hof, hrun⟩ :=
      hcrash _ _ [] rfl (List.forall_mem_singleton.mpr hplain) hlisted
    cases hreports with
    | cons hr hrest =>
      cases hrest
      cases report_plainText.symm.trans hr
      cases report_listedText.symm.trans hof
      exact hrun

/-- Validation has no answer for a state that is named by a list or for flags that are a number, and
a valid document is not reported on behind such a one. -/
theorem not_reported :
    Validation.validate (small (.list [.str "s"]) .null) = .error (.notScalar "list") ∧
      Validation.validate (small (.str "s") (.int 5)) =
        .error (.pattern (.flagsNotIterable "int")) ∧
      Report.of "plain.json" plainText = .ok ⟨["✓ plain.json"], true⟩ ∧
      shelf.perform (validate ["listed.json", "plain.json"]) =
        (.error (.crashed (.fault (.notScalar "list"))), shelf) := by
  have hholds : shelf.Holds ([] ++ ("listed.json", listedText) :: [("plain.json", plainText)]) :=
    List.forall_mem_cons.mpr ⟨holds_listed _ List.mem_cons_self, holds_plain⟩
  exact ⟨rfl, rfl, report_plainText, perform_validate_crash hholds .nil report_listedText⟩

end Memory

end LineMachine.Cli
