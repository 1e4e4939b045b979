import LineMachine.Proofs.Cli.Reports
import LineMachine.Proofs.ControlSequence
import LineMachine.Proofs.Record.Grid

/-!
# Grids that are written

Records are shown line by line, and every line is written without its control sequences. The lines
show the records as a grid, but the widths in it are those of the texts before anything is removed.
So what is written is that grid if no control sequence occurs in its lines, which is so if there is
no escape character in the records; and a line with a sequence comes out too short
(`Memory.grid_of_sayRecords`).
-/

namespace LineMachine.Cli

open Record (ShowsGrid)
open Text (withoutControlSequences)
open Text.ControlSequence (Occurs escapeChar)

namespace Command

/-- A line is written without its control sequences, and ended. -/
theorem written_eq (line : String) : written line = withoutControlSequences line ++ "\n" :=
  Text.withoutControlSequences_ended line

end Command

namespace Memory

/-- What is written of lines. -/
theorem output_said (m : Memory) (lines : List String) :
    (m.said lines).output =
      m.output ++ String.join (lines.map fun line ↦ withoutControlSequences line ++ "\n") := by
  -- Every line is written behind the ones before, so the output in front has to be any.
  have hfold (output : String) :
      lines.foldl (fun output line ↦ output ++ Command.written line) output =
        output ++ String.join (lines.map fun line ↦ withoutControlSequences line ++ "\n") := by
    induction lines generalizing output with
    | nil => exact String.append_empty.symm
    | cons line lines ih =>
      rw [List.foldl_cons, ih, List.map_cons, String.join_cons, Command.written_eq,
        String.append_assoc]
  exact hfold m.output

/-- Lines without control sequences are written as they are. -/
theorem output_said_of_not_occurs (m : Memory) {lines : List String}
    (h : ∀ line ∈ lines, ¬ Occurs line.toList) :
    (m.said lines).output = m.output ++ String.join (lines.map (· ++ "\n")) := by
  rw [output_said]
  refine congrArg (m.output ++ String.join ·) (List.map_congr_left fun line hline ↦ ?_)
  rw [Text.withoutControlSequences_of_not_occurs (h line hline)]

theorem perform_sayRecords {records : List Record} {lines : List String}
    (h : Record.lines? records = some lines) (m : Memory) :
    m.perform (Command.sayRecords records) = (.ok (), m.said lines) := by
  have hsay := perform_forM_say m id lines
  rw [List.map_id] at hsay
  rw [Command.sayRecords, h]
  exact hsay

/-- **What is written of records.** Of any records whose keys are texts, the lines of a grid that
shows them are written, each without its control sequences. If none occurs, then the grid itself is
written; this is so if no escape character is in a title or a cell. A line with a control sequence
comes out shorter than the grid is wide. -/
theorem grid_of_sayRecords (m : Memory) {records : List Record} (hne : records ≠ [])
    (hkeys : Record.TextKeyed records) :
    ∃ titles widths lines, ShowsGrid records titles widths lines ∧
      Record.lines? records = some lines ∧
      m.perform (Command.sayRecords records) = (.ok (), m.said lines) ∧
      (m.said lines).output =
        m.output ++ String.join (lines.map fun line ↦ withoutControlSequences line ++ "\n") ∧
      ((∀ line ∈ lines, ¬ Occurs line.toList) →
        (m.said lines).output = m.output ++ String.join (lines.map (· ++ "\n"))) ∧
      ((∀ title ∈ titles, escapeChar ∉ title.toList ∧
          ∀ r ∈ records, escapeChar ∉ (Record.cellAt r title).toList) →
        ∀ line ∈ lines, ¬ Occurs line.toList) ∧
      ∀ line ∈ lines, Occurs line.toList →
        (withoutControlSequences line).length < Record.gridWidth widths := by
  obtain ⟨titles, widths, lines, hlines, hgrid⟩ := Record.showsGrid_lines hne hkeys
  refine ⟨titles, widths, lines, hgrid, hlines, perform_sayRecords hlines m, output_said m lines,
    output_said_of_not_occurs m, ?_, ?_⟩
  · intro hescape line hline hoccurs
    have hmem := Text.ControlSequence.mem_of_occurs hoccurs
    rcases hgrid.made line hline _ hmem with hblank | hdash | ⟨title, htitle, hcell⟩
    · exact absurd hblank (by decide)
    · exact absurd hdash (by decide)
    · obtain ⟨hfree, hcells⟩ := hescape title htitle
      rcases hcell with htext | ⟨r, hr, htext⟩
      · exact hfree htext
      · exact hcells r hr htext
  · intro line hline hoccurs
    rw [← hgrid.level line hline]
    exact Text.length_withoutControlSequences_lt hoccurs

/-- Records of which no two have the same keys. -/
def ragged : List Record := [
  [(.str "port", .str "1"), (.str "seen", .list [.str "1", .str "2"])],
  [(.str "port", .null), (.str "name", .str "uplink")]]

/-- Every cell of ragged records is written below the title of its column. -/
theorem grid_of_sayRecords_ragged :
    ∃ lines,
      ({} : Memory).perform (Command.sayRecords ragged) = (.ok (), ({} : Memory).said lines) ∧
      (({} : Memory).said lines).output =
        "port  seen  name  \n----  ----  ------\n1     1, 2        \n            uplink\n" ∧
      ∀ line ∈ lines, line.length = 18 := by
  have hkeys : Record.TextKeyed ragged := by
    refine List.forall_mem_cons.mpr ⟨?_, List.forall_mem_singleton.mpr ?_⟩
    · exact List.forall_mem_cons.mpr ⟨⟨_, rfl⟩, List.forall_mem_singleton.mpr ⟨_, rfl⟩⟩
    · exact List.forall_mem_cons.mpr ⟨⟨_, rfl⟩, List.forall_mem_singleton.mpr ⟨_, rfl⟩⟩
  obtain ⟨titles, widths, lines, hgrid, hlines, hperform, houtput, -⟩ :=
    grid_of_sayRecords {} (by decide) hkeys
  have hlines' : Record.lines? ragged = some ["port  seen  name  ", "----  ----  ------",
    "1     1, 2        ", "            uplink"] := by decide +kernel
  cases hlines.symm.trans hlines'
  refine ⟨_, hperform, ?_, fun line hline ↦ ?_⟩
  · rw [houtput]
    decide +kernel
  · rw [hgrid.level line hline, ← hgrid.level _ List.mem_cons_self]
    rfl

/-- Two cells, one of which is written in bold. -/
def colored : List Record := [
  [(.str "v", .str "\x1b[1mon\x1b[0m")],
  [(.str "v", .str "off")]]

/-- The cell in bold is written as two characters, below a title and dashes of ten. -/
theorem not_level_colored :
    (({} : Memory).perform (Command.sayRecords colored)).2.output =
        "v         \n----------\non\noff       \n" ∧
      ¬ ∃ width, ∀ line ∈ Text.splitLines
        (({} : Memory).perform (Command.sayRecords colored)).2.output, line.length = width := by
  have houtput : (({} : Memory).perform (Command.sayRecords colored)).2.output =
      "v         \n----------\non\noff       \n" := by decide +kernel
  have hsplit : Text.splitLines "v         \n----------\non\noff       \n" =
      ["v         ", "----------", "on", "off       "] := by decide +kernel
  refine ⟨houtput, ?_⟩
  rw [houtput, hsplit]
  rintro ⟨width, hwidth⟩
  have htitle := hwidth "v         " List.mem_cons_self
  have hcell := hwidth "on" (by decide)
  exact absurd (htitle.trans hcell.symm) (by decide)

end Memory

end LineMachine.Cli
