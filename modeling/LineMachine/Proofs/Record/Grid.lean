import LineMachine.Proofs.Record.Columns
import LineMachine.Record.Grid

/-!
# What the grid of records shows

The widths of columns are found before any line is made, and every line is made of its own cells. As
no cell is wider than its column (`Fits`), the lines come out equally long (`length_gridLine`), and
the place of a cell in its line depends on the widths in front of it only: what stands between the
offset of a column and its width is the cell, filled up with blanks (`slice_gridLine`).

So a grid of records whose keys are texts can be read off its lines (`ShowsGrid`,
`showsGrid_lines`): its columns are the keys in the order in which they are first met, every cell
can be cut out at its place, and no column is wider than it has to be.
-/

namespace LineMachine

/-! ## Slices of padded texts -/

namespace Text

/-- So many characters of a text, from an offset on. -/
def slice (offset width : Nat) (s : String) : String :=
  String.ofList ((s.toList.drop offset).take width)

@[simp] theorem length_repeated (c : Char) (n : Nat) : (repeated c n).length = n := by
  rw [repeated, String.length_ofList, List.length_replicate]

theorem length_padRight {s : String} {width : Nat} (h : s.length ≤ width) :
    (padRight width s).length = width := by
  rw [padRight, String.length_append, length_repeated]
  omega

/-- A text that fills its width is not padded. -/
theorem padRight_of_length {s : String} {width : Nat} (h : s.length = width) :
    padRight width s = s := by
  rw [padRight, h, Nat.sub_self]
  exact String.append_empty

theorem slice_append_left {s : String} {width : Nat} (h : s.length = width) (t : String) :
    slice 0 width (s ++ t) = s := by
  rw [slice, String.toList_append, List.drop_zero,
    List.take_left' (String.length_toList.trans h), String.ofList_toList]

theorem slice_self {s : String} {width : Nat} (h : s.length = width) : slice 0 width s = s := by
  rw [slice, List.drop_zero, List.take_of_length_le (String.length_toList.trans h).le,
    String.ofList_toList]

theorem slice_append_right {s : String} {n : Nat} (h : s.length = n) (offset width : Nat)
    (t : String) : slice (n + offset) width (s ++ t) = slice offset width t := by
  rw [slice, String.toList_append, ← List.drop_drop,
    List.drop_left' (String.length_toList.trans h), slice]

end Text

namespace Record

open Text (slice padRight repeated)

/-! ## Lines of cells -/

/-- Holds of cells that are not wider than their columns. -/
def Fits (widths : List Nat) (cells : List String) : Prop :=
  List.Forall₂ (fun width cell ↦ cell.length ≤ width) widths cells

/-- The widths of columns together, and two blanks for each of them. -/
def extent (widths : List Nat) : Nat :=
  widths.foldr (fun width rest ↦ width + 2 + rest) 0

theorem extent_cons (width : Nat) (widths : List Nat) :
    extent (width :: widths) = width + 2 + extent widths := rfl

/-- The length of a line whose columns have given widths: no blanks stand behind the last one. -/
def gridWidth (widths : List Nat) : Nat :=
  extent widths - 2

/-- Where a column starts: behind the columns in front of it, and two blanks for each of them. -/
def columnOffset (widths : List Nat) (j : Nat) : Nat :=
  extent (widths.take j)

theorem gridLine_singleton (width : Nat) (cell : String) :
    gridLine [width] [cell] = padRight width cell := by
  refine String.toList_inj.mp ?_
  rw [gridLine, Text.joinWith, String.toList_intercalate]
  exact List.intercalate_singleton

theorem gridLine_cons_cons (width width' : Nat) (widths : List Nat) (cell cell' : String)
    (cells : List String) :
    gridLine (width :: width' :: widths) (cell :: cell' :: cells) =
      padRight width cell ++ "  " ++ gridLine (width' :: widths) (cell' :: cells) := by
  refine String.toList_inj.mp ?_
  rw [gridLine, gridLine, Text.joinWith, Text.joinWith, String.toList_append, String.toList_append,
    String.toList_intercalate, String.toList_intercalate]
  exact List.intercalate_cons_cons

/-- All lines whose cells fit into their columns are equally long. -/
theorem length_gridLine {widths : List Nat} {cells : List String} (h : Fits widths cells) :
    (gridLine widths cells).length = gridWidth widths := by
  induction h with
  | nil => rfl
  | @cons width cell widths cells hcell hcells ih =>
    cases hcells with
    | nil =>
      rw [gridLine_singleton, Text.length_padRight hcell]
      rfl
    | cons hnext hrest =>
      rw [gridLine_cons_cons, String.length_append, String.length_append,
        Text.length_padRight hcell, ih]
      simp only [gridWidth, extent_cons]
      change _ + 2 + _ = _
      omega

/-- **A cell stands at the offset of its column**, filled up with blanks to the width. -/
theorem slice_gridLine {widths : List Nat} {cells : List String} (h : Fits widths cells) {j : Nat}
    {width : Nat} {cell : String} (hwidth : widths[j]? = some width)
    (hcell : cells[j]? = some cell) :
    slice (columnOffset widths j) width (gridLine widths cells) = padRight width cell := by
  -- The induction is along the columns, with the place of the cell among those that are left.
  induction h generalizing j with
  | nil => cases hcell
  | @cons first text widths cells hfirst hrest ih =>
    have hlength := Text.length_padRight hfirst
    cases j with
    | zero =>
      cases hwidth
      cases hcell
      cases hrest with
      | nil =>
        rw [gridLine_singleton]
        exact Text.slice_self hlength
      | cons hnext hlater =>
        rw [gridLine_cons_cons, String.append_assoc]
        exact Text.slice_append_left hlength _
    | succ j =>
      rw [List.getElem?_cons_succ] at hwidth hcell
      have hoffset :
          columnOffset (first :: widths) (j + 1) = first + 2 + columnOffset widths j := rfl
      cases hrest with
      | nil => cases hcell
      | cons hnext hlater =>
        have hfront : (padRight first text ++ "  ").length = first + 2 := by
          rw [String.length_append, hlength]
          rfl
        rw [gridLine_cons_cons, hoffset, Text.slice_append_right hfront]
        exact ih hwidth hcell

/-- The characters of a line are those of its cells, and blanks. -/
theorem mem_gridLine {widths : List Nat} {cells : List String} (h : Fits widths cells) {c : Char}
    (hc : c ∈ (gridLine widths cells).toList) : c = ' ' ∨ ∃ cell ∈ cells, c ∈ cell.toList := by
  have hpadded {width : Nat} {cell : String} (hmem : c ∈ (padRight width cell).toList) :
      c = ' ' ∨ c ∈ cell.toList := by
    rw [padRight, String.toList_append, List.mem_append, repeated, String.toList_ofList] at hmem
    exact hmem.symm.imp_left List.eq_of_mem_replicate
  induction h with
  | nil => cases hc
  | @cons width cell widths cells hcell hcells ih =>
    cases hcells with
    | nil =>
      rw [gridLine_singleton] at hc
      exact (hpadded hc).imp_right fun hmem ↦ ⟨cell, List.mem_cons_self, hmem⟩
    | cons hnext hrest =>
      rw [gridLine_cons_cons, String.toList_append, String.toList_append, List.mem_append,
        List.mem_append] at hc
      rcases hc with (hmem | hblank) | hlater
      · exact (hpadded hmem).imp_right fun hmem ↦ ⟨cell, List.mem_cons_self, hmem⟩
      · exact .inl (List.eq_of_mem_replicate (n := 2) hblank)
      · exact (ih hlater).imp_right fun ⟨text, htext, hmem⟩ ↦
          ⟨text, List.mem_cons_of_mem _ htext, hmem⟩

/-! ## Widths -/

/-- The width of a column is the greatest one of its name and its cells. -/
theorem max?_columnWidth (records : List Record) (column : String) :
    (column.length :: records.map fun r ↦ (cellAt r column).length).max? =
      some (columnWidth records column) :=
  List.max?_cons'

theorem columnWidth_reached (records : List Record) (column : String) :
    column.length = columnWidth records column ∨
      ∃ r ∈ records, (cellAt r column).length = columnWidth records column := by
  have hmem := (List.max?_eq_some_iff.mp (max?_columnWidth records column)).1
  rcases List.mem_cons.mp hmem with hname | hcell
  · exact .inl hname.symm
  · exact .inr (List.mem_map.mp hcell)

theorem length_le_columnWidth (records : List Record) (column : String) :
    column.length ≤ columnWidth records column :=
  (List.max?_eq_some_iff.mp (max?_columnWidth records column)).2 _ List.mem_cons_self

theorem cellAt_le_columnWidth {records : List Record} {r : Record} (hr : r ∈ records)
    (column : String) : (cellAt r column).length ≤ columnWidth records column :=
  (List.max?_eq_some_iff.mp (max?_columnWidth records column)).2 _
    (List.mem_cons_of_mem _ (List.mem_map_of_mem hr))

/-! ## Columns -/

/-- Holds of records whose keys are texts. -/
def TextKeyed (records : List Record) : Prop :=
  ∀ r ∈ records, ∀ k ∈ Table.keys r, ∃ s, k = .str s

theorem normal_of_texts {records : List Record} (h : TextKeyed records) {keys : List Key}
    (hkeys : keys ⊆ records.flatMap Table.keys) : keys.map Key.normal = keys := by
  refine (List.map_congr_left fun k hk ↦ ?_).trans (List.map_id _)
  obtain ⟨r, hr, hmem⟩ := List.mem_flatMap.mp (hkeys hk)
  obtain ⟨s, rfl⟩ := h r hr k hmem
  rfl

/-- The name of a column, if it is a text. -/
def title? : Key → Option String
  | .str s => some s
  | _ => none

theorem mapM_title?_eq_some {keys : List Key} {titles : List String} :
    keys.mapM title? = some titles ↔ keys = titles.map Key.str := by
  induction keys generalizing titles with
  | nil =>
    cases titles with
    | nil => exact ⟨fun _ ↦ rfl, fun _ ↦ rfl⟩
    | cons title titles => exact ⟨(nomatch ·), (nomatch ·)⟩
  | cons k keys ih =>
    rw [List.mapM_cons]
    constructor
    · intro h
      obtain ⟨s, hs, hrest⟩ := Option.bind_eq_some_iff.mp h
      obtain ⟨others, hothers, hcons⟩ := Option.bind_eq_some_iff.mp hrest
      cases hcons
      cases k <;> cases hs
      exact congrArg (Key.str s :: ·) (ih.mp hothers)
    · intro h
      obtain ⟨s, others, rfl, rfl, hmap⟩ := List.map_eq_cons_iff.mp h.symm
      rw [ih.mpr hmap.symm]
      rfl

/-- The titles are the columns, if all of them are texts. -/
theorem columnTitles?_eq_some {records : List Record} {titles : List String} :
    columnTitles? records = some titles ↔ columns records = titles.map Key.str := by
  have htitle : columnTitles? records = (columns records).mapM title? := by
    rw [columnTitles?]
    congr
  rw [htitle, mapM_title?_eq_some]

/-- If all keys are texts, then so are the columns. -/
theorem exists_columns_eq {records : List Record} (h : TextKeyed records) :
    ∃ titles : List String, columns records = titles.map Key.str := by
  have hrange : columns records ∈ Set.range (List.map Key.str) := by
    rw [Set.range_list_map]
    intro k hk
    obtain ⟨r, hr, hmem⟩ := List.mem_flatMap.mp (columns_subset records hk)
    obtain ⟨s, rfl⟩ := h r hr k hmem
    exact Set.mem_range_self s
  obtain ⟨titles, htitles⟩ := hrange
  exact ⟨titles, htitles.symm⟩

/-! ## The grid -/

/-- Holds of a column that can be read off the lines of a grid, from its offset on. -/
structure ShowsColumn (records : List Record) (title : String) (offset width : Nat)
    (lines : List String) : Prop where
  /-- The first line has the name of the column. -/
  header : lines[0]?.map (slice offset width) = some (padRight width title)
  /-- The second one has dashes. -/
  dashes : lines[1]?.map (slice offset width) = some (repeated '-' width)
  /-- The others have the cells of the records. -/
  rows : ∀ i r, records[i]? = some r →
    lines[i + 2]?.map (slice offset width) = some (padRight width (cellAt r title))
  /-- A cell that is missing or null is empty. -/
  blank : ∀ r ∈ records,
    (Table.find? r (.str title)).getD .null = .null → cellAt r title = ""
  /-- Nothing is cut off. -/
  title_le : title.length ≤ width
  cell_le : ∀ r ∈ records, (cellAt r title).length ≤ width
  /-- The column is not wider than it has to be. -/
  reached : title.length = width ∨ ∃ r ∈ records, (cellAt r title).length = width

/-- Holds of lines that show records as a grid. -/
structure ShowsGrid (records : List Record) (titles : List String) (widths : List Nat)
    (lines : List String) : Prop where
  /-- There is a line of names, one of dashes, and one for each record. -/
  count : lines.length = records.length + 2
  /-- All lines are equally long. -/
  level : ∀ line ∈ lines, line.length = gridWidth widths
  /-- The columns are the keys of the records, each one once. -/
  titled : ∀ s, s ∈ titles ↔ ∃ r ∈ records, Key.str s ∈ Table.keys r
  distinct : titles.Nodup
  /-- They stand in the order in which they are first met. -/
  ordered : titles.Pairwise fun s t ↦
    (records.flatMap Table.keys).idxOf (.str s) < (records.flatMap Table.keys).idxOf (.str t)
  /-- Besides titles and cells, the lines have blanks and dashes only. -/
  made : ∀ line ∈ lines, ∀ c ∈ line.toList,
    c = ' ' ∨ c = '-' ∨ ∃ title ∈ titles,
      c ∈ title.toList ∨ ∃ r ∈ records, c ∈ (cellAt r title).toList
  /-- Every column has a width. -/
  sized : widths.length = titles.length
  /-- Every column can be read off the lines. -/
  shown : ∀ j title, titles[j]? = some title →
    ∃ width, widths[j]? = some width ∧
      ShowsColumn records title (columnOffset widths j) width lines

section Lines

variable (records : List Record) (titles : List String)

/-- Cells fit if each is not wider than its column. -/
theorem fits_map {text : String → String}
    (h : ∀ title, (text title).length ≤ columnWidth records title) :
    Fits (titles.map (columnWidth records)) (titles.map text) := by
  rw [Fits, List.forall₂_map_left_iff, List.forall₂_map_right_iff]
  exact List.forall₂_same.mpr fun title _ ↦ h title

theorem fits_titles : Fits (titles.map (columnWidth records)) titles := by
  have h := fits_map records titles (length_le_columnWidth records)
  rwa [List.map_id'] at h

theorem fits_dashes :
    Fits (titles.map (columnWidth records))
      ((titles.map (columnWidth records)).map (repeated '-')) := by
  rw [List.map_map]
  exact fits_map records titles fun title ↦ (Text.length_repeated _ _).le

variable {records} in
theorem fits_cells {r : Record} (hr : r ∈ records) :
    Fits (titles.map (columnWidth records)) (titles.map (cellAt r)) :=
  fits_map records titles (cellAt_le_columnWidth hr)

theorem length_of_mem_gridLines {line : String} (h : line ∈ gridLines titles records) :
    line.length = gridWidth (titles.map (columnWidth records)) := by
  rcases List.mem_cons.mp h with rfl | h
  · exact length_gridLine (fits_titles records titles)
  · rcases List.mem_cons.mp h with rfl | h
    · exact length_gridLine (fits_dashes records titles)
    · obtain ⟨r, hr, rfl⟩ := List.mem_map.mp h
      exact length_gridLine (fits_cells titles hr)

/-- Every column can be read off the lines of the grid. -/
theorem showsColumn_gridLines {j : Nat} {title : String} (h : titles[j]? = some title) :
    ShowsColumn records title (columnOffset (titles.map (columnWidth records)) j)
      (columnWidth records title) (gridLines titles records) := by
  have hwidth : (titles.map (columnWidth records))[j]? = some (columnWidth records title) := by
    rw [List.getElem?_map, h]
    rfl
  constructor
  case header => exact congrArg some (slice_gridLine (fits_titles records titles) hwidth h)
  case dashes =>
    have hcell : ((titles.map (columnWidth records)).map (repeated '-'))[j]? =
        some (repeated '-' (columnWidth records title)) := by
      rw [List.getElem?_map, hwidth]
      rfl
    have hslice := slice_gridLine (fits_dashes records titles) hwidth hcell
    rw [Text.padRight_of_length (Text.length_repeated _ _)] at hslice
    exact congrArg some hslice
  case rows =>
    intro i r hr
    have hcell : (titles.map (cellAt r))[j]? = some (cellAt r title) := by
      rw [List.getElem?_map, h]
      rfl
    have hslice := slice_gridLine (fits_cells titles (List.mem_of_getElem? hr)) hwidth hcell
    rw [gridLines, List.getElem?_cons_succ, List.getElem?_cons_succ, List.getElem?_map, hr]
    exact congrArg some hslice
  case blank =>
    intro r _ hnull
    rw [cellAt]
    cases hfound : Table.find? r (.str title) with
    | none => rfl
    | some v =>
      rw [hfound, Option.getD_some] at hnull
      rw [hnull]
      rfl
  case title_le => exact length_le_columnWidth records title
  case cell_le => exact fun r hr ↦ cellAt_le_columnWidth hr title
  case reached => exact columnWidth_reached records title

/-- The characters of the lines are those of the titles and the cells, blanks and dashes. -/
theorem mem_gridLines {line : String} (h : line ∈ gridLines titles records) {c : Char}
    (hc : c ∈ line.toList) :
    c = ' ' ∨ c = '-' ∨ ∃ title ∈ titles,
      c ∈ title.toList ∨ ∃ r ∈ records, c ∈ (cellAt r title).toList := by
  rcases List.mem_cons.mp h with rfl | h
  · rcases mem_gridLine (fits_titles records titles) hc with hblank | ⟨title, htitle, hmem⟩
    · exact .inl hblank
    · exact .inr (.inr ⟨title, htitle, .inl hmem⟩)
  rcases List.mem_cons.mp h with rfl | h
  · rcases mem_gridLine (fits_dashes records titles) hc with hblank | ⟨dashes, hdashes, hmem⟩
    · exact .inl hblank
    · obtain ⟨width, -, rfl⟩ := List.mem_map.mp hdashes
      rw [repeated, String.toList_ofList] at hmem
      exact .inr (.inl (List.eq_of_mem_replicate hmem))
  · obtain ⟨r, hr, rfl⟩ := List.mem_map.mp h
    rcases mem_gridLine (fits_cells titles hr) hc with hblank | ⟨cell, hcell, hmem⟩
    · exact .inl hblank
    · obtain ⟨title, htitle, rfl⟩ := List.mem_map.mp hcell
      exact .inr (.inr ⟨title, htitle, .inr ⟨r, hr, hmem⟩⟩)

end Lines

/-- **The grid of records whose keys are texts shows them.** -/
theorem showsGrid_lines {records : List Record} (hne : records ≠ []) (h : TextKeyed records) :
    ∃ titles widths lines,
      lines? records = some lines ∧ ShowsGrid records titles widths lines := by
  obtain ⟨titles, hcolumns⟩ := exists_columns_eq h
  -- Texts are their own normal forms, so what is known of normal forms is known of titles.
  have hnormal : (columns records).map Key.normal = titles.map Key.str :=
    (normal_of_texts h (columns_subset records)).trans hcolumns
  have hkeys := normal_of_texts h (List.Subset.refl _)
  have hinj : Function.Injective Key.str := fun _ _ ↦ Key.str.inj
  refine ⟨titles, titles.map (columnWidth records), gridLines titles records, ?_, ?_⟩
  · rw [lines?, columnTitles?_eq_some.mpr hcolumns, if_neg (mt List.isEmpty_iff.mp hne),
      Option.map_some]
  · constructor
    case count => rw [gridLines, List.length_cons, List.length_cons, List.length_map]
    case level => exact fun line hline ↦ length_of_mem_gridLines records titles hline
    case titled =>
      intro s
      rw [← List.mem_map_of_injective hinj, ← hnormal, mem_columns, keySet, List.mem_toFinset,
        hkeys, List.mem_flatMap]
    case distinct =>
      have hnodup := nodup_columns records
      rw [hnormal] at hnodup
      exact hnodup.of_map _
    case ordered =>
      have hpairwise := pairwise_columns records
      rw [hnormal, List.pairwise_map] at hpairwise
      unfold MetBefore at hpairwise
      rwa [hkeys] at hpairwise
    case made => exact fun line hline c hc ↦ mem_gridLines records titles hline hc
    case sized => exact List.length_map _
    case shown =>
      intro j title hj
      refine ⟨columnWidth records title, ?_, showsColumn_gridLines records titles hj⟩
      rw [List.getElem?_map, hj]
      rfl

end Record

end LineMachine
