import Mathlib.Data.Finset.Card
import Mathlib.Data.List.ProdSigma
import LineMachine.Match.Score
import LineMachine.Proofs.Table

/-!
# Columns of records

The columns of records are listed in the order in which their keys are first met
(`pairwise_columns`). Which keys they are, and how many, does not depend on that order: their normal
forms are different from each other, and are those of the keys of the records (`nodup_columns`,
`mem_columns`). So columns can be counted as a finite set of normal forms (`length_columns`), and
columns of a kind as a part of that set, if the kind does not tell keys that are the same apart
(`countP_columns`).

A record is a table that has every key once (`Distinct`). As many of its entries are filled in as
there are columns that it fills in (`countP_isFilled`), so no more than there are columns.
-/

namespace LineMachine

/-! ## Normal forms of keys -/

@[simp] theorem Key.normal_normal (k : Key) : k.normal.normal = k.normal := by
  cases k with
  | null | bool | int | str => rfl
  | float d =>
    rcases hd : d.toInt? with - | n
    · have hnormal : Key.normal (.float d) = .float d := by rw [normal, hd]
      rw [hnormal, hnormal]
    · have hnormal : Key.normal (.float d) = .int n := by rw [normal, hd]
      rw [hnormal]
      rfl

theorem Key.same_iff {j k : Key} : j.same k = true ↔ j.normal = k.normal :=
  beq_iff_eq

theorem Key.any_same_iff {ks : List Key} {k : Key} :
    ks.any k.same = true ↔ k.normal ∈ ks.map normal := by
  rw [List.any_eq_true, List.mem_map]
  exact exists_congr fun j ↦ and_congr_right fun _ ↦ same_iff.trans eq_comm

theorem Table.find?_normal {α : Type} (t : Table α) (k : Key) : find? t k.normal = find? t k :=
  find?_congr t (Key.same_iff.mpr k.normal_normal)

namespace Record

/-! ## The keys of records -/

/-- The keys of records, by their normal forms. -/
def keySet (records : List Record) : Finset Key :=
  ((records.flatMap Table.keys).map Key.normal).toFinset

theorem mem_keySet {records : List Record} {k : Key} :
    k ∈ keySet records ↔ ∃ r ∈ records, k ∈ (Table.keys r).map Key.normal := by
  rw [keySet, List.mem_toFinset, List.map_flatMap, List.mem_flatMap]

/-! ## Columns -/

theorem map_normal_addColumn (found : List Key) (k : Key) :
    (addColumn found k).map Key.normal =
      if k.normal ∈ found.map Key.normal then found.map Key.normal
      else found.map Key.normal ++ [k.normal] := by
  rw [addColumn]
  by_cases hk : found.any k.same = true
  · rw [if_pos hk, if_pos (Key.any_same_iff.mp hk)]
  · rw [if_neg hk, if_neg (mt Key.any_same_iff.mpr hk), List.map_append, List.map_singleton]

theorem nodup_addColumn {found : List Key} (h : (found.map Key.normal).Nodup) (k : Key) :
    ((addColumn found k).map Key.normal).Nodup := by
  rw [map_normal_addColumn]
  by_cases hk : k.normal ∈ found.map Key.normal
  · rw [if_pos hk]
    exact h
  · rw [if_neg hk]
    exact List.nodup_append_comm.mp (List.nodup_cons.mpr ⟨hk, h⟩)

theorem mem_addColumn {found : List Key} {j k : Key} :
    k ∈ (addColumn found j).map Key.normal ↔ k ∈ found.map Key.normal ∨ k = j.normal := by
  rw [map_normal_addColumn]
  by_cases hj : j.normal ∈ found.map Key.normal
  · rw [if_pos hj]
    refine ⟨Or.inl, ?_⟩
    rintro (h | rfl)
    · exact h
    · exact hj
  · rw [if_neg hj, List.mem_append, List.mem_singleton]

theorem nodup_columns (records : List Record) : ((columns records).map Key.normal).Nodup := by
  have hfold (keys found : List Key) (h : (found.map Key.normal).Nodup) :
      ((keys.foldl addColumn found).map Key.normal).Nodup := by
    induction keys generalizing found with
    | nil => exact h
    | cons k keys ih => exact ih _ (nodup_addColumn h k)
  exact hfold _ [] List.nodup_nil

theorem mem_columns {records : List Record} {k : Key} :
    k ∈ (columns records).map Key.normal ↔ k ∈ keySet records := by
  have hfold (keys found : List Key) :
      k ∈ (keys.foldl addColumn found).map Key.normal ↔
        k ∈ found.map Key.normal ∨ k ∈ keys.map Key.normal := by
    induction keys generalizing found with
    | nil => simp
    | cons j keys ih =>
      rw [List.foldl_cons, ih, mem_addColumn, List.map_cons, List.mem_cons, or_assoc]
  rw [columns, hfold, keySet, List.mem_toFinset]
  exact or_iff_right List.not_mem_nil

/-- Holds of two normal forms of which the first one is met earlier among keys. -/
def MetBefore (keys : List Key) (j k : Key) : Prop :=
  (keys.map Key.normal).idxOf j < (keys.map Key.normal).idxOf k

theorem metBefore_append {seen keys : List Key} {j k : Key} (hj : j ∈ seen.map Key.normal)
    (hk : k ∉ seen.map Key.normal) : MetBefore (seen ++ keys) j k := by
  rw [MetBefore, List.map_append, List.idxOf_append_of_mem hj, List.idxOf_append_of_notMem hk]
  exact (List.idxOf_lt_length_iff.mpr hj).trans_le (Nat.le_add_right _ _)

/-- Columns stand in the order in which their keys are first met. -/
theorem pairwise_columns (records : List Record) :
    ((columns records).map Key.normal).Pairwise (MetBefore (records.flatMap Table.keys)) := by
  -- The columns found so far are the keys met so far, so a new one comes behind all of them.
  have hfold (keys found seen : List Key)
      (hseen : ∀ k, k ∈ found.map Key.normal ↔ k ∈ seen.map Key.normal)
      (hfound : (found.map Key.normal).Pairwise (MetBefore (seen ++ keys))) :
      ((keys.foldl addColumn found).map Key.normal).Pairwise (MetBefore (seen ++ keys)) := by
    induction keys generalizing found seen with
    | nil => exact hfound
    | cons k keys ih =>
      rw [List.append_cons] at hfound ⊢
      refine ih (addColumn found k) (seen ++ [k]) (fun j ↦ ?_) ?_
      · rw [mem_addColumn, hseen, List.map_append, List.mem_append, List.map_singleton,
          List.mem_singleton]
      · rw [map_normal_addColumn]
        split
        · exact hfound
        · rename_i hnew
          refine List.pairwise_append.mpr ⟨hfound, List.pairwise_singleton _ _, ?_⟩
          intro j hj k' hk'
          rw [List.mem_singleton.mp hk', List.append_assoc]
          exact metBefore_append ((hseen j).mp hj) (mt (hseen k.normal).mpr hnew)
  exact hfold _ [] [] (fun _ ↦ Iff.rfl) .nil

/-- Nothing but the key that is taken to the columns comes to them. -/
theorem addColumn_append_subset (found : List Key) (k : Key) (keys : List Key) :
    addColumn found k ++ keys ⊆ found ++ k :: keys := by
  rw [List.append_cons found k keys, addColumn]
  refine List.append_subset.mpr ⟨fun j hj ↦ List.mem_append_left _ ?_, List.subset_append_right _ _⟩
  split at hj
  · exact List.mem_append_left _ hj
  · exact hj

theorem columns_subset (records : List Record) : columns records ⊆ records.flatMap Table.keys := by
  have hfold (keys found : List Key) : keys.foldl addColumn found ⊆ found ++ keys := by
    induction keys generalizing found with
    | nil => exact List.subset_append_left _ _
    | cons k keys ih => exact fun j hj ↦ addColumn_append_subset found k keys (ih _ hj)
  exact hfold _ []

theorem toFinset_columns (records : List Record) :
    ((columns records).map Key.normal).toFinset = keySet records :=
  Finset.ext fun _ ↦ List.mem_toFinset.trans mem_columns

/-! ## Counting columns -/

/-- There are as many columns as normal forms of keys. -/
theorem length_columns (records : List Record) :
    (columns records).length = (keySet records).card := by
  rw [← toFinset_columns, List.toFinset_card_of_nodup (nodup_columns records), List.length_map]

/-- Columns of a kind are counted by their normal forms, if keys that are the same are of a kind
together. -/
theorem countP_columns (records : List Record) {p : Key → Bool} (hp : ∀ k, p k.normal = p k) :
    (columns records).countP p = ((keySet records).filter fun k ↦ p k = true).card := by
  have hkind : ((columns records).map Key.normal).countP p = (columns records).countP p := by
    rw [List.countP_map]
    exact congrArg (List.countP · _) (funext hp)
  rw [← hkind, ← toFinset_columns, ← List.toFinset_filter,
    List.toFinset_card_of_nodup ((nodup_columns records).filter _), List.countP_eq_length_filter]

/-! ## Records that have every key once -/

/-- Holds of a record that has every key once. -/
def Distinct (r : Record) : Prop :=
  ((Table.keys r).map Key.normal).Nodup

instance (r : Record) : Decidable r.Distinct :=
  inferInstanceAs (Decidable (List.Nodup _))

theorem Distinct.tail {e : Key × Value} {r : Record} (h : Distinct (e :: r)) : Distinct r :=
  (List.nodup_cons.mp h).2

/-- What stands under a key of such a record is found there. -/
theorem Distinct.find?_of_mem {r : Record} (h : r.Distinct) {e : Key × Value} (he : e ∈ r) {k : Key}
    (hk : k.same e.1 = true) : Table.find? r k = some e.2 := by
  induction r with
  | nil => cases he
  | cons d r ih =>
    rw [Table.find?_cons]
    rcases List.mem_cons.mp he with rfl | hmem
    · rw [if_pos hk]
    · have hother : ¬ k.same d.1 = true := by
        intro hd
        refine (List.nodup_cons.mp h).1 ?_
        rw [← Key.same_iff.mp hd, Key.same_iff.mp hk]
        exact List.mem_map_of_mem (List.mem_map_of_mem hmem)
      rw [if_neg hother, ih h.tail hmem]

/-- Whether a record has a key filled in. -/
def fills (r : Record) (k : Key) : Bool :=
  (Table.find? r k).any isFilled

theorem fills_iff {r : Record} (h : r.Distinct) {k : Key} :
    r.fills k = true ↔ ∃ e ∈ r, k.same e.1 = true ∧ isFilled e.2 = true := by
  rw [fills, Option.any_eq_true]
  constructor
  · rintro ⟨v, hfound, hv⟩
    obtain ⟨j, hj, hsame⟩ := Table.mem_of_find? hfound
    exact ⟨_, hj, hsame, hv⟩
  · rintro ⟨e, he, hsame, hv⟩
    exact ⟨e.2, h.find?_of_mem he hsame, hv⟩

/-- A record has as many entries filled in as columns, if all its keys are among them. -/
theorem countP_isFilled {r : Record} (h : r.Distinct) {records : List Record} (hr : r ∈ records) :
    r.countP (fun e ↦ isFilled e.2) = (columns records).countP r.fills := by
  -- Both are counts of the same normal forms, none of which is counted twice.
  have hentries : (((r.filter fun e ↦ isFilled e.2).map (·.1)).map Key.normal).Nodup :=
    h.sublist ((List.filter_sublist.map _).map _)
  have hcolumns : (((columns records).filter r.fills).map Key.normal).Nodup :=
    (nodup_columns records).sublist (List.filter_sublist.map _)
  have hperm : (((r.filter fun e ↦ isFilled e.2).map (·.1)).map Key.normal).Perm
      (((columns records).filter r.fills).map Key.normal) := by
    refine (List.perm_ext_iff_of_nodup hentries hcolumns).mpr fun k ↦ ?_
    simp only [List.mem_map, List.mem_filter, fills_iff h]
    constructor
    · rintro ⟨j, ⟨e, ⟨he, hfilled⟩, rfl⟩, rfl⟩
      have hkey : e.1.normal ∈ keySet records :=
        mem_keySet.mpr ⟨r, hr, List.mem_map_of_mem (List.mem_map_of_mem he)⟩
      obtain ⟨c, hc, hnormal⟩ := List.mem_map.mp (mem_columns.mpr hkey)
      exact ⟨c, ⟨hc, e, he, Key.same_iff.mpr hnormal, hfilled⟩, hnormal⟩
    · rintro ⟨c, ⟨-, e, he, hsame, hfilled⟩, rfl⟩
      exact ⟨e.1, ⟨e, ⟨he, hfilled⟩, rfl⟩, (Key.same_iff.mp hsame).symm⟩
  rw [List.countP_eq_length_filter, List.countP_eq_length_filter]
  simpa only [List.length_map] using hperm.length_eq

/-! ## Cells -/

/-- The entries of records that are filled in are the cells that are: a cell stands where a record
and a column meet. -/
theorem filledCells_eq_countP {records : List Record} (h : ∀ r ∈ records, r.Distinct) :
    filledCells records =
      (records ×ˢ columns records).countP fun cell ↦ cell.1.fills cell.2 := by
  have hrows (rows : List Record) (hrows : rows ⊆ records) :
      rows.flatten.countP (fun e ↦ isFilled e.2) =
        (rows ×ˢ columns records).countP fun cell ↦ cell.1.fills cell.2 := by
    induction rows with
    | nil => rfl
    | cons r rows ih =>
      obtain ⟨hr, hrest⟩ := List.cons_subset.mp hrows
      rw [List.flatten_cons, List.countP_append, ih hrest, countP_isFilled (h r hr) hr,
        List.product_cons, List.countP_append, List.countP_map]
      rfl
  exact hrows records (List.Subset.refl _)

theorem filledCells_le {records : List Record} (h : ∀ r ∈ records, r.Distinct) :
    filledCells records ≤ records.length * (columns records).length := by
  rw [filledCells_eq_countP h, ← List.length_product]
  exact List.countP_le_length

/-- As many entries as there are cells are filled in only if every record fills in every column. -/
theorem filledCells_eq_iff {records : List Record} (h : ∀ r ∈ records, r.Distinct) :
    filledCells records = records.length * (columns records).length ↔
      ∀ r ∈ records, ∀ k ∈ columns records, r.fills k = true := by
  rw [filledCells_eq_countP h, ← List.length_product, List.countP_eq_length]
  constructor
  · intro hall r hr k hk
    exact hall (r, k) (List.mem_product.mpr ⟨hr, hk⟩)
  · rintro hall ⟨r, k⟩ hcell
    obtain ⟨hr, hk⟩ := List.mem_product.mp hcell
    exact hall r hr k hk

end Record

end LineMachine
