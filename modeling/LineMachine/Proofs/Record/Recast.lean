import Mathlib.Data.List.Forall2
import Mathlib.Data.List.Perm.Basic
import LineMachine.Proofs.Record.Columns

/-!
# Counts of records

Four numbers are counted over records: how many records there are, how many keys, how many entries
that are filled in, and how many keys that are filled in by all records or by none. Here they are
numbers of elements of a list or of a finite set, without the order in which the records, the keys
and the entries are gone through (`SameCounts`).

Records may be put in another order, and so may the entries of a record; the keys may be renamed, if
different keys stay different; and values may be changed, if what was filled in stays filled in and
what was not does not (`Recast`). None of this changes a number (`Recast.sameCounts`).
-/

namespace LineMachine.Record

/-! ## What is filled in -/

/-- Holds of a value that is filled in: it is not null, and its text has a character that is not
blank. -/
def Filled (v : Value) : Prop :=
  v ≠ .null ∧ ∃ c ∈ v.text.toList, Text.isBlank c = false

theorem isFilled_iff {v : Value} : isFilled v = true ↔ Filled v := by
  rw [isFilled, Filled, Bool.and_eq_true, bne_iff_ne, Bool.not_eq_true', Text.allBlank,
    List.all_eq_false]
  simp only [Bool.not_eq_true]

instance : DecidablePred Filled := fun _ ↦ decidable_of_iff _ isFilled_iff

/-- The entries of records that are filled in. -/
def filledEntries (records : List Record) : List (Key × Value) :=
  records.flatten.filter fun e ↦ Filled e.2

theorem filledCells_eq (records : List Record) :
    filledCells records = (filledEntries records).length := by
  rw [filledCells, filledEntries, ← List.countP_eq_length_filter]
  refine List.countP_congr fun e _ ↦ ?_
  rw [isFilled_iff, decide_eq_true_iff]

/-- Holds of a record that has a value under a key which is filled in. -/
def FillsIn (r : Record) (k : Key) : Prop :=
  ∃ v, Table.find? r k = some v ∧ Filled v

theorem fills_iff_fillsIn {r : Record} {k : Key} : r.fills k = true ↔ r.FillsIn k := by
  rw [fills, Option.any_eq_true]
  exact exists_congr fun v ↦ and_congr_right fun _ ↦ isFilled_iff

instance (r : Record) (k : Key) : Decidable (r.FillsIn k) :=
  decidable_of_iff _ fills_iff_fillsIn

/-- The keys that are filled in by all records, or by none. -/
def uniformKeys (records : List Record) : Finset Key :=
  (keySet records).filter fun k ↦ (∀ r ∈ records, r.FillsIn k) ∨ ∀ r ∈ records, ¬ r.FillsIn k

theorem fillCount_eq (records : List Record) (k : Key) :
    fillCount records k = records.countP (·.fills k) := rfl

theorem fillCount_cons (r : Record) (records : List Record) (k : Key) :
    fillCount (r :: records) k = fillCount records k + if r.fills k then 1 else 0 :=
  List.countP_cons

theorem fillCount_normal (records : List Record) (k : Key) :
    fillCount records k.normal = fillCount records k := by
  simp only [fillCount, Table.find?_normal]

theorem isConsistent_iff {records : List Record} {k : Key} :
    Counts.isConsistent records k = true ↔
      (∀ r ∈ records, r.FillsIn k) ∨ ∀ r ∈ records, ¬ r.FillsIn k := by
  rw [Counts.isConsistent, Bool.or_eq_true, beq_iff_eq, beq_iff_eq, fillCount_eq,
    List.countP_eq_zero, List.countP_eq_length, or_comm]
  simp only [fills_iff_fillsIn]

theorem uniformKeys_eq (records : List Record) :
    uniformKeys records = (keySet records).filter fun k ↦ Counts.isConsistent records k = true :=
  Finset.filter_congr fun _ _ ↦ isConsistent_iff.symm

theorem countP_isConsistent (records : List Record) :
    (columns records).countP (Counts.isConsistent records) = (uniformKeys records).card := by
  rw [uniformKeys_eq]
  refine countP_columns records fun k ↦ ?_
  simp only [Counts.isConsistent, fillCount_normal]

/-! ## The same counts -/

/-- Holds of lists of records of which the same numbers are counted. -/
structure SameCounts (records others : List Record) : Prop where
  /-- As many records. -/
  length : others.length = records.length
  /-- As many keys, over all records. -/
  keys : (keySet others).card = (keySet records).card
  /-- As many entries that are filled in. -/
  filled : (filledEntries others).length = (filledEntries records).length
  /-- As many keys that are filled in by all records or by none. -/
  uniform : (uniformKeys others).card = (uniformKeys records).card

namespace SameCounts

variable {records others : List Record}

theorem trans {more : List Record} (h : SameCounts records others)
    (h' : SameCounts others more) : SameCounts records more where
  length := h'.length.trans h.length
  keys := h'.keys.trans h.keys
  filled := h'.filled.trans h.filled
  uniform := h'.uniform.trans h.uniform

/-- Records that have the same keys have the same counts, if each key is filled in as often. -/
theorem of_fillCount (hlength : others.length = records.length)
    (hkeys : keySet others = keySet records)
    (hfilled : (filledEntries others).length = (filledEntries records).length)
    (hcount : ∀ k, fillCount others k = fillCount records k) : SameCounts records others where
  length := hlength
  keys := congrArg Finset.card hkeys
  filled := hfilled
  uniform := by
    have hconsistent : ∀ k, Counts.isConsistent others k = Counts.isConsistent records k :=
      fun k ↦ by rw [Counts.isConsistent, Counts.isConsistent, hcount, hlength]
    rw [uniformKeys_eq, uniformKeys_eq, hkeys]
    exact congrArg Finset.card (Finset.filter_congr fun k _ ↦ by rw [hconsistent])

end SameCounts

/-! ## Another order -/

theorem keySet_eq (records : List Record) :
    keySet records = ((records.flatten.map (·.1)).map Key.normal).toFinset := by
  rw [keySet, List.map_flatten, List.flatMap_def]
  rfl

theorem keySet_eq_of_perm {records others : List Record}
    (h : records.flatten.Perm others.flatten) : keySet others = keySet records := by
  rw [keySet_eq, keySet_eq]
  exact List.toFinset_eq_of_perm _ _ ((h.map _).map _).symm

theorem length_filledEntries_of_perm {records others : List Record}
    (h : records.flatten.Perm others.flatten) :
    (filledEntries others).length = (filledEntries records).length :=
  (h.filter _).length_eq.symm

/-- Elements that go together in pairs are counted alike. -/
theorem countP_eq_of_forall₂ {α β : Type} {p : α → Bool} {q : β → Bool} {as : List α} {bs : List β}
    (h : List.Forall₂ (fun a b ↦ p a = q b) as bs) : as.countP p = bs.countP q := by
  induction h with
  | nil => rfl
  | cons hab _ ih => rw [List.countP_cons, List.countP_cons, hab, ih]

theorem SameCounts.of_perm {records others : List Record} (h : records.Perm others) :
    SameCounts records others :=
  .of_fillCount h.length_eq.symm (keySet_eq_of_perm h.flatten)
    (length_filledEntries_of_perm h.flatten) fun _ ↦ (h.countP_eq _).symm

/-- The order of the entries does not matter to what a record fills in. -/
theorem fills_eq_of_perm {r r' : Record} (hr : r.Distinct) (h : r.Perm r') (k : Key) :
    r'.fills k = r.fills k := by
  have hr' : r'.Distinct := ((h.map _).map _).nodup_iff.mp hr
  rw [Bool.eq_iff_iff, fills_iff hr, fills_iff hr']
  exact exists_congr fun e ↦ and_congr_left fun _ ↦ h.mem_iff.symm

theorem fillCount_of_forall₂_perm {records others : List Record}
    (hrecords : ∀ r ∈ records, r.Distinct) (h : List.Forall₂ List.Perm records others) (k : Key) :
    fillCount others k = fillCount records k := by
  induction h with
  | nil => rfl
  | cons hperm _ ih =>
    obtain ⟨hr, hrest⟩ := List.forall_mem_cons.mp hrecords
    rw [fillCount_cons, fillCount_cons, ih hrest, fills_eq_of_perm hr hperm]

theorem SameCounts.of_forall₂_perm {records others : List Record}
    (hrecords : ∀ r ∈ records, r.Distinct) (h : List.Forall₂ List.Perm records others) :
    SameCounts records others := by
  have hflatten : records.flatten.Perm others.flatten := List.Perm.flatten_congr h
  exact .of_fillCount h.length_eq.symm (keySet_eq_of_perm hflatten)
    (length_filledEntries_of_perm hflatten) (fillCount_of_forall₂_perm hrecords h)

/-! ## Other keys -/

/-- The entries of a record under other keys. -/
def renamed (f : Key → Key) (r : Record) : Record :=
  r.map fun e ↦ (f e.1, e.2)

theorem find?_renamed {f : Key → Key} {r : Record} {k : Key}
    (hf : ∀ j ∈ Table.keys r, (f k).same (f j) = k.same j) :
    Table.find? (renamed f r) (f k) = Table.find? r k := by
  induction r with
  | nil => rfl
  | cons e r ih =>
    obtain ⟨he, hrest⟩ := List.forall_mem_cons.mp hf
    calc Table.find? (renamed f (e :: r)) (f k)
      _ = if (f k).same (f e.1) then some e.2 else Table.find? (renamed f r) (f k) := rfl
      _ = Table.find? (e :: r) k := by rw [he, ih hrest, Table.find?_cons]

/-- The columns of a table with other keys are the columns under their other names. -/
theorem foldl_addColumn_renamed {f : Key → Key} {keys found : List Key}
    (hf : ∀ j ∈ found ++ keys, ∀ k ∈ found ++ keys, (f j).same (f k) = j.same k) :
    (keys.map f).foldl addColumn (found.map f) = (keys.foldl addColumn found).map f := by
  induction keys generalizing found with
  | nil => rfl
  | cons k keys ih =>
    have hk : k ∈ found ++ k :: keys := List.mem_append_right _ List.mem_cons_self
    have hany : (found.map f).any (f k).same = found.any k.same := by
      rw [List.any_map, Bool.eq_iff_iff, List.any_eq_true, List.any_eq_true]
      refine exists_congr fun j ↦ and_congr_right fun hj ↦ ?_
      rw [Function.comp_apply, hf k hk j (List.mem_append_left _ hj)]
    have hadd : addColumn (found.map f) (f k) = (addColumn found k).map f := by
      rw [addColumn, addColumn, hany, apply_ite (List.map f), List.map_append, List.map_singleton]
    have hsub := addColumn_append_subset found k keys
    rw [List.map_cons, List.foldl_cons, List.foldl_cons, hadd]
    exact ih fun i hi j hj ↦ hf i (hsub hi) j (hsub hj)

theorem columns_renamed {f : Key → Key} {records : List Record}
    (hf : ∀ j ∈ records.flatMap Table.keys, ∀ k ∈ records.flatMap Table.keys,
      (f j).same (f k) = j.same k) :
    columns (records.map (renamed f)) = (columns records).map f := by
  have hkeys : (records.map (renamed f)).flatMap Table.keys =
      (records.flatMap Table.keys).map f := by
    rw [List.flatMap_map, List.map_flatMap]
    refine congrArg (List.flatMap · records) (funext fun r ↦ ?_)
    rw [Table.keys, Table.keys, renamed, List.map_map, List.map_map]
    rfl
  rw [columns, columns, hkeys]
  have hfold : ((records.flatMap Table.keys).map f).foldl addColumn ([].map f) =
      ((records.flatMap Table.keys).foldl addColumn []).map f := foldl_addColumn_renamed hf
  exact hfold

theorem SameCounts.of_renamed {f : Key → Key} {records : List Record}
    (hf : ∀ j ∈ records.flatMap Table.keys, ∀ k ∈ records.flatMap Table.keys,
      (f j).same (f k) = j.same k) : SameCounts records (records.map (renamed f)) where
  length := List.length_map _
  keys := by rw [← length_columns, ← length_columns, columns_renamed hf, List.length_map]
  filled := by
    have hflatten : (records.map (renamed f)).flatten =
        records.flatten.map fun e ↦ (f e.1, e.2) := List.map_flatten.symm
    rw [filledEntries, filledEntries, hflatten, List.filter_map, List.length_map]
    rfl
  uniform := by
    rw [← countP_isConsistent, ← countP_isConsistent, columns_renamed hf, List.countP_map]
    refine List.countP_congr fun k hk ↦ ?_
    -- What a renamed record has under the new name of a column, the record has under the old one.
    have hfind : ∀ r ∈ records, (renamed f r).fills (f k) = r.fills k := by
      intro r hr
      refine congrArg (Option.any isFilled) (find?_renamed fun j hj ↦ ?_)
      exact hf k (columns_subset records hk) j (List.mem_flatMap.mpr ⟨r, hr, hj⟩)
    have hcount : fillCount (records.map (renamed f)) (f k) = fillCount records k := by
      rw [fillCount_eq, fillCount_eq, List.countP_map]
      exact List.countP_congr fun r hr ↦ by rw [Function.comp_apply, hfind r hr]
    rw [Function.comp_apply, Counts.isConsistent, Counts.isConsistent, hcount, List.length_map]

/-! ## Other values -/

/-- Holds of values that are filled in together or not filled in together, because they are the
same, because both are filled in, or because a blank text stands in place of null. -/
inductive Refilled : Value → Value → Prop
  | same (v : Value) : Refilled v v
  | filled {v w : Value} (hv : Filled v) (hw : Filled w) : Refilled v w
  | blank {s : String} (hs : Text.allBlank s = true) : Refilled .null (.str s)

theorem Refilled.isFilled_eq {v w : Value} (h : Refilled v w) : isFilled w = isFilled v := by
  cases h with
  | same => rfl
  | filled hv hw => rw [isFilled_iff.mpr hv, isFilled_iff.mpr hw]
  | @blank s hs =>
    have htext : (Value.str s).text = s := rfl
    rw [isFilled, htext, hs]
    rfl

/-- Entries under the same key, with a value that is filled in for one that is filled in. -/
def RefilledEntry (e e' : Key × Value) : Prop :=
  e'.1 = e.1 ∧ Refilled e.2 e'.2

theorem fills_eq_of_refilled {r r' : Record} (h : List.Forall₂ RefilledEntry r r') (k : Key) :
    r'.fills k = r.fills k := by
  induction h with
  | nil => rfl
  | @cons e e' _ _ he _ ih =>
    rw [fills, fills] at ih ⊢
    rw [Table.find?_cons, Table.find?_cons, he.1]
    by_cases hk : k.same e.1 = true
    · rw [if_pos hk, if_pos hk]
      exact he.2.isFilled_eq
    · rw [if_neg hk, if_neg hk, ih]

theorem SameCounts.of_refilled {records others : List Record}
    (h : List.Forall₂ (List.Forall₂ RefilledEntry) records others) :
    SameCounts records others := by
  have hflatten : List.Forall₂ RefilledEntry records.flatten others.flatten :=
    List.rel_flatten h
  refine .of_fillCount h.length_eq.symm ?_ ?_ fun k ↦ ?_
  · have hkeys : others.flatten.map (·.1) = records.flatten.map (·.1) := by
      refine (List.forall₂_eq_eq_eq ▸ ?_ : records.flatten.map (·.1) = _).symm
      rw [List.forall₂_map_left_iff, List.forall₂_map_right_iff]
      exact hflatten.imp fun e e' he ↦ he.1.symm
    rw [keySet_eq, keySet_eq, hkeys]
  · rw [← filledCells_eq, ← filledCells_eq]
    exact (countP_eq_of_forall₂ (hflatten.imp fun e e' he ↦ he.2.isFilled_eq.symm)).symm
  · rw [fillCount_eq, fillCount_eq]
    exact (countP_eq_of_forall₂ (h.imp fun r r' hr ↦ (fills_eq_of_refilled hr k).symm)).symm

/-! ## Recast records -/

/-- Holds of lists of records the second of which is the first one in another form: other orders,
other keys, other values. -/
inductive Recast : List Record → List Record → Prop
  /-- The records in another order. -/
  | permuted {records others : List Record} (h : records.Perm others) : Recast records others
  /-- The entries of each record in another order. -/
  | reordered {records others : List Record} (hrecords : ∀ r ∈ records, r.Distinct)
    (h : List.Forall₂ List.Perm records others) : Recast records others
  /-- Other keys, where different keys stay different. -/
  | renamed {records : List Record} (f : Key → Key)
    (hf : ∀ j ∈ records.flatMap Table.keys, ∀ k ∈ records.flatMap Table.keys,
      (f j).same (f k) = j.same k) : Recast records (records.map (renamed f))
  /-- Other values, filled in where the value was filled in. -/
  | refilled {records others : List Record}
    (h : List.Forall₂ (List.Forall₂ RefilledEntry) records others) : Recast records others
  /-- One after the other. -/
  | trans {records others more : List Record} (h : Recast records others)
    (h' : Recast others more) : Recast records more

/-- Recast records have the same counts. -/
theorem Recast.sameCounts {records others : List Record} (h : Recast records others) :
    SameCounts records others := by
  induction h with
  | permuted h => exact .of_perm h
  | reordered hrecords h => exact .of_forall₂_perm hrecords h
  | renamed f hf => exact .of_renamed hf
  | refilled h => exact .of_refilled h
  | trans _ _ ih ih' => exact ih.trans ih'

end LineMachine.Record
