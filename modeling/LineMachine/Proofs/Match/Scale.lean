import Mathlib.Tactic.Linarith
import Mathlib.Tactic.NormNum
import LineMachine.Proofs.Match.Counted

/-!
# The scale of scores

A score lies on a scale from zero to a hundred. Points of each kind have an upper bound: thirty for
the records, thirty for the columns, twenty-five for the share of cells that are filled in, since no
more of them are filled in than there are, and fifteen for the consistent columns. So a score is a
hundred exactly if it has all the points of all four kinds; and if there are records at all, there
are points of some kind, so that only no records score nothing.

That nothing is divided by zero on the way is said over `Checked`, which are rational numbers with
one more value for what is not defined: over them a score is the same number as over the rational
numbers.
-/

namespace LineMachine

/-! ## Checked numbers -/

/-- A rational number, or what is not defined. -/
inductive Checked
  | value (q : ℚ)
  | undefined

namespace Checked

instance : NatCast Checked := ⟨fun n ↦ .value n⟩

instance : Add Checked where
  add
    | .value a, .value b => .value (a + b)
    | _, _ => .undefined

instance : Mul Checked where
  mul
    | .value a, .value b => .value (a * b)
    | _, _ => .undefined

/-- A quotient is defined if its divisor is not zero. -/
instance : Div Checked where
  div
    | .value a, .value b => if b = 0 then .undefined else .value (a / b)
    | _, _ => .undefined

theorem natCast_eq (n : ℕ) : (Nat.cast n : Checked) = .value n := rfl

theorem value_add (a b : ℚ) : value a + value b = value (a + b) := rfl

theorem value_mul (a b : ℚ) : value a * value b = value (a * b) := rfl

theorem value_div (a : ℚ) {b : ℚ} (hb : b ≠ 0) : value a / value b = value (a / b) :=
  if_neg hb

theorem natCast_div (m : ℕ) {n : ℕ} (hn : n ≠ 0) :
    (Nat.cast m / Nat.cast n : Checked) = .value (m / n) :=
  value_div _ (Nat.cast_ne_zero.mpr hn)

end Checked

namespace Counts

open Checked

/-! ## Nothing is divided by zero -/

theorem recordPoints_checked (c : Counts) :
    (c.recordPoints : Checked) = .value c.recordPoints := by
  rw [recordPoints, recordPoints]
  split
  · split <;> exact natCast_eq _
  · split
    · exact natCast_eq _
    · split
      · rw [natCast_div 10 (by decide), natCast_eq, natCast_eq, value_mul, value_add]
      · rw [natCast_eq, natCast_eq, value_mul]

theorem columnPoints_checked (c : Counts) :
    (c.columnPoints : Checked) = .value c.columnPoints := by
  rw [columnPoints, columnPoints]
  split
  · exact natCast_eq _
  · split
    · rw [natCast_div 5 (by decide), natCast_eq, natCast_eq, value_mul, value_add]
    · split
      · rw [natCast_div 10 (by decide), natCast_eq, natCast_eq, value_mul, value_add]
      · rw [natCast_eq, natCast_eq, value_mul]

theorem fillPoints_checked (c : Counts) : (c.fillPoints : Checked) = .value c.fillPoints := by
  rw [fillPoints, fillPoints]
  by_cases hcells : 0 < c.records * c.columns
  · rw [if_pos hcells, if_pos hcells, natCast_div _ hcells.ne', natCast_eq, value_mul]
  · rw [if_neg hcells, if_neg hcells, natCast_eq]

theorem consistencyPoints_checked (c : Counts) :
    (c.consistencyPoints : Checked) = .value c.consistencyPoints := by
  rw [consistencyPoints, consistencyPoints]
  by_cases hcolumns : 1 < c.records ∧ 0 < c.columns
  · rw [if_pos hcolumns, if_pos hcolumns, natCast_div _ hcolumns.2.ne', natCast_eq, value_mul]
  · rw [if_neg hcolumns, if_neg hcolumns, natCast_eq]

theorem score_checked (c : Counts) : (c.score : Checked) = .value c.score := by
  rw [score, score]
  split
  · exact natCast_eq 0
  · rw [recordPoints_checked, columnPoints_checked, fillPoints_checked, consistencyPoints_checked,
      value_add, value_add, value_add]

/-! ## All the points of a kind -/

variable {c : Counts}

/-- Holds of counts with as many records as there can be points for: just one if one is expected,
and otherwise ten or more. -/
def Enough (c : Counts) : Prop :=
  if c.single then c.records = 1 else 10 ≤ c.records

theorem recordPoints_of_enough (h : c.Enough) : (c.recordPoints : ℚ) = 30 := by
  rw [Enough] at h
  rw [recordPoints]
  by_cases hsingle : c.single = true
  · rw [if_pos hsingle] at h ⊢
    rw [if_pos h]
    norm_num
  · rw [if_neg hsingle] at h ⊢
    rw [if_pos h]
    norm_num

theorem recordPoints_lt (h : ¬ c.Enough) : (c.recordPoints : ℚ) < 30 := by
  rw [Enough] at h
  rw [recordPoints]
  by_cases hsingle : c.single = true
  · rw [if_pos hsingle] at h ⊢
    rw [if_neg h]
    exact_mod_cast (show 15 - (c.records - 1) * 5 < 30 by omega)
  · rw [if_neg hsingle] at h ⊢
    rw [if_neg h]
    split
    · -- Between three and nine records the points rise from 20 to less than 29.
      have hmore : ((c.records - 3 : ℕ) : ℚ) ≤ 6 := by
        exact_mod_cast (show c.records - 3 ≤ 6 by omega)
      push_cast
      linarith
    · have hfew : (c.records : ℚ) ≤ 2 := by
        exact_mod_cast (show c.records ≤ 2 by omega)
      push_cast
      linarith

theorem recordPoints_le (c : Counts) : (c.recordPoints : ℚ) ≤ 30 := by
  by_cases h : c.Enough
  · exact (recordPoints_of_enough h).le
  · exact (recordPoints_lt h).le

theorem columnPoints_of_ten_le (h : 10 ≤ c.columns) : (c.columnPoints : ℚ) = 30 := by
  rw [columnPoints, if_pos h]
  norm_num

theorem columnPoints_lt (h : ¬ 10 ≤ c.columns) : (c.columnPoints : ℚ) < 30 := by
  rw [columnPoints, if_neg h]
  split
  · have hmore : ((c.columns - 6 : ℕ) : ℚ) ≤ 3 := by
      exact_mod_cast (show c.columns - 6 ≤ 3 by omega)
    push_cast
    linarith
  · split
    · have hmore : ((c.columns - 3 : ℕ) : ℚ) ≤ 2 := by
        exact_mod_cast (show c.columns - 3 ≤ 2 by omega)
      push_cast
      linarith
    · have hfew : (c.columns : ℚ) ≤ 2 := by
        exact_mod_cast (show c.columns ≤ 2 by omega)
      push_cast
      linarith

theorem columnPoints_le (c : Counts) : (c.columnPoints : ℚ) ≤ 30 := by
  by_cases h : 10 ≤ c.columns
  · exact (columnPoints_of_ten_le h).le
  · exact (columnPoints_lt h).le

/-- A column brings points. -/
theorem columnPoints_pos (h : 0 < c.columns) : (0 : ℚ) < c.columnPoints := by
  have hcolumns : (0 : ℚ) < c.columns := Nat.cast_pos.mpr h
  rw [columnPoints]
  split
  · norm_num
  · split
    · positivity
    · split <;> positivity

/-- Holds of counts that do not count more than there is. -/
structure Possible (c : Counts) : Prop where
  filled_le : c.filled ≤ c.records * c.columns
  consistent_le : c.consistent ≤ c.columns

theorem fillPoints_le (h : c.Possible) : (c.fillPoints : ℚ) ≤ 25 := by
  rw [fillPoints]
  by_cases hcells : 0 < c.records * c.columns
  · rw [if_pos hcells, Nat.cast_ofNat]
    have hshare : (c.filled / (c.records * c.columns : ℕ) : ℚ) ≤ 1 :=
      (div_le_one (Nat.cast_pos.mpr hcells)).mpr (Nat.cast_le.mpr h.filled_le)
    linarith
  · rw [if_neg hcells]
    norm_num

theorem fillPoints_eq_iff (hcells : 0 < c.records * c.columns) :
    (c.fillPoints : ℚ) = 25 ↔ c.filled = c.records * c.columns := by
  have hne : ((c.records * c.columns : ℕ) : ℚ) ≠ 0 := Nat.cast_ne_zero.mpr hcells.ne'
  rw [fillPoints, if_pos hcells, Nat.cast_ofNat, mul_eq_right₀ (by norm_num),
    div_eq_one_iff_eq hne, Nat.cast_inj]

theorem consistencyPoints_le (h : c.Possible) : (c.consistencyPoints : ℚ) ≤ 15 := by
  rw [consistencyPoints]
  by_cases hcolumns : 1 < c.records ∧ 0 < c.columns
  · rw [if_pos hcolumns, Nat.cast_ofNat]
    have hshare : (c.consistent / c.columns : ℚ) ≤ 1 :=
      (div_le_one (Nat.cast_pos.mpr hcolumns.2)).mpr (Nat.cast_le.mpr h.consistent_le)
    linarith
  · rw [if_neg hcolumns]
    norm_num

theorem consistencyPoints_of_eq (h : c.consistent = c.columns) :
    (c.consistencyPoints : ℚ) = 15 := by
  rw [consistencyPoints]
  by_cases hcolumns : 1 < c.records ∧ 0 < c.columns
  · rw [if_pos hcolumns, h, div_self (Nat.cast_ne_zero.mpr hcolumns.2.ne'), one_mul,
      Nat.cast_ofNat]
  · rw [if_neg hcolumns, Nat.cast_ofNat]

theorem consistencyPoints_of_no_columns (h : ¬ 0 < c.columns) : (c.consistencyPoints : ℚ) = 15 := by
  rw [consistencyPoints, if_neg fun hcolumns ↦ h hcolumns.2, Nat.cast_ofNat]

/-! ## The ends of the scale -/

theorem score_le (h : c.Possible) : (c.score : ℚ) ≤ 100 := by
  rw [score]
  split
  · norm_num
  · have hrecords := recordPoints_le c
    have hcolumns := columnPoints_le c
    have hfill := fillPoints_le h
    have hconsistency := consistencyPoints_le h
    linarith

/-- Records score something: for their columns, or for the lack of inconsistent ones. -/
theorem score_pos (h : c.records ≠ 0) : (0 : ℚ) < c.score := by
  rw [score, if_neg h]
  have hrecords := zero_le_recordPoints (K := ℚ) c
  have hfill := zero_le_fillPoints (K := ℚ) c
  by_cases hcolumns : 0 < c.columns
  · have hpoints := columnPoints_pos hcolumns
    have hconsistency := zero_le_consistencyPoints (K := ℚ) c
    linarith
  · have hpoints := zero_le_columnPoints (K := ℚ) c
    have hconsistency := consistencyPoints_of_no_columns hcolumns
    linarith

theorem score_eq_zero_iff : (c.score : ℚ) = 0 ↔ c.records = 0 := by
  refine ⟨fun h ↦ ?_, fun h ↦ ?_⟩
  · by_contra hrecords
    exact (score_pos hrecords).ne' h
  · rw [score, if_pos h, Nat.cast_zero]

/-- A score is a hundred if there are all the points of every kind. -/
theorem score_eq_hundred_iff (h : c.Possible) (hrecords : c.records ≠ 0) :
    (c.score : ℚ) = 100 ↔ c.Enough ∧ 10 ≤ c.columns ∧
      c.filled = c.records * c.columns ∧ (c.consistencyPoints : ℚ) = 15 := by
  have hfill := fillPoints_le h
  have hconsistency := consistencyPoints_le h
  rw [score, if_neg hrecords]
  constructor
  · intro hscore
    have henough : c.Enough := by
      by_contra hfew
      have hlt := recordPoints_lt hfew
      have hle := columnPoints_le c
      linarith
    have hcolumns : 10 ≤ c.columns := by
      by_contra hfew
      have hlt := columnPoints_lt hfew
      have hle := recordPoints_le c
      linarith
    rw [recordPoints_of_enough henough, columnPoints_of_ten_le hcolumns] at hscore
    have hcells : 0 < c.records * c.columns :=
      Nat.mul_pos (Nat.pos_of_ne_zero hrecords) (by omega)
    exact ⟨henough, hcolumns, (fillPoints_eq_iff hcells).mp (by linarith), by linarith⟩
  · rintro ⟨henough, hcolumns, hfilled, hall⟩
    have hcells : 0 < c.records * c.columns :=
      Nat.mul_pos (Nat.pos_of_ne_zero hrecords) (by omega)
    rw [recordPoints_of_enough henough, columnPoints_of_ten_le hcolumns,
      (fillPoints_eq_iff hcells).mpr hfilled, hall]
    norm_num

end Counts

namespace Record

open Match (phraseValue)

/-! ## Counts of records -/

theorem possible_ofRecords {records : List Record} (h : ∀ r ∈ records, r.Distinct)
    (single : Bool) : (Counts.ofRecords records single).Possible where
  filled_le := filledCells_le h
  consistent_le := List.countP_le_length

/-- Columns that all records fill in are consistent. -/
theorem consistent_ofRecords {records : List Record}
    (h : ∀ r ∈ records, ∀ k ∈ columns records, r.fills k = true) (single : Bool) :
    (Counts.ofRecords records single).consistent = (Counts.ofRecords records single).columns := by
  refine List.countP_eq_length.mpr fun k hk ↦ isConsistent_iff.mpr (Or.inl fun r hr ↦ ?_)
  exact fills_iff_fillsIn.mp (h r hr k hk)

theorem enough_ofRecords_iff {records : List Record} {p : Prop} [Decidable p] :
    (Counts.ofRecords records (decide p)).Enough ↔
      if p then records.length = 1 else 10 ≤ records.length :=
  iff_of_eq (if_congr decide_eq_true_iff rfl rfl)

theorem forall_columns_iff {records : List Record} :
    (∀ r ∈ records, ∀ k ∈ columns records, r.fills k = true) ↔
      ∀ r ∈ records, ∀ k ∈ keySet records, r.FillsIn k := by
  refine forall₂_congr fun r _ ↦ ?_
  constructor
  · intro h k hk
    obtain ⟨j, hj, rfl⟩ := List.mem_map.mp (mem_columns.mpr hk)
    rw [FillsIn, Table.find?_normal]
    exact fills_iff_fillsIn.mp (h j hj)
  · intro h k hk
    have hnormal := h k.normal (mem_columns.mp (List.mem_map_of_mem hk))
    rw [FillsIn, Table.find?_normal] at hnormal
    exact fills_iff_fillsIn.mpr hnormal

/-- **Scores stay on their scale.** Records that have every key once, any number of them and with
any keys, have a score under every command and under none, and nothing is divided by zero to find
it. It is not below zero and not above a hundred. It is zero just if there are no records; and it
is a hundred just if there are ten keys or more, every record fills in every key, and there are ten
records or more, or just one under a command that asks for a version. -/
theorem scoreWith_scale {records : List Record} (hrecords : ∀ r ∈ records, r.Distinct)
    (command : Option String) :
    ∃ s : ℚ, scoreWith records (phraseValue command) = .ok s ∧
      scoreWith records (phraseValue command) = .ok (Checked.value s) ∧
      0 ≤ s ∧ s ≤ 100 ∧ (s = 0 ↔ records = []) ∧
      (s = 100 ↔ 10 ≤ (keySet records).card ∧ (∀ r ∈ records, ∀ k ∈ keySet records, r.FillsIn k) ∧
        if AsksVersion command then records.length = 1 else 10 ≤ records.length) := by
  have hpossible := possible_ofRecords hrecords (decide (AsksVersion command))
  refine ⟨_, scoreWith_phraseValue records command, ?_, Counts.zero_le_score _,
    Counts.score_le hpossible, ?_, ?_⟩
  · rw [scoreWith_phraseValue, Counts.score_checked]
  · rw [Counts.score_eq_zero_iff]
    exact List.length_eq_zero_iff
  · by_cases hnone : records = []
    · rw [hnone]
      refine iff_of_false ?_ ?_
      · rw [Counts.score_eq_zero_iff.mpr rfl]
        norm_num
      · rintro ⟨hkeys, -⟩
        exact absurd hkeys (by decide)
    · rw [Counts.score_eq_hundred_iff hpossible (mt List.length_eq_zero_iff.mp hnone),
        enough_ofRecords_iff, ← forall_columns_iff, ← length_columns]
      constructor
      · rintro ⟨henough, hcolumns, hfilled, -⟩
        exact ⟨hcolumns, (filledCells_eq_iff hrecords).mp hfilled, henough⟩
      · rintro ⟨hcolumns, hall, henough⟩
        exact ⟨henough, hcolumns, (filledCells_eq_iff hrecords).mpr hall,
          Counts.consistencyPoints_of_eq (consistent_ofRecords hall _)⟩

/-- A record with a value under each of ten keys. -/
def device : Record :=
  (List.range 10).map fun n ↦ (.int n, .str "up")

/-- One device is all that a version command can show. -/
theorem scoreWith_scale_device :
    (∀ r ∈ [device], r.Distinct) ∧
      scoreWith [device] (phraseValue (some "show Version")) = .ok (100 : ℚ) := by
  have hdistinct : ∀ r ∈ [device], r.Distinct := by
    rw [List.forall_mem_singleton]
    decide
  obtain ⟨s, hs, -, -, -, -, hhundred⟩ := scoreWith_scale hdistinct (some "show Version")
  refine ⟨hdistinct, hs.trans (congrArg _ (hhundred.mpr ⟨by decide +kernel, ?_, ?_⟩))⟩
  · rw [List.forall_mem_singleton]
    decide +kernel
  · rw [if_pos (by decide +kernel)]
    rfl

end Record

end LineMachine
