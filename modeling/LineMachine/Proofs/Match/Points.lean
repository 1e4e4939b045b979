import Mathlib.Algebra.Order.Field.Basic
import Mathlib.Tactic.Positivity
import LineMachine.Match.Score

/-!
# Points

Scores add up points for what was counted. Over an ordered field no points are ever taken off, so
a score is never below zero (`zero_le_scoreWith`); and where the command is a text, or not given,
there is a score for all records.
-/

namespace LineMachine

variable {K : Type} [Field K] [LinearOrder K] [IsStrictOrderedRing K]

namespace Counts

theorem zero_le_recordPoints (c : Counts) : (0 : K) ≤ c.recordPoints := by
  rw [recordPoints]
  split
  · split <;> exact Nat.cast_nonneg _
  · split
    · exact Nat.cast_nonneg _
    · split <;> positivity

theorem zero_le_columnPoints (c : Counts) : (0 : K) ≤ c.columnPoints := by
  rw [columnPoints]
  split
  · exact Nat.cast_nonneg _
  · split
    · positivity
    · split <;> positivity

theorem zero_le_fillPoints (c : Counts) : (0 : K) ≤ c.fillPoints := by
  rw [fillPoints]
  split <;> positivity

theorem zero_le_consistencyPoints (c : Counts) : (0 : K) ≤ c.consistencyPoints := by
  rw [consistencyPoints]
  split <;> positivity

/-- No counts score less than nothing. -/
theorem zero_le_score (c : Counts) : (0 : K) ≤ c.score := by
  rw [score]
  split
  · exact Nat.cast_nonneg _
  · have hrecords := zero_le_recordPoints (K := K) c
    have hcolumns := zero_le_columnPoints (K := K) c
    have hfill := zero_le_fillPoints (K := K) c
    have hconsistency := zero_le_consistencyPoints (K := K) c
    positivity

end Counts

/-- Records made under a command that is a text have a score, and it is not below zero. -/
theorem Record.zero_le_scoreWith (records : List Record) (command : String) :
    ∃ s : K, Record.scoreWith records (.str command) = .ok s ∧ 0 ≤ s := by
  rw [Record.scoreWith]
  split
  · exact ⟨_, rfl, Nat.cast_nonneg 0⟩
  · have htext : ∃ text, (Value.str command).orElse (.str "") = .str text := by
      rw [Value.orElse]
      split
      · exact ⟨command, rfl⟩
      · exact ⟨"", rfl⟩
    obtain ⟨text, htext⟩ := htext
    rw [htext]
    exact ⟨_, rfl, Counts.zero_le_score _⟩

end LineMachine
