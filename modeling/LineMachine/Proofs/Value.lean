import LineMachine.Value

/-!
# Values that are the same as keys

Values are compared as keys where they name something: the id of a template, the name of a state.
That is symmetric, and values that are the same are truthy together (`truthy_eq_of_sameKey`): null,
zero and the empty text can be told from the others by the normal forms of their keys. Of the
floating-point numbers, the two zeros are those with the normal form of zero
(`Double.toInt?_eq_zero`).
-/

namespace LineMachine

/-! ## Zeros -/

namespace Double

theorem twoPower_pos (n : Nat) : 0 < twoPower n :=
  Nat.pow_pos (by decide)

theorem significand_eq_zero {d : Double} : d.significand = 0 ↔ d.isZero = true := by
  have hpos := twoPower_pos 52
  rw [significand, isZero, Bool.and_eq_true, beq_iff_eq (a := d.fraction)]
  by_cases hexponent : (d.exponentField == 0) = true
  · simp only [hexponent, if_true, true_and]
  · simp only [hexponent, Bool.false_eq_true, if_false, false_and, iff_false]
    omega

theorem ratio_fst_eq_zero {d : Double} : d.ratio.1 = 0 ↔ d.isZero = true := by
  rw [← significand_eq_zero, ratio]
  split
  · rw [Nat.mul_eq_zero, or_iff_left (Nat.ne_of_gt (twoPower_pos _))]
  · rfl

theorem isFinite_of_isZero {d : Double} (h : d.isZero = true) : d.isFinite = true := by
  rw [isZero, Bool.and_eq_true, beq_iff_eq] at h
  rw [isFinite, h.1]
  rfl

/-- The numbers that are equal to the integer zero are the two zeros. -/
theorem toInt?_eq_zero {d : Double} : d.toInt? = some 0 ↔ d.isZero = true := by
  constructor
  · intro h
    obtain ⟨num, den, hratio⟩ : ∃ num den, d.ratio = (num, den) := ⟨_, _, rfl⟩
    rw [toInt?, hratio] at h
    split at h
    · cases h
    · obtain ⟨hmod, h⟩ := Option.ite_none_right_eq_some.mp h
      have hdiv : num / den = 0 := by
        have hwhole := Option.some.inj h
        split at hwhole <;> omega
      rw [← ratio_fst_eq_zero, hratio]
      calc num = den * (num / den) + num % den := (Nat.div_add_mod num den).symm
        _ = 0 := by rw [hdiv, beq_iff_eq.mp hmod, Nat.mul_zero]
  · intro h
    rw [toInt?, isFinite_of_isZero h]
    simp [ratio_fst_eq_zero.mpr h]

end Double

namespace Value

/-! ## The same key -/

theorem sameKey_eq {v w : Value} {j k : Key} (hv : v.key? = some j) (hw : w.key? = some k) :
    v.sameKey w = j.same k := by
  rw [sameKey, hv, hw]

theorem sameKey_comm (v w : Value) : v.sameKey w = w.sameKey v := by
  rcases hv : v.key? with - | j
  · rw [sameKey, sameKey, hv]
    cases w.key? <;> rfl
  · rcases hw : w.key? with - | k
    · rw [sameKey, sameKey, hv, hw]
    · rw [sameKey_eq hv hw, sameKey_eq hw hv, Key.same_comm]

/-- Values that are the same as anything are scalars. -/
theorem exists_of_sameKey {v w : Value} (h : v.sameKey w = true) :
    ∃ j k, v.key? = some j ∧ w.key? = some k ∧ j.same k = true := by
  rw [sameKey] at h
  split at h
  · exact ⟨_, _, ‹_›, ‹_›, h⟩
  · cases h

/-! ## Truth -/

/-- A scalar without content is null, a zero or the empty text. -/
theorem truthy_eq_false_iff {v : Value} {k : Key} (h : v.key? = some k) :
    v.truthy = false ↔ k.normal = .null ∨ k.normal = .int 0 ∨ k.normal = .str "" := by
  cases v with
  | list | object => cases h
  | null =>
    cases h
    simp [truthy, Key.normal]
  | bool b =>
    cases h
    cases b <;> simp [truthy, Key.normal]
  | int n =>
    cases h
    simp [truthy, Key.normal]
  | str s =>
    cases h
    simp [truthy, Key.normal]
  | float d =>
    cases h
    rw [truthy, Bool.not_eq_false', ← Double.toInt?_eq_zero, Key.normal]
    cases d.toInt? <;> simp

/-- **Values that are the same as keys are truthy together.** -/
theorem truthy_eq_of_sameKey {v w : Value} (h : v.sameKey w = true) : v.truthy = w.truthy := by
  obtain ⟨j, k, hj, hk, hsame⟩ := exists_of_sameKey h
  have hnormal : j.normal = k.normal := beq_iff_eq.mp hsame
  have hfalse : v.truthy = false ↔ w.truthy = false := by
    rw [truthy_eq_false_iff hj, truthy_eq_false_iff hk, hnormal]
  cases hv : v.truthy <;> cases hw : w.truthy <;> simp_all

end Value

end LineMachine
