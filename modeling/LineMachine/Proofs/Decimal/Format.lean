import Mathlib.Algebra.Order.Field.Power
import Mathlib.Data.Rat.Cast.Order
import Mathlib.Tactic.FieldSimp
import Mathlib.Tactic.GCongr
import Mathlib.Tactic.Linarith
import Mathlib.Tactic.NormNum
import Mathlib.Tactic.Positivity
import Mathlib.Tactic.Ring
import LineMachine.Decimal.Double

/-!
# Magnitudes of doubles

The magnitude of a finite double is its significand scaled by a power of two. The significand has at
most 53 bits, and the scale is at least -1074; so, seen from a given scale, a magnitude is a
multiple of that power of two, or it is too small to have its leading bit there (`magnitude_grid`).
A magnitude has one significand and one scale, and with its sign it is one number
(`eq_of_magnitude_eq`).

In the other direction, a significand and a scale that fit the format are put into its fields by one
addition, even where the significand is the next power of two: the carry goes into the exponent
(`fits_ofNat`).
-/

namespace LineMachine.Double

/-! ## Powers -/

theorem twoPower_11 : twoPower 11 = 2048 := by decide

theorem twoPower_52 : twoPower 52 = 4503599627370496 := by decide

theorem twoPower_53 : twoPower 53 = 9007199254740992 := by decide

theorem twoPower_63 : twoPower 63 = 9223372036854775808 := by decide

theorem cast_twoPower (n : Nat) : (twoPower n : ℚ) = 2 ^ n := by
  rw [twoPower]
  exact Nat.cast_pow 2 n

theorem twoPower_le_twoPower {m n : ℕ} (h : m ≤ n) : twoPower m ≤ twoPower n :=
  Nat.pow_le_pow_right two_pos h

theorem cast_tenPower (n : Nat) : (tenPower n : ℚ) = 10 ^ n := by
  rw [tenPower]
  exact Nat.cast_pow 10 n

/-! ## Fields -/

/-- The magnitude of a finite number. -/
def magnitude (d : Double) : ℚ :=
  d.significand * 2 ^ d.scale

theorem significand_lt (d : Double) : d.significand < twoPower 53 := by
  have hfraction : d.fraction < twoPower 52 := Nat.mod_lt _ (by decide)
  have hpower : twoPower 53 = twoPower 52 + twoPower 52 := by decide
  rw [significand, hpower]
  split
  · omega
  · omega

theorem neg_le_scale (d : Double) : -1074 ≤ d.scale := by
  have hfield : 1 ≤ max d.exponentField 1 := Nat.le_max_right _ _
  rw [scale]
  omega

/-- A significand without a leading bit is at the least scale. -/
theorem le_significand_or (d : Double) : twoPower 52 ≤ d.significand ∨ d.scale = -1074 := by
  rw [significand, scale]
  split
  · rename_i hfield
    right
    rw [beq_iff_eq.mp hfield]
    rfl
  · exact .inl (Nat.le_add_left _ _)

/-- Seen from a scale, a magnitude is a multiple of the power of two there, or it stays below the
significands of full length. -/
theorem magnitude_grid (d : Double) (s : ℤ) :
    (∃ k : ℕ, d.magnitude = k * 2 ^ s) ∨ (-1074 < s ∧ d.magnitude < 2 ^ 52 * 2 ^ s) := by
  rcases le_or_gt s d.scale with hle | hlt
  · left
    obtain ⟨n, hn⟩ := Int.eq_ofNat_of_zero_le (sub_nonneg.mpr hle)
    refine ⟨d.significand * 2 ^ n, ?_⟩
    have hscale : d.scale = n + s := by omega
    rw [magnitude, hscale, zpow_add₀ two_ne_zero, zpow_natCast]
    push_cast
    ring
  · right
    refine ⟨(neg_le_scale d).trans_lt hlt, ?_⟩
    have hsignificand : (d.significand : ℚ) < 2 ^ 53 := by
      rw [← cast_twoPower]
      exact_mod_cast d.significand_lt
    calc d.magnitude < 2 ^ 53 * 2 ^ d.scale := by
          rw [magnitude]
          gcongr
      _ ≤ 2 ^ 53 * 2 ^ (s - 1) := by
          gcongr
          · norm_num
          · omega
      _ = 2 ^ 52 * 2 ^ s := by
          rw [zpow_sub_one₀ two_ne_zero]
          ring

/-! ## Numbers from their magnitudes -/

/-- A magnitude has one significand and one scale. -/
theorem parts_of_magnitude_eq {d e : Double} (h : d.magnitude = e.magnitude) :
    d.significand = e.significand ∧ d.scale = e.scale := by
  wlog hle : d.scale ≤ e.scale generalizing d e
  · obtain ⟨hsignificand, hscale⟩ := this h.symm (le_of_not_ge hle)
    exact ⟨hsignificand.symm, hscale.symm⟩
  obtain ⟨n, hn⟩ := Int.eq_ofNat_of_zero_le (sub_nonneg.mpr hle)
  have hscale : e.scale = n + d.scale := by omega
  have hsignificand : d.significand = e.significand * 2 ^ n := by
    rw [magnitude, magnitude, hscale, zpow_add₀ two_ne_zero, zpow_natCast, ← mul_assoc] at h
    exact_mod_cast mul_right_cancel₀ (zpow_ne_zero _ two_ne_zero) h
  rcases Nat.eq_zero_or_pos n with rfl | hpos
  · rw [Nat.pow_zero, Nat.mul_one] at hsignificand
    exact ⟨hsignificand, by omega⟩
  · -- A leading bit at a greater scale is a bit too many at the smaller one.
    have hleading : twoPower 52 ≤ e.significand := by
      refine (le_significand_or e).resolve_right fun hleast ↦ ?_
      have hbound := neg_le_scale d
      omega
    have hlong : twoPower 53 ≤ d.significand := by
      rw [hsignificand]
      exact Nat.mul_le_mul hleading (Nat.le_self_pow hpos.ne' 2)
    exact absurd (significand_lt d) (Nat.not_lt.mpr hlong)

/-- A number of the format is its magnitude with its sign. -/
theorem eq_of_magnitude_eq {d e : Double} (h : d.magnitude = e.magnitude)
    (hsign : d.negative = e.negative) : d = e := by
  obtain ⟨hsignificand, hscale⟩ := parts_of_magnitude_eq h
  have hd := d.bits.toNat_lt
  have he := e.bits.toNat_lt
  simp only [significand, scale, negative, exponentField, fraction, beq_iff_eq, twoPower_11,
    twoPower_52, twoPower_63] at hsignificand hscale hsign
  rw [Bool.eq_iff_iff, beq_iff_eq, beq_iff_eq] at hsign
  have hbits : d.bits.toNat = e.bits.toNat := by
    split at hsignificand <;> split at hsignificand <;> omega
  exact congrArg Double.mk (UInt64.toNat_inj.mp hbits)

/-! ## Numbers from their parts -/

/-- Holds of a finite number without a sign that has a given magnitude, as a multiple of a power of
two, and a significand of the same parity as the multiple. -/
structure Fits (q : ℕ) (s : ℤ) (d : Double) : Prop where
  finite : d.isFinite = true
  positive : d.bits.toNat < twoPower 63
  magnitude : d.magnitude = q * 2 ^ s
  parity : d.significand % 2 = q % 2

/-- What the fields of a number without a sign are. -/
theorem fits_of_fields {d : Double} (field fraction : ℕ) {q : ℕ} {s : ℤ}
    (hbits : d.bits.toNat = field * twoPower 52 + fraction) (hfield : field < 2047)
    (hfraction : fraction < twoPower 52)
    (hmagnitude : ((if field = 0 then fraction else fraction + twoPower 52 : ℕ) : ℚ) *
      2 ^ ((max field 1 : ℕ) - 1075 : ℤ) = q * 2 ^ s)
    (hparity : fraction % 2 = q % 2) : Fits q s d := by
  have hexponent : d.exponentField = field := by
    rw [exponentField, hbits, twoPower_11]
    rw [twoPower_52] at hfraction ⊢
    omega
  have hrest : d.fraction = fraction := by
    rw [Double.fraction, hbits]
    rw [twoPower_52] at hfraction ⊢
    omega
  have hsignificand : d.significand = if field = 0 then fraction else fraction + twoPower 52 := by
    rw [significand, hexponent, hrest]
    simp only [beq_iff_eq]
  constructor
  · rw [isFinite, hexponent, bne_iff_ne]
    omega
  · rw [hbits]
    rw [twoPower_52] at hfraction ⊢
    rw [twoPower_63]
    omega
  · rw [Double.magnitude, hsignificand, scale, hexponent]
    exact hmagnitude
  · rw [hsignificand, ← hparity, twoPower_52]
    split
    · rfl
    · omega

/-- A significand and a scale that fit the format are put in by one addition. -/
theorem fits_ofNat {e q : ℕ} (hq : q ≤ twoPower 53) (hnormal : twoPower 52 ≤ q ∨ e = 0)
    (hfinite : e * twoPower 52 + q < 2047 * twoPower 52) :
    Fits q (e - 1074) ⟨UInt64.ofNat (e * twoPower 52 + q)⟩ := by
  have hbits : (UInt64.ofNat (e * twoPower 52 + q)).toNat = e * twoPower 52 + q := by
    rw [UInt64.toNat_ofNat']
    rw [twoPower_52] at hfinite ⊢
    omega
  rcases Nat.lt_or_ge q (twoPower 52) with hsmall | hlarge
  · -- Without a leading bit the number is subnormal.
    obtain rfl : e = 0 := hnormal.resolve_left (Nat.not_le.mpr hsmall)
    exact fits_of_fields 0 q hbits (by decide) hsmall (by norm_num) rfl
  rcases Nat.lt_or_ge q (twoPower 53) with hlt | hge
  · -- The leading bit is carried into the exponent.
    refine fits_of_fields (e + 1) (q - twoPower 52) ?_ ?_ ?_ ?_ ?_
    · rw [hbits, Nat.add_mul]
      omega
    · rw [twoPower_52] at hfinite hlarge
      omega
    · rw [twoPower_52] at hlarge ⊢
      rw [twoPower_53] at hlt
      omega
    · have hscale : ((max (e + 1) 1 : ℕ) - 1075 : ℤ) = e - 1074 := by omega
      rw [if_neg (Nat.succ_ne_zero e), Nat.sub_add_cancel hlarge, hscale]
    · rw [twoPower_52] at hlarge ⊢
      omega
  · -- So is the bit in front of it, for a significand of one bit more.
    obtain rfl : q = twoPower 53 := Nat.le_antisymm hq hge
    refine fits_of_fields (e + 2) 0 ?_ ?_ ?_ ?_ ?_
    · rw [hbits, twoPower_52, twoPower_53]
      omega
    · rw [twoPower_52, twoPower_53] at hfinite
      omega
    · decide
    · have hscale : ((max (e + 2) 1 : ℕ) - 1075 : ℤ) = e - 1074 + 1 := by omega
      rw [if_neg (Nat.succ_ne_zero (e + 1)), Nat.zero_add, hscale, zpow_add_one₀ two_ne_zero,
        cast_twoPower, cast_twoPower]
      ring
    · decide

/-! ## Signs -/

theorem toNat_withSign_true {d : Double} (h : d.bits.toNat < twoPower 63) :
    (d.withSign true).bits.toNat = twoPower 63 + d.bits.toNat := by
  have hor : (d.withSign true).bits.toNat = d.bits.toNat ||| 2 ^ 63 := UInt64.toNat_or _ _
  have hadd := Nat.two_pow_add_eq_or_of_lt h 1
  rw [Nat.mul_one, Nat.or_comm] at hadd
  exact hor.trans hadd.symm

/-- The sign bit is what it is set to. -/
theorem negative_withSign {d : Double} (h : d.bits.toNat < twoPower 63) (negative : Bool) :
    (d.withSign negative).negative = negative := by
  cases negative with
  | false =>
    rw [withSign, if_neg Bool.false_ne_true, Double.negative, Nat.div_eq_of_lt h]
    rfl
  | true =>
    rw [Double.negative, toNat_withSign_true h, Nat.add_div_left _ (by decide), Nat.div_eq_of_lt h]
    rfl

/-- The other fields do not depend on the sign bit. -/
theorem fields_withSign {d : Double} (h : d.bits.toNat < twoPower 63) (negative : Bool) :
    (d.withSign negative).exponentField = d.exponentField ∧
      (d.withSign negative).fraction = d.fraction := by
  cases negative with
  | false => exact ⟨rfl, rfl⟩
  | true =>
    rw [exponentField, exponentField, fraction, fraction, toNat_withSign_true h, twoPower_63,
      twoPower_11, twoPower_52]
    omega

end LineMachine.Double
