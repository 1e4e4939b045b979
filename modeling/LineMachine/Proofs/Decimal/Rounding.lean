import LineMachine.Proofs.Decimal.Format

/-!
# Rounding to doubles

A quotient is rounded in units of a power of two. The unit is chosen so that the quotient has 53
bits in it, or is the least one of the format. A multiple of the unit that is nearest to the
quotient is then nearest among all numbers of the format, because the numbers that are no multiples
of it lie below the least multiple of full length (`isNearest_of_fits`).

From `2 ^ 1024 - 2 ^ 970` on there is no finite number to round to (`rounded_nearest`). What is
nearest to a number is one magnitude: of two that are next to each other only one has an even
significand (`IsNearest.unique`).
-/

namespace LineMachine

namespace Double

/-! ## Rounding to integers -/

/-- Holds of the integer nearest to a number, and of the even one if there are two. -/
structure RoundsTo (x : ℚ) (q : ℕ) : Prop where
  near : |x - q| ≤ 1 / 2
  even : |x - q| = 1 / 2 → q % 2 = 0

variable {x : ℚ} {q : ℕ}

/-- Another integer is at a distance of one half at least. -/
theorem RoundsTo.half_le (h : RoundsTo x q) {k : ℕ} (hk : k ≠ q) : 1 / 2 ≤ |x - k| := by
  have hapart : 1 ≤ |(q : ℚ) - k| := by
    have hdiff : (q : ℤ) - k ≠ 0 := by omega
    exact_mod_cast Int.one_le_abs hdiff
  have htriangle : |(q : ℚ) - k| ≤ |x - q| + |x - k| := by
    rw [abs_sub_comm x q]
    exact abs_sub_le (q : ℚ) x k
  linarith [h.near]

theorem RoundsTo.le_abs_sub (h : RoundsTo x q) (k : ℕ) : |x - q| ≤ |x - k| := by
  rcases eq_or_ne k q with rfl | hk
  · exact le_refl _
  · exact h.near.trans (h.half_le hk)

theorem RoundsTo.even_of_tie (h : RoundsTo x q) {k : ℕ} (hk : k ≠ q) (htie : |x - k| = |x - q|) :
    q % 2 = 0 :=
  h.even (le_antisymm h.near (htie ▸ h.half_le hk))

theorem RoundsTo.lt_of_lt (h : RoundsTo x q) {n : ℕ} (hx : x + 1 / 2 < n) : q < n := by
  have hlow := (abs_le.mp h.near).1
  have hlt : (q : ℚ) < n := by linarith
  exact_mod_cast hlt

theorem RoundsTo.le_of_le (h : RoundsTo x q) {n : ℕ} (hx : (n : ℚ) ≤ x) : n ≤ q := by
  have hhigh := (abs_le.mp h.near).2
  have hlt : (n : ℚ) < (q + 1 : ℕ) := by
    push_cast
    linarith
  exact Nat.lt_succ_iff.mp (by exact_mod_cast hlt)

/-- A distance that is a quotient is compared with one half in natural numbers. -/
theorem roundsTo_of_rest {r den : ℕ} (hden : 0 < den) (hdistance : |x - q| = r / den)
    (hhalf : 2 * r ≤ den) (htie : 2 * r = den → q % 2 = 0) : RoundsTo x q := by
  have hpos : (0 : ℚ) < den := by exact_mod_cast hden
  constructor
  · rw [hdistance, div_le_div_iff₀ hpos two_pos, one_mul, mul_comm]
    exact_mod_cast hhalf
  · intro hequal
    rw [hdistance, div_eq_div_iff hpos.ne' two_ne_zero, one_mul, mul_comm] at hequal
    exact htie (by exact_mod_cast hequal)

/-- A quotient is rounded to the nearest integer. -/
theorem roundsTo_roundEven (num : ℕ) {den : ℕ} (hden : 0 < den) :
    RoundsTo (num / den) (roundEven num den) := by
  have hpos : (0 : ℚ) < den := by exact_mod_cast hden
  have hrest : num % den < den := Nat.mod_lt num hden
  have hquotient : (num : ℚ) / den - (num / den : ℕ) = (num % den : ℕ) / den := by
    have hsplit : (num : ℚ) = den * (num / den : ℕ) + (num % den : ℕ) := by
      exact_mod_cast (Nat.div_add_mod num den).symm
    rw [sub_eq_iff_eq_add, div_eq_iff hpos.ne', add_mul, div_mul_cancel₀ _ hpos.ne']
    linarith
  simp only [roundEven, Bool.or_eq_true, Bool.and_eq_true, decide_eq_true_eq, beq_iff_eq]
  split
  · -- The rest is one half of the divisor or more; what is left of it is one half or less.
    have hleft : (num : ℚ) / den - (num / den + 1 : ℕ) = -((den - num % den : ℕ) / den) := by
      rw [Nat.cast_add_one, ← sub_sub, hquotient, Nat.cast_sub hrest.le, sub_div,
        div_self hpos.ne']
      ring
    have hdistance : |(num : ℚ) / den - (num / den + 1 : ℕ)| = (den - num % den : ℕ) / den := by
      rw [hleft, abs_neg, abs_of_nonneg (by positivity)]
    exact roundsTo_of_rest hden hdistance (by omega) (by omega)
  · have hdistance : |(num : ℚ) / den - (num / den : ℕ)| = (num % den : ℕ) / den := by
      rw [hquotient, abs_of_nonneg (by positivity)]
    exact roundsTo_of_rest hden hdistance (by omega) (by omega)

/-! ## Units -/

section Units

variable {num den : ℕ}

/-- A quotient in units of a power of two, as a quotient of natural numbers. -/
theorem roundsTo_scaled (hden : 0 < den) (s : ℤ) :
    RoundsTo (num / den / 2 ^ s)
      (if 0 ≤ s then roundEven num (den * twoPower s.toNat)
        else roundEven (num * twoPower (-s).toNat) den) := by
  split
  · rename_i hs
    obtain ⟨n, rfl⟩ := Int.eq_ofNat_of_zero_le hs
    have h : RoundsTo _ _ :=
      roundsTo_roundEven num (Nat.mul_pos hden (Nat.pow_pos (n := n) two_pos))
    rwa [Nat.cast_mul, Nat.cast_pow, ← div_div] at h
  · rename_i hs
    obtain ⟨n, hn⟩ := Int.eq_ofNat_of_zero_le (show 0 ≤ -s by omega)
    obtain rfl : s = -n := by omega
    have h := roundsTo_roundEven (num * twoPower n) hden
    rw [Nat.cast_mul, cast_twoPower, mul_div_right_comm, ← div_inv_eq_mul, ← zpow_natCast,
      ← zpow_neg] at h
    rwa [neg_neg, Int.toNat_natCast]

/-- Whether a power of two is at or below a quotient, seen from natural numbers. -/
theorem two_zpow_le_div_iff (hden : 0 < den) (s : ℤ) :
    (if 0 ≤ s then den * twoPower s.toNat ≤ num else den ≤ num * twoPower (-s).toNat) ↔
      (2 : ℚ) ^ s ≤ num / den := by
  have hpos : (0 : ℚ) < den := by exact_mod_cast hden
  rw [le_div_iff₀ hpos]
  split
  · rename_i hs
    obtain ⟨n, rfl⟩ := Int.eq_ofNat_of_zero_le hs
    rw [Int.toNat_natCast, zpow_natCast, ← cast_twoPower, mul_comm]
    exact_mod_cast Iff.rfl
  · rename_i hs
    obtain ⟨n, hn⟩ := Int.eq_ofNat_of_zero_le (show 0 ≤ -s by omega)
    obtain rfl : s = -n := by omega
    rw [neg_neg, Int.toNat_natCast, zpow_neg, zpow_natCast, inv_mul_le_iff₀ (by positivity),
      ← cast_twoPower, mul_comm (twoPower n : ℚ)]
    exact_mod_cast Iff.rfl

theorem log2_le_cast {n : ℕ} (hn : n ≠ 0) : (2 : ℚ) ^ (n.log2 : ℤ) ≤ n := by
  rw [zpow_natCast]
  exact_mod_cast Nat.log2_self_le hn

theorem cast_lt_log2 (n : ℕ) : (n : ℚ) < 2 ^ (n.log2 + 1 : ℤ) := by
  have hlt : (n : ℚ) < (2 ^ (n.log2 + 1) : ℕ) := by exact_mod_cast Nat.lt_log2_self
  exact_mod_cast hlt

/-- A positive quotient lies between two powers of two. -/
theorem binade_spec (hnum : 0 < num) (hden : 0 < den) :
    (2 : ℚ) ^ binade num den ≤ num / den ∧ (num : ℚ) / den < 2 ^ (binade num den + 1) := by
  have hpos : (0 : ℚ) < den := by exact_mod_cast hden
  have hnum' : (0 : ℚ) < num := by exact_mod_cast hnum
  have hlow : (2 : ℚ) ^ ((num.log2 : ℤ) - den.log2 - 1) ≤ num / den := by
    rw [le_div_iff₀ hpos]
    calc (2 : ℚ) ^ ((num.log2 : ℤ) - den.log2 - 1) * den
        ≤ 2 ^ ((num.log2 : ℤ) - den.log2 - 1) * 2 ^ (den.log2 + 1 : ℤ) := by
          gcongr
          exact (cast_lt_log2 den).le
      _ = 2 ^ (num.log2 : ℤ) := by
          rw [← zpow_add₀ two_ne_zero]
          congr 1
          omega
      _ ≤ num := log2_le_cast hnum.ne'
  have hhigh : (num : ℚ) / den < 2 ^ ((num.log2 : ℤ) - den.log2 + 1) := by
    rw [div_lt_iff₀ hpos]
    calc (num : ℚ) < 2 ^ (num.log2 + 1 : ℤ) := cast_lt_log2 num
      _ = 2 ^ ((num.log2 : ℤ) - den.log2 + 1) * 2 ^ (den.log2 : ℤ) := by
          rw [← zpow_add₀ two_ne_zero]
          congr 1
          omega
      _ ≤ 2 ^ ((num.log2 : ℤ) - den.log2 + 1) * den := by
          gcongr
          exact log2_le_cast hden.ne'
  simp only [binade, two_zpow_le_div_iff hden]
  split
  · rename_i hfits
    exact ⟨hfits, hhigh⟩
  · rename_i hfits
    rw [sub_add_cancel]
    exact ⟨hlow, not_le.mp hfits⟩

end Units

/-! ## Rounding to the format -/

/-- Holds of a number of the format whose magnitude is nearest to a number; the significand is even
if another magnitude is as near. -/
structure IsNearest (x : ℚ) (d : Double) : Prop where
  finite : d.isFinite = true
  near : ∀ e : Double, e.isFinite = true → |x - d.magnitude| ≤ |x - e.magnitude|
  even : ∀ e : Double, e.isFinite = true → e.magnitude ≠ d.magnitude →
    |x - e.magnitude| = |x - d.magnitude| → d.significand % 2 = 0

/-- Behind a finite number with an even significand comes one with an odd significand. -/
theorem exists_next {d : Double} (hfinite : d.isFinite = true) (heven : d.significand % 2 = 0) :
    ∃ e, Fits (d.significand + 1) d.scale e := by
  have hfield : d.exponentField ≠ 2047 := bne_iff_ne.mp hfinite
  have hrange : d.exponentField < 2048 := Nat.mod_lt _ (by decide)
  have hscale : d.scale = (max d.exponentField 1 - 1 : ℕ) - 1074 := by
    rw [scale]
    omega
  have hlength := d.significand_lt
  have hleading := d.le_significand_or
  rw [hscale] at hleading ⊢
  rw [twoPower_53] at hlength
  refine ⟨_, fits_ofNat ?_ ?_ ?_⟩
  · rw [twoPower_53]
    omega
  · omega
  · rw [twoPower_52]
    omega

/-- Two nearest numbers are not apart: the one between them would be even, or nearer. -/
theorem IsNearest.magnitude_le {d e : Double} (hd : IsNearest x d) (he : IsNearest x e) :
    e.magnitude ≤ d.magnitude := by
  by_contra! hlt
  have htie : |x - d.magnitude| = |x - e.magnitude| :=
    le_antisymm (hd.near e he.finite) (he.near d hd.finite)
  have hdeven := hd.even e he.finite hlt.ne' htie.symm
  have heeven := he.even d hd.finite hlt.ne htie
  obtain ⟨next, hnext⟩ := exists_next hd.finite hdeven
  have hunit : (0 : ℚ) < 2 ^ d.scale := by positivity
  have hstep : next.magnitude = d.magnitude + 2 ^ d.scale := by
    rw [hnext.magnitude, magnitude]
    push_cast
    ring
  have hle : next.magnitude ≤ e.magnitude := by
    rcases magnitude_grid e d.scale with ⟨k, hk⟩ | ⟨hscale, hsmall⟩
    · rw [hk, magnitude, mul_lt_mul_iff_left₀ hunit] at hlt
      rw [hnext.magnitude, hk]
      gcongr
      exact_mod_cast hlt
    · have hleading : (2 : ℚ) ^ 52 ≤ d.significand := by
        rw [← cast_twoPower]
        exact_mod_cast d.le_significand_or.resolve_right hscale.ne'
      refine absurd hlt (not_lt.mpr (hsmall.le.trans ?_))
      rw [magnitude]
      gcongr
  rcases hle.lt_or_eq with hbetween | hsame
  · -- The number is halfway between the two, and what is between them is nearer to it.
    have hmiddle : x - d.magnitude = e.magnitude - x := by
      rcases abs_eq_abs.mp htie with hequal | hopposite
      · linarith
      · linarith
    have hcloser : |x - next.magnitude| < x - d.magnitude := by
      rw [abs_lt]
      constructor
      · linarith
      · linarith
    exact absurd ((hd.near next hnext.finite).trans_lt hcloser) (not_lt.mpr (le_abs_self _))
  · obtain ⟨hsignificand, -⟩ := parts_of_magnitude_eq hsame
    have hodd := hnext.parity
    omega

/-- There is one nearest number with a given sign. -/
theorem IsNearest.unique {d e : Double} (hd : IsNearest x d) (he : IsNearest x e)
    (hsign : d.negative = e.negative) : d = e :=
  eq_of_magnitude_eq (le_antisymm (he.magnitude_le hd) (hd.magnitude_le he)) hsign

/-- A nearest multiple of a unit is nearest in the whole format, if it is of full length or if the
unit is the least one. -/
theorem isNearest_of_fits {s : ℤ} {d : Double} (hround : RoundsTo (x / 2 ^ s) q)
    (hfits : Fits q s d) (hnormal : s = -1074 ∨ 2 ^ 52 ≤ x / 2 ^ s) : IsNearest x d := by
  have hunit : (0 : ℚ) < 2 ^ s := by positivity
  have hdistance : ∀ y : ℚ, |x - y * 2 ^ s| = |x / 2 ^ s - y| * 2 ^ s := by
    intro y
    rw [← abs_of_pos hunit, ← abs_mul, abs_of_pos hunit, sub_mul, div_mul_cancel₀ _ hunit.ne']
  -- What is not a multiple of the unit is farther away than the least multiple of full length.
  have hbelow : ∀ e : Double, (¬ ∃ k : ℕ, e.magnitude = k * 2 ^ s) →
      |x - d.magnitude| < |x - e.magnitude| := by
    intro e hmultiple
    obtain ⟨hs, hlt⟩ := (magnitude_grid e s).resolve_left hmultiple
    have hfull : 2 ^ 52 ≤ x / 2 ^ s := hnormal.resolve_left hs.ne'
    have hx : 2 ^ 52 * 2 ^ s ≤ x := (le_div_iff₀ hunit).mp hfull
    calc |x - d.magnitude| ≤ |x - (2 ^ 52 : ℕ) * 2 ^ s| := by
          rw [hfits.magnitude, hdistance, hdistance]
          exact mul_le_mul_of_nonneg_right (hround.le_abs_sub (2 ^ 52)) hunit.le
      _ = x - 2 ^ 52 * 2 ^ s := by
          rw [Nat.cast_pow, Nat.cast_ofNat, abs_of_nonneg (sub_nonneg.mpr hx)]
      _ < x - e.magnitude := by linarith
      _ ≤ |x - e.magnitude| := le_abs_self _
  refine ⟨hfits.finite, ?_, ?_⟩
  · intro e _
    by_cases hmultiple : ∃ k : ℕ, e.magnitude = k * 2 ^ s
    · obtain ⟨k, hk⟩ := hmultiple
      rw [hfits.magnitude, hk, hdistance, hdistance]
      exact mul_le_mul_of_nonneg_right (hround.le_abs_sub k) hunit.le
    · exact (hbelow e hmultiple).le
  · intro e _ hne htie
    by_cases hmultiple : ∃ k : ℕ, e.magnitude = k * 2 ^ s
    · obtain ⟨k, hk⟩ := hmultiple
      have hkq : k ≠ q := by
        rintro rfl
        exact hne (hk.trans hfits.magnitude.symm)
      rw [hfits.magnitude, hk, hdistance, hdistance] at htie
      rw [hfits.parity]
      exact hround.even_of_tie hkq (mul_right_cancel₀ hunit.ne' htie)
    · exact absurd htie (hbelow e hmultiple).ne'

/-- Holds of the number without a sign that a number is rounded to. It is finite up to where halfway
to the next power of two is reached. -/
structure Rounded (x : ℚ) (d : Double) : Prop where
  positive : d.bits.toNat < twoPower 63
  nearest : x < 2 ^ 1024 - 2 ^ 970 → IsNearest x d
  overflow : 2 ^ 1024 - 2 ^ 970 ≤ x → d.isFinite = false

theorem rounded_infinity (h : 2 ^ 1024 - 2 ^ 970 ≤ x) : Rounded x infinity :=
  ⟨by decide, fun hlt ↦ absurd h (not_le.mpr hlt), fun _ ↦ by decide⟩

theorem cast_overflowBound : (overflowBound : ℚ) = 2 ^ 1024 - 2 ^ 970 := by
  rw [overflowBound, Nat.cast_sub (twoPower_le_twoPower (by decide)), cast_twoPower, cast_twoPower]

theorem overflowBound_eq : (2 : ℚ) ^ 1024 - 2 ^ 970 = (2 ^ 54 - 1) * 2 ^ 970 := by
  have hpower : (2 : ℚ) ^ 1024 = 2 ^ 54 * 2 ^ 970 := pow_add 2 54 970
  rw [hpower, sub_mul, one_mul]

theorem one_le_overflowBound : (1 : ℚ) ≤ 2 ^ 1024 - 2 ^ 970 := by
  rw [overflowBound_eq]
  exact one_le_mul_of_one_le_of_one_le (by norm_num) (one_le_pow₀ one_le_two)

/-- What rounds to zero: numbers below one half of the least positive number. -/
theorem rounded_zero (hnonneg : 0 ≤ x) (hlt : x < 2 ^ (-1075 : ℤ)) : Rounded x zero := by
  have hunit : (0 : ℚ) < 2 ^ (-1074 : ℤ) := by positivity
  have hhalf : x / 2 ^ (-1074 : ℤ) < 1 / 2 := by
    rw [div_lt_iff₀ hunit]
    calc x < 2 ^ (-1074 + -1 : ℤ) := hlt
      _ = 1 / 2 * 2 ^ (-1074 : ℤ) := by
          rw [zpow_add₀ two_ne_zero, zpow_neg_one]
          ring
  have hround : RoundsTo (x / 2 ^ (-1074 : ℤ)) 0 := by
    have habs : |x / 2 ^ (-1074 : ℤ) - (0 : ℕ)| = x / 2 ^ (-1074 : ℤ) := by
      rw [Nat.cast_zero, sub_zero, abs_of_nonneg (div_nonneg hnonneg hunit.le)]
    exact ⟨habs.trans_le hhalf.le, fun _ ↦ rfl⟩
  have hfits : Fits 0 (-1074) zero :=
    fits_ofNat (e := 0) (by decide) (.inr rfl) (by decide)
  refine ⟨hfits.positive, fun _ ↦ isNearest_of_fits hround hfits (.inl rfl), fun hbound ↦ ?_⟩
  have hsmall : (2 : ℚ) ^ (-1075 : ℤ) ≤ 1 := zpow_le_one_of_nonpos₀ one_le_two (by decide)
  exact absurd (one_le_overflowBound.trans hbound) (not_le.mpr (hlt.trans_le hsmall))

/-- A number between two powers of two is rounded in the unit of its 53 bits, or in the least
unit. -/
theorem rounded_of_binade {b : ℤ} (hlow : 2 ^ b ≤ x) (hhigh : x < 2 ^ (b + 1))
    (hbound : x < 2 ^ 1024 - 2 ^ 970) (hround : RoundsTo (x / 2 ^ max (b - 52) (-1074)) q) :
    Rounded x ⟨UInt64.ofNat ((max (b - 52) (-1074) + 1074).toNat * twoPower 52 + q)⟩ := by
  obtain ⟨e, he⟩ : ∃ e : ℕ, max (b - 52) (-1074) = e - 1074 :=
    ⟨(max (b - 52) (-1074) + 1074).toNat, by omega⟩
  have hfield : ((e : ℤ) - 1074 + 1074).toNat = e := by omega
  rw [he] at hround
  rw [he, hfield]
  have hunit : (0 : ℚ) < 2 ^ (e - 1074 : ℤ) := by positivity
  have hlength : x / 2 ^ (e - 1074 : ℤ) < 2 ^ 53 := by
    rw [div_lt_iff₀ hunit]
    calc x < 2 ^ (b + 1) := hhigh
      _ ≤ 2 ^ (53 + (e - 1074) : ℤ) := zpow_le_zpow_right₀ one_le_two (by omega)
      _ = 2 ^ 53 * 2 ^ (e - 1074 : ℤ) := zpow_add₀ two_ne_zero 53 _
  have hq : q < 2 ^ 53 + 1 := hround.lt_of_lt (by push_cast; linarith)
  have hnormal : (e : ℤ) - 1074 = -1074 ∨ 2 ^ 52 ≤ x / 2 ^ (e - 1074 : ℤ) := by
    rcases le_total (b - 52) (-1074) with hsmall | hlarge
    · left
      omega
    · right
      rw [le_div_iff₀ hunit]
      calc (2 : ℚ) ^ 52 * 2 ^ (e - 1074 : ℤ) = 2 ^ (52 + (e - 1074) : ℤ) :=
            (zpow_add₀ two_ne_zero 52 _).symm
        _ = 2 ^ b := by
            congr 1
            omega
        _ ≤ x := hlow
  have hleading : twoPower 52 ≤ q ∨ e = 0 := by
    rcases hnormal with hsmall | hlarge
    · right
      omega
    · left
      exact hround.le_of_le (by rwa [cast_twoPower])
  have hfinite : e * twoPower 52 + q < 2047 * twoPower 52 := by
    have hb : b < 1024 := by
      rw [← zpow_lt_zpow_iff_right₀ (one_lt_two (α := ℚ))]
      calc (2 : ℚ) ^ b ≤ x := hlow
        _ < 2 ^ 1024 - 2 ^ 970 := hbound
        _ < 2 ^ (1024 : ℤ) := sub_lt_self _ (by positivity)
    rw [twoPower_52]
    rcases Nat.lt_or_ge e 2045 with hlt | hge
    · omega
    · -- In the last unit there is room for 53 bits only.
      obtain rfl : e = 2045 := by omega
      have hlast : x / 2 ^ ((2045 : ℕ) - 1074 : ℤ) + 1 / 2 < (2 ^ 53 : ℕ) := by
        have hpower : (2 : ℚ) ^ ((2045 : ℕ) - 1074 : ℤ) = 2 * 2 ^ 970 :=
          zpow_one_add₀ two_ne_zero 970
        rw [← lt_sub_iff_add_lt, div_lt_iff₀ hunit, hpower]
        calc x < (2 ^ 54 - 1) * 2 ^ 970 := overflowBound_eq ▸ hbound
          _ = ((2 ^ 53 : ℕ) - 1 / 2) * (2 * 2 ^ 970) := by
              rw [← mul_assoc]
              norm_num
      have hroom : q < 2 ^ 53 := hround.lt_of_lt hlast
      omega
  have hfits := fits_ofNat (twoPower_53 ▸ Nat.lt_succ_iff.mp hq) hleading hfinite
  exact ⟨hfits.positive, fun _ ↦ isNearest_of_fits hround hfits hnormal,
    fun hover ↦ absurd hover (not_le.mpr hbound)⟩

/-- **Rounding a quotient.** It goes to the nearest number of the format, or to infinity if there is
none. -/
theorem rounded_nearest {num den : ℕ} (hden : 0 < den) :
    Rounded (num / den) (Double.nearest num den) := by
  have hpos : (0 : ℚ) < den := by exact_mod_cast hden
  rw [Double.nearest]
  split
  · rename_i hnum
    rw [beq_iff_eq.mp hnum, Nat.cast_zero, zero_div]
    exact rounded_zero le_rfl (by positivity)
  split
  · rename_i hbound
    refine rounded_infinity ?_
    rw [le_div_iff₀ hpos, ← cast_overflowBound]
    exact_mod_cast hbound
  · rename_i hnum hbound
    have hlt : (num : ℚ) / den < 2 ^ 1024 - 2 ^ 970 := by
      rw [div_lt_iff₀ hpos, ← cast_overflowBound]
      exact_mod_cast Nat.lt_of_not_le hbound
    obtain ⟨hlow, hhigh⟩ := binade_spec (Nat.pos_of_ne_zero fun h ↦ hnum (beq_iff_eq.mpr h)) hden
    exact rounded_of_binade hlow hhigh hlt (roundsTo_scaled hden _)

/-- The sign is a bit of its own: the number next to a magnitude stays next to it. -/
theorem IsNearest.withSign {d : Double} (h : IsNearest x d) (hpositive : d.bits.toNat < twoPower 63)
    (negative : Bool) : IsNearest x (d.withSign negative) := by
  obtain ⟨hfield, hfraction⟩ := fields_withSign hpositive negative
  have hfinite : (d.withSign negative).isFinite = d.isFinite := by rw [isFinite, isFinite, hfield]
  have hsignificand : (d.withSign negative).significand = d.significand := by
    rw [significand, significand, hfield, hfraction]
  have hmagnitude : (d.withSign negative).magnitude = d.magnitude := by
    rw [magnitude, magnitude, hsignificand, scale, scale, hfield]
  constructor
  · rw [hfinite]
    exact h.finite
  · rw [hmagnitude]
    exact h.near
  · rw [hmagnitude, hsignificand]
    exact h.even

end Double

end LineMachine
