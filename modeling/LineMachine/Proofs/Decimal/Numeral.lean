import Mathlib.Data.List.TakeWhile
import Mathlib.Data.Nat.Digits.Defs
import LineMachine.Decimal.Numeral
import LineMachine.Proofs.Decimal.Rounding

/-!
# The grammar of numerals

What an integer numeral and a decimal numeral are, and what they denote, said without a reader: an
optional sign, ASCII digits, a point with digits on one side of it or on both, and an exponent. The
readers take exactly these (`integer?_eq_some_iff`, `exists_decimal?_iff`).

A decimal number is rounded to the nearest double. Where its size is beyond both ends of the format
that is settled from the number of its digits, and the answer is the same
(`Decimal.exists_rounded`).
-/

namespace LineMachine.Numeral

open Text

/-! ## Parts of a numeral -/

/-- An optional sign, and whether it is a minus. -/
inductive IsSign : Bool → List Char → Prop
  | none : IsSign false []
  | plus : IsSign false ['+']
  | minus : IsSign true ['-']

/-- One ASCII digit or more. -/
structure IsDigits (digits : List Char) : Prop where
  nonempty : digits ≠ []
  ascii : ∀ c ∈ digits, isAsciiDigit c = true

/-- An integer numeral: an optional sign, and digits. -/
inductive IsInteger : List Char → Bool → List Char → Prop
  | mk {negative : Bool} {sign digits : List Char} (hsign : IsSign negative sign)
      (hdigits : IsDigits digits) : IsInteger (sign ++ digits) negative digits

/-- The integer that a sign and digits denote. -/
def integerValue (negative : Bool) (digits : List Char) : ℤ :=
  if negative then -(Nat.ofDigitChars 10 digits 0 : ℤ) else Nat.ofDigitChars 10 digits 0

/-- The digits in front of a point and behind it: digits with an optional point and optional digits
behind it, or a point and digits. -/
inductive IsMantissa : List Char → List Char → List Char → Prop
  | whole {whole : List Char} (hwhole : IsDigits whole) : IsMantissa whole whole []
  | point {whole places : List Char} (hwhole : IsDigits whole)
      (hplaces : ∀ c ∈ places, isAsciiDigit c = true) :
      IsMantissa (whole ++ '.' :: places) whole places
  | places {places : List Char} (hplaces : IsDigits places) : IsMantissa ('.' :: places) [] places

/-- An optional exponent, and the power of ten that it stands for. -/
inductive IsExponent : List Char → ℤ → Prop
  | none : IsExponent [] 0
  | some {mark : Char} {t digits : List Char} {negative : Bool} (hmark : mark = 'e' ∨ mark = 'E')
      (ht : IsInteger t negative digits) : IsExponent (mark :: t) (integerValue negative digits)

/-- The number that the digits in front of a point and behind it denote. -/
def mantissaValue (whole places : List Char) : ℚ :=
  Nat.ofDigitChars 10 whole 0 + Nat.ofDigitChars 10 places 0 / 10 ^ places.length

/-- A decimal numeral, whether it is negative, and its magnitude. -/
inductive IsDecimal : List Char → Bool → ℚ → Prop
  | mk {negative : Bool} {sign mantissa whole places exponent : List Char} {e : ℤ}
      (hsign : IsSign negative sign) (hmantissa : IsMantissa mantissa whole places)
      (hexponent : IsExponent exponent e) :
      IsDecimal (sign ++ (mantissa ++ exponent)) negative (mantissaValue whole places * 10 ^ e)

/-! ## Signs -/

theorem isSign_takeSign (s : List Char) :
    ∃ sign, IsSign (takeSign s).1 sign ∧ s = sign ++ (takeSign s).2 := by
  fun_cases takeSign s with
  | case1 rest => exact ⟨['-'], .minus, rfl⟩
  | case2 rest => exact ⟨['+'], .plus, rfl⟩
  | case3 => exact ⟨[], .none, rfl⟩

/-- A sign is taken off; where there is none, what follows must not start with one. -/
theorem takeSign_append {negative : Bool} {sign s : List Char} (hsign : IsSign negative sign)
    (hs : ∀ c ∈ s.head?, c ≠ '-' ∧ c ≠ '+') : takeSign (sign ++ s) = (negative, s) := by
  cases hsign with
  | plus | minus => rfl
  | none =>
    rw [List.nil_append]
    fun_cases takeSign s with
    | case1 rest => exact absurd rfl (hs '-' rfl).1
    | case2 rest => exact absurd rfl (hs '+' rfl).2
    | case3 => rfl

/-! ## Digits -/

/-- No mark of a numeral is a digit. -/
theorem ne_of_isAsciiDigit {c d : Char} (hc : isAsciiDigit c = true) (hd : isAsciiDigit d = false) :
    c ≠ d := by
  rintro rfl
  exact Bool.false_ne_true (hd.symm.trans hc)

/-- Digits do not start with a sign. -/
theorem IsDigits.head_ne_sign {digits : List Char} (h : IsDigits digits) (rest : List Char) :
    ∀ c ∈ (digits ++ rest).head?, c ≠ '-' ∧ c ≠ '+' := by
  intro c hc
  rw [List.head?_append_of_ne_nil _ h.nonempty] at hc
  have hdigit := h.ascii c (List.mem_of_mem_head? hc)
  exact ⟨ne_of_isAsciiDigit hdigit (by decide), ne_of_isAsciiDigit hdigit (by decide)⟩

theorem isDigits_iff {s : List Char} : isDigits s = true ↔ IsDigits s := by
  rw [isDigits, Bool.and_eq_true, Bool.not_eq_true', List.isEmpty_eq_false_iff, List.all_eq_true]
  exact ⟨fun h ↦ ⟨h.1, h.2⟩, fun h ↦ ⟨h.nonempty, h.ascii⟩⟩

theorem digitsValue_eq (s : List Char) : digitsValue s = Nat.ofDigitChars 10 s 0 := by
  rw [digitsValue, Nat.ofDigitChars_eq_foldl]
  simp only [Nat.mul_comm]
  rfl

theorem signedValue_eq (negative : Bool) (digits : List Char) :
    signedValue negative digits = integerValue negative digits := by
  rw [signedValue, integerValue, digitsValue_eq]

/-- Digits reach up to the first character that is none. -/
theorem span_digits {digits rest : List Char} (hdigits : ∀ c ∈ digits, isAsciiDigit c = true)
    (hrest : ∀ c ∈ rest.head?, isAsciiDigit c = false) :
    (digits ++ rest).takeWhile isAsciiDigit = digits ∧
      (digits ++ rest).dropWhile isAsciiDigit = rest := by
  rw [List.takeWhile_append_of_pos hdigits, List.dropWhile_append_of_pos hdigits]
  cases rest with
  | nil => exact ⟨List.append_nil _, rfl⟩
  | cons c rest =>
    have hc : ¬ isAsciiDigit c = true := by
      rw [hrest c rfl]
      exact Bool.false_ne_true
    rw [List.takeWhile_cons_of_neg hc, List.dropWhile_cons_of_neg hc]
    exact ⟨List.append_nil _, rfl⟩

/-! ## Integer numerals -/

/-- **The reader of integers** takes exactly the integer numerals. -/
theorem integer?_eq_some_iff {s digits : List Char} {negative : Bool} :
    integer? s = some (negative, digits) ↔ IsInteger s negative digits := by
  constructor
  · intro h
    obtain ⟨sign, hsign, hs⟩ := isSign_takeSign s
    rw [integer?] at h
    generalize takeSign s = parts at h hsign hs
    obtain ⟨signed, body⟩ := parts
    dsimp only at h hsign hs
    split at h
    · rename_i hdigits
      cases h
      rw [hs]
      exact .mk hsign (isDigits_iff.mp hdigits)
    · cases h
  · rintro ⟨hsign, hdigits⟩
    have hhead := hdigits.head_ne_sign []
    rw [List.append_nil] at hhead
    rw [integer?, takeSign_append hsign hhead]
    exact if_pos (isDigits_iff.mpr hdigits)

theorem IsInteger.length_le {s digits : List Char} {negative : Bool}
    (h : IsInteger s negative digits) : digits.length ≤ s.length := by
  cases h
  rw [List.length_append]
  exact Nat.le_add_left _ _

/-! ## Decimal numerals -/

theorem exponent?_eq_some_iff {s : List Char} {e : ℤ} : exponent? s = some e ↔ IsExponent s e := by
  constructor
  · intro h
    cases s with
    | nil =>
      cases h
      exact .none
    | cons mark t =>
      rw [exponent?] at h
      split at h
      · rename_i hmark
        obtain ⟨⟨negative, digits⟩, hdigits, rfl⟩ := Option.map_eq_some_iff.mp h
        dsimp only
        rw [signedValue_eq]
        rw [Bool.or_eq_true, beq_iff_eq, beq_iff_eq] at hmark
        exact .some hmark (integer?_eq_some_iff.mp hdigits)
      · cases h
  · intro h
    cases h with
    | none => rfl
    | some hmark ht =>
      rw [exponent?, if_pos (by rwa [Bool.or_eq_true, beq_iff_eq, beq_iff_eq]),
        integer?_eq_some_iff.mpr ht, Option.map_some, Option.some_inj]
      exact signedValue_eq _ _

/-- What stands behind the digits of a mantissa is no digit, and no point. -/
theorem head_of_isExponent {s : List Char} {e : ℤ} (h : IsExponent s e) :
    ∀ c ∈ s.head?, isAsciiDigit c = false ∧ c ≠ '.' := by
  cases h with
  | none => exact fun c hc ↦ nomatch hc
  | some hmark ht =>
    rintro c ⟨⟩
    rcases hmark with rfl | rfl
    · decide
    · decide

/-- The magnitude of a decimal number. -/
def Decimal.magnitude (d : Decimal) : ℚ :=
  d.coefficient * 10 ^ d.exponent

/-- The digits behind a point count as much as the point is moved in front of. -/
theorem mantissaValue_eq (whole places : List Char) (e : ℤ) :
    (digitsValue (whole ++ places) : ℚ) * 10 ^ (e - places.length) =
      mantissaValue whole places * 10 ^ e := by
  have hsplit : digitsValue (whole ++ places) =
      10 ^ places.length * Nat.ofDigitChars 10 whole 0 + Nat.ofDigitChars 10 places 0 := by
    rw [digitsValue_eq, Nat.ofDigitChars_append, Nat.ofDigitChars_eq_ofDigitChars_zero]
  rw [hsplit, mantissaValue, zpow_sub₀ (by norm_num), zpow_natCast]
  push_cast
  field_simp

/-- Digits on both sides of a point, or on one of them. -/
theorem isMantissa_of_point {whole places : List Char} (hwhole : ∀ c ∈ whole, isAsciiDigit c = true)
    (hplaces : ∀ c ∈ places, isAsciiDigit c = true)
    (h : ¬ (whole.isEmpty && places.isEmpty) = true) :
    IsMantissa (whole ++ '.' :: places) whole places := by
  rcases eq_or_ne whole [] with rfl | hnonempty
  · rw [List.isEmpty_nil, Bool.true_and, List.isEmpty_iff] at h
    exact .places ⟨h, hplaces⟩
  · exact .point ⟨hnonempty, hwhole⟩ hplaces

/-- What is read of a numeral denotes what the numeral does. -/
theorem isDecimal_of_exponent? {negative : Bool} {sign mantissa whole places exponent : List Char}
    {d : Decimal} (hsign : IsSign negative sign) (hmantissa : IsMantissa mantissa whole places)
    (h : ((exponent? exponent).map fun e ↦ (⟨negative, digitsValue (whole ++ places),
      e - (places.length : ℤ)⟩ : Decimal)) = some d) :
    IsDecimal (sign ++ (mantissa ++ exponent)) d.negative d.magnitude := by
  obtain ⟨e, he, rfl⟩ := Option.map_eq_some_iff.mp h
  rw [Decimal.magnitude, mantissaValue_eq]
  exact .mk hsign hmantissa (exponent?_eq_some_iff.mp he)

theorem isDecimal_of_decimal? {s : List Char} {d : Decimal} (h : decimal? s = some d) :
    IsDecimal s d.negative d.magnitude := by
  obtain ⟨sign, hsign, hs⟩ := isSign_takeSign s
  rw [decimal?] at h
  generalize takeSign s = parts at h hsign hs
  obtain ⟨negative, body⟩ := parts
  have hwhole : ∀ c ∈ body.takeWhile isAsciiDigit, isAsciiDigit c = true :=
    fun c ↦ List.mem_takeWhile_imp
  have hbody := List.takeWhile_append_dropWhile (p := isAsciiDigit) (l := body)
  dsimp only at h hsign hs
  generalize body.takeWhile isAsciiDigit = whole at h hbody hwhole
  generalize body.dropWhile isAsciiDigit = behind at h hbody
  rw [hs, ← hbody]
  split at h
  · -- Digits behind a point: without digits in front of it there must be some.
    rename_i rest
    have hplaces : ∀ c ∈ rest.takeWhile isAsciiDigit, isAsciiDigit c = true :=
      fun c ↦ List.mem_takeWhile_imp
    have hrest := List.takeWhile_append_dropWhile (p := isAsciiDigit) (l := rest)
    dsimp only at h
    generalize rest.takeWhile isAsciiDigit = places at h hrest hplaces
    generalize rest.dropWhile isAsciiDigit = exponent at h hrest
    rw [← hrest]
    split at h
    · cases h
    · rename_i hdigits
      have hmantissa := isMantissa_of_point hwhole hplaces hdigits
      have hdecimal := isDecimal_of_exponent? hsign hmantissa h
      rwa [List.append_assoc, List.cons_append] at hdecimal
  · -- Digits without a point.
    dsimp only at h
    split at h
    · cases h
    · rename_i hdigits
      rw [List.isEmpty_nil, Bool.and_true, List.isEmpty_iff] at hdigits
      exact isDecimal_of_exponent? hsign (.whole ⟨hdigits, hwhole⟩) h

/-- A mantissa starts with a digit or a point. -/
theorem head_of_isMantissa {mantissa whole places : List Char}
    (h : IsMantissa mantissa whole places) (rest : List Char) :
    ∀ c ∈ (mantissa ++ rest).head?, c ≠ '-' ∧ c ≠ '+' := by
  cases h with
  | whole hwhole => exact hwhole.head_ne_sign rest
  | point hwhole hplaces =>
    rw [List.append_assoc]
    exact hwhole.head_ne_sign _
  | places hplaces =>
    rintro c ⟨⟩
    decide

/-- A decimal numeral is read as its parts. -/
theorem decimal?_append {negative : Bool} {sign mantissa whole places exponent : List Char} {e : ℤ}
    (hsign : IsSign negative sign) (hmantissa : IsMantissa mantissa whole places)
    (hexponent : IsExponent exponent e) :
    decimal? (sign ++ (mantissa ++ exponent)) =
      some ⟨negative, digitsValue (whole ++ places), e - (places.length : ℤ)⟩ := by
  have hhead := head_of_isExponent hexponent
  have hrest : ∀ c ∈ exponent.head?, isAsciiDigit c = false := fun c hc ↦ (hhead c hc).1
  have hpoint : ∀ behind : List Char, ∀ c ∈ ('.' :: behind).head?, isAsciiDigit c = false := by
    rintro behind c ⟨⟩
    decide
  have hexponent? := exponent?_eq_some_iff.mpr hexponent
  rw [decimal?, takeSign_append hsign (head_of_isMantissa hmantissa exponent)]
  dsimp only
  cases hmantissa with
  | whole hwhole =>
    obtain ⟨htake, hdrop⟩ := span_digits hwhole.ascii hrest
    rw [htake, hdrop]
    split
    · exact absurd rfl (hhead '.' rfl).2
    · dsimp only
      rw [List.isEmpty_eq_false_iff.mpr hwhole.nonempty, hexponent?]
      rfl
  | point hwhole hplaces =>
    rw [List.append_assoc, List.cons_append]
    obtain ⟨htake, hdrop⟩ := span_digits hwhole.ascii (hpoint (places ++ exponent))
    obtain ⟨htake', hdrop'⟩ := span_digits hplaces hrest
    simp only [htake, hdrop, htake', hdrop', List.isEmpty_eq_false_iff.mpr hwhole.nonempty,
      hexponent?]
    rfl
  | places hplaces =>
    obtain ⟨htake, hdrop⟩ := span_digits (List.forall_mem_nil _) (hpoint (places ++ exponent))
    obtain ⟨htake', hdrop'⟩ := span_digits hplaces.ascii hrest
    rw [List.nil_append] at htake hdrop
    simp only [List.cons_append, htake, hdrop, htake', hdrop',
      List.isEmpty_eq_false_iff.mpr hplaces.nonempty, hexponent?]
    rfl

/-- **The reader of decimal numbers** takes exactly the decimal numerals, with the sign and the
magnitude that they denote. -/
theorem exists_decimal?_iff {s : List Char} {negative : Bool} {x : ℚ} :
    (∃ d, decimal? s = some d ∧ d.negative = negative ∧ d.magnitude = x) ↔
      IsDecimal s negative x := by
  constructor
  · rintro ⟨d, hd, rfl, rfl⟩
    exact isDecimal_of_decimal? hd
  · rintro ⟨hsign, hmantissa, hexponent⟩
    exact ⟨_, decimal?_append hsign hmantissa hexponent, rfl, mantissaValue_eq _ _ _⟩

/-! ## Rounding -/

namespace Decimal

open Double

/-- The number of digits that the size of a decimal number is settled from. -/
def digitCount (d : Decimal) : ℕ :=
  (Nat.toDigits 10 d.coefficient).length

theorem digitCount_pos (d : Decimal) : 0 < d.digitCount :=
  List.length_pos_of_ne_nil Nat.toDigits_ne_nil

theorem magnitude_lt (d : Decimal) : d.magnitude < 10 ^ (d.digitCount + d.exponent) := by
  have hlt : d.coefficient < 10 ^ d.digitCount :=
    (Nat.length_toDigits_le_iff (by decide) d.digitCount_pos).mp le_rfl
  rw [magnitude, zpow_add₀ (by norm_num), zpow_natCast]
  gcongr
  exact_mod_cast hlt

theorem le_magnitude {d : Decimal} (h : d.coefficient ≠ 0) :
    10 ^ (d.digitCount + d.exponent - 1) ≤ d.magnitude := by
  have hle : 10 ^ (d.digitCount - 1) ≤ d.coefficient := by
    rcases Nat.eq_zero_or_pos (d.digitCount - 1) with hone | hmore
    · rw [hone]
      exact Nat.one_le_iff_ne_zero.mpr h
    · rw [← not_lt, ← Nat.length_toDigits_le_iff (by decide) hmore]
      exact Nat.not_le.mpr (Nat.sub_lt d.digitCount_pos one_pos)
  have hexponent : (d.digitCount + d.exponent - 1 : ℤ) = (d.digitCount - 1 : ℕ) + d.exponent := by
    have hpos := d.digitCount_pos
    omega
  rw [magnitude, hexponent, zpow_add₀ (by norm_num), zpow_natCast]
  gcongr
  exact_mod_cast hle

/-- A decimal number of size less than -330 is below one half of the least positive double. -/
theorem ten_zpow_lt : (10 : ℚ) ^ (-331 : ℤ) < 2 ^ (-1075 : ℤ) := by
  have hlt : twoPower 1075 < tenPower 331 := by decide +kernel
  have hcast : (2 : ℚ) ^ 1075 < 10 ^ 331 := by
    rw [← cast_twoPower, ← cast_tenPower]
    exact_mod_cast hlt
  rw [zpow_neg, zpow_neg]
  exact inv_strictAnti₀ (by positivity) hcast

/-- A decimal number of size greater than 310 is above the range of doubles. -/
theorem overflowBound_le : (2 : ℚ) ^ 1024 - 2 ^ 970 ≤ 10 ^ (310 : ℤ) := by
  have hle : overflowBound ≤ tenPower 310 := by decide +kernel
  calc (2 : ℚ) ^ 1024 - 2 ^ 970 = overflowBound := cast_overflowBound.symm
    _ ≤ tenPower 310 := by exact_mod_cast hle
    _ = 10 ^ (310 : ℤ) := cast_tenPower 310

/-- The shortcuts for sizes at both ends give what rounding gives. -/
theorem exists_rounded (d : Decimal) :
    ∃ m : Double, d.toDouble = m.withSign d.negative ∧ Rounded d.magnitude m := by
  have hnonneg : 0 ≤ d.magnitude := by
    rw [magnitude]
    positivity
  refine ⟨_, rfl, ?_⟩
  split
  · rename_i hsmall
    rw [Bool.or_eq_true, beq_iff_eq, decide_eq_true_iff] at hsmall
    refine rounded_zero hnonneg ?_
    rcases hsmall with hzero | hsize
    · rw [magnitude, hzero, Nat.cast_zero, zero_mul]
      positivity
    · calc d.magnitude < 10 ^ (d.digitCount + d.exponent) := d.magnitude_lt
        _ ≤ 10 ^ (-331 : ℤ) := zpow_le_zpow_right₀ (by norm_num) (Int.le_sub_one_of_lt hsize)
        _ < 2 ^ (-1075 : ℤ) := ten_zpow_lt
  rename_i hsmall
  rw [Bool.or_eq_true, beq_iff_eq, not_or] at hsmall
  split
  · rename_i hlarge
    refine rounded_infinity ?_
    calc (2 : ℚ) ^ 1024 - 2 ^ 970 ≤ 10 ^ (310 : ℤ) := overflowBound_le
      _ ≤ 10 ^ (d.digitCount + d.exponent - 1) :=
          zpow_le_zpow_right₀ (by norm_num) (Int.le_sub_one_of_lt hlarge)
      _ ≤ d.magnitude := le_magnitude hsmall.1
  split
  · rename_i hexponent
    obtain ⟨n, hn⟩ := Int.eq_ofNat_of_zero_le hexponent
    have hquotient : d.magnitude = (d.coefficient * tenPower n : ℕ) / (1 : ℕ) := by
      rw [magnitude, hn, zpow_natCast, Nat.cast_mul, cast_tenPower, Nat.cast_one, div_one]
    rw [hquotient, hn, Int.toNat_natCast]
    exact rounded_nearest one_pos
  · rename_i hexponent
    obtain ⟨n, hn⟩ := Int.eq_ofNat_of_zero_le (show 0 ≤ -d.exponent by omega)
    have hquotient : d.magnitude = d.coefficient / (tenPower n : ℕ) := by
      rw [magnitude, ← neg_neg d.exponent, hn, zpow_neg, zpow_natCast, cast_tenPower,
        div_eq_mul_inv]
    rw [hquotient, hn, Int.toNat_natCast]
    exact rounded_nearest (Nat.pow_pos (by decide))

/-- **Rounding a decimal number.** Its sign is kept, and its magnitude goes to the nearest number of
the format; there is none from halfway above the greatest one on. -/
theorem toDouble_spec (d : Decimal) :
    (d.magnitude < 2 ^ 1024 - 2 ^ 970 →
      IsNearest d.magnitude d.toDouble ∧ d.toDouble.negative = d.negative) ∧
    (2 ^ 1024 - 2 ^ 970 ≤ d.magnitude → d.toDouble.isFinite = false) := by
  obtain ⟨m, hm, hrounded⟩ := d.exists_rounded
  rw [hm]
  refine ⟨fun hlt ↦ ⟨?_, negative_withSign hrounded.positive _⟩, fun hover ↦ ?_⟩
  · exact (hrounded.nearest hlt).withSign hrounded.positive _
  · obtain ⟨hfield, -⟩ := fields_withSign hrounded.positive d.negative
    rw [isFinite, hfield]
    exact hrounded.overflow hover

end Decimal

end LineMachine.Numeral
