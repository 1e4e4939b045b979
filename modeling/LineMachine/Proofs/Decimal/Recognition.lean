import LineMachine.Proofs.Coercion
import LineMachine.Proofs.Decimal.Numeral

/-!
# Which texts are numbers

A text becomes a number exactly if it is a numeral between blanks: an integer if it is an integer
numeral, and otherwise the nearest double if it is a decimal numeral of a magnitude that the format
has room for. Every other text stays as it is, with its blanks (`toNumber_recognition`).

The other way round, an integer that is written down is read back, also with zeros in front of its
digits, with a sign, and with blanks around it (`toNumber_written`).
-/

namespace LineMachine.Coercion

open Numeral Double

/-! ## Numerals -/

variable {s : String} {negative : Bool} {digits : List Char} {x : ℚ}

/-- Holds of a text that is no integer numeral. -/
def NoInteger (s : String) : Prop :=
  ∀ negative digits, ¬ IsInteger (Text.trim s.toList) negative digits

theorem toNumber_of_isInteger (h : IsInteger (Text.trim s.toList) negative digits)
    (hlength : digits.length ≤ maxDigits) :
    toNumber s = .ok (.int (integerValue negative digits)) := by
  simp only [toNumber, integer?_eq_some_iff.mpr h, if_neg (Nat.not_lt.mpr hlength), signedValue_eq]

theorem integer?_of_noInteger (h : NoInteger s) : integer? (Text.trim s.toList) = none := by
  refine Option.eq_none_iff_forall_ne_some.mpr ?_
  rintro ⟨negative, digits⟩ hsome
  exact h negative digits (integer?_eq_some_iff.mp hsome)

/-- A decimal numeral becomes the nearest double of its sign, if there is room for its magnitude. -/
theorem toNumber_of_isDecimal (hinteger : NoInteger s)
    (h : IsDecimal (Text.trim s.toList) negative x) :
    (x < 2 ^ 1024 - 2 ^ 970 →
      ∃ d : Double, toNumber s = .ok (.float d) ∧ d.negative = negative ∧ IsNearest x d) ∧
    (2 ^ 1024 - 2 ^ 970 ≤ x → toNumber s = .ok (.str s)) := by
  obtain ⟨decimal, hdecimal, rfl, rfl⟩ := exists_decimal?_iff.mpr h
  obtain ⟨hroom, hnone⟩ := decimal.toDouble_spec
  simp only [toNumber, integer?_of_noInteger hinteger, hdecimal]
  constructor
  · intro hlt
    obtain ⟨hnearest, hsign⟩ := hroom hlt
    rw [if_pos hnearest.finite]
    exact ⟨_, rfl, hsign, hnearest⟩
  · intro hover
    rw [hnone hover, if_neg Bool.false_ne_true]

theorem toNumber_of_noDecimal (hinteger : NoInteger s)
    (h : ∀ negative x, ¬ IsDecimal (Text.trim s.toList) negative x) :
    toNumber s = .ok (.str s) := by
  have hnone : decimal? (Text.trim s.toList) = none := by
    refine Option.eq_none_iff_forall_ne_some.mpr fun d hd ↦ ?_
    exact h _ _ (exists_decimal?_iff.mp ⟨d, hd, rfl, rfl⟩)
  simp only [toNumber, integer?_of_noInteger hinteger, hnone]

/-- A text denotes one decimal number at most. -/
theorem isDecimal_unique {t : List Char} {negative' : Bool} {x' : ℚ} (h : IsDecimal t negative x)
    (h' : IsDecimal t negative' x') : negative = negative' ∧ x = x' := by
  obtain ⟨d, hd, rfl, rfl⟩ := exists_decimal?_iff.mpr h
  obtain ⟨d', hd', rfl, rfl⟩ := exists_decimal?_iff.mpr h'
  cases hd.symm.trans hd'
  exact ⟨rfl, rfl⟩

section Cases

variable (hshort : ∀ negative digits,
  IsInteger (Text.trim s.toList) negative digits → digits.length ≤ maxDigits)

include hshort

/-- What a text is turned into: an integer, a double, or itself. -/
theorem toNumber_cases :
    (∃ negative digits, IsInteger (Text.trim s.toList) negative digits ∧
      toNumber s = .ok (.int (integerValue negative digits))) ∨
    (NoInteger s ∧ ∃ (d : Double) (x : ℚ), IsDecimal (Text.trim s.toList) d.negative x ∧
      x < 2 ^ 1024 - 2 ^ 970 ∧ IsNearest x d ∧ toNumber s = .ok (.float d)) ∨
    (NoInteger s ∧ (∀ negative x, IsDecimal (Text.trim s.toList) negative x →
      2 ^ 1024 - 2 ^ 970 ≤ x) ∧ toNumber s = .ok (.str s)) := by
  by_cases hinteger : ∃ negative digits, IsInteger (Text.trim s.toList) negative digits
  · obtain ⟨negative, digits, h⟩ := hinteger
    exact .inl ⟨negative, digits, h, toNumber_of_isInteger h (hshort negative digits h)⟩
  have hnone : NoInteger s := fun negative digits h ↦ hinteger ⟨negative, digits, h⟩
  by_cases hdecimal : ∃ negative x, IsDecimal (Text.trim s.toList) negative x
  · obtain ⟨negative, x, h⟩ := hdecimal
    obtain ⟨hroom, hover⟩ := toNumber_of_isDecimal hnone h
    rcases lt_or_ge x (2 ^ 1024 - 2 ^ 970) with hlt | hge
    · obtain ⟨d, hd, rfl, hnearest⟩ := hroom hlt
      exact .inr (.inl ⟨hnone, d, x, h, hlt, hnearest, hd⟩)
    · refine .inr (.inr ⟨hnone, fun negative' x' h' ↦ ?_, hover hge⟩)
      obtain ⟨-, rfl⟩ := isDecimal_unique h h'
      exact hge
  · refine .inr (.inr ⟨hnone, fun negative x h ↦ absurd ⟨negative, x, h⟩ hdecimal, ?_⟩)
    exact toNumber_of_noDecimal hnone fun negative x h ↦ hdecimal ⟨negative, x, h⟩

theorem toNumber_eq_int_iff {n : ℤ} :
    toNumber s = .ok (.int n) ↔
      ∃ negative digits, IsInteger (Text.trim s.toList) negative digits ∧
        n = integerValue negative digits := by
  constructor
  · intro h
    rcases toNumber_cases hshort with
      ⟨negative, digits, hinteger, hread⟩ | ⟨-, d, x, -, -, -, hread⟩ | ⟨-, -, hread⟩
    · cases h.symm.trans hread
      exact ⟨negative, digits, hinteger, rfl⟩
    · cases h.symm.trans hread
    · cases h.symm.trans hread
  · rintro ⟨negative, digits, hinteger, rfl⟩
    exact toNumber_of_isInteger hinteger (hshort negative digits hinteger)

theorem toNumber_eq_float_iff {d : Double} :
    toNumber s = .ok (.float d) ↔
      NoInteger s ∧ ∃ x, IsDecimal (Text.trim s.toList) d.negative x ∧
        x < 2 ^ 1024 - 2 ^ 970 ∧ IsNearest x d := by
  constructor
  · intro h
    rcases toNumber_cases hshort with
      ⟨negative, digits, -, hread⟩ | ⟨hnone, d', x, hdecimal, hlt, hnearest, hread⟩ | ⟨-, -, hread⟩
    · cases h.symm.trans hread
    · cases h.symm.trans hread
      exact ⟨hnone, x, hdecimal, hlt, hnearest⟩
    · cases h.symm.trans hread
  · rintro ⟨hnone, x, hdecimal, hlt, hnearest⟩
    obtain ⟨d', hread, hsign, hnearest'⟩ := (toNumber_of_isDecimal hnone hdecimal).1 hlt
    rw [hread, hnearest'.unique hnearest hsign]

theorem toNumber_eq_str_iff :
    toNumber s = .ok (.str s) ↔
      NoInteger s ∧ ∀ negative x, IsDecimal (Text.trim s.toList) negative x →
        2 ^ 1024 - 2 ^ 970 ≤ x := by
  constructor
  · intro h
    rcases toNumber_cases hshort with
      ⟨negative, digits, -, hread⟩ | ⟨-, d, x, -, -, -, hread⟩ | ⟨hnone, hover, -⟩
    · cases h.symm.trans hread
    · cases h.symm.trans hread
    · exact ⟨hnone, hover⟩
  · rintro ⟨hnone, hover⟩
    rcases toNumber_cases hshort with
      ⟨negative, digits, hinteger, -⟩ | ⟨-, d, x, hdecimal, hlt, -⟩ | ⟨-, -, hread⟩
    · exact absurd hinteger (hnone negative digits)
    · exact absurd hlt (not_lt.mpr (hover d.negative x hdecimal))
    · exact hread

/-- A decimal numeral that there is room for has a double. -/
theorem exists_toNumber_float_iff :
    (∃ d, toNumber s = .ok (.float d)) ↔
      NoInteger s ∧ ∃ negative x, IsDecimal (Text.trim s.toList) negative x ∧
        x < 2 ^ 1024 - 2 ^ 970 := by
  constructor
  · rintro ⟨d, h⟩
    obtain ⟨hnone, x, hdecimal, hlt, -⟩ := (toNumber_eq_float_iff hshort).mp h
    exact ⟨hnone, d.negative, x, hdecimal, hlt⟩
  · rintro ⟨hnone, negative, x, hdecimal, hlt⟩
    obtain ⟨d, hread, -⟩ := (toNumber_of_isDecimal hnone hdecimal).1 hlt
    exact ⟨d, hread⟩

end Cases

/-- Halfway between two doubles it is the one with the even significand. -/
example : toNumber "9007199254740993.0" = .ok (.float ⟨0x4340000000000000⟩) := by decide +kernel

/-! ## Written integers -/

theorem isBlank_of_isAsciiDigit {c : Char} (h : Text.isAsciiDigit c = true) :
    Text.isBlank c = false := by
  rw [Text.isAsciiDigit, Bool.and_eq_true, decide_eq_true_iff, decide_eq_true_iff] at h
  have hlow : 48 ≤ c.toNat := h.1
  have hhigh : c.toNat ≤ 57 := h.2
  simp only [Text.isBlank, Text.isSpace, if_pos (show c.toNat < 128 by omega), Bool.or_eq_false_iff,
    Bool.and_eq_false_iff, beq_eq_false_iff_ne, decide_eq_false_iff_not]
  omega

theorem isBlank_of_isSign {negative : Bool} {sign : List Char} (h : IsSign negative sign) :
    ∀ c ∈ sign, Text.isBlank c = false := by
  cases h with
  | none => exact List.forall_mem_nil _
  | plus | minus => exact List.forall_mem_singleton.mpr rfl

/-- **Written integers are read back**, with zeros in front of the digits, with any sign, and with
blanks around. -/
theorem toNumber_written {sign before after : List Char} {m k : ℕ} (hsign : IsSign negative sign)
    (hbefore : ∀ c ∈ before, Text.isBlank c = true) (hafter : ∀ c ∈ after, Text.isBlank c = true)
    (hlength : k + (Nat.toDigits 10 m).length ≤ maxDigits) :
    toNumber (String.ofList
      (before ++ (sign ++ (List.replicate k '0' ++ Nat.toDigits 10 m)) ++ after)) =
        .ok (.int (if negative then -m else m)) := by
  have hascii : ∀ c ∈ List.replicate k '0' ++ Nat.toDigits 10 m, Text.isAsciiDigit c = true := by
    intro c hc
    rcases List.mem_append.mp hc with hzero | hdigit
    · rw [List.eq_of_mem_replicate hzero]
      decide
    · exact Nat.isDigit_of_mem_toDigits (by decide) (by decide) hdigit
  have hdigits : IsDigits (List.replicate k '0' ++ Nat.toDigits 10 m) :=
    ⟨List.append_ne_nil_of_right_ne_nil _ Nat.toDigits_ne_nil, hascii⟩
  have hblank : ∀ c ∈ sign ++ (List.replicate k '0' ++ Nat.toDigits 10 m),
      Text.isBlank c = false := by
    intro c hc
    rcases List.mem_append.mp hc with hmark | hdigit
    · exact isBlank_of_isSign hsign c hmark
    · exact isBlank_of_isAsciiDigit (hascii c hdigit)
  have hvalue : Nat.ofDigitChars 10 (List.replicate k '0' ++ Nat.toDigits 10 m) 0 = m := by
    rw [Nat.ofDigitChars_append, Nat.ofDigitChars_replicate_zero, Nat.mul_zero,
      Nat.ofDigitChars_ten_toDigits]
  have hinteger : IsInteger (Text.trim (String.ofList
      (before ++ (sign ++ (List.replicate k '0' ++ Nat.toDigits 10 m)) ++ after)).toList) negative
      (List.replicate k '0' ++ Nat.toDigits 10 m) := by
    rw [String.toList_ofList, Text.trim_between hbefore hafter hblank]
    exact .mk hsign hdigits
  rw [toNumber_of_isInteger hinteger, integerValue, hvalue]
  rwa [List.length_append, List.length_replicate]

theorem toNumber_toString {n : ℤ} (hlength : (Nat.toDigits 10 n.natAbs).length ≤ maxDigits) :
    toNumber (toString n) = .ok (.int n) := by
  rw [← Nat.zero_add (List.length _)] at hlength
  cases n with
  | ofNat m =>
    have hread := toNumber_written .none (List.forall_mem_nil _) (List.forall_mem_nil _) hlength
    rw [List.append_nil, List.nil_append, List.nil_append, List.replicate_zero, List.nil_append]
      at hread
    have hwritten : toString (Int.ofNat m) = String.ofList (Nat.toDigits 10 m) :=
      Nat.toString_eq_ofList_toDigits
    rw [hwritten]
    exact hread
  | negSucc m =>
    have hread := toNumber_written .minus (List.forall_mem_nil _) (List.forall_mem_nil _) hlength
    rw [List.append_nil, List.nil_append, List.replicate_zero, List.nil_append,
      String.ofList_append, ← Nat.repr_eq_ofList_toDigits] at hread
    exact hread

/-! ## Results -/

/-- **Recognition of numbers.** Let a text be no integer numeral of too many digits. It becomes an
integer exactly if it is an integer numeral between blanks, and then the one that is denoted; it
becomes a double exactly if it is another decimal numeral, of a magnitude below the bound of the
format, and then the nearest one of its sign; and it stays as it is exactly if it is neither. An
integer of no more digits than are allowed is read back from its text, whatever sign, zeros and
blanks are put in front of its digits. What came of a coercion is left alone by it. -/
theorem toNumber_recognition :
    (∀ s : String,
      (∀ negative digits, IsInteger (Text.trim s.toList) negative digits →
        digits.length ≤ maxDigits) →
      (∀ n, toNumber s = .ok (.int n) ↔
        ∃ negative digits, IsInteger (Text.trim s.toList) negative digits ∧
          n = integerValue negative digits) ∧
      ((∃ d, toNumber s = .ok (.float d)) ↔
        NoInteger s ∧ ∃ negative x, IsDecimal (Text.trim s.toList) negative x ∧
          x < 2 ^ 1024 - 2 ^ 970) ∧
      (∀ d, toNumber s = .ok (.float d) ↔
        NoInteger s ∧ ∃ x, IsDecimal (Text.trim s.toList) d.negative x ∧
          x < 2 ^ 1024 - 2 ^ 970 ∧ IsNearest x d) ∧
      (toNumber s = .ok (.str s) ↔
        NoInteger s ∧ ∀ negative x, IsDecimal (Text.trim s.toList) negative x →
          2 ^ 1024 - 2 ^ 970 ≤ x)) ∧
    (∀ n : ℤ, (Nat.toDigits 10 n.natAbs).length ≤ maxDigits →
      toNumber (toString n) = .ok (.int n)) ∧
    (∀ (negative : Bool) (sign before after : List Char) (m k : ℕ), IsSign negative sign →
      (∀ c ∈ before, Text.isBlank c = true) → (∀ c ∈ after, Text.isBlank c = true) →
      k + (Nat.toDigits 10 m).length ≤ maxDigits →
      toNumber (String.ofList
        (before ++ (sign ++ (List.replicate k '0' ++ Nat.toDigits 10 m)) ++ after)) =
          .ok (.int (if negative then -m else m))) ∧
    ∀ (x : Value) (type : Option Value) (y : Value),
      coerce x type = .ok y → coerce y type = .ok y := by
  refine ⟨fun s hshort ↦ ?_, fun n ↦ toNumber_toString,
    fun negative sign before after m k ↦ toNumber_written, fun x type y ↦ coerce_coerce⟩
  exact ⟨fun n ↦ toNumber_eq_int_iff hshort, exists_toNumber_float_iff hshort,
    fun d ↦ toNumber_eq_float_iff hshort, toNumber_eq_str_iff hshort⟩

theorem noInteger_thousand : NoInteger " 1e3" := by
  intro negative digits h
  have hread : integer? (Text.trim " 1e3".toList) = none := by decide
  rw [integer?_eq_some_iff.mpr h] at hread
  cases hread

theorem isDecimal_thousand : IsDecimal (Text.trim " 1e3".toList) false 1000 := by
  have hdigit : IsDigits ['1'] := ⟨List.cons_ne_nil _ _, List.forall_mem_singleton.mpr rfl⟩
  have hpower : IsInteger ['3'] false ['3'] :=
    .mk .none ⟨List.cons_ne_nil _ _, List.forall_mem_singleton.mpr rfl⟩
  have hdecimal := IsDecimal.mk .none (.whole hdigit) (.some (.inl rfl) hpower)
  have hone : Nat.ofDigitChars 10 ['1'] 0 = 1 := by decide
  have hthree : integerValue false ['3'] = 3 := by decide
  have hvalue : mantissaValue ['1'] [] * 10 ^ integerValue false ['3'] = 1000 := by
    rw [mantissaValue, hone, hthree, Nat.ofDigitChars_nil]
    norm_num
  rwa [hvalue] at hdecimal

/-- A thousand with an exponent is read as a double. Integers are read back, one with a minus and
one with zeros and blanks, and a number that came of a text is not turned again. -/
theorem toNumber_recognition_thousand :
    (∃ d, toNumber " 1e3" = .ok (.float d)) ∧
      toNumber (toString (-12 : ℤ)) = .ok (.int (-12)) ∧
      toNumber (String.ofList ([' '] ++ (['+'] ++ (List.replicate 2 '0' ++ Nat.toDigits 10 7)) ++
        ['\t'])) = .ok (.int 7) ∧
      coerce (.str " 7 ") (some (.str "number")) = .ok (.int 7) ∧
      coerce (.int 7) (some (.str "number")) = .ok (.int 7) := by
  have hbound : (1000 : ℚ) < 2 ^ 1024 - 2 ^ 970 := by
    rw [overflowBound_eq]
    calc (1000 : ℚ) < (2 ^ 54 - 1) * 1 := by norm_num
      _ ≤ (2 ^ 54 - 1) * 2 ^ 970 := by
          gcongr
          exact one_le_pow₀ one_le_two
  have hseven : coerce (.str " 7 ") (some (.str "number")) = .ok (.int 7) := by decide
  refine ⟨?_, ?_, ?_, hseven, ?_⟩
  · refine (toNumber_recognition.1 " 1e3" fun negative digits h ↦ ?_).2.1.mpr
      ⟨noInteger_thousand, false, 1000, isDecimal_thousand, hbound⟩
    exact absurd h (noInteger_thousand negative digits)
  · exact toNumber_recognition.2.1 (-12) (by decide)
  · exact toNumber_recognition.2.2.1 false ['+'] [' '] ['\t'] 7 2 .plus
      (List.forall_mem_singleton.mpr rfl) (List.forall_mem_singleton.mpr rfl) (by decide)
  · exact toNumber_recognition.2.2.2 _ _ _ hseven

end LineMachine.Coercion
