import Mathlib.Algebra.BigOperators.Group.List.Basic
import Mathlib.Tactic.SplitIfs
import LineMachine.Json.Reader
import LineMachine.Json.Writer

/-!
# Strings between JSON quotes

A string that was written between quotes is read back as it was, whatever characters it holds
(`Json.string_written`). The reader takes one character per turn: what was written of a character
is a `Json.Escape` of it, and one turn reads an escape as its character (`Json.stringFrom_escape`).
A character outside of the basic plane takes two code numbers; the reader joins them in the same
turn. It reads code numbers only if something follows them, and the closing quote always does.

Only printable ASCII is written (`Json.Escape.isPlain`).
-/

namespace LineMachine

open Text

/-! ## Hexadecimal digits -/

namespace Text

theorem hexDigit?_hexChar {d : Nat} (h : d < 16) : Run.hexDigit? (hexChar d) = some d := by
  revert d
  decide

/-- What is so of every hexadecimal digit is so of the digits of a number. -/
theorem forall_mem_hexPadded {P : Char → Prop} (h : ∀ d < 16, P (hexChar d)) (width n : Nat) :
    ∀ c ∈ hexPadded width n, P c := by
  induction width generalizing n with
  | zero => exact List.forall_mem_nil P
  | succ width ih =>
    rw [hexPadded, List.forall_mem_append, List.forall_mem_singleton]
    exact ⟨ih (n / 16), h _ (Nat.mod_lt n (by decide))⟩

theorem hexValue_append_hexChar (s : List Char) {d : Nat} (h : d < 16) :
    Run.hexValue (s ++ [hexChar d]) = Run.hexValue s * 16 + d := by
  rw [Run.hexValue, List.foldl_append, List.foldl_cons, List.foldl_nil, hexDigit?_hexChar h]
  rfl

/-- The digits of a number denote it if there are enough of them. -/
theorem hexValue_hexPadded {width n : Nat} (h : n < 16 ^ width) :
    Run.hexValue (hexPadded width n) = n := by
  induction width generalizing n with
  | zero =>
    have hzero : n = 0 := Nat.lt_one_iff.mp h
    rw [hzero]
    rfl
  | succ width ih =>
    have hquotient : n / 16 < 16 ^ width := by
      rw [Nat.pow_succ] at h
      omega
    rw [hexPadded, hexValue_append_hexChar _ (Nat.mod_lt n (by decide)), ih hquotient]
    omega

end Text

namespace Json

/-! ## Escapes of code numbers -/

theorem hexFour?_hexPadded {n : Nat} (h : n < 0x10000) (rest : List Char) :
    hexFour? (hexPadded 4 n ++ rest) = some (n, rest) := by
  have hlength : (hexPadded 4 n).length = 4 := length_hexPadded 4 n
  have hdigits : (hexPadded 4 n).all (fun c ↦ (Run.hexDigit? c).isSome) = true :=
    List.all_eq_true.mpr (forall_mem_hexPadded
      (fun d hd ↦ by rw [hexDigit?_hexChar hd]; rfl) 4 n)
  rw [hexFour?, List.take_left' hlength, List.drop_left' hlength, if_pos ⟨hlength, hdigits⟩,
    hexValue_hexPadded h]

theorem codeNumber_hexPadded {n : Nat} (h : n < 0x10000) {rest : List Char} (hrest : rest ≠ []) :
    codeNumber (hexPadded 4 n ++ rest) = .ok (n, rest) := by
  obtain ⟨c, rest, rfl⟩ := List.exists_cons_of_ne_nil hrest
  rw [codeNumber, hexFour?_hexPadded h]

/-- No character is half of a surrogate pair. -/
theorem valid_toNat (c : Char) :
    c.toNat < 0xD800 ∨ 0xDFFF < c.toNat ∧ c.toNat < 0x110000 :=
  c.valid

@[simp] theorem charOf_toNat (c : Char) : charOf c.toNat = c := by
  have hvalid : c.toNat.isValidChar := c.valid
  rw [charOf, if_pos hvalid, Char.ofNat_toNat]

/-- A code number that is no first half of a pair is read alone. -/
theorem codePoint_single {n : Nat} (h : n < 0x10000) (hhigh : isHighHalf n = false)
    {rest : List Char} (hrest : rest ≠ []) :
    codePoint (hexPadded 4 n ++ rest) = .ok (charOf n, rest) := by
  rw [codePoint, codeNumber_hexPadded h hrest]
  simp only [bind, Except.bind, hhigh, Bool.and_false, Bool.false_and]
  split <;> rfl

/-- Two code numbers that make up a pair are read together. -/
theorem codePoint_pair {high low : Nat} (hhigh : isHighHalf high = true)
    (hlow : isLowHalf low = true) {rest : List Char} (hrest : rest ≠ []) :
    codePoint (hexPadded 4 high ++ (unitEscape low ++ rest)) =
      .ok (charOf (joined high low), rest) := by
  have hhighLt : high < 0x10000 := by
    simp only [isHighHalf, Bool.and_eq_true, decide_eq_true_eq] at hhigh
    omega
  have hlowLt : low < 0x10000 := by
    simp only [isLowHalf, Bool.and_eq_true, decide_eq_true_eq] at hlow
    omega
  have henough : 0 < rest.length := List.length_pos_iff.mpr hrest
  rw [codePoint, codeNumber_hexPadded hhighLt (by simp [unitEscape])]
  simp [bind, Except.bind, unitEscape, hhigh, hlow, henough, codeNumber_hexPadded hlowLt hrest,
    pure, Except.pure]

/-! ## What is written of a character -/

/-- Holds of the characters of printable ASCII. -/
def IsPlain (c : Char) : Prop :=
  32 ≤ c.toNat ∧ c.toNat < 127
deriving Decidable

/-- The ways to write a character. -/
inductive Escape (c : Char) : List Char → Prop
  | plain (hquote : c ≠ doubleQuote) (hbackslash : c ≠ backslash) (hplain : IsPlain c) :
    Escape c [c]
  | letter (letter : Char) (hletter : escaped? letter = some c) (hplain : IsPlain letter) :
    Escape c [backslash, letter]
  | single (hbasic : c.toNat < 0x10000) : Escape c (unitEscape c.toNat)
  | pair (high low : Nat) (hhigh : isHighHalf high = true) (hlow : isLowHalf low = true)
    (hjoined : joined high low = c.toNat) : Escape c (unitEscape high ++ unitEscape low)

/-- A character outside of the basic plane is written by two halves, which are joined to it
again. -/
theorem escape_of_not_basic {c : Char} (h : 0x10000 ≤ c.toNat) :
    Escape c (unitEscape (0xD800 + (c.toNat - 0x10000) / 0x400) ++
      unitEscape (0xDC00 + (c.toNat - 0x10000) % 0x400)) := by
  have hvalid := valid_toNat c
  refine .pair _ _ ?_ ?_ ?_
  · rw [isHighHalf, Bool.and_eq_true, decide_eq_true_eq, decide_eq_true_eq]
    omega
  · rw [isLowHalf, Bool.and_eq_true, decide_eq_true_eq, decide_eq_true_eq]
    omega
  · unfold joined
    omega

theorem escape_escapedChar (c : Char) : Escape c (escapedChar c) := by
  have eq_of_code : ∀ n, (c.toNat == n) = true → c = charOf n := by
    intro n h
    rw [← beq_iff_eq.mp h, charOf_toNat]
  simp only [escapedChar]
  split_ifs with hspecial hplain hfeed hreturn htab hback hform hbasic
  · rw [Bool.or_eq_true, beq_iff_eq, beq_iff_eq] at hspecial
    rcases hspecial with rfl | rfl
    · exact .letter doubleQuote rfl (by decide)
    · exact .letter backslash rfl (by decide)
  · rw [Bool.or_eq_true, not_or, beq_iff_eq, beq_iff_eq] at hspecial
    rw [Bool.and_eq_true, decide_eq_true_eq, decide_eq_true_eq] at hplain
    exact .plain hspecial.1 hspecial.2 hplain
  · rw [beq_iff_eq.mp hfeed]
    exact .letter 'n' rfl (by decide)
  · rw [beq_iff_eq.mp hreturn]
    exact .letter 'r' rfl (by decide)
  · rw [beq_iff_eq.mp htab]
    exact .letter 't' rfl (by decide)
  · rw [eq_of_code 8 hback]
    exact .letter 'b' rfl (by decide)
  · rw [eq_of_code 12 hform]
    exact .letter 'f' rfl (by decide)
  · exact .single hbasic
  · exact escape_of_not_basic (Nat.not_lt.mp hbasic)

theorem Escape.ne_nil {c : Char} {written : List Char} (h : Escape c written) : written ≠ [] := by
  rintro rfl
  cases h

theorem isPlain_of_mem_unitEscape (n : Nat) : ∀ d ∈ unitEscape n, IsPlain d := by
  rw [unitEscape, List.forall_mem_cons, List.forall_mem_cons]
  exact ⟨by decide, by decide, forall_mem_hexPadded (by decide) 4 n⟩

theorem Escape.isPlain {c : Char} {written : List Char} (h : Escape c written) :
    ∀ d ∈ written, IsPlain d := by
  cases h with
  | plain _ _ hplain => exact List.forall_mem_singleton.mpr hplain
  | letter letter _ hplain =>
    exact List.forall_mem_cons.mpr ⟨by decide, List.forall_mem_singleton.mpr hplain⟩
  | single => exact isPlain_of_mem_unitEscape c.toNat
  | pair high low =>
    exact List.forall_mem_append.mpr
      ⟨isPlain_of_mem_unitEscape high, isPlain_of_mem_unitEscape low⟩

/-! ## One turn of the reader -/

section Turn

variable (start fuel : Nat) (taken : List Char)

theorem stringFrom_closing (rest : List Char) :
    stringFrom start (fuel + 1) taken (doubleQuote :: rest) =
      .ok (String.ofList taken.reverse, rest) := rfl

/-- A character that needs no escape is read as itself. -/
theorem stringFrom_plain {c : Char} (hquote : c ≠ doubleQuote) (hbackslash : c ≠ backslash)
    (hcontrol : 32 ≤ c.toNat) (rest : List Char) :
    stringFrom start (fuel + 1) taken (c :: rest) = stringFrom start fuel (c :: taken) rest := by
  have hquote' : (c == doubleQuote) = false := beq_eq_false_iff_ne.mpr hquote
  have hbackslash' : (c != backslash) = true := bne_iff_ne.mpr hbackslash
  rw [stringFrom.eq_def]
  simp only [hquote', hbackslash', Nat.not_lt.mpr hcontrol, Bool.false_eq_true, if_false, if_true]

/-- An escape by a letter is read as what the letter stands for. -/
theorem stringFrom_letter {letter c : Char} (h : escaped? letter = some c) (rest : List Char) :
    stringFrom start (fuel + 1) taken (backslash :: letter :: rest) =
      stringFrom start fuel (c :: taken) rest := by
  have hletter : letter ≠ 'u' := by
    rintro rfl
    cases h
  rw [stringFrom, if_neg (by decide), if_neg (by decide), if_neg (by decide), h]
  exact hletter

/-- An escape by a code number is read as what the number stands for. -/
theorem stringFrom_code {s rest : List Char} {c : Char} (h : codePoint s = .ok (c, rest)) :
    stringFrom start (fuel + 1) taken (backslash :: 'u' :: s) =
      stringFrom start fuel (c :: taken) rest := by
  rw [stringFrom, if_neg (by decide), if_neg (by decide), if_neg (by decide), h]
  rfl

/-- **An escape of a character is read as that character, in one turn.** -/
theorem stringFrom_escape {c : Char} {written : List Char} (h : Escape c written)
    {rest : List Char} (hrest : rest ≠ []) :
    stringFrom start (fuel + 1) taken (written ++ rest) =
      stringFrom start fuel (c :: taken) rest := by
  cases h with
  | plain hquote hbackslash hplain =>
    exact stringFrom_plain start fuel taken hquote hbackslash hplain.1 rest
  | letter letter hletter => exact stringFrom_letter start fuel taken hletter rest
  | single hbasic =>
    have hhigh : isHighHalf c.toNat = false := by
      have hvalid := valid_toNat c
      rw [isHighHalf, Bool.and_eq_false_iff, decide_eq_false_iff_not, decide_eq_false_iff_not]
      omega
    have hcode := codePoint_single hbasic hhigh hrest
    rw [charOf_toNat] at hcode
    exact stringFrom_code start fuel taken hcode
  | pair high low hhigh hlow hjoined =>
    have hcode := codePoint_pair hhigh hlow hrest
    rw [hjoined, charOf_toNat] at hcode
    rw [List.append_assoc]
    exact stringFrom_code start fuel taken hcode

end Turn

/-! ## Whole strings -/

/-- Characters that were written and closed are read after those that were taken before. -/
theorem stringFrom_written (start : Nat) {fuel : Nat} (cs taken rest : List Char)
    (h : cs.length < fuel) :
    stringFrom start fuel taken (cs.flatMap escapedChar ++ doubleQuote :: rest) =
      .ok (String.ofList (taken.reverse ++ cs), rest) := by
  induction cs generalizing fuel taken with
  | nil =>
    obtain ⟨fuel, rfl⟩ := Nat.exists_eq_add_one_of_ne_zero (Nat.ne_of_gt h)
    rw [List.append_nil]
    exact stringFrom_closing start fuel taken rest
  | cons c cs ih =>
    obtain ⟨fuel, rfl⟩ := Nat.exists_eq_add_one_of_ne_zero (Nat.ne_of_gt (Nat.zero_lt_of_lt h))
    rw [List.flatMap_cons, List.append_assoc,
      stringFrom_escape start fuel taken (escape_escapedChar c) (by simp),
      ih (c :: taken) (Nat.lt_of_succ_lt_succ h), List.reverse_cons, List.append_assoc,
      List.singleton_append]

/-- Every character is written with at least one. -/
theorem length_le_written (cs : List Char) : cs.length ≤ (cs.flatMap escapedChar).length := by
  have hone : ∀ n ∈ cs.map fun c ↦ (escapedChar c).length, 1 ≤ n := by
    rw [List.forall_mem_map]
    exact fun c _ ↦ List.length_pos_iff.mpr (escape_escapedChar c).ne_nil
  calc cs.length = (cs.map fun c ↦ (escapedChar c).length).length := (List.length_map _).symm
    _ ≤ (cs.map fun c ↦ (escapedChar c).length).sum := List.length_le_sum_of_one_le _ hone
    _ = (cs.flatMap escapedChar).length := List.length_flatMap.symm

/-- **A string that was written is read as it was**, up to its closing quote. -/
theorem string_written (s : String) (rest : List Char) :
    string (s.toList.flatMap escapedChar ++ doubleQuote :: rest) = .ok (s, rest) := by
  -- The reader has a turn for each of the characters that are left.
  have hturns : s.toList.length <
      (s.toList.flatMap escapedChar ++ doubleQuote :: rest).length + 1 := by
    have hlength := length_le_written s.toList
    rw [List.length_append]
    omega
  rw [string, stringFrom_written _ _ _ _ hturns, List.reverse_nil, List.nil_append,
    String.ofList_toList]

end Json

end LineMachine
