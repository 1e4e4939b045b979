import Mathlib.Data.List.Basic
import LineMachine.Text.Case

/-!
# Lower-casing and separators

What a character becomes in lower case depends on its neighbours in one case only: a capital sigma
is final where a word ends. Blanks, hyphens and underscores end a word, so lower-casing cannot see
across them: a text with such a separator in it is lower-cased in two parts (`lower_append_cons`),
and which separator it is makes no difference to the rest (`lower_map`).

Separators are left alone by lower-casing, and nothing else becomes one (`isSeparator_lowerUnit`).
For characters outside ASCII this is read off the table of lower-case mappings, which has no
separator among its images.
-/

namespace LineMachine.Text

/-! ## Images of a table -/

theorem mem_preimages_of_apply {shifts : List Shift} {n m : Nat} (h : Shift.apply shifts n = m)
    (hne : n ≠ m) (hm : 0 < m) : n ∈ Shift.preimages shifts m := by
  rw [Shift.apply] at h
  rcases hfind : shifts.find? (·.run.contains n) with - | shift
  · rw [hfind] at h
    exact absurd h hne
  · rw [hfind] at h
    simp only at h
    have hsource : ((m : Int) - shift.distance).toNat = n := by omega
    have hcontains : shift.run.contains n = true :=
      List.find?_some (p := fun s : Shift ↦ s.run.contains n) hfind
    refine List.mem_filterMap.mpr ⟨shift, List.mem_of_find?_eq_some hfind, ?_⟩
    simp only [hsource, hcontains, bne_iff_ne.mpr hne, Bool.and_self, if_true]

/-! ## Separators -/

/-- Blanks, hyphens and underscores. -/
def isSeparator (c : Char) : Bool :=
  c == ' ' || c == '-' || c == '_'

theorem isSeparator_iff {c : Char} : isSeparator c = true ↔ c = ' ' ∨ c = '-' ∨ c = '_' := by
  simp [isSeparator, or_assoc]

/-- The code points of the separators. -/
def separatorCodes : List Nat := [0x20, 0x2D, 0x5F]

theorem toNat_of_isSeparator {c : Char} (h : isSeparator c = true) : c.toNat ∈ separatorCodes := by
  rcases isSeparator_iff.mp h with rfl | rfl | rfl <;> decide

-- The tables are long texts: the limit is for turning them into lists of characters, which are
-- then read by the kernel.
set_option maxRecDepth 100000 in
theorem preimages_lowerShifts {n : Nat} (h : n ∈ separatorCodes) :
    Shift.preimages lowerShifts n = [] := by
  revert n
  change ∀ n ∈ separatorCodes, Shift.preimages (Shift.readAll (String.ofList _)) n = []
  rw [Shift.readAll, Run.words, String.toList_ofList]
  decide +kernel

set_option maxRecDepth 100000 in
/-- The rule for sigma looks through none of the separators, and none of them is cased. -/
theorem holds_separator {cat : Category} (hcat : cat ∈ [.nonspacingMark, .enclosingMark, .format,
      .modifierLetter, .modifierSymbol, .titleLetter]) :
    ∀ n ∈ separatorCodes, cat.holds n = false := by
  simp only [List.mem_cons, List.not_mem_nil, or_false] at hcat
  rcases hcat with rfl | rfl | rfl | rfl | rfl | rfl
  all_goals
    change ∀ n ∈ separatorCodes, inRuns (Run.readAll (String.ofList _)) n = false
    rw [Run.readAll, Run.words, String.toList_ofList]
    decide +kernel

theorem inRuns_midWordRuns : ∀ n ∈ separatorCodes, inRuns midWordRuns n = false := by
  change ∀ n ∈ separatorCodes, inRuns (Run.readAll (String.ofList _)) n = false
  rw [Run.readAll, Run.words, String.toList_ofList]
  decide +kernel

theorem isCaseIgnorable_of_isSeparator {c : Char} (h : isSeparator c = true) :
    isCaseIgnorable c = false := by
  have hcode := toNat_of_isSeparator h
  rw [isCaseIgnorable, inRuns_midWordRuns _ hcode, Bool.false_or, inCategories, List.any_eq_false]
  intro cat hcat
  rw [holds_separator (by revert hcat; simp; tauto) _ hcode]
  exact Bool.false_ne_true

theorem isCased_of_isSeparator {c : Char} (h : isSeparator c = true) : isCased c = false := by
  have hletters : isUpper c = false ∧ isLower c = false := by
    rcases isSeparator_iff.mp h with rfl | rfl | rfl <;> decide
  rw [isCased, hletters.1, hletters.2, holds_separator (by simp) _ (toNat_of_isSeparator h)]
  rfl

theorem casedAfter_of_isSeparator {c : Char} (h : isSeparator c = true) (casedBefore : Bool) :
    casedAfter casedBefore c = false := by
  rw [casedAfter, isCaseIgnorable_of_isSeparator h, isCased_of_isSeparator h]
  rfl

theorem casedAhead_cons (c : Char) (s : List Char) :
    casedAhead (c :: s) = if isCaseIgnorable c then casedAhead s else isCased c := by
  by_cases hc : isCaseIgnorable c = true
  · rw [if_pos hc, casedAhead, List.dropWhile_cons, if_pos hc, casedAhead]
  · rw [if_neg hc, casedAhead, List.dropWhile_cons, if_neg hc]

/-- A separator hides what stands behind it. -/
theorem casedAhead_append_cons {c : Char} (h : isSeparator c = true) (s t : List Char) :
    casedAhead (s ++ c :: t) = casedAhead s := by
  induction s with
  | nil =>
    rw [List.nil_append, casedAhead_cons, isCaseIgnorable_of_isSeparator h]
    exact isCased_of_isSeparator h
  | cons d s ih => rw [List.cons_append, casedAhead_cons, casedAhead_cons, ih]

/-! ## One character -/

theorem toNat_ofNat_cases (n : Nat) : (Char.ofNat n).toNat = n ∨ (Char.ofNat n).toNat = 0 := by
  by_cases hvalid : n.isValidChar
  · have hchar : Char.ofNat n = Char.ofNatAux n hvalid := dif_pos hvalid
    rw [hchar]
    exact .inl rfl
  · have hnone : Char.ofNat n = Char.ofNat 0 := dif_neg hvalid
    rw [hnone]
    exact .inr rfl

theorem isSeparator_lowerChar (c : Char) : isSeparator (lowerChar c) = isSeparator c := by
  by_cases hascii : c.toNat < 128
  · have hall : ∀ n < 128, isSeparator (lowerChar (Char.ofNat n)) = isSeparator (Char.ofNat n) := by
      decide
    simpa using hall c.toNat hascii
  · have hcodes : ∀ n ∈ separatorCodes, n < 128 ∧ 0 < n := by decide
    have hforeign : isSeparator c = false :=
      eq_false_of_ne_true fun hc ↦ hascii (hcodes _ (toNat_of_isSeparator hc)).1
    rw [hforeign, lowerChar, if_neg hascii]
    refine eq_false_of_ne_true fun himage ↦ ?_
    -- The image has the code point of a separator, and nothing else is mapped to that.
    have hmem := toNat_of_isSeparator himage
    obtain ⟨hsmall, hpositive⟩ := hcodes _ hmem
    rcases toNat_ofNat_cases (Shift.apply lowerShifts c.toNat) with hcode | hcode
    · have hsource := mem_preimages_of_apply hcode.symm (by omega) hpositive
      rw [preimages_lowerShifts hmem] at hsource
      cases hsource
    · omega

theorem lowerChar_of_isSeparator {c : Char} (h : isSeparator c = true) : lowerChar c = c := by
  rcases isSeparator_iff.mp h with rfl | rfl | rfl <;> decide

/-- What one character becomes in lower case, with the text around it. -/
def lowerUnit (casedBefore : Bool) (c : Char) (rest : List Char) : List Char :=
  if c.toNat == 0x3A3 then
    (if casedBefore && !casedAhead rest then [Char.ofNat 0x3C2] else [Char.ofNat 0x3C3])
  else if c.toNat == 0x130 then ['i', Char.ofNat 0x307]
  else [lowerChar c]

theorem lowerFrom_cons (casedBefore : Bool) (c : Char) (rest : List Char) :
    lowerFrom casedBefore (c :: rest) =
      lowerUnit casedBefore c rest ++ lowerFrom (casedAfter casedBefore c) rest := rfl

theorem lowerUnit_congr {s t : List Char} (h : casedAhead s = casedAhead t) (casedBefore : Bool)
    (c : Char) : lowerUnit casedBefore c s = lowerUnit casedBefore c t := by
  rw [lowerUnit, lowerUnit, h]

theorem lowerUnit_of_isSeparator {c : Char} (h : isSeparator c = true) (casedBefore : Bool)
    (rest : List Char) : lowerUnit casedBefore c rest = [c] := by
  have hcodes : ∀ n ∈ separatorCodes, (n == 0x3A3) = false ∧ (n == 0x130) = false := by decide
  obtain ⟨hsigma, hdotted⟩ := hcodes _ (toNat_of_isSeparator h)
  rw [lowerUnit, hsigma, hdotted, lowerChar_of_isSeparator h]
  rfl

/-- Nothing but a separator becomes one. -/
theorem isSeparator_lowerUnit {casedBefore : Bool} {c d : Char} {rest : List Char}
    (hd : d ∈ lowerUnit casedBefore c rest) (hc : isSeparator c = false) :
    isSeparator d = false := by
  rw [lowerUnit] at hd
  split at hd
  · split at hd
    · rw [List.mem_singleton.mp hd]
      rfl
    · rw [List.mem_singleton.mp hd]
      rfl
  · split at hd
    · rcases List.mem_cons.mp hd with rfl | hdot
      · rfl
      · rw [List.mem_singleton.mp hdot]
        rfl
    · rw [List.mem_singleton.mp hd, isSeparator_lowerChar, hc]

/-! ## Texts -/

/-- A text with a separator in it is lower-cased in two parts. -/
theorem lower_append_cons {c : Char} (h : isSeparator c = true) (s t : List Char) :
    lower (s ++ c :: t) = lower s ++ c :: lower t := by
  have hfrom (casedBefore : Bool) :
      lowerFrom casedBefore (s ++ c :: t) = lowerFrom casedBefore s ++ c :: lower t := by
    induction s generalizing casedBefore with
    | nil =>
      rw [List.nil_append, lowerFrom_cons, lowerUnit_of_isSeparator h, casedAfter_of_isSeparator h]
      rfl
    | cons d s ih =>
      rw [List.cons_append, lowerFrom_cons, lowerFrom_cons, ih,
        lowerUnit_congr (casedAhead_append_cons h s t), List.append_assoc]
  exact hfrom false

/-- Putting separators in place of separators may be done before lower-casing or after. -/
theorem lower_map {f : Char → Char} (hsep : ∀ c, isSeparator c = true → isSeparator (f c) = true)
    (hother : ∀ c, isSeparator c = false → f c = c) (s : List Char) :
    lower (s.map f) = (lower s).map f := by
  have hahead (s : List Char) : casedAhead (s.map f) = casedAhead s := by
    induction s with
    | nil => rfl
    | cons c s ih =>
      rcases hc : isSeparator c with - | -
      · rw [List.map_cons, hother c hc, casedAhead_cons, casedAhead_cons, ih]
      · exact (casedAhead_append_cons (hsep c hc) [] _).trans
          (casedAhead_append_cons hc [] s).symm
  have hfrom (casedBefore : Bool) :
      lowerFrom casedBefore (s.map f) = (lowerFrom casedBefore s).map f := by
    induction s generalizing casedBefore with
    | nil => rfl
    | cons c s ih =>
      rw [List.map_cons, lowerFrom_cons, lowerFrom_cons, List.map_append, ih]
      rcases hc : isSeparator c with - | -
      · have hunit : (lowerUnit casedBefore c s).map f = lowerUnit casedBefore c s :=
          (List.map_congr_left fun d hd ↦ hother d (isSeparator_lowerUnit hd hc)).trans
            (List.map_id _)
        rw [hother c hc, hunit, lowerUnit_congr (hahead s)]
      · rw [lowerUnit_of_isSeparator hc, lowerUnit_of_isSeparator (hsep c hc),
          casedAfter_of_isSeparator hc, casedAfter_of_isSeparator (hsep c hc)]
        rfl
  exact hfrom false

end LineMachine.Text
