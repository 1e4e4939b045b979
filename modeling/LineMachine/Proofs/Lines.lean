import LineMachine.Text.Lines

/-!
# Lines of a text in two parts

A text is *terminated* when it is empty or ends in a line feed. Cutting into lines commutes with
putting any text behind a terminated one: the terminator at the seam closes a line, and neither
part can see into the other. The empty segment behind the last terminator is what the first part
drops on its own, and what the second part takes over when both are read in one go.

A text without carriage returns is read from a text file as it is (`universalNewlines_eq_self`).
-/

namespace LineMachine.Text

/-! ## Cutting at a separator -/

theorem consPiece_append (c : Char) {pieces : List (List Char)} (hne : pieces ≠ [])
    (more : List (List Char)) :
    consPiece c (pieces ++ more) = consPiece c pieces ++ more := by
  cases pieces with
  | nil => exact absurd rfl hne
  | cons p ps => rfl

/-- A separator in the middle of a text separates the pieces in front of it from those behind. -/
theorem splitWhere_append_cons {sep : Char → Bool} {c : Char} (hc : sep c = true)
    (s t : List Char) :
    splitWhere sep (s ++ c :: t) = splitWhere sep s ++ splitWhere sep t := by
  induction s with
  | nil => rw [List.nil_append, splitWhere_cons, if_pos hc, splitWhere_nil, List.singleton_append]
  | cons d s ih =>
    rw [List.cons_append, splitWhere_cons, splitWhere_cons, ih]
    by_cases hd : sep d = true
    · rw [if_pos hd, if_pos hd, List.cons_append]
    · rw [if_neg hd, if_neg hd, consPiece_append d (splitWhere_ne_nil sep s)]

/-- A text without separators is one piece. -/
theorem splitWhere_eq_singleton {sep : Char → Bool} {s : List Char} (h : ∀ c ∈ s, sep c = false) :
    splitWhere sep s = [s] := by
  induction s with
  | nil => rfl
  | cons c s ih =>
    obtain ⟨hc, hs⟩ := List.forall_mem_cons.mp h
    rw [splitWhere_cons, hc, ih hs]
    rfl

theorem splitAtChar_of_not_mem {sep : Char} {s : List Char} (h : sep ∉ s) :
    splitAtChar sep s = [s] :=
  splitWhere_eq_singleton fun _ hc ↦ beq_eq_false_iff_ne.mpr fun heq ↦ h (heq ▸ hc)

/-! ## Lines of segments -/

theorem linesOfSegments_cons (segment : List Char) {rest : List (List Char)} (hne : rest ≠ []) :
    linesOfSegments (segment :: rest) = dropReturn segment :: linesOfSegments rest := by
  cases rest with
  | nil => exact absurd rfl hne
  | cons next after => rfl

/-- Every segment in front of others was terminated, so each is a line. -/
theorem linesOfSegments_append (segments : List (List Char)) {rest : List (List Char)}
    (hne : rest ≠ []) :
    linesOfSegments (segments ++ rest) = segments.map dropReturn ++ linesOfSegments rest := by
  induction segments with
  | nil => rfl
  | cons segment segments ih =>
    rw [List.cons_append, linesOfSegments_cons _ (List.append_ne_nil_of_right_ne_nil _ hne), ih,
      List.map_cons, List.cons_append]

/-- The lines in front of a line feed are closed by it. -/
theorem charLines_append_newline (s t : List Char) :
    charLines (s ++ '\n' :: t) = (splitAtChar '\n' s).map dropReturn ++ charLines t := by
  rw [charLines, charLines, splitAtChar, splitWhere_append_cons (by rfl),
    linesOfSegments_append _ (splitWhere_ne_nil _ _), splitAtChar, splitAtChar]

/-! ## Terminated texts -/

/-- Holds of a text that is empty or ends in a line feed. -/
def Terminated (s : String) : Prop :=
  s = "" ∨ ∃ t, s = t ++ "\n"

theorem charLines_append {first : String} (h : Terminated first) (second : List Char) :
    charLines (first.toList ++ second) = charLines first.toList ++ charLines second := by
  rcases h with rfl | ⟨t, rfl⟩
  · rfl
  · have hlist : (t ++ "\n").toList = t.toList ++ ['\n'] := by simp
    have hlast : charLines [] = [] := rfl
    rw [hlist, List.append_assoc, List.singleton_append, charLines_append_newline,
      charLines_append_newline t.toList [], hlast, List.append_nil]

/-- The lines of a terminated text with another one behind it are those of the first and then
those of the second. -/
theorem splitLines_append {first : String} (h : Terminated first) (second : String) :
    splitLines (first ++ second) = splitLines first ++ splitLines second := by
  rw [splitLines, splitLines, splitLines, String.toList_append, charLines_append h, List.map_append]

/-! ## Texts of files -/

theorem unifyNewlines_eq_self {s : List Char} (h : '\r' ∉ s) : unifyNewlines s = s := by
  induction s with
  | nil => rfl
  | cons c s ih =>
    rw [List.mem_cons, not_or] at h
    rw [unifyNewlines, ih h.2]
    · exact fun _ hc _ ↦ h.1 hc.symm
    · exact fun hc ↦ h.1 hc.symm

theorem universalNewlines_eq_self {s : String} (h : '\r' ∉ s.toList) :
    universalNewlines s = s := by
  rw [universalNewlines, unifyNewlines_eq_self h, String.ofList_toList]

end LineMachine.Text
