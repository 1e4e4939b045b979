import LineMachine.Proofs.Coercion
import LineMachine.Proofs.Lines

/-!
# Pieces and parts of a text

A piece of a text is a longest part of it without separators: on either side of it stands a
separator, or the text ends there (`IsPiece`). Cutting a text at its separators gives its pieces and
nothing else (`mem_splitWhere_iff`).

A part without separators cannot lie across a separator, so a text with a separator in it has just
the parts of what stands in front of the separator and of what stands behind it
(`infix_append_cons`).
-/

namespace LineMachine.Text

/-! ## Parts -/

theorem occursIn_iff {part whole : List Char} : occursIn part whole = true ↔ part <:+: whole := by
  induction whole with
  | nil => rw [occursIn, List.isEmpty_iff, List.infix_nil]
  | cons c whole ih =>
    rw [occursIn, Bool.or_eq_true, List.isPrefixOf_iff_prefix, ih, List.infix_cons_iff]

theorem prefix_append_cons {c : Char} {part : List Char} (hc : c ∉ part) (s t : List Char) :
    part <+: s ++ c :: t ↔ part <+: s := by
  refine ⟨fun h ↦ ?_, fun h ↦ h.trans (List.prefix_append s _)⟩
  induction s generalizing part with
  | nil =>
    rcases List.prefix_cons_iff.mp h with rfl | ⟨rest, rfl, -⟩
    · exact List.prefix_refl _
    · exact absurd List.mem_cons_self hc
  | cons d s ih =>
    rcases List.prefix_cons_iff.mp h with rfl | ⟨rest, rfl, hrest⟩
    · exact List.nil_prefix
    · exact List.cons_prefix_cons.mpr ⟨rfl, ih (fun hmem ↦ hc (List.mem_cons_of_mem d hmem)) hrest⟩

/-- A part without a character does not lie across that character. -/
theorem infix_append_cons {c : Char} {part : List Char} (hc : c ∉ part) (s t : List Char) :
    part <:+: s ++ c :: t ↔ part <:+: s ∨ part <:+: t := by
  induction s with
  | nil =>
    have hprefix : part <+: c :: t ↔ part <+: [] := prefix_append_cons hc [] t
    rw [List.nil_append, List.infix_cons_iff, hprefix, List.prefix_nil, List.infix_nil]
  | cons d s ih =>
    rw [List.cons_append, List.infix_cons_iff, List.infix_cons_iff, ih, ← List.cons_append,
      prefix_append_cons hc, or_assoc]

/-! ## Pieces -/

/-- Holds of a longest part of a text without separators. -/
def IsPiece (sep : Char → Bool) (piece s : List Char) : Prop :=
  ∃ before after, s = before ++ piece ++ after ∧ (∀ c ∈ piece, sep c = false) ∧
    (∀ c ∈ before.getLast?, sep c = true) ∧ ∀ c ∈ after.head?, sep c = true

variable {sep : Char → Bool}

/-- A piece stays one when a text is put in front of it that ends in a separator. -/
theorem IsPiece.append_left {piece t : List Char} (h : IsPiece sep piece t) {c : Char}
    (hc : sep c = true) (s : List Char) : IsPiece sep piece (s ++ c :: t) := by
  obtain ⟨before, after, rfl, hpiece, hbefore, hafter⟩ := h
  refine ⟨s ++ c :: before, after, by simp, hpiece, ?_, hafter⟩
  rcases List.eq_nil_or_concat before with rfl | ⟨before, d, rfl⟩
  · simpa using hc
  · rw [List.concat_eq_append, List.getLast?_concat] at hbefore
    rw [List.concat_eq_append, ← List.cons_append, ← List.append_assoc, List.getLast?_concat]
    exact hbefore

/-- A piece stays one when a text is put behind it that starts with a separator. -/
theorem IsPiece.append_right {piece s : List Char} (h : IsPiece sep piece s) {c : Char}
    (hc : sep c = true) (t : List Char) : IsPiece sep piece (s ++ c :: t) := by
  obtain ⟨before, after, rfl, hpiece, hbefore, hafter⟩ := h
  refine ⟨before, after ++ c :: t, by simp, hpiece, hbefore, ?_⟩
  cases after with
  | nil => simpa using hc
  | cons d after => exact hafter

theorem isPiece_of_mem_splitWhere {piece s : List Char} (h : piece ∈ splitWhere sep s) :
    IsPiece sep piece s := by
  -- The text is taken apart at any one of its separators, and both parts are shorter.
  induction hn : s.length using Nat.strong_induction_on generalizing s with
  | _ n ih =>
    by_cases hsep : ∃ c ∈ s, sep c = true
    · obtain ⟨c, hmem, hc⟩ := hsep
      obtain ⟨front, back, rfl⟩ := List.append_of_mem hmem
      rw [List.length_append, List.length_cons] at hn
      rw [splitWhere_append_cons hc, List.mem_append] at h
      rcases h with hfront | hback
      · exact (ih front.length (by omega) hfront rfl).append_right hc back
      · exact (ih back.length (by omega) hback rfl).append_left hc front
    · have hnone : ∀ c ∈ s, sep c = false := fun c hmem ↦
        eq_false_of_ne_true fun hc ↦ hsep ⟨c, hmem, hc⟩
      rw [splitWhere_eq_singleton hnone, List.mem_singleton] at h
      rw [h]
      exact ⟨[], [], by simp, hnone, by simp, by simp⟩

/-- **Cutting a text at its separators gives its pieces.** -/
theorem mem_splitWhere_iff {piece s : List Char} :
    piece ∈ splitWhere sep s ↔ IsPiece sep piece s := by
  refine ⟨isPiece_of_mem_splitWhere, ?_⟩
  rintro ⟨before, after, rfl, hpiece, hbefore, hafter⟩
  have hright : piece ∈ splitWhere sep (piece ++ after) := by
    cases after with
    | nil => simp [splitWhere_eq_singleton hpiece]
    | cons c after =>
      rw [splitWhere_append_cons (hafter c rfl), splitWhere_eq_singleton hpiece]
      exact List.mem_cons_self
  rw [List.append_assoc]
  rcases List.eq_nil_or_concat before with rfl | ⟨before, c, rfl⟩
  · exact hright
  · have hc : sep c = true := hbefore c (by simp)
    rw [List.concat_eq_append, List.append_assoc, List.singleton_append, splitWhere_append_cons hc]
    exact List.mem_append_right _ hright

/-- The pieces of a text with a separator in it are those in front of it and those behind it. -/
theorem isPiece_append_cons {piece s t : List Char} {c : Char} (hc : sep c = true) :
    IsPiece sep piece (s ++ c :: t) ↔ IsPiece sep piece s ∨ IsPiece sep piece t := by
  rw [← mem_splitWhere_iff, ← mem_splitWhere_iff, ← mem_splitWhere_iff, splitWhere_append_cons hc,
    List.mem_append]

end LineMachine.Text
