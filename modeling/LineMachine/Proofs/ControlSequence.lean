import LineMachine.Text.ControlSequence

/-!
# What control sequences take from a text

Removing control sequences only leaves characters out (`remove_sublist`). A text keeps all its
characters if no sequence occurs in it (`remove_of_not_occurs`), and gets shorter otherwise
(`length_remove_lt`). The end of a line belongs to no sequence, so it does not matter whether the
sequences of a line are removed before or after the line is ended
(`withoutControlSequences_ended`).
-/

namespace LineMachine.Text

namespace ControlSequence

/-! ## Texts with a sequence -/

/-- Holds of a text that has a control sequence somewhere. -/
def Occurs (s : List Char) : Prop :=
  ∃ t, t <:+ s ∧ (length? t).isSome = true

theorem occurs_cons {c : Char} {s : List Char} :
    Occurs (c :: s) ↔ (length? (c :: s)).isSome = true ∨ Occurs s := by
  constructor
  · rintro ⟨t, ht, hsome⟩
    rcases List.suffix_cons_iff.mp ht with rfl | hlater
    · exact .inl hsome
    · exact .inr ⟨t, hlater, hsome⟩
  · rintro (hsome | ⟨t, ht, hsome⟩)
    · exact ⟨_, List.suffix_refl _, hsome⟩
    · exact ⟨t, List.suffix_cons_iff.mpr (.inr ht), hsome⟩

/-- Removing sequences only leaves characters out. -/
theorem remove_sublist (skip : Nat) (s : List Char) : (remove skip s).Sublist s := by
  induction s generalizing skip with
  | nil => exact List.Sublist.refl []
  | cons c s ih =>
    cases skip with
    | succ skip => exact (ih skip).cons c
    | zero =>
      rw [remove]
      split
      · exact (ih _).cons c
      · exact (ih 0).cons_cons c

theorem remove_of_not_occurs {s : List Char} (h : ¬ Occurs s) : remove 0 s = s := by
  induction s with
  | nil => rfl
  | cons c s ih =>
    rw [occurs_cons, not_or, Bool.not_eq_true, Option.isSome_eq_false_iff,
      Option.isNone_iff_eq_none] at h
    rw [remove, h.1, ih h.2]

/-- A text with a sequence gets shorter. -/
theorem length_remove_lt {s : List Char} (h : Occurs s) : (remove 0 s).length < s.length := by
  induction s with
  | nil =>
    obtain ⟨t, ht, hsome⟩ := h
    rw [List.suffix_nil.mp ht] at hsome
    cases hsome
  | cons c s ih =>
    rw [remove]
    cases hfirst : length? (c :: s) with
    | some n => exact Nat.lt_succ_of_le (remove_sublist _ s).length_le
    | none =>
      rw [occurs_cons, hfirst] at h
      exact Nat.succ_lt_succ (ih (h.resolve_left (by decide)))

/-- A sequence begins with the escape character. -/
theorem mem_of_occurs {s : List Char} (h : Occurs s) : escapeChar ∈ s := by
  refine Decidable.byContradiction fun hmem ↦ ?_
  have hlt := length_remove_lt h
  rw [remove_of_not_mem s hmem] at hlt
  exact Nat.lt_irrefl _ hlt

/-! ## Ends of lines -/

section Concat

variable {p : Char → Bool} {c : Char}

theorem takeWhile_concat_neg (hc : p c = false) (s : List Char) :
    (s ++ [c]).takeWhile p = s.takeWhile p := by
  have hnone : [c].takeWhile p = [] :=
    List.takeWhile_cons_of_neg (by rw [hc]; exact Bool.false_ne_true)
  rw [List.takeWhile_append, hnone, List.append_nil]
  split
  · rename_i hall
    exact (List.takeWhile_sublist p).eq_of_length hall |>.symm
  · rfl

theorem dropWhile_concat_neg (hc : p c = false) (s : List Char) :
    (s ++ [c]).dropWhile p = s.dropWhile p ++ [c] := by
  have hsame : [c].dropWhile p = [c] :=
    List.dropWhile_cons_of_neg (by rw [hc]; exact Bool.false_ne_true)
  rw [List.dropWhile_append, hsame]
  split
  · rename_i hempty
    rw [List.isEmpty_iff.mp hempty, List.nil_append]
  · rfl

end Concat

theorem length?_of_ne {d : Char} (hd : d ≠ '[') (c : Char) (s : List Char) :
    length? (c :: d :: s) = none := by
  rw [length?]
  intro c' rest heq
  exact hd (List.cons.inj (List.cons.inj heq).2).1

/-- The end of a line belongs to no sequence. -/
theorem length?_concat_newline (c : Char) (s : List Char) :
    length? (c :: (s ++ ['\n'])) = length? (c :: s) := by
  have hparameter : isParameter '\n' = false := by decide
  have hintermediate : isIntermediate '\n' = false := by decide
  have hfinal : isFinal '\n' = false := by decide
  cases s with
  | nil => rfl
  | cons d s =>
    rw [List.cons_append]
    by_cases hd : d = '['
    · -- Parameters and intermediates stop in front of the end, and the end is no final character.
      subst hd
      rw [length?, length?]
      simp only [takeWhile_concat_neg hparameter, dropWhile_concat_neg hparameter,
        takeWhile_concat_neg hintermediate, dropWhile_concat_neg hintermediate]
      cases (s.dropWhile isParameter).dropWhile isIntermediate with
      | nil => simp only [List.nil_append, hfinal, Bool.and_false, Bool.false_eq_true, if_false]
      | cons last rest => rfl
    · rw [length?_of_ne hd, length?_of_ne hd]

/-- A sequence is not longer than the text that it begins. -/
theorem length?_le {s : List Char} {n : Nat} (h : length? s = some n) : n ≤ s.length := by
  cases s with
  | nil => cases h
  | cons c s =>
    cases s with
    | nil => cases h
    | cons d s =>
      by_cases hd : d = '['
      · subst hd
        rw [length?] at h
        have hparameters := congrArg List.length
          (List.takeWhile_append_dropWhile (p := isParameter) (l := s))
        have hintermediates := congrArg List.length
          (List.takeWhile_append_dropWhile (p := isIntermediate) (l := s.dropWhile isParameter))
        rw [List.length_append] at hparameters hintermediates
        cases hrest : (s.dropWhile isParameter).dropWhile isIntermediate with
        | nil =>
          simp only [hrest] at h
          cases h
        | cons last rest =>
          simp only [hrest] at h
          rw [hrest, List.length_cons] at hintermediates
          split at h
          · cases h
            simp only [List.length_cons]
            omega
          · cases h
      · rw [length?_of_ne hd] at h
        cases h

theorem remove_concat_newline {skip : Nat} {s : List Char} (h : skip ≤ s.length) :
    remove skip (s ++ ['\n']) = remove skip s ++ ['\n'] := by
  induction s generalizing skip with
  | nil =>
    cases Nat.le_zero.mp h
    rfl
  | cons c s ih =>
    cases skip with
    | succ skip => exact ih (Nat.le_of_succ_le_succ h)
    | zero =>
      rw [List.cons_append, remove, remove, length?_concat_newline]
      cases hfirst : length? (c :: s) with
      | none => exact congrArg (c :: ·) (ih (Nat.zero_le _))
      | some n =>
        refine ih ?_
        have hle := length?_le hfirst
        rw [List.length_cons] at hle
        omega

end ControlSequence

open ControlSequence (Occurs)

/-! ## Lines -/

theorem withoutControlSequences_of_not_occurs {s : String} (h : ¬ Occurs s.toList) :
    withoutControlSequences s = s := by
  rw [withoutControlSequences, ControlSequence.remove_of_not_occurs h, String.ofList_toList]

theorem length_withoutControlSequences_lt {s : String} (h : Occurs s.toList) :
    (withoutControlSequences s).length < s.length := by
  rw [withoutControlSequences, String.length_ofList, ← String.length_toList]
  exact ControlSequence.length_remove_lt h

/-- A line is ended as it is, whatever it loses. -/
theorem withoutControlSequences_ended (s : String) :
    withoutControlSequences (s ++ "\n") = withoutControlSequences s ++ "\n" := by
  have hremove := ControlSequence.remove_concat_newline (Nat.zero_le s.toList.length)
  refine String.toList_inj.mp ?_
  simp only [withoutControlSequences, String.toList_ofList, String.toList_append]
  exact hremove

end LineMachine.Text
