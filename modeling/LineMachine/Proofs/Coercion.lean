import Mathlib.Data.List.DropRight
import LineMachine.Coercion
import LineMachine.Proofs.Except

/-!
# Laws of coercion

What a text is turned into. The pieces of a list are *tidy*: not empty, without blanks at their
ends, and without commas (`tidy_of_mem_listItems`). A number that is read stays a number, and a
text that is no number stays that text, so what came of a coercion is left alone by it
(`coerce_coerce`).
-/

namespace LineMachine

namespace Text

/-! ## Pieces -/

/-- No piece of a text has a character that the text was cut at. -/
theorem sep_of_mem_splitWhere {sep : Char → Bool} {s piece : List Char}
    (h : piece ∈ splitWhere sep s) : ∀ c ∈ piece, sep c = false := by
  induction s generalizing piece with
  | nil =>
    cases List.mem_singleton.mp h
    exact List.forall_mem_nil _
  | cons d s ih =>
    rw [splitWhere_cons] at h
    split at h
    · rcases List.mem_cons.mp h with rfl | h
      · exact List.forall_mem_nil _
      · exact ih h
    · rename_i hd
      -- The character goes in front of the first piece; the others are pieces of the rest.
      cases hpieces : splitWhere sep s with
      | nil => exact absurd hpieces (splitWhere_ne_nil sep s)
      | cons first pieces =>
        rw [hpieces] at h ih
        rcases List.mem_cons.mp h with rfl | h
        · exact List.forall_mem_cons.mpr ⟨eq_false_of_ne_true hd, ih List.mem_cons_self⟩
        · exact ih (List.mem_cons_of_mem first h)

/-! ## Trimming -/

theorem trim_sublist (s : List Char) : (trim s).Sublist s :=
  (List.rdropWhile_prefix isBlank (s.dropWhile isBlank)).sublist.trans
    (List.dropWhile_sublist isBlank)

/-- Blanks around a text that has none at its ends are what trimming drops. -/
theorem trim_around {before s after : List Char} (hbefore : ∀ c ∈ before, isBlank c = true)
    (hafter : ∀ c ∈ after, isBlank c = true) (hne : s ≠ []) (hhead : isBlank (s.head hne) = false)
    (hlast : isBlank (s.getLast hne) = false) : trim (before ++ s ++ after) = s := by
  have hright : trimRight (s ++ after) = s := by
    have hstop : s.reverse.dropWhile isBlank = s.reverse := by
      refine List.dropWhile_eq_self_iff.mpr fun hlength ↦ ?_
      rw [List.getElem_zero, List.head_reverse, hlast]
      exact Bool.false_ne_true
    rw [trimRight, List.reverse_append, List.dropWhile_append_of_pos (by simpa using hafter), hstop,
      List.reverse_reverse]
  obtain ⟨c, rest, rfl⟩ := List.exists_cons_of_ne_nil hne
  rw [List.head_cons] at hhead
  rw [trim, List.append_assoc, List.dropWhile_append_of_pos hbefore, List.cons_append,
    List.dropWhile_cons, hhead, if_neg Bool.false_ne_true, ← List.cons_append, hright]

/-- Blanks around a text without blanks are what trimming drops. -/
theorem trim_between {before s after : List Char} (hbefore : ∀ c ∈ before, isBlank c = true)
    (hafter : ∀ c ∈ after, isBlank c = true) (hs : ∀ c ∈ s, isBlank c = false) :
    trim (before ++ s ++ after) = s := by
  by_cases hne : s = []
  · rw [hne, List.append_nil, trim, List.dropWhile_append_of_pos hbefore,
      List.dropWhile_eq_nil_iff.mpr hafter]
    rfl
  · exact trim_around hbefore hafter hne (hs _ (List.head_mem hne)) (hs _ (List.getLast_mem hne))

theorem trim_eq_self {s : List Char} (hs : ∀ c ∈ s, isBlank c = false) : trim s = s := by
  have h := trim_between (List.forall_mem_nil _) (List.forall_mem_nil _) hs
  rwa [List.nil_append, List.append_nil] at h

/-- A trimmed text does not start with a blank. -/
theorem isBlank_head_trim (s : List Char) (h : trim s ≠ []) :
    isBlank ((trim s).head h) = false := by
  have hstart : trim s <+: s.dropWhile isBlank := List.rdropWhile_prefix isBlank _
  rw [hstart.head h]
  exact List.head_dropWhile_not isBlank _

/-- A trimmed text does not end in a blank. -/
theorem isBlank_getLast_trim (s : List Char) (h : trim s ≠ []) :
    isBlank ((trim s).getLast h) = false :=
  eq_false_of_ne_true (List.rdropWhile_last_not isBlank (s.dropWhile isBlank) h)

end Text

namespace Coercion

/-! ## Lists -/

/-- Holds of a text that can be a piece between commas: it is not empty, it has no blank at either
end, and no comma. -/
structure Tidy (s : List Char) : Prop where
  nonempty : s ≠ []
  head : Text.isBlank (s.head nonempty) = false
  last : Text.isBlank (s.getLast nonempty) = false
  comma : ',' ∉ s

theorem tidy_of_mem_listItems {s piece : List Char} (h : piece ∈ listItems s) : Tidy piece := by
  obtain ⟨hmem, hnonempty⟩ := List.mem_filter.mp h
  obtain ⟨raw, hraw, rfl⟩ := List.mem_map.mp hmem
  have hne : Text.trim raw ≠ [] := by
    intro hnil
    rw [hnil] at hnonempty
    cases hnonempty
  refine ⟨hne, Text.isBlank_head_trim raw hne, Text.isBlank_getLast_trim raw hne, ?_⟩
  intro hcomma
  have hsep := Text.sep_of_mem_splitWhere hraw ',' ((Text.trim_sublist raw).subset hcomma)
  cases hsep

/-! ## Coercing twice -/

/-- What comes of reading a number: a number, or the text as it was. -/
theorem toNumber_eq_ok {s : String} {y : Value} (h : toNumber s = .ok y) :
    (∃ n, y = .int n) ∨ (∃ d, y = .float d) ∨ y = .str s := by
  rw [toNumber] at h
  split at h
  · split at h
    · cases h
    · exact .inl ⟨_, (Except.ok.inj h).symm⟩
  · split at h
    · rw [Except.ok.injEq] at h
      split at h
      · exact .inr (.inl ⟨_, h.symm⟩)
      · exact .inr (.inr h.symm)
    · exact .inr (.inr (Except.ok.inj h).symm)

/-- **Coercing twice is coercing once.** -/
theorem coerce_coerce {x y : Value} {type : Option Value} (h : coerce x type = .ok y) :
    coerce y type = .ok y := by
  cases x with
  | str s =>
    rw [coerce] at h
    split at h
    · rename_i htype
      rcases toNumber_eq_ok h with ⟨n, rfl⟩ | ⟨d, rfl⟩ | rfl
      · rfl
      · rfl
      · rw [coerce, if_pos htype, h]
    · rename_i hnumber
      split at h
      · cases h
        rfl
      · rename_i hlist
        cases h
        rw [coerce, if_neg hnumber, if_neg hlist]
  | null | bool | int | float | list | object =>
    cases h
    rfl

end Coercion

end LineMachine
