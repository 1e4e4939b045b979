import LineMachine.Match.Filter
import LineMachine.Proofs.Case
import LineMachine.Proofs.Match.Comparison
import LineMachine.Proofs.Pieces

/-!
# Terms of a filter

A filter keeps templates by their commands and ids. For that it puts an underscore in place of every
separator and glues the command and the id together, and it looks there for its terms. What this
comes to is said without gluing: a term is a longest part of the filter without separators, in lower
case and longer than two characters (`IsTerm`), and a template passes if every term lies in its
command or in its id (`Passes`). No term lies partly in both, because it has no separator in it.

Which templates pass depends on the set of the terms only, and the terms of two phrases with a
separator between them are those of both, so neither the order of the terms nor their separators
matter, and more terms keep fewer templates (`filterTemplates_terms`).
-/

namespace LineMachine.Match

open Text (lower isSeparator splitWhere IsPiece)

/-! ## Separators as underscores -/

theorem joinWords_cons (c : Char) (s : List Char) :
    joinWords (c :: s) = (if isSeparator c then '_' else c) :: joinWords s := by
  have hchar : (if c == ' ' || c == '-' then '_' else c) = if isSeparator c then '_' else c := by
    by_cases hc : (c == ' ' || c == '-') = true
    · rw [if_pos hc, isSeparator, hc]
      rfl
    · rw [if_neg hc, isSeparator, Bool.eq_false_of_not_eq_true hc, Bool.false_or]
      by_cases hunderscore : (c == '_') = true
      · rw [if_pos hunderscore, beq_iff_eq.mp hunderscore]
      · rw [if_neg hunderscore]
  exact congrArg (· :: joinWords s) hchar

theorem joinWords_eq_map (s : List Char) :
    joinWords s = s.map fun c ↦ if isSeparator c then '_' else c := by
  induction s with
  | nil => rfl
  | cons c s ih => rw [joinWords_cons, ih, List.map_cons]

theorem joinWords_eq_self {s : List Char} (h : ∀ c ∈ s, isSeparator c = false) :
    joinWords s = s := by
  rw [joinWords_eq_map]
  refine (List.map_congr_left fun c hc ↦ ?_).trans (List.map_id s)
  rw [h c hc]
  rfl

theorem lower_joinWords (s : List Char) : lower (joinWords s) = joinWords (lower s) := by
  rw [joinWords_eq_map, joinWords_eq_map]
  refine Text.lower_map (fun c hc ↦ ?_) (fun c hc ↦ ?_) s
  · rw [if_pos hc]
    rfl
  · rw [hc]
    rfl

theorem splitAtChar_joinWords (s : List Char) :
    Text.splitAtChar '_' (joinWords s) = splitWhere isSeparator s := by
  rw [Text.splitAtChar]
  induction s with
  | nil => rfl
  | cons c s ih =>
    rw [joinWords_cons, Text.splitWhere_cons, Text.splitWhere_cons, ih]
    rcases hc : isSeparator c with - | -
    · have hunderscore : (c == '_') = false := by
        rw [isSeparator, Bool.or_eq_false_iff] at hc
        exact hc.2
      simp only [Bool.false_eq_true, if_false, hunderscore]
    · rfl

/-- A part without separators is a part of a text just if it is one of the text with underscores in
place of the separators. -/
theorem infix_joinWords {p : List Char} (hp : ∀ c ∈ p, isSeparator c = false) (s : List Char) :
    p <:+: joinWords s ↔ p <:+: s := by
  constructor
  · intro h
    rw [joinWords_eq_map] at h
    obtain ⟨part, hpart, rfl⟩ := List.infix_map_iff.mp h
    -- A separator in the part would leave an underscore in its image, which is a separator too.
    have hsep : ∀ c ∈ part, isSeparator c = false := by
      intro c hc
      have himage := hp _ (List.mem_map_of_mem hc)
      by_contra hother
      rw [if_pos (eq_true_of_ne_false hother)] at himage
      cases himage
    rw [← joinWords_eq_map, joinWords_eq_self hsep]
    exact hpart
  · rintro ⟨before, after, rfl⟩
    rw [joinWords_eq_map, List.map_append, List.map_append, ← joinWords_eq_map p,
      joinWords_eq_self hp]
    exact List.infix_append _ _ _

/-! ## Terms -/

/-- Holds of the terms of a filter. -/
def IsTerm (p : List Char) (filter : String) : Prop :=
  IsPiece isSeparator p (lower filter.toList) ∧ 2 < p.length

theorem mem_terms_iff {p : List Char} {filter : String} : p ∈ terms filter ↔ IsTerm p filter := by
  rw [terms, List.mem_filter, lower_joinWords, splitAtChar_joinWords, Text.mem_splitWhere_iff,
    decide_eq_true_iff, IsTerm]

theorem isSeparator_of_isTerm {p : List Char} {filter : String} (h : IsTerm p filter) :
    ∀ c ∈ p, isSeparator c = false := by
  obtain ⟨⟨before, after, -, hsep, -⟩, -⟩ := h
  exact hsep

/-- The terms of two phrases with a separator between them are the terms of both. -/
theorem isTerm_append {p : List Char} {c : Char} (hc : isSeparator c = true)
    (front back : String) :
    IsTerm p (front ++ String.singleton c ++ back) ↔ IsTerm p front ∨ IsTerm p back := by
  have htext : (front ++ String.singleton c ++ back).toList = front.toList ++ c :: back.toList := by
    simp
  rw [IsTerm, htext, Text.lower_append_cons hc, Text.isPiece_append_cons hc, or_and_right]
  rfl

/-! ## Templates that pass -/

/-- The text of a command or an id; empty if there is none. -/
def labelText (label : Value) : List Char :=
  match label with
  | .str s => s.toList
  | _ => []

/-- Holds of a template whose id is a text and whose command is one, if there is any. -/
structure Labelled (t : Template) : Prop where
  id : ∃ id : String, t.id = .str id
  command : ∃ command : Option String, t.command = phraseValue command

/-- Holds of a template with a part in its command or in its id, in lower case. -/
def Contains (t : Template) (p : List Char) : Prop :=
  p <:+: lower (labelText t.command) ∨ p <:+: lower (labelText t.id)

/-- Holds of a template that contains all the terms of a filter. -/
def Passes (filter : String) (t : Template) : Prop :=
  ∀ p, IsTerm p filter → Contains t p

instance (filter : String) : DecidablePred (Passes filter) := fun t ↦
  decidable_of_iff (∀ p ∈ terms filter, p <:+: lower (labelText t.command) ∨
      p <:+: lower (labelText t.id)) <| by
    simp only [mem_terms_iff]
    rfl

theorem haystack_eq {t : Template} (h : Labelled t) :
    haystack t =
      joinWords (lower (labelText t.command)) ++ '_' :: joinWords (lower (labelText t.id)) := by
  obtain ⟨⟨id, hid⟩, command, hcommand⟩ := h
  have hid' : t.id.text.toList = labelText t.id := by
    rw [hid]
    rfl
  have hcommand' : (t.command.orElse (.str "")).text.toList = labelText t.command := by
    rw [hcommand, orElse_phraseValue]
    rcases command with - | command <;> rfl
  have hglued : ((t.command.orElse (.str "")).text ++ " " ++ t.id.text).toList =
      labelText t.command ++ ' ' :: labelText t.id := by
    simp [hid', hcommand']
  rw [haystack, hglued, Text.lower_append_cons rfl, joinWords_eq_map, List.map_append,
    List.map_cons, ← joinWords_eq_map, ← joinWords_eq_map]
  rfl

theorem passes_iff {t : Template} (h : Labelled t) (filter : String) :
    passes (terms filter) t = true ↔ Passes filter t := by
  rw [passes, List.all_eq_true]
  refine forall_congr' fun p ↦ ?_
  rw [mem_terms_iff]
  refine forall_congr' fun hp ↦ ?_
  have hsep := isSeparator_of_isTerm hp
  have hunderscore : '_' ∉ p := fun hmem ↦ Bool.noConfusion (hsep _ hmem)
  rw [Text.occursIn_iff, haystack_eq h, Text.infix_append_cons hunderscore, infix_joinWords hsep,
    infix_joinWords hsep]
  rfl

theorem filterTemplates_eq {templates : List Template} (h : ∀ t ∈ templates, Labelled t)
    (filter : String) :
    filterTemplates templates (.str filter) = .ok (templates.filter (Passes filter)) := by
  rw [filterTemplates]
  by_cases hfilter : filter = ""
  · have hnone : ∀ t, Passes "" t := by
      intro t p hp
      rw [← mem_terms_iff] at hp
      cases hp
    rw [hfilter, List.filter_eq_self.mpr fun t _ ↦ decide_eq_true (hnone t)]
    rfl
  · have htruthy : (Value.str filter).truthy = true := bne_iff_ne.mpr hfilter
    rw [if_pos htruthy]
    refine congrArg Except.ok (List.filter_congr fun t ht ↦ ?_)
    rw [Bool.eq_iff_iff, passes_iff (h t ht), decide_eq_true_iff]

theorem filter_passes_sublist {filter other : String} (h : ∀ p, IsTerm p filter → IsTerm p other)
    (templates : List Template) :
    (templates.filter (Passes other)).Sublist (templates.filter (Passes filter)) := by
  refine List.monotone_filter_right templates fun t ht ↦ ?_
  rw [decide_eq_true_iff] at ht ⊢
  exact fun p hp ↦ ht p (h p hp)

/-- **A filter keeps what contains its terms.** Of templates whose ids are texts, and whose commands
are texts or missing, it keeps those that contain each of its terms in the command or in the id, and
it keeps them in their order. A filter with the same terms keeps the same templates, and one that
has more terms keeps only some of them. The terms are of no order: those of two phrases with a
separator between them are the terms of one and of the other. -/
theorem filterTemplates_terms {templates : List Template} (h : ∀ t ∈ templates, Labelled t)
    (filter : String) :
    filterTemplates templates (.str filter) = .ok (templates.filter (Passes filter)) ∧
      (∀ other, (∀ p, IsTerm p other ↔ IsTerm p filter) →
        filterTemplates templates (.str other) = filterTemplates templates (.str filter)) ∧
      (∀ other, (∀ p, IsTerm p filter → IsTerm p other) →
        ∃ kept, filterTemplates templates (.str other) = .ok kept ∧
          kept.Sublist (templates.filter (Passes filter))) ∧
      ∀ p c front back, isSeparator c = true →
        (IsTerm p (front ++ String.singleton c ++ back) ↔ IsTerm p front ∨ IsTerm p back) := by
  refine ⟨filterTemplates_eq h filter, ?_, ?_, ?_⟩
  · intro other hterms
    have hpasses : ∀ t, Passes other t ↔ Passes filter t :=
      fun t ↦ forall_congr' fun p ↦ imp_congr_left (hterms p)
    rw [filterTemplates_eq h, filterTemplates_eq h]
    simp only [hpasses]
  · intro other hterms
    exact ⟨_, filterTemplates_eq h other, filter_passes_sublist hterms templates⟩
  · intro p c front back hc
    exact isTerm_append hc front back

/-- The list of ports is labelled by its id alone, and a filter that asks for a part of the id and a
short word keeps it. -/
theorem filterTemplates_terms_ports :
    Labelled Engine.ports ∧
      filterTemplates [Engine.ports] (.str "of-PORT") = .ok [Engine.ports] := by
  have hports : Labelled Engine.ports := ⟨⟨_, rfl⟩, none, rfl⟩
  have hkept := (filterTemplates_terms (List.forall_mem_singleton.mpr hports) "of-PORT").1
  refine ⟨hports, hkept.trans (congrArg _ ?_)⟩
  decide +kernel

end LineMachine.Match
