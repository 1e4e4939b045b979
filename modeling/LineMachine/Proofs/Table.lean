import Mathlib.Data.List.Induction
import LineMachine.Table

/-!
# Looking up in tables

What is found under a key is the value of some entry whose key is the same, and keys that are the
same find the same. A table that was made from pairs finds something under exactly the keys of the
pairs (`isSome_find?_ofList`), and what it finds is the value of the last of them
(`find?_ofList_eq`). If all the keys are different, it is the pairs (`ofList_of_pairwise`).

Which keys a table has, and in which order, does not depend on its values: tables of the same keys
still have the same keys after the same key was put in or removed.
-/

namespace LineMachine

/-- A key that is the same as a text is that text. -/
theorem Key.eq_str_of_same {k : Key} {s : String} (h : k.same (.str s) = true) : k = .str s := by
  rw [same, beq_iff_eq, normal_str] at h
  cases k with
  | str t => exact h
  | null | bool b | int n => cases h
  | float d =>
    rw [normal] at h
    split at h <;> cases h

namespace Table

variable {α : Type}

/-- Keys that are the same find the same. -/
theorem find?_congr (t : Table α) {j k : Key} (h : j.same k = true) : find? t j = find? t k := by
  induction t with
  | nil => rfl
  | cons e t ih =>
    have hsame : j.same e.1 = k.same e.1 := by
      rw [Key.same, beq_iff_eq] at h
      rw [Key.same, Key.same, h]
    rw [find?_cons, find?_cons, hsame, ih]

theorem mem_of_find? {t : Table α} {k : Key} {v : α} (h : find? t k = some v) :
    ∃ j, (j, v) ∈ t ∧ k.same j = true := by
  induction t with
  | nil => cases h
  | cons e t ih =>
    rw [find?_cons] at h
    by_cases hk : k.same e.1 = true
    · rw [if_pos hk] at h
      cases h
      exact ⟨e.1, List.mem_cons_self, hk⟩
    · rw [if_neg hk] at h
      obtain ⟨j, hj, hsame⟩ := ih h
      exact ⟨j, List.mem_cons_of_mem e hj, hsame⟩

/-! ## Putting in -/

theorem mem_put {t : Table α} {k : Key} {v : α} {e : Key × α} (h : e ∈ put t k v) :
    e ∈ t ∨ e.2 = v ∧ e.1.same k = true := by
  induction t with
  | nil =>
    rw [put_nil, List.mem_singleton] at h
    rw [h]
    exact .inr ⟨rfl, Key.same_self k⟩
  | cons d t ih =>
    rw [put_cons] at h
    by_cases hk : k.same d.1 = true
    · rw [if_pos hk] at h
      rcases List.mem_cons.mp h with rfl | hmem
      · rw [Key.same_comm] at hk
        exact .inr ⟨rfl, hk⟩
      · exact .inl (List.mem_cons_of_mem d hmem)
    · rw [if_neg hk] at h
      rcases List.mem_cons.mp h with rfl | hmem
      · exact .inl List.mem_cons_self
      · exact (ih hmem).imp (List.mem_cons_of_mem d) id

/-- A new key goes to the end. -/
theorem put_of_find?_eq_none {t : Table α} {k : Key} (h : find? t k = none) (v : α) :
    put t k v = t ++ [(k, v)] := by
  induction t with
  | nil => rfl
  | cons e t ih =>
    rw [find?_cons] at h
    by_cases hk : k.same e.1 = true
    · rw [if_pos hk] at h
      cases h
    · rw [if_neg hk] at h
      rw [put_cons, if_neg hk, ih h]
      rfl

/-- Of two values that are put under one key in turn, the second one stays. -/
theorem put_put (t : Table α) (k : Key) (v w : α) : put (put t k v) k w = put t k w := by
  induction t with
  | nil => rw [put_nil, put_cons, if_pos (Key.same_self k), put_nil]
  | cons e t ih =>
    rw [put_cons, put_cons]
    by_cases hk : k.same e.1 = true
    · rw [if_pos hk, if_pos hk, put_cons, if_pos hk]
    · rw [if_neg hk, if_neg hk, put_cons, if_neg hk, ih]

/-! ## Tables made from pairs -/

/-- What is found after more pairs were put in is the value of one of them, or was there before. -/
theorem find?_foldl_put {pairs : List (Key × α)} {t : Table α} {k : Key} {v : α}
    (h : find? (pairs.foldl (fun t e ↦ put t e.1 e.2) t) k = some v) :
    (∃ e ∈ pairs, e.2 = v ∧ k.same e.1 = true) ∨ find? t k = some v := by
  induction pairs generalizing t with
  | nil => exact Or.inr h
  | cons e pairs ih =>
    rw [List.foldl_cons] at h
    rcases ih h with ⟨e', he', hv, hk⟩ | hput
    · exact Or.inl ⟨e', List.mem_cons_of_mem e he', hv, hk⟩
    · rw [find?_put] at hput
      by_cases hk : k.same e.1 = true
      · rw [if_pos hk] at hput
        exact Or.inl ⟨e, List.mem_cons_self, Option.some.inj hput, hk⟩
      · rw [if_neg hk] at hput
        exact Or.inr hput

theorem find?_ofList {pairs : List (Key × α)} {k : Key} {v : α}
    (h : find? (ofList pairs) k = some v) : ∃ e ∈ pairs, e.2 = v ∧ k.same e.1 = true := by
  rcases find?_foldl_put h with hmem | hnil
  · exact hmem
  · cases hnil

theorem isSome_find?_foldl_put (pairs : List (Key × α)) (t : Table α) (k : Key) :
    (find? (pairs.foldl (fun t e ↦ put t e.1 e.2) t) k).isSome = true ↔
      (∃ e ∈ pairs, k.same e.1 = true) ∨ (find? t k).isSome = true := by
  -- The table that is put into is generalised: each pair makes its key one of those there.
  induction pairs generalizing t with
  | nil =>
    constructor
    · exact Or.inr
    · rintro (⟨e, he, -⟩ | h)
      · cases he
      · exact h
  | cons e pairs ih =>
    rw [List.foldl_cons, ih, find?_put]
    by_cases hk : k.same e.1 = true
    · rw [if_pos hk]
      exact iff_of_true (Or.inr rfl) (Or.inl ⟨e, List.mem_cons_self, hk⟩)
    · rw [if_neg hk]
      constructor
      · rintro (⟨e', he', hsame⟩ | h)
        · exact Or.inl ⟨e', List.mem_cons_of_mem e he', hsame⟩
        · exact Or.inr h
      · rintro (⟨e', he', hsame⟩ | h)
        · rcases List.mem_cons.mp he' with rfl | he'
          · exact absurd hsame hk
          · exact Or.inl ⟨e', he', hsame⟩
        · exact Or.inr h

/-- A table made from pairs has the keys of the pairs. -/
theorem isSome_find?_ofList (pairs : List (Key × α)) (k : Key) :
    (find? (ofList pairs) k).isSome = true ↔ ∃ e ∈ pairs, k.same e.1 = true := by
  rw [ofList, isSome_find?_foldl_put]
  constructor
  · rintro (h | h)
    · exact h
    · cases h
  · exact Or.inl

/-- After more pairs were put in, the last one of a key decides what is found under it. -/
theorem find?_foldl_put_eq (pairs : List (Key × α)) (t : Table α) (k : Key) :
    find? (pairs.foldl (fun t e ↦ put t e.1 e.2) t) k =
      ((pairs.reverse.find? fun e ↦ k.same e.1).map (·.2)).or (find? t k) := by
  induction pairs generalizing t with
  | nil => rfl
  | cons e pairs ih =>
    rw [List.foldl_cons, ih, find?_put, List.reverse_cons, List.find?_append]
    cases pairs.reverse.find? fun e ↦ k.same e.1 with
    | some last => rfl
    | none => cases hk : k.same e.1 <;> simp [hk]

theorem find?_ofList_eq (pairs : List (Key × α)) (k : Key) :
    find? (ofList pairs) k = (pairs.reverse.find? fun e ↦ k.same e.1).map (·.2) := by
  rw [ofList, find?_foldl_put_eq, find?_nil, Option.or_none]

theorem ofList_concat (pairs : List (Key × α)) (e : Key × α) :
    ofList (pairs ++ [e]) = put (ofList pairs) e.1 e.2 := by
  rw [ofList, List.foldl_append]
  rfl

/-- Pairs whose keys are all different are a table as they stand. -/
theorem ofList_of_pairwise {pairs : List (Key × α)}
    (h : pairs.Pairwise fun d e ↦ e.1.same d.1 = false) : ofList pairs = pairs := by
  induction pairs using List.reverseRecOn with
  | nil => rfl
  | append_singleton pairs e ih =>
    obtain ⟨hpairs, -, hlast⟩ := List.pairwise_append.mp h
    have hnew : find? pairs e.1 = none := by
      refine Option.eq_none_iff_forall_ne_some.mpr ?_
      intro v hfound
      obtain ⟨j, hj, hsame⟩ := mem_of_find? hfound
      rw [hlast _ hj e List.mem_cons_self] at hsame
      cases hsame
    rw [ofList_concat, ih hpairs, put_of_find?_eq_none hnew]

/-- A table made from pairs whose keys are texts has each key once, where it came first. -/
theorem keys_ofList_of_texts {pairs : List (Key × α)} (h : ∀ e ∈ pairs, ∃ s, e.1 = .str s) :
    keys (ofList pairs) = (pairs.map (·.1)).eraseDups := by
  induction pairs using List.reverseRecOn with
  | nil => rfl
  | append_singleton pairs e ih =>
    rw [List.forall_mem_append, List.forall_mem_singleton] at h
    obtain ⟨hpairs, text, htext⟩ := h
    have hthere : (ofList pairs).has e.1 = true ↔ e.1 ∈ pairs.map (·.1) := by
      rw [has_iff_find?, isSome_find?_ofList, List.mem_map]
      refine exists_congr fun d ↦ and_congr_right fun hd ↦ ?_
      obtain ⟨other, hother⟩ := hpairs d hd
      rw [htext, hother, Key.same_str, beq_iff_eq, Key.str.injEq, eq_comm]
    rw [ofList_concat, keys_put, ih hpairs, List.map_append, List.map_singleton,
      List.eraseDups_append]
    by_cases hmem : e.1 ∈ pairs.map (·.1)
    · rw [if_pos (hthere.mpr hmem)]
      simp [List.removeAll, hmem]
    · rw [if_neg fun hhas ↦ hmem (hthere.mp hhas)]
      simp only [List.removeAll, List.elem_eq_contains, List.contains_eq_mem, hmem, decide_false,
        Bool.not_false, List.filter_cons, if_true, List.filter_nil]
      rfl

/-! ## Keys alone -/

theorem has_eq_any_keys (t : Table α) (k : Key) : t.has k = (keys t).any k.same := by
  rw [has, keys, List.any_map]
  rfl

theorem keys_remove (t : Table α) (k : Key) :
    keys (remove t k) = (keys t).filter fun j ↦ !k.same j := by
  rw [keys, keys, remove, List.filter_map]
  rfl

/-- What is so of every key and a later one stays so when a key is put in, if it is so of the keys
that are there and of that key where it is new. -/
theorem pairwise_keys_put {R : Key → Key → Prop} {t : Table α} {k : Key} (h : (keys t).Pairwise R)
    (hnew : t.has k = false → ∀ j ∈ keys t, R j k) (v : α) : (keys (put t k v)).Pairwise R := by
  rw [keys_put]
  by_cases hthere : t.has k = true
  · rw [if_pos hthere]
    exact h
  · rw [if_neg hthere]
    refine List.pairwise_append.mpr ⟨h, List.pairwise_singleton _ _, ?_⟩
    intro j hj i hi
    rw [List.mem_singleton.mp hi]
    exact hnew (eq_false_of_ne_true hthere) j hj

theorem keys_put_congr {t u : Table α} (h : keys t = keys u) (k : Key) (v w : α) :
    keys (put t k v) = keys (put u k w) := by
  rw [keys_put, keys_put, has_eq_any_keys, has_eq_any_keys, h]

theorem isEmpty_congr {t u : Table α} (h : keys t = keys u) : t.isEmpty = u.isEmpty := by
  rw [← List.isEmpty_map (f := Prod.fst), ← List.isEmpty_map (l := u) (f := Prod.fst)]
  exact congrArg List.isEmpty h

end Table

end LineMachine
