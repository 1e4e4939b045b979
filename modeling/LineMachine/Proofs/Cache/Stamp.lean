import LineMachine.Proofs.Cache.Past

/-!
# Machines given again

A machine that a cache gave for an id is given again, the very same one, until the id is forgotten
(`compile_again`). Afterwards it is never given again: the next machine under that id has a stamp
that the cache had not used by the time of forgetting (`compile_anew`).
-/

namespace LineMachine

namespace Cache

/-! ## Held machines -/

/-- What is held under an id is held until the id is forgotten. -/
theorem find?_foldl_of_held {c : Cache} {k : Key} {stored : Stored}
    (h : Table.find? c.entries k = some stored) {deeds : List Deed}
    (hkeep : ∀ d ∈ deeds, d.forgets k = false) :
    Table.find? (deeds.foldl after c).entries k = some stored := by
  induction deeds generalizing c with
  | nil => exact h
  | cons d deeds ih =>
    obtain ⟨hd, hrest⟩ := List.forall_mem_cons.mp hkeep
    refine ih ?_ hrest
    rw [find?_after, hd, h]
    rfl

/-! ## Stamps -/

/-- Asking either leaves the cache as it is, or puts in a machine with the next stamp. -/
theorem after_ask (c : Cache) (t : Template) :
    c.after (.ask t) = c ∨
      ∃ k m, c.after (.ask t) = ⟨Table.put c.entries k ⟨c.next, m⟩, c.next + 1⟩ := by
  rw [after]
  cases Engine.asking c t with
  | refused _ h | held _ _ _ _ h | faulty _ _ _ _ _ h =>
    rw [h]
    exact .inl rfl
  | built k m _ _ _ h =>
    rw [h]
    exact .inr ⟨k, m, rfl⟩

theorem next_after_forget (c : Cache) (id : Value) : (c.after (.forget id)).next = c.next := by
  rw [after, remove]
  split
  · rfl
  · cases id.key <;> rfl

theorem next_le_after (c : Cache) (d : Deed) : c.next ≤ (c.after d).next := by
  cases d with
  | ask t =>
    rcases after_ask c t with h | ⟨k, m, h⟩
    · rw [h]
    · rw [h]
      exact Nat.le_succ c.next
  | forget id => exact (next_after_forget c id).ge
  | forgetAll => exact Nat.le_refl c.next

/-- Holds of a cache that only uses stamps below the next one. -/
def Stamped (c : Cache) : Prop :=
  ∀ k stored, Table.find? c.entries k = some stored → stored.stamp < c.next

theorem stamped_after {c : Cache} (h : Stamped c) (d : Deed) : Stamped (c.after d) := by
  intro k stored hfind
  cases d with
  | ask t =>
    rcases after_ask c t with hsame | ⟨j, m, hput⟩
    · rw [hsame] at hfind ⊢
      exact h k stored hfind
    · rw [hput, Table.find?_put] at hfind
      rw [hput]
      split at hfind
      · cases hfind
        exact Nat.lt_succ_self c.next
      · exact Nat.lt_succ_of_lt (h k stored hfind)
  | forget id =>
    rw [find?_after_forget] at hfind
    rw [next_after_forget]
    split at hfind
    · cases hfind
    · exact h k stored hfind
  | forgetAll => cases hfind

theorem stamped_ofPast (past : List Deed) : Stamped (ofPast past) := by
  induction past using List.reverseRecOn with
  | nil =>
    intro k stored hfind
    cases hfind
  | append_singleton past d ih =>
    rw [ofPast_concat]
    exact stamped_after ih d

/-! ## Renewed ids -/

/-- Holds of a cache whose machine under an id, if any, has a stamp from a given one on. -/
structure Renewed (n : Nat) (k : Key) (c : Cache) : Prop where
  next : n ≤ c.next
  stamp : ∀ stored, Table.find? c.entries k = some stored → n ≤ stored.stamp

theorem renewed_of_forgets {n : Nat} {k : Key} {c : Cache} (h : n ≤ c.next) {d : Deed}
    (hd : d.forgets k = true) : Renewed n k (c.after d) where
  next := h.trans (next_le_after c d)
  stamp stored hfind := by
    rw [find?_after, if_pos hd] at hfind
    cases hfind

theorem renewed_after {n : Nat} {k : Key} {c : Cache} (h : Renewed n k c) (d : Deed) :
    Renewed n k (c.after d) where
  next := h.next.trans (next_le_after c d)
  stamp stored hfind := by
    rw [find?_after] at hfind
    split at hfind
    · cases hfind
    · -- What is found was there before, or is put in with the next stamp.
      rcases Option.or_eq_some_iff.mp hfind with hold | ⟨-, hnew⟩
      · exact h.stamp stored hold
      · obtain ⟨m, -, rfl⟩ := Option.map_eq_some_iff.mp hnew
        exact h.next

theorem renewed_foldl {n : Nat} {k : Key} {c : Cache} (h : Renewed n k c) (deeds : List Deed) :
    Renewed n k (deeds.foldl after c) := by
  induction deeds generalizing c with
  | nil => exact h
  | cons d deeds ih => exact ih (renewed_after h d)

theorem renewed_foldl_of_forgets {n : Nat} {k : Key} {c : Cache} (h : n ≤ c.next)
    {deeds : List Deed} (hforget : ∃ d ∈ deeds, d.forgets k = true) :
    Renewed n k (deeds.foldl after c) := by
  induction deeds generalizing c with
  | nil =>
    obtain ⟨d, hd, -⟩ := hforget
    cases hd
  | cons d deeds ih =>
    obtain ⟨e, he, hforgets⟩ := hforget
    rcases List.mem_cons.mp he with rfl | he
    · exact renewed_foldl (renewed_of_forgets h hforgets) deeds
    · exact ih (h.trans (next_le_after c d)) ⟨e, he, hforgets⟩

end Cache

namespace Engine

variable {c : Cache} {t u : Template} {k : Key} {stored : Stored}

/-- A machine that was given is held under the id from then on. -/
theorem find?_of_compile (hk : t.id.key? = some k) (h : (compile c t).result = .ok stored) :
    Table.find? (c.after (.ask t)).entries k = some stored := by
  rw [Cache.after]
  cases asking c t with
  | refused hj => cases hj.symm.trans hk
  | held j found hj hheld hanswer =>
    cases hj.symm.trans hk
    rw [hanswer] at h ⊢
    cases h
    exact hheld
  | built j m hj hnone hm hanswer =>
    cases hj.symm.trans hk
    rw [hanswer] at h ⊢
    cases h
    rw [Table.find?_put, if_pos (Key.same_self k)]
  | faulty j fault hj hnone hm hanswer =>
    rw [hanswer] at h
    cases h

/-- **Until its id is forgotten, a machine is given again**, whichever template of that id is asked
for. -/
theorem compile_again (hk : t.id.key? = some k) (h : (compile c t).result = .ok stored)
    {between : List Deed} (hkeep : ∀ d ∈ between, d.forgets k = false)
    (hu : u.id.key?.any k.same = true) :
    (compile (between.foldl Cache.after (c.after (.ask t))) u).result = .ok stored := by
  have hheld := Cache.find?_foldl_of_held (find?_of_compile hk h) hkeep
  obtain ⟨j, hj, hsame⟩ := (Option.any_eq_true _ _).mp hu
  rw [Table.find?_congr _ hsame] at hheld
  rw [compile_of_held hj hheld]

/-- **Once its id is forgotten, a machine is never given again.** -/
theorem compile_anew (hc : c.Stamped) (hk : t.id.key? = some k)
    (h : (compile c t).result = .ok stored) {between : List Deed}
    (hforget : ∃ d ∈ between, d.forgets k = true) (hu : u.id.key?.any k.same = true)
    {later : Stored}
    (hlater : (compile (between.foldl Cache.after (c.after (.ask t))) u).result = .ok later) :
    later.stamp ≠ stored.stamp := by
  -- The stamp of the first machine is below every stamp given out after it.
  have hheld := find?_of_compile hk h
  have hold : stored.stamp < (c.after (.ask t)).next :=
    Cache.stamped_after hc (.ask t) k stored hheld
  have hrenewed := Cache.renewed_after
    (Cache.renewed_foldl_of_forgets (Nat.le_refl (c.after (.ask t)).next) hforget) (.ask u)
  obtain ⟨j, hj, hsame⟩ := (Option.any_eq_true _ _).mp hu
  have hfound := find?_of_compile hj hlater
  rw [← Table.find?_congr _ hsame] at hfound
  have hnew := hrenewed.stamp later hfound
  exact Nat.ne_of_gt (hold.trans_le hnew)

end Engine

end LineMachine
