import LineMachine.Proofs.Cache.Past

/-!
# Edits of a cache

What changes in a cache is a list of *edits*: a machine is stored, an id is dropped, or all ids are
dropped. From the edits alone it can be told what a cache lists, and in which order: an id is there
if it was stored since it was last dropped, and its place is that of the first time since then
(`firstStored?`). Storing an id again keeps its place, and storing it after it was dropped gives it
a new one.

`Kept` is the invariant that every edit keeps (`kept_edited`): each entry stands under the id of its
own template, no id is listed twice, and the ids are the ones that the edits tell, in their order.
-/

namespace LineMachine

namespace Cache

/-! ## Edits -/

/-- One change of a cache. -/
inductive Edit where
  /-- A machine is put in under the id of its template. -/
  | store (m : Machine)
  /-- The machine of an id is removed. -/
  | drop (id : Value)
  /-- All machines are removed. -/
  | dropAll
  deriving DecidableEq

namespace Edit

/-- Whether an edit stores a machine under an id. -/
def stores (k : Key) : Edit → Bool
  | .store m => m.template.id.key?.any k.same
  | .drop _ | .dropAll => false

/-- Whether an edit drops an id. -/
def drops (k : Key) : Edit → Bool
  | .store _ => false
  | .drop id => id.key?.any k.same
  | .dropAll => true

/-- The edits since an id was last dropped. -/
def since (k : Key) (edits : List Edit) : List Edit :=
  edits.rtakeWhile fun e ↦ !e.drops k

/-- The place among edits of the one that first stored an id since it was last dropped. -/
def firstStored? (k : Key) (edits : List Edit) : Option Nat :=
  ((since k edits).findIdx? (·.stores k)).map (edits.length - (since k edits).length + ·)

theorem length_since_le (k : Key) (edits : List Edit) : (since k edits).length ≤ edits.length :=
  (List.rtakeWhile_suffix _ _).length_le

/-- With one more edit, an id that was there keeps its place unless it is dropped, and one that was
not there comes in last if it is stored. -/
theorem firstStored?_concat (k : Key) (edits : List Edit) (e : Edit) :
    firstStored? k (edits ++ [e]) =
      if e.drops k then none
      else (firstStored? k edits).or (if e.stores k then some edits.length else none) := by
  have hle := length_since_le k edits
  by_cases hdrops : e.drops k = true
  · have hsince : since k (edits ++ [e]) = [] :=
      List.rtakeWhile_concat_neg _ _ _ (by rw [hdrops]; decide)
    rw [if_pos hdrops, firstStored?, hsince]
    rfl
  · have hsince : since k (edits ++ [e]) = since k edits ++ [e] :=
      List.rtakeWhile_concat_pos _ _ _ (by rw [eq_false_of_ne_true hdrops]; rfl)
    rw [if_neg hdrops, firstStored?, firstStored?, hsince, List.findIdx?_append]
    simp only [List.length_append, List.length_singleton, Nat.add_sub_add_right]
    cases (since k edits).findIdx? (·.stores k) with
    | some n => rfl
    | none =>
      cases hstores : e.stores k with
      | false => simp [List.findIdx?_cons, hstores]
      | true =>
        simp [List.findIdx?_cons, hstores]
        omega

theorem firstStored?_lt {k : Key} {edits : List Edit} {n : Nat}
    (h : firstStored? k edits = some n) : n < edits.length := by
  obtain ⟨i, hi, rfl⟩ := Option.map_eq_some_iff.mp h
  have hle := length_since_le k edits
  have hlt := (List.findIdx?_eq_some_iff_findIdx_eq.mp hi).1
  omega

theorem firstStored?_concat_of_some {k : Key} {edits : List Edit} {n : Nat}
    (h : firstStored? k edits = some n) {e : Edit} (hdrops : e.drops k = false) :
    firstStored? k (edits ++ [e]) = some n := by
  rw [firstStored?_concat, hdrops, h]
  rfl

/-- Holds of two ids of which the first one was stored earlier, each counted from when it was last
dropped. -/
def Before (edits : List Edit) (j k : Key) : Prop :=
  ∃ a b, firstStored? j edits = some a ∧ firstStored? k edits = some b ∧ a < b

theorem Before.concat {edits : List Edit} {j k : Key} (h : Before edits j k) {e : Edit}
    (hj : e.drops j = false) (hk : e.drops k = false) : Before (edits ++ [e]) j k := by
  obtain ⟨a, b, ha, hb, hlt⟩ := h
  exact ⟨a, b, firstStored?_concat_of_some ha hj, firstStored?_concat_of_some hb hk, hlt⟩

end Edit

/-- What an edit leaves of a cache. A machine whose id is no key is not put in, and such an id is
not dropped. -/
def edited (c : Cache) : Edit → Cache
  | .store m => (Answer.ofUpdate c (c.put m)).cache
  | .drop id => (Answer.ofUpdate c (c.remove id)).cache
  | .dropAll => c.clear

/-! ## What edits keep -/

/-- Holds of a cache that has what the edits made to a new cache leave in it. -/
structure Kept (edits : List Edit) (c : Cache) : Prop where
  /-- An entry stands under the id of its own template. -/
  own : ∀ e ∈ c.entries, e.2.machine.template.id.key?.any e.1.same = true
  /-- The machine of an entry was stored. -/
  stored : ∀ e ∈ c.entries, Edit.store e.2.machine ∈ edits
  /-- No id is listed twice. -/
  distinct : c.ids.Pairwise fun j k ↦ j.same k = false
  /-- The ids that are listed are those that were stored since they were last dropped. -/
  listed : ∀ k, c.ids.any k.same = (Edit.firstStored? k edits).isSome
  /-- They are listed in the order in which they were first stored since then. -/
  ordered : c.ids.Pairwise (Edit.Before edits)

theorem kept_empty : Kept [] empty where
  own := List.forall_mem_nil _
  stored := List.forall_mem_nil _
  distinct := .nil
  listed _ := rfl
  ordered := .nil

section Step

variable {edits : List Edit} {c : Cache}

theorem any_ids (c : Cache) (k : Key) :
    c.ids.any k.same = (Table.find? c.entries k).isSome := by
  rw [ids, ← Table.has_eq_any_keys, Table.has_iff_find?]

/-- An edit that neither stores nor drops anything is as if it had not been made. -/
theorem kept_of_idle (h : Kept edits c) {e : Edit} (hstores : ∀ k, e.stores k = false)
    (hdrops : ∀ k, e.drops k = false) : Kept (edits ++ [e]) c where
  own := h.own
  stored e he := List.mem_append_left _ (h.stored e he)
  distinct := h.distinct
  listed k := by
    rw [h.listed, Edit.firstStored?_concat, hdrops, hstores]
    simp only [Bool.false_eq_true, if_false, Option.or_none]
  ordered := h.ordered.imp fun hbefore ↦ hbefore.concat (hdrops _) (hdrops _)

/-- What is listed was first stored somewhere. -/
theorem Kept.exists_firstStored? (h : Kept edits c) {k : Key} (hk : k ∈ c.ids) :
    ∃ n, Edit.firstStored? k edits = some n := by
  rw [← Option.isSome_iff_exists, ← h.listed]
  exact List.any_eq_true.mpr ⟨k, hk, Key.same_self k⟩

theorem kept_store (h : Kept edits c) {m : Machine} {k : Key} (hk : m.template.id.key? = some k)
    {stored : Stored} (hstored : stored.machine = m) {d : Cache}
    (hd : d.entries = Table.put c.entries k stored) : Kept (edits ++ [.store m]) d := by
  have hids : d.ids = Table.keys (Table.put c.entries k stored) := congrArg Table.keys hd
  have hdrops (j : Key) : (Edit.store m).drops j = false := rfl
  have hstores (j : Key) : (Edit.store m).stores j = j.same k := by rw [Edit.stores, hk]; rfl
  constructor
  · intro e he
    rw [hd] at he
    rcases Table.mem_put he with hold | ⟨hnew, hsame⟩
    · exact h.own e hold
    · rw [hnew, hstored, hk]
      exact hsame
  · intro e he
    rw [hd] at he
    rcases Table.mem_put he with hold | ⟨hnew, -⟩
    · exact List.mem_append_left _ (h.stored e hold)
    · rw [hnew, hstored]
      exact List.mem_append_right _ List.mem_cons_self
  · rw [hids]
    refine Table.pairwise_keys_put h.distinct (fun hnew j hj ↦ ?_) stored
    rw [Table.has_eq_any_keys, List.any_eq_false] at hnew
    rw [Key.same_comm]
    exact eq_false_of_ne_true (hnew j hj)
  · intro j
    rw [any_ids, hd, Table.find?_put, Edit.firstStored?_concat, hdrops, hstores]
    have hbefore := h.listed j
    rw [any_ids] at hbefore
    cases j.same k with
    | true => simp
    | false => simpa using hbefore
  · have hold : c.ids.Pairwise (Edit.Before (edits ++ [.store m])) :=
      h.ordered.imp fun hbefore ↦ hbefore.concat rfl rfl
    rw [hids]
    refine Table.pairwise_keys_put hold (fun hnew j hj ↦ ?_) stored
    -- The id is new, so it comes behind everything that was stored before.
    obtain ⟨a, ha⟩ := h.exists_firstStored? hj
    have hnone : Edit.firstStored? k edits = none := by
      have hlisted := h.listed k
      rw [any_ids, ← Table.has_iff_find?, hnew] at hlisted
      exact Option.isNone_iff_eq_none.mp (Option.isSome_eq_false_iff.mp hlisted.symm)
    refine ⟨a, edits.length, Edit.firstStored?_concat_of_some ha rfl, ?_, Edit.firstStored?_lt ha⟩
    rw [Edit.firstStored?_concat, hnone, hdrops, hstores, Key.same_self]
    rfl

theorem kept_drop (h : Kept edits c) {id : Value} {k : Key} (hk : id.key? = some k) {d : Cache}
    (hd : d.entries = Table.remove c.entries k) : Kept (edits ++ [.drop id]) d := by
  have hids : d.ids = c.ids.filter fun j ↦ !k.same j := by
    rw [ids, hd, Table.keys_remove]
    rfl
  have hmem {e : Key × Stored} (he : e ∈ d.entries) : e ∈ c.entries := by
    rw [hd] at he
    exact List.mem_of_mem_filter he
  have hdrops (j : Key) : (Edit.drop id).drops j = j.same k := by rw [Edit.drops, hk]; rfl
  constructor
  · exact fun e he ↦ h.own e (hmem he)
  · exact fun e he ↦ List.mem_append_left _ (h.stored e (hmem he))
  · rw [hids]
    exact h.distinct.filter _
  · intro j
    have hbefore := h.listed j
    rw [any_ids] at hbefore
    rw [any_ids, hd, Table.find?_remove, Edit.firstStored?_concat, hdrops]
    cases j.same k with
    | true => rfl
    | false => simpa [Edit.stores] using hbefore
  · rw [hids]
    refine (h.ordered.filter _).imp_of_mem fun hi hj hbefore ↦ hbefore.concat ?_ ?_
    · rw [hdrops, Key.same_comm]
      exact (Bool.not_eq_true' _).mp (List.mem_filter.mp hi).2
    · rw [hdrops, Key.same_comm]
      exact (Bool.not_eq_true' _).mp (List.mem_filter.mp hj).2

theorem kept_dropAll (edits : List Edit) (c : Cache) : Kept (edits ++ [.dropAll]) c.clear where
  own := List.forall_mem_nil _
  stored := List.forall_mem_nil _
  distinct := .nil
  listed k := by
    rw [Edit.firstStored?_concat]
    rfl
  ordered := .nil

/-- **What an edit keeps.** -/
theorem kept_edited (h : Kept edits c) (e : Edit) : Kept (edits ++ [e]) (c.edited e) := by
  cases e with
  | store m =>
    rw [edited, put]
    cases hk : m.template.id.key? with
    | none =>
      rw [Value.key, hk]
      refine kept_of_idle h (fun k ↦ ?_) fun k ↦ rfl
      rw [Edit.stores, hk]
      rfl
    | some k =>
      rw [Value.key_eq_ok.mpr hk]
      have hmachine : (⟨c.next, m⟩ : Stored).machine = m := rfl
      exact kept_store h hk hmachine rfl
  | drop id =>
    cases hk : id.key? with
    | none =>
      have hsame : c.edited (.drop id) = c := by
        rw [edited, remove, Value.key, hk]
        split <;> rfl
      rw [hsame]
      refine kept_of_idle h (fun k ↦ rfl) fun k ↦ ?_
      rw [Edit.drops, hk]
      rfl
    | some k =>
      refine kept_drop h hk ?_
      rw [edited, remove, Value.key_eq_ok.mpr hk]
      split
      · rename_i hempty
        rw [List.isEmpty_iff] at hempty
        simp only [Answer.ofUpdate, hempty]
        rfl
      · rfl
  | dropAll => exact kept_dropAll edits c

theorem kept_foldl (h : Kept edits c) (more : List Edit) :
    Kept (edits ++ more) (more.foldl edited c) := by
  induction more generalizing edits c with
  | nil => rwa [List.append_nil]
  | cons e more ih =>
    rw [← List.singleton_append, ← List.append_assoc]
    exact ih (kept_edited h e)

end Step

end Cache

end LineMachine
