import Mathlib.Data.List.Forall2

/-!
# Results that may be faults

Taking apart a computation that stops at its first fault. A sequence of two steps that comes to an
end has a result in between; going through a list that comes to an end has a result for every item.

Where the faults of a computation are known beforehand, in their order, it stops at the first one
(`StopsAtFirst`).
-/

namespace LineMachine

variable {ε ε' α β γ : Type}

/-! ## Two steps -/

theorem bind_eq_ok {x : Except ε α} {f : α → Except ε β} {b : β} :
    (x >>= f) = .ok b ↔ ∃ a, x = .ok a ∧ f a = .ok b := by
  cases x with
  | error e =>
    constructor
    · intro h
      cases h
    · rintro ⟨a, ha, -⟩
      cases ha
  | ok a =>
    constructor
    · intro h
      exact ⟨a, rfl, h⟩
    · rintro ⟨a', ha, h⟩
      cases ha
      exact h

@[simp] theorem ok_bind (a : α) (f : α → Except ε β) : (Except.ok a >>= f) = f a := rfl

@[simp] theorem error_bind (e : ε) (f : α → Except ε β) : (Except.error e >>= f) = .error e := rfl

theorem bind_eq_error {x : Except ε α} {f : α → Except ε β} {e : ε} :
    (x >>= f) = .error e ↔ x = .error e ∨ ∃ a, x = .ok a ∧ f a = .error e := by
  cases x with
  | error e' => simp
  | ok a => simp

theorem pure_eq_ok {a b : α} : (pure a : Except ε α) = .ok b ↔ a = b :=
  ⟨fun h ↦ Except.ok.inj h, fun h ↦ congrArg Except.ok h⟩

theorem map_eq_ok {x : Except ε α} {f : α → β} {b : β} :
    x.map f = .ok b ↔ ∃ a, x = .ok a ∧ f a = b := by
  cases x with
  | error e =>
    constructor
    · intro h
      cases h
    · rintro ⟨a, ha, -⟩
      cases ha
  | ok a =>
    constructor
    · intro h
      exact ⟨a, rfl, Except.ok.inj h⟩
    · rintro ⟨a', ha, rfl⟩
      cases ha
      rfl

/-- Other faults leave the results as they are. -/
theorem mapError_eq_ok {x : Except ε α} {f : ε → ε'} {a : α} :
    x.mapError f = .ok a ↔ x = .ok a := by
  cases x with
  | error e => simp [Except.mapError]
  | ok b => simp [Except.mapError]

/-! ## Lists -/

/-- What is so of every item is so of every item with its place. -/
theorem forall_mem_zipIdx {P : α → Prop} {xs : List α} :
    (∀ e ∈ xs.zipIdx, P e.1) ↔ ∀ x ∈ xs, P x := by
  rw [← List.forall_mem_map (f := Prod.fst), List.zipIdx_map_fst]

/-- Going through a list comes to an end exactly when every item has a result. -/
theorem mapM_eq_ok {f : α → Except ε β} {xs : List α} {ys : List β} :
    xs.mapM f = .ok ys ↔ List.Forall₂ (fun x y ↦ f x = .ok y) xs ys := by
  induction xs generalizing ys with
  | nil =>
    rw [List.mapM_nil, pure_eq_ok, List.forall₂_nil_left_iff]
    exact eq_comm
  | cons x xs ih =>
    rw [List.mapM_cons, bind_eq_ok, List.forall₂_cons_left_iff]
    constructor
    · rintro ⟨y, hy, h⟩
      obtain ⟨rest, hrest, h⟩ := bind_eq_ok.mp h
      exact ⟨y, rest, hy, ih.mp hrest, (pure_eq_ok.mp h).symm⟩
    · rintro ⟨y, rest, hy, hrest, rfl⟩
      exact ⟨y, hy, bind_eq_ok.mpr ⟨rest, ih.mpr hrest, rfl⟩⟩

/-- Going through a list stops at the first item that has no result, with the fault of that item. -/
theorem mapM_eq_error {f : α → Except ε β} {xs : List α} {e : ε} :
    xs.mapM f = .error e ↔ ∃ before x after, xs = before ++ x :: after ∧
      (∀ y ∈ before, ∃ b, f y = .ok b) ∧ f x = .error e := by
  induction xs with
  | nil =>
    constructor
    · intro h
      cases h
    · rintro ⟨before, x, after, h, -⟩
      cases before <;> cases h
  | cons y xs ih =>
    rw [List.mapM_cons, bind_eq_error]
    constructor
    · rintro (hy | ⟨b, hb, h⟩)
      · exact ⟨[], y, xs, rfl, List.forall_mem_nil _, hy⟩
      · rcases bind_eq_error.mp h with hrest | ⟨bs, -, h⟩
        · obtain ⟨before, x, after, rfl, hbefore, hx⟩ := ih.mp hrest
          exact ⟨y :: before, x, after, rfl, List.forall_mem_cons.mpr ⟨⟨b, hb⟩, hbefore⟩, hx⟩
        · cases h
    · rintro ⟨before, x, after, hsplit, hbefore, hx⟩
      rcases before with - | ⟨z, before⟩
      · cases hsplit
        exact .inl hx
      · cases hsplit
        obtain ⟨⟨b, hb⟩, hbefore⟩ := List.forall_mem_cons.mp hbefore
        exact .inr ⟨b, hb, bind_eq_error.mpr (.inl (ih.mpr ⟨before, x, after, rfl, hbefore, hx⟩))⟩

theorem exists_source_of_mapM {f : α → Except ε β} {xs : List α} {ys : List β}
    (h : xs.mapM f = .ok ys) {y : β} (hy : y ∈ ys) : ∃ x ∈ xs, f x = .ok y := by
  have hall := mapM_eq_ok.mp h
  induction hall with
  | nil => cases hy
  | cons hxy hrest ih =>
    rcases List.mem_cons.mp hy with rfl | hy
    · exact ⟨_, List.mem_cons_self, hxy⟩
    · obtain ⟨x, hx, hfx⟩ := ih (mapM_eq_ok.mpr hrest) hy
      exact ⟨x, List.mem_cons_of_mem _ hx, hfx⟩

theorem exists_result_of_mapM {f : α → Except ε β} {xs : List α} {ys : List β}
    (h : xs.mapM f = .ok ys) {x : α} (hx : x ∈ xs) : ∃ y ∈ ys, f x = .ok y := by
  have hall := mapM_eq_ok.mp h
  induction hall with
  | nil => cases hx
  | cons hxy hrest ih =>
    rcases List.mem_cons.mp hx with rfl | hx
    · exact ⟨_, List.mem_cons_self, hxy⟩
    · obtain ⟨y, hy, hfy⟩ := ih (mapM_eq_ok.mpr hrest) hx
      exact ⟨y, List.mem_cons_of_mem _ hy, hfy⟩

/-- Going through a list comes to an end with results of a property when every item has one. -/
theorem exists_mapM {f : α → Except ε β} {P : β → Prop} {xs : List α}
    (h : ∀ x ∈ xs, ∃ y, f x = .ok y ∧ P y) : ∃ ys, xs.mapM f = .ok ys ∧ ∀ y ∈ ys, P y := by
  induction xs with
  | nil => exact ⟨[], rfl, List.forall_mem_nil P⟩
  | cons x xs ih =>
    obtain ⟨⟨y, hy, hPy⟩, hrest⟩ := List.forall_mem_cons.mp h
    obtain ⟨ys, hys, hPys⟩ := ih hrest
    refine ⟨y :: ys, ?_, List.forall_mem_cons.mpr ⟨hPy, hPys⟩⟩
    rw [List.mapM_cons, hy, ok_bind, hys]
    rfl

/-- Going through a list has a result exactly when every item has one. -/
theorem exists_mapM_iff {f : α → Except ε β} {xs : List α} :
    (∃ ys, xs.mapM f = .ok ys) ↔ ∀ x ∈ xs, ∃ y, f x = .ok y := by
  constructor
  · rintro ⟨ys, h⟩ x hx
    obtain ⟨y, -, hy⟩ := exists_result_of_mapM h hx
    exact ⟨y, hy⟩
  · intro h
    obtain ⟨ys, hys, -⟩ := exists_mapM (P := fun _ ↦ True) fun x hx ↦
      (h x hx).imp fun y hy ↦ ⟨hy, trivial⟩
    exact ⟨ys, hys⟩

/-- Going through two lists is the same where it is the same item by item. -/
theorem mapM_congr {f : α → Except ε γ} {g : β → Except ε γ} {xs : List α} {ys : List β}
    (h : List.Forall₂ (fun x y ↦ f x = g y) xs ys) : xs.mapM f = ys.mapM g := by
  induction h with
  | nil => rfl
  | cons hxy hrest ih => rw [List.mapM_cons, List.mapM_cons, hxy, ih]

theorem foldlM_congr {f : γ → α → Except ε γ} {g : γ → β → Except ε γ} {xs : List α} {ys : List β}
    (h : List.Forall₂ (fun x y ↦ ∀ c, f c x = g c y) xs ys) (c : γ) :
    xs.foldlM f c = ys.foldlM g c := by
  induction h generalizing c with
  | nil => rfl
  | cons hxy hrest ih =>
    rw [List.foldlM_cons, List.foldlM_cons, hxy]
    exact bind_congr ih

/-- A fold has a result exactly when every item meets a condition, if that is when a step has
one. -/
theorem exists_foldlM_iff {f : γ → α → Except ε γ} {P : α → Prop}
    (h : ∀ c x, (∃ d, f c x = .ok d) ↔ P x) {xs : List α} {c : γ} :
    (∃ d, xs.foldlM f c = .ok d) ↔ ∀ x ∈ xs, P x := by
  induction xs generalizing c with
  | nil => exact ⟨fun _ ↦ List.forall_mem_nil P, fun _ ↦ ⟨c, rfl⟩⟩
  | cons x xs ih =>
    simp only [List.foldlM_cons, bind_eq_ok, List.forall_mem_cons]
    constructor
    · rintro ⟨e, d, hd, he⟩
      exact ⟨(h c x).mp ⟨d, hd⟩, ih.mp ⟨e, he⟩⟩
    · rintro ⟨hx, hrest⟩
      obtain ⟨d, hd⟩ := (h c x).mpr hx
      obtain ⟨e, he⟩ := ih.mpr hrest
      exact ⟨e, d, hd, he⟩

/-! ## The first of several faults -/

/-- Holds of a computation that stops at the first of several faults, and has a result if there are
none. -/
def StopsAtFirst (x : Except ε α) (faults : List ε) : Prop :=
  match x with
  | .ok _ => faults = []
  | .error e => faults.head? = some e

namespace StopsAtFirst

theorem ok {a : α} : StopsAtFirst (.ok a : Except ε α) [] := rfl

theorem error {e : ε} : StopsAtFirst (.error e : Except ε α) [e] := rfl

theorem eq_error_iff {x : Except ε α} {faults : List ε} (h : StopsAtFirst x faults) {e : ε} :
    x = .error e ↔ faults.head? = some e := by
  cases x with
  | ok a =>
    cases h
    simp
  | error found => rw [show faults.head? = some found from h, Except.error.injEq, Option.some.injEq]

theorem exists_ok_iff {x : Except ε α} {faults : List ε} (h : StopsAtFirst x faults) :
    (∃ a, x = .ok a) ↔ faults = [] := by
  cases x with
  | ok a => exact iff_of_true ⟨a, rfl⟩ h
  | error e =>
    refine iff_of_false (nomatch ·) ?_
    rintro rfl
    cases h

/-- The faults of a second step come behind those of the first one. -/
theorem bind {x : Except ε α} {f : α → Except ε β} {faults others : List ε}
    (h : StopsAtFirst x faults) (hf : ∀ a, x = .ok a → StopsAtFirst (f a) others) :
    StopsAtFirst (x >>= f) (faults ++ others) := by
  cases x with
  | ok a =>
    cases h
    exact hf a rfl
  | error e => exact List.mem_head?_append_of_mem_head? h

/-- A second step that cannot fail adds no faults. -/
theorem bind_ok {x : Except ε α} {f : α → Except ε β} {faults : List ε}
    (h : StopsAtFirst x faults) (hf : ∀ a, x = .ok a → ∃ b, f a = .ok b) :
    StopsAtFirst (x >>= f) faults := by
  rw [← List.append_nil faults]
  refine h.bind fun a ha ↦ ?_
  obtain ⟨b, hb⟩ := hf a ha
  rw [hb]
  exact ok

/-- The faults of several items come one after the other. -/
theorem mapM {f : α → Except ε β} {faults : α → List ε} {xs : List α}
    (h : ∀ x ∈ xs, StopsAtFirst (f x) (faults x)) :
    StopsAtFirst (xs.mapM f) (xs.flatMap faults) := by
  induction xs with
  | nil => exact ok
  | cons x xs ih =>
    obtain ⟨hx, hrest⟩ := List.forall_mem_cons.mp h
    rw [List.mapM_cons, List.flatMap_cons]
    exact hx.bind fun y _ ↦ (ih hrest).bind_ok fun ys _ ↦ ⟨y :: ys, rfl⟩

theorem foldlM {f : γ → α → Except ε γ} {faults : α → List ε} {xs : List α}
    (h : ∀ c, ∀ x ∈ xs, StopsAtFirst (f c x) (faults x)) (c : γ) :
    StopsAtFirst (xs.foldlM f c) (xs.flatMap faults) := by
  induction xs generalizing c with
  | nil => exact ok
  | cons x xs ih =>
    rw [List.foldlM_cons, List.flatMap_cons]
    exact (h c x List.mem_cons_self).bind fun d _ ↦
      ih (fun e y hy ↦ h e y (List.mem_cons_of_mem x hy)) d

end StopsAtFirst

end LineMachine
