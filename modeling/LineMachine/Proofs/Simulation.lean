import LineMachine.Proofs.Except

/-!
# Computations side by side

Two computations go *side by side* along a relation when both stop at the same fault or both come
to an end, with results that the relation connects. Two loops go side by side when one turn of
them does (`SideBySide.foldlM`), and a loop commutes with a change of its state when one turn of it
does (`foldlM_hom`).
-/

namespace LineMachine

variable {ε α β γ δ : Type}

/-- Two computations that stop at the same fault or have related results. -/
inductive SideBySide (R : α → β → Prop) : Except ε α → Except ε β → Prop where
  /-- Both stop at the same fault. -/
  | error (e : ε) : SideBySide R (.error e) (.error e)
  /-- Both have results, which are related. -/
  | ok {a : α} {b : β} (h : R a b) : SideBySide R (.ok a) (.ok b)

namespace SideBySide

variable {R : α → β → Prop} {x : Except ε α} {y : Except ε β}

theorem bind {S : γ → δ → Prop} (h : SideBySide R x y) {f : α → Except ε γ} {g : β → Except ε δ}
    (hnext : ∀ a b, R a b → SideBySide S (f a) (g b)) : SideBySide S (x >>= f) (y >>= g) := by
  cases h with
  | error e => exact .error e
  | ok hab => exact hnext _ _ hab

theorem map {S : γ → δ → Prop} (h : SideBySide R x y) {f : α → γ} {g : β → δ}
    (hmap : ∀ a b, R a b → S (f a) (g b)) : SideBySide S (x.map f) (y.map g) := by
  cases h with
  | error e => exact .error e
  | ok hab => exact .ok (hmap _ _ hab)

theorem mono {S : α → β → Prop} (h : SideBySide R x y) (himp : ∀ a b, R a b → S a b) :
    SideBySide S x y := by
  cases h with
  | error e => exact .error e
  | ok hab => exact .ok (himp _ _ hab)

/-- A computation goes side by side with itself, where only what comes out of it is changed. -/
theorem changed (x : Except ε α) (g : α → β) :
    SideBySide (fun a b ↦ x = .ok a ∧ b = g a) x (x.map g) := by
  cases x with
  | error e => exact .error e
  | ok a => exact .ok ⟨rfl, rfl⟩

/-- Where the relation is a function, one computation determines the other. -/
theorem eq_map {g : α → β} (h : SideBySide (fun a b ↦ b = g a) x y) : y = x.map g := by
  cases h with
  | error e => rfl
  | ok hab => exact congrArg Except.ok hab

/-- Going through two lists of related items goes side by side if one turn does. -/
theorem foldlM {σ τ : Type} {S : σ → τ → Prop} {f : α → σ → Except ε α} {g : β → τ → Except ε β}
    (hstep : ∀ a b s t, R a b → S s t → SideBySide R (f a s) (g b t)) {xs : List σ} {ys : List τ}
    (hitems : List.Forall₂ S xs ys) {a : α} {b : β} (hab : R a b) :
    SideBySide R (xs.foldlM f a) (ys.foldlM g b) := by
  induction hitems generalizing a b with
  | nil => exact .ok hab
  | cons hfirst hrest ih =>
    rw [List.foldlM_cons, List.foldlM_cons]
    exact (hstep a b _ _ hab hfirst).bind fun c d hcd ↦ ih hcd

/-- The results for two lists of related items are related one by one. -/
theorem mapM {σ τ : Type} {f : σ → Except ε α} {g : τ → Except ε β}
    {xs : List σ} {ys : List τ} (h : List.Forall₂ (fun s t ↦ SideBySide R (f s) (g t)) xs ys) :
    SideBySide (List.Forall₂ R) (xs.mapM f) (ys.mapM g) := by
  induction h with
  | nil => exact .ok .nil
  | cons hfirst hrest ih =>
    rw [List.mapM_cons, List.mapM_cons]
    exact hfirst.bind fun a b hab ↦ ih.bind fun as bs habs ↦ .ok (.cons hab habs)

end SideBySide

/-- A loop commutes with a change of its state if one turn of it does. The items may be changed
along with the state. -/
theorem foldlM_hom {σ τ : Type} {φ : α → β} {f : α → σ → Except ε α} {g : β → τ → Except ε β}
    {xs : List σ} {ys : List τ}
    (h : List.Forall₂ (fun s t ↦ ∀ a, g (φ a) t = (f a s).map φ) xs ys) (a : α) :
    ys.foldlM g (φ a) = (xs.foldlM f a).map φ := by
  induction h generalizing a with
  | nil => rfl
  | cons hfirst hrest ih =>
    rw [List.foldlM_cons, List.foldlM_cons, hfirst]
    cases f a _ with
    | error e => rfl
    | ok b => exact ih b

end LineMachine
