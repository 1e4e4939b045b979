import LineMachine.Decimal.Double

/-!
# Tables

A table maps keys to values and keeps the order in which keys were first put in. Putting in a key
again replaces its value and leaves the key where it was; a key that is removed and put in again
moves to the end.

Keys are scalars. Two keys are the same when their normal forms agree: a truth value counts as 0
or 1, and a whole number is one key however it is written, so `1`, `1.0` and `true` are the same.
-/

namespace LineMachine

/-! ## Keys -/

/-- What an entry of a table is found by. -/
inductive Key where
  | null
  | bool (b : Bool)
  | int (n : Int)
  | float (d : Double)
  | str (s : String)
  deriving DecidableEq, Repr

namespace Key

/-- The representative of all keys that are the same as a given one. -/
def normal : Key → Key
  | .bool b => .int (if b then 1 else 0)
  | .float d => match d.toInt? with
    | some n => .int n
    | none => .float d
  | k => k

/-- Whether two keys find the same entry. -/
def same (a b : Key) : Bool :=
  a.normal == b.normal

@[simp] theorem normal_str (s : String) : normal (.str s) = .str s := rfl

@[simp] theorem same_self (k : Key) : same k k = true := by
  simp [same]

theorem same_comm (a b : Key) : same a b = same b a := by
  simp [same, Bool.beq_comm]

theorem same_trans {a b c : Key} (hab : same a b = true) (hbc : same b c = true) :
    same a c = true := by
  simp only [same, beq_iff_eq] at *
  exact hab.trans hbc

@[simp] theorem same_str (s t : String) : same (.str s) (.str t) = (s == t) := by
  by_cases h : s = t <;> simp [same, h, beq_eq_false_iff_ne.mpr]

end Key

/-! ## Tables -/

/-- Entries in the order in which their keys were first put in. -/
abbrev Table (α : Type) := List (Key × α)

namespace Table

variable {α β : Type}

/-- The keys, first one first. -/
def keys (t : Table α) : List Key :=
  t.map (·.1)

/-- The values, in the order of the keys. -/
def values (t : Table α) : List α :=
  t.map (·.2)

/-- The value under a key. -/
def find? (t : Table α) (k : Key) : Option α :=
  match t with
  | [] => none
  | (k', v) :: rest => if k.same k' then some v else find? rest k

/-- Whether the table has a key. -/
def has (t : Table α) (k : Key) : Bool :=
  t.any fun e ↦ k.same e.1

/-- Puts a value under a key. -/
def put (t : Table α) (k : Key) (v : α) : Table α :=
  match t with
  | [] => [(k, v)]
  | (k', v') :: rest => if k.same k' then (k', v) :: rest else (k', v') :: put rest k v

/-- Removes a key. -/
def remove (t : Table α) (k : Key) : Table α :=
  t.filter fun e ↦ !k.same e.1

/-- The table that a list of pairs leaves, put in one after the other. -/
def ofList (pairs : List (Key × α)) : Table α :=
  pairs.foldl (fun t e ↦ put t e.1 e.2) []

/-! ### Equations -/

@[simp] theorem find?_nil (k : Key) : find? ([] : Table α) k = none := rfl

@[simp] theorem put_nil (k : Key) (v : α) : put [] k v = [(k, v)] := rfl

theorem find?_cons (e : Key × α) (t : Table α) (k : Key) :
    find? (e :: t) k = if k.same e.1 then some e.2 else find? t k := rfl

theorem put_cons (e : Key × α) (t : Table α) (k : Key) (v : α) :
    put (e :: t) k v = if k.same e.1 then (e.1, v) :: t else e :: put t k v := rfl

/-- What was put under a key is found there, and the other keys are not touched. -/
theorem find?_put (t : Table α) (k j : Key) (v : α) :
    find? (put t k v) j = if j.same k then some v else find? t j := by
  induction t with
  | nil => simp [find?_cons]
  | cons e t ih =>
    rw [put_cons]
    by_cases hk : k.same e.1 = true
    · by_cases hj : j.same k = true
      · have hje : j.same e.1 = true := Key.same_trans hj hk
        simp [hk, hj, hje, find?_cons]
      · have hje : ¬ j.same e.1 = true := fun h ↦
          hj (Key.same_trans h (by rw [Key.same_comm]; exact hk))
        simp [hk, hj, hje, find?_cons]
    · by_cases hje : j.same e.1 = true
      · have hj : ¬ j.same k = true := fun h ↦
          hk (Key.same_trans (by rw [Key.same_comm]; exact h) hje)
        simp [hk, hj, hje, find?_cons]
      · simp [hk, hje, find?_cons, ih]

/-- A removed key is not found, and the other keys are not touched. -/
theorem find?_remove (t : Table α) (k j : Key) :
    find? (remove t k) j = if j.same k then none else find? t j := by
  induction t with
  | nil => simp [remove]
  | cons e t ih =>
    simp only [remove, List.filter_cons] at *
    by_cases hk : k.same e.1 = true
    · by_cases hj : j.same k = true
      · simp [hk, hj, ih]
      · have hje : ¬ j.same e.1 = true := fun h ↦
          hj (Key.same_trans h (by rw [Key.same_comm]; exact hk))
        simp [hk, hj, hje, ih, find?_cons]
    · by_cases hje : j.same e.1 = true
      · have hj : ¬ j.same k = true := fun h ↦
          hk (Key.same_trans (by rw [Key.same_comm]; exact h) hje)
        simp [hk, hj, hje, find?_cons]
      · simp [hk, hje, find?_cons, ih]

theorem has_iff_find? (t : Table α) (k : Key) : t.has k = (find? t k).isSome := by
  induction t with
  | nil => rfl
  | cons e t ih =>
    simp only [has, List.any_cons, find?_cons] at *
    by_cases h : k.same e.1 = true <;> simp [h, ih]

/-- A key that is there keeps its place; a new one goes to the end. -/
theorem keys_put (t : Table α) (k : Key) (v : α) :
    keys (put t k v) = if t.has k then keys t else keys t ++ [k] := by
  induction t with
  | nil => rfl
  | cons e t ih =>
    simp only [keys, has, List.any_cons, put_cons] at *
    by_cases h : k.same e.1 = true
    · simp [h]
    · by_cases h' : (t.any fun e ↦ k.same e.1) = true <;> simp [h, h', ih]

end Table

end LineMachine
