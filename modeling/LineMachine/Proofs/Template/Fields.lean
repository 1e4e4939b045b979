import LineMachine.Proofs.Except
import LineMachine.Template.Validation

/-!
# Fields of documents

How reading and validation take a document apart. Both ask an object for its fields and go through
what a field consists of; validation treats what is no object as one without fields, while reading
refuses it. Where a field has content the two agree on it (`require_of_truthy`), and an object is
found among the parts of a field only if that is a list (`mem_items`).
-/

namespace LineMachine

/-! ## Fields that may be absent -/

/-- Reads a field if it has content. -/
def readGiven {α : Type} (read : Value → Except Fault α) (v : Value) : Except Fault (Option α) :=
  match v.given? with
  | some found => some <$> read found
  | none => .ok none

/-- A field that can be read where it has content can be read, content or not. -/
theorem exists_readGiven {α : Type} {read : Value → Except Fault α} {P : α → Prop} {v : Value}
    (h : v.truthy = true → ∃ a, read v = .ok a ∧ P a) :
    ∃ found, readGiven read v = .ok found ∧ ∀ a, found = some a → P a := by
  rw [readGiven, Value.given?]
  by_cases htruthy : v.truthy = true
  · obtain ⟨a, ha, hP⟩ := h htruthy
    rw [if_pos htruthy]
    refine ⟨some a, ?_, ?_⟩
    · exact congrArg (Functor.map some) ha
    · intro b hb
      cases hb
      exact hP
  · rw [if_neg htruthy]
    refine ⟨none, rfl, ?_⟩
    intro b hb
    cases hb

namespace Validation

/-! ## Fields that are there -/

theorem exists_fields_of_isObject {v : Value} (h : isObject v = true) :
    ∃ fields, v = .object fields := by
  cases v with
  | object fields => exact ⟨fields, rfl⟩
  | null | bool | int | float | str | list => cases h

theorem exists_fields_of_truthy {doc : Value} {name : String}
    (h : (fieldOrNull doc name).truthy = true) : ∃ fields, doc = .object fields := by
  cases doc with
  | object fields => exact ⟨fields, rfl⟩
  | null | bool | int | float | str | list => cases h

/-- A field with content is there. -/
theorem require_of_truthy {doc : Value} {name : String}
    (h : (fieldOrNull doc name).truthy = true) (part : String) :
    doc.require name part = .ok (fieldOrNull doc name) := by
  obtain ⟨fields, rfl⟩ := exists_fields_of_truthy h
  cases hfound : Table.find? fields (.str name) with
  | none =>
    rw [fieldOrNull, Value.field, hfound] at h
    cases h
  | some v => simp only [Value.require, fieldOrNull, Value.field, hfound, Option.getD_some]

theorem get_of_isObject {doc : Value} (h : isObject doc = true) (name : String) :
    doc.get name = .ok (fieldOrNull doc name) := by
  obtain ⟨fields, rfl⟩ := exists_fields_of_isObject h
  rfl

theorem isObject_of_truthy {doc : Value} {name : String}
    (h : (fieldOrNull doc name).truthy = true) : isObject doc = true := by
  obtain ⟨fields, rfl⟩ := exists_fields_of_truthy h
  rfl

/-! ## Parts of a field -/

/-- The items of a list; none of anything else. -/
def items (v : Value) : List Value :=
  match v with
  | .list parts => parts
  | _ => []

theorem elements_eq_ok {v : Value} {parts : List Value} :
    v.elements = .ok parts ↔ v.elements? = some parts := by
  rw [Value.elements]
  cases v.elements? with
  | none => simp only [reduceCtorEq]
  | some found => simp only [Except.ok.injEq, Option.some.injEq]

/-- An object is found in lists alone. -/
theorem mem_items_of_elements {v part : Value} {parts : List Value} (h : v.elements = .ok parts)
    (hpart : part ∈ parts) (hobject : isObject part = true) : part ∈ items v := by
  rw [elements_eq_ok] at h
  cases v with
  | list found =>
    cases h
    exact hpart
  | str s =>
    cases h
    obtain ⟨c, -, rfl⟩ := List.mem_map.mp hpart
    cases hobject
  | object fields =>
    cases h
    obtain ⟨e, -, rfl⟩ := List.mem_map.mp hpart
    cases hkey : e.1 <;> rw [hkey] at hobject <;> cases hobject
  | null | bool | int | float => cases h

theorem mem_items {v part : Value} {parts : List Value} (h : v.elementsOrNone = .ok parts)
    (hpart : part ∈ parts) (hobject : isObject part = true) : part ∈ items v := by
  rw [Value.elementsOrNone] at h
  by_cases htruthy : v.truthy = true
  · rw [if_pos htruthy] at h
    exact mem_items_of_elements h hpart hobject
  · rw [if_neg htruthy] at h
    cases h
    cases hpart

theorem elementsOrNone_of_truthy {v : Value} (h : v.truthy = true) :
    v.elementsOrNone = v.elements := by
  rw [Value.elementsOrNone, if_pos h]

/-- What has content consists of something. -/
theorem ne_nil_of_elements {v : Value} {parts : List Value} (htruthy : v.truthy = true)
    (h : v.elements = .ok parts) : parts ≠ [] := by
  rintro rfl
  rw [elements_eq_ok] at h
  cases v with
  | list items =>
    cases h
    cases htruthy
  | str s =>
    have hempty : s = "" := String.toList_eq_nil_iff.mp (List.map_eq_nil_iff.mp (Option.some.inj h))
    rw [hempty] at htruthy
    cases htruthy
  | object fields =>
    have hempty : fields = [] := List.map_eq_nil_iff.mp (Option.some.inj h)
    rw [hempty] at htruthy
    cases htruthy
  | null | bool | int | float => cases h

/-! ## No problems -/

theorem problemIf_eq_nil {condition : Bool} {problem : Problem} :
    problemIf condition problem = [] ↔ condition = false := by
  cases condition <;> simp [problemIf]

/-- Where several parts have no problem, none of them has one. -/
theorem eq_nil_of_collect {α : Type} {check : α → Except Fault (List Problem)} {parts : List α}
    (h : collect check parts = .ok []) : ∀ part ∈ parts, check part = .ok [] := by
  obtain ⟨found, hfound, hflat⟩ := bind_eq_ok.mp h
  intro part hpart
  obtain ⟨problems, hmem, hproblems⟩ := exists_result_of_mapM hfound hpart
  rw [hproblems, List.flatten_eq_nil_iff.mp (pure_eq_ok.mp hflat) problems hmem]

end Validation

end LineMachine
