import LineMachine.Table

/-!
# Values

The one dynamic type of the library: what a JSON document holds, what a template leaves open, and
what a variable of a running machine is set to. Objects are tables, so their fields are ordered.
-/

namespace LineMachine

/-- A document, or a part of one. -/
inductive Value where
  | null
  | bool (b : Bool)
  | int (n : Int)
  | float (d : Double)
  | str (s : String)
  | list (items : List Value)
  | object (fields : List (Key × Value))
  deriving Repr, Inhabited

namespace Value

/-! ## Equality -/

mutual

/-- Structural equality. -/
def equal : Value → Value → Bool
  | .null, .null => true
  | .bool a, .bool b => a == b
  | .int a, .int b => a == b
  | .float a, .float b => a == b
  | .str a, .str b => a == b
  | .list a, .list b => equalItems a b
  | .object a, .object b => equalFields a b
  | _, _ => false

/-- Structural equality of lists of values. -/
def equalItems : List Value → List Value → Bool
  | [], [] => true
  | a :: as, b :: bs => equal a b && equalItems as bs
  | _, _ => false

/-- Structural equality of fields. -/
def equalFields : List (Key × Value) → List (Key × Value) → Bool
  | [], [] => true
  | (j, a) :: as, (k, b) :: bs => j == k && equal a b && equalFields as bs
  | _, _ => false

end

mutual

theorem equal_iff : ∀ a b : Value, equal a b = true ↔ a = b
  | .null, b => by cases b <;> simp [equal]
  | .bool _, b => by cases b <;> simp [equal]
  | .int _, b => by cases b <;> simp [equal]
  | .float _, b => by cases b <;> simp [equal]
  | .str _, b => by cases b <;> simp [equal]
  | .list a, b => by cases b <;> simp [equal, equalItems_iff a]
  | .object a, b => by cases b <;> simp [equal, equalFields_iff a]

theorem equalItems_iff : ∀ as bs : List Value, equalItems as bs = true ↔ as = bs
  | [], bs => by cases bs <;> simp [equalItems]
  | a :: as, bs => by cases bs <;> simp [equalItems, equal_iff a, equalItems_iff as]

theorem equalFields_iff : ∀ as bs : List (Key × Value), equalFields as bs = true ↔ as = bs
  | [], bs => by cases bs <;> simp [equalFields]
  | (j, a) :: as, bs => by
    cases bs with
    | nil => simp [equalFields]
    | cons b bs =>
      obtain ⟨k, b⟩ := b
      simp [equalFields, equal_iff a, equalFields_iff as, and_assoc]

end

instance : DecidableEq Value := fun a b ↦ decidable_of_iff _ (equal_iff a b)

/-! ## Kinds -/

/-- The name of a value's kind, as messages call it. -/
def kindName : Value → String
  | .null => "NoneType"
  | .bool _ => "bool"
  | .int _ => "int"
  | .float _ => "float"
  | .str _ => "str"
  | .list _ => "list"
  | .object _ => "dict"

/-- Holds of every value but null, false, zero and the empty text, list and object. -/
def truthy : Value → Bool
  | .null => false
  | .bool b => b
  | .int n => n != 0
  | .float d => !d.isZero
  | .str s => s != ""
  | .list items => !items.isEmpty
  | .object fields => !fields.isEmpty

/-- The value itself if it is truthy, and otherwise a default. -/
def orElse (v default : Value) : Value :=
  if v.truthy then v else default

/-- The value itself, if it is truthy. -/
def given? (v : Value) : Option Value :=
  if v.truthy then some v else none

/-! ## Keys and fields -/

/-- The value that a key stands for. -/
def ofKey : Key → Value
  | .null => .null
  | .bool b => .bool b
  | .int n => .int n
  | .float d => .float d
  | .str s => .str s

/-- A scalar as a key; lists and objects are none. -/
def key? : Value → Option Key
  | .null => some .null
  | .bool b => some (.bool b)
  | .int n => some (.int n)
  | .float d => some (.float d)
  | .str s => some (.str s)
  | .list _ => none
  | .object _ => none

/-- Whether two values are scalars and the same as keys. -/
def sameKey (a b : Value) : Bool :=
  match a.key?, b.key? with
  | some j, some k => j.same k
  | _, _ => false

/-- The field of an object under a name; null if there is none. -/
def field (fields : Table Value) (name : String) : Value :=
  (Table.find? fields (.str name)).getD .null

/-- What a value consists of when it is gone through: the items of a list, the characters of a
text, the keys of an object. The other scalars cannot be gone through. -/
def elements? : Value → Option (List Value)
  | .list items => some items
  | .str s => some (s.toList.map fun c ↦ .str (String.ofList [c]))
  | .object fields => some (fields.map fun e ↦ ofKey e.1)
  | _ => none

@[simp] theorem key?_ofKey (k : Key) : (ofKey k).key? = some k := by
  cases k <;> rfl

@[simp] theorem key?_str (s : String) : (Value.str s).key? = some (.str s) := rfl

theorem truthy_orElse {v default : Value} (h : default.truthy = true) :
    (v.orElse default).truthy = true := by
  unfold orElse
  split <;> assumption

end Value

end LineMachine
