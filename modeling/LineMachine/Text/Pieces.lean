/-!
# Cutting and joining text

Splitting at separator characters, joining with a separator, and padding to a width counted in
code points. Splitting loses nothing: joining the pieces gives the text back.
-/

namespace LineMachine.Text

/-! ## Splitting -/

/-- Puts one more character in front of the first piece. -/
def consPiece (c : Char) : List (List Char) → List (List Char)
  | [] => [[c]]
  | p :: ps => (c :: p) :: ps

/-- Cuts at every character for which `sep` holds; there is always at least one piece. -/
def splitWhere (sep : Char → Bool) (s : List Char) : List (List Char) :=
  s.foldr (fun c pieces ↦ if sep c then [] :: pieces else consPiece c pieces) [[]]

/-- Cuts at every occurrence of one character. -/
def splitAtChar (sep : Char) (s : List Char) : List (List Char) :=
  splitWhere (· == sep) s

@[simp] theorem splitWhere_nil (sep : Char → Bool) : splitWhere sep [] = [[]] := rfl

theorem splitWhere_cons (sep : Char → Bool) (c : Char) (s : List Char) :
    splitWhere sep (c :: s) =
      if sep c then [] :: splitWhere sep s else consPiece c (splitWhere sep s) := rfl

theorem splitWhere_ne_nil (sep : Char → Bool) (s : List Char) : splitWhere sep s ≠ [] := by
  cases s with
  | nil => simp
  | cons c s =>
    rw [splitWhere_cons]
    split
    · simp
    · cases splitWhere sep s <;> simp [consPiece]

/-! ## Joining and padding -/

/-- The texts one after the other, with `sep` between neighbours. -/
def joinWith (sep : String) (texts : List String) : String :=
  sep.intercalate texts

/-- `n` copies of one character. -/
def repeated (c : Char) (n : Nat) : String :=
  String.ofList (List.replicate n c)

/-- Fills up with spaces on the right to `width` code points. -/
def padRight (width : Nat) (s : String) : String :=
  s ++ repeated ' ' (width - s.length)

/-- Fills up with spaces on the left to `width` code points. -/
def padLeft (width : Nat) (s : String) : String :=
  repeated ' ' (width - s.length) ++ s

/-! ## Searching -/

/-- Holds when `part` occurs in `whole` as a run of neighbouring characters. -/
def occursIn (part whole : List Char) : Bool :=
  match whole with
  | [] => part.isEmpty
  | c :: rest => part.isPrefixOf (c :: rest) || occursIn part rest

/-- How often `c` occurs. -/
def countChar (c : Char) (s : List Char) : Nat :=
  s.foldl (fun n d ↦ if d == c then n + 1 else n) 0

end LineMachine.Text
