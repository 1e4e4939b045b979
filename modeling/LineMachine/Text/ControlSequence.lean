import LineMachine.Text.Pieces

/-!
# Control sequences

Sequences that steer a terminal: an escape character and an opening bracket, any number of
parameter characters, any number of intermediate characters, and a final character. Text that does
not go to a terminal is written without them. What only begins like a sequence stays.
-/

namespace LineMachine.Text

namespace ControlSequence

/-- The escape character. -/
def escapeChar : Char := Char.ofNat 27

/-- A parameter character: a digit, or one of the signs next to the digits. -/
def isParameter (c : Char) : Bool := '0' ≤ c && c ≤ '?'

/-- An intermediate character: a blank, or one of the signs next to it. -/
def isIntermediate (c : Char) : Bool := ' ' ≤ c && c ≤ '/'

/-- A character that ends a sequence. -/
def isFinal (c : Char) : Bool := '@' ≤ c && c ≤ '~'

/-- The length of the sequence that a text starts with. -/
def length? : List Char → Option Nat
  | c :: '[' :: rest =>
    let parameters := rest.takeWhile isParameter
    let rest := rest.dropWhile isParameter
    let intermediates := rest.takeWhile isIntermediate
    match rest.dropWhile isIntermediate with
    | last :: _ =>
      if c == escapeChar && isFinal last then
        some (parameters.length + intermediates.length + 3)
      else none
    | [] => none
  | _ => none

/-- Leaves out the next `skip` characters, and every sequence behind them. -/
def remove : Nat → List Char → List Char
  | _, [] => []
  | skip + 1, _ :: rest => remove skip rest
  | 0, c :: rest =>
    match length? (c :: rest) with
    | some n => remove (n - 1) rest
    | none => c :: remove 0 rest

/-- A text without an escape character keeps all its characters. -/
theorem remove_of_not_mem (s : List Char) (h : escapeChar ∉ s) : remove 0 s = s := by
  induction s with
  | nil => rfl
  | cons c rest ih =>
    have hc : c ≠ escapeChar := fun e ↦ h (by simp [e])
    have hn : length? (c :: rest) = none := by
      unfold length?
      split
      · rename_i d tail heq
        obtain ⟨rfl, _⟩ := List.cons.inj heq
        dsimp only
        split <;> simp [hc]
      · rfl
    rw [remove, hn, ih fun m ↦ h (List.mem_cons_of_mem _ m)]

end ControlSequence

/-- A text without control sequences. -/
def withoutControlSequences (s : String) : String :=
  String.ofList (ControlSequence.remove 0 s.toList)

end LineMachine.Text
