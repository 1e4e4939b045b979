import LineMachine.Regex.Matcher

/-!
# Patterns for whole lines

A greedy repetition of a test goes as far as the characters pass. If all of them do, it goes to the
end of the line, and what stands behind it in the pattern is tried there first
(`repeatChar_of_forall`). So the pattern of a starter template, which repeats the test that a line
feed alone fails from the start of the line to its end, matches every line without a line feed, and
its group captures the whole line (`captures?_wholeLine`).
-/

namespace LineMachine.Regex

/-! ## Greedy repetition -/

theorem firstDown_of_eq_some {α : Type} {f : Nat → Option α} {n : Nat} {a : α} (h : f n = some a) :
    firstDown f n = some a := by
  cases n with
  | zero => exact h
  | succ n => rw [firstDown, h]

/-- If all characters pass, only the limit and the end of the line stop a test. -/
theorem reach_of_forall {chars : Array Char} {test : CharTest}
    (h : ∀ c ∈ chars, test.accepts c = true) (limit pos : Nat) :
    reach chars test true limit pos = min limit (chars.size - pos) := by
  induction limit generalizing pos with
  | zero => rw [reach, Nat.zero_min]
  | succ limit ih =>
    rw [reach, charAt?, if_pos rfl]
    by_cases hpos : pos < chars.size
    · simp only [Array.getElem?_eq_getElem hpos, h _ (Array.getElem_mem hpos), if_true, ih, advance]
      omega
    · simp only [Array.getElem?_eq_none (Nat.le_of_not_lt hpos)]
      omega

/-- If all characters pass, a greedy repetition goes to the end of the line. -/
theorem repeatChar_of_forall {chars : Array Char} {test : CharTest}
    (h : ∀ c ∈ chars, test.accepts c = true) {k : Continuation} {s found : Spot}
    (hpos : s.pos ≤ chars.size) (hk : k { s with pos := chars.size } = some found) :
    repeatChar chars test 0 none true true k s = some found := by
  have hreach : reach chars test true (min chars.size chars.size) s.pos = chars.size - s.pos := by
    rw [reach_of_forall h, Nat.min_self]
    exact Nat.min_eq_right (Nat.sub_le _ _)
  have hend : advance true s.pos (0 + (chars.size - s.pos)) = chars.size := by
    rw [advance, if_pos rfl, Nat.zero_add, Nat.add_sub_cancel' hpos]
  rw [repeatChar, Option.getD_none, hreach]
  refine firstDown_of_eq_some ?_
  rw [Nat.sub_zero, hend, hk]

/-! ## Whole lines -/

/-- A group named "line" over any characters but line feeds, from the start of a line to its end. -/
def wholeLine : Pattern where
  node := .seq (.anchor .textStart)
    (.seq (.group 1 (.loop (.char .notNewline) 0 none true)) (.anchor .finalEnd))
  groupCount := 1
  names := [("line", 1)]

theorem read?_wholeLine : Pattern.read? "^(?<line>.*)$" {} = .ok wholeLine := rfl

theorem matchAt_wholeLine {chars : Array Char} (h : '\n' ∉ chars) :
    wholeLine.matchAt chars 0 = some ⟨chars.size, #[none, some ⟨0, chars.size⟩]⟩ := by
  have hpass : ∀ c ∈ chars, CharTest.notNewline.accepts c = true := by
    intro c hc
    rw [CharTest.accepts_notNewline, bne_iff_ne]
    intro hcode
    have hnewline : c = '\n' := Char.toNat_inj.mp hcode
    exact h (hnewline ▸ hc)
  have hrepeat : wholeLine.matchAt chars 0 =
      repeatChar chars .notNewline 0 none true true
        (fun after ↦ Node.run chars wholeLine.names (.anchor .finalEnd) true some
          (after.capture 1 0)) ⟨0, #[none, none]⟩ := rfl
  rw [hrepeat]
  refine repeatChar_of_forall hpass (Nat.zero_le _) ?_
  simp [Node.run, Anchor.holds, Spot.capture]

/-- **The group of the pattern captures every line.** -/
theorem captures?_wholeLine {line : String} (h : '\n' ∉ line.toList) :
    wholeLine.captures? line = some [("line", some line)] := by
  have hchars : '\n' ∉ line.toList.toArray := by simpa using h
  have hmatch := matchAt_wholeLine hchars
  have hsearch : wholeLine.search line.toList.toArray =
      some ⟨line.toList.toArray.size, #[none, some ⟨0, line.toList.toArray.size⟩]⟩ := by
    rw [Pattern.search, firstUp, hmatch]
  rw [Pattern.captures?, hsearch]
  simp [Pattern.namedCaptures, wholeLine, Spot.capture?, Pattern.spanText]

end LineMachine.Regex
