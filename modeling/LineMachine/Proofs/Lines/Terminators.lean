import LineMachine.Proofs.Lines

/-!
# Lines and their terminators

A text is made up of lines, each behind its own terminator: a line feed, or a carriage return and a
line feed. What stands behind the last terminator is one more line, if there is anything
(`Text.Lined`). Nothing is cut in saying so, and every text is made up of lines in exactly one way,
which is the one that cutting finds (`charLines_eq_iff`): a carriage return directly in front of a
line feed always belongs to the terminator, and no other one ever does.

So whatever is known of how a text is made up can be read off its lines. Where a carriage return
stands in front of line feeds only, reading the text from a file shortens every terminator to a line
feed and leaves the lines as they are (`splitLines_lined`).
-/

namespace LineMachine.Text

/-! ## Texts made up of lines -/

/-- What ends a line. -/
inductive Terminator where
  /-- A line feed. -/
  | feed
  /-- A carriage return and a line feed. -/
  | returnFeed
  deriving DecidableEq

/-- The characters of a terminator. -/
def Terminator.text : Terminator → List Char
  | .feed => ['\n']
  | .returnFeed => ['\r', '\n']

/-- Holds of a terminator that can stand behind a line: a line feed cannot do so where the line ends
in a carriage return, which would count as its own. -/
def Terminator.Fits (line : List Char) : Terminator → Prop
  | .feed => line.getLast? ≠ some '\r'
  | .returnFeed => True

/-- Holds of lines that make up a text. Each one but the last has a terminator, and so has the last
one if it is empty; otherwise it may go without. -/
inductive Lined : List (List Char) → List Char → Prop
  | nil : Lined [] []
  | last {line : List Char} (hne : line ≠ []) (hline : '\n' ∉ line) : Lined [line] line
  | cons {line rest : List Char} {lines : List (List Char)} (hline : '\n' ∉ line)
      (terminator : Terminator) (hfits : terminator.Fits line) (hrest : Lined lines rest) :
      Lined (line :: lines) (line ++ terminator.text ++ rest)

/-- No line has a line feed in it. -/
theorem Lined.newline_not_mem {lines : List (List Char)} {s : List Char} (h : Lined lines s) :
    ∀ line ∈ lines, '\n' ∉ line := by
  induction h with
  | nil => exact List.forall_mem_nil _
  | last hne hline => exact List.forall_mem_singleton.mpr hline
  | cons hline terminator hfits hrest ih => exact List.forall_mem_cons.mpr ⟨hline, ih⟩

/-! ## The lines that cutting finds -/

theorem dropReturn_append_return (line : List Char) : dropReturn (line ++ ['\r']) = line := by
  rw [dropReturn, List.getLast?_concat, if_pos rfl, List.dropLast_concat]

/-- Behind a fitting terminator a new line begins. -/
theorem charLines_append_terminator {line : List Char} (hline : '\n' ∉ line)
    {terminator : Terminator} (hfits : terminator.Fits line) (rest : List Char) :
    charLines (line ++ terminator.text ++ rest) = line :: charLines rest := by
  cases terminator with
  | feed =>
    rw [Terminator.text, List.append_assoc, List.singleton_append, charLines_append_newline,
      splitAtChar_of_not_mem hline, List.map_singleton, dropReturn, if_neg hfits,
      List.singleton_append]
  | returnFeed =>
    have hreturn : '\n' ∉ line ++ ['\r'] := by simpa using hline
    have htext : line ++ Terminator.returnFeed.text ++ rest = line ++ ['\r'] ++ '\n' :: rest := by
      simp [Terminator.text]
    rw [htext, charLines_append_newline, splitAtChar_of_not_mem hreturn, List.map_singleton,
      dropReturn_append_return, List.singleton_append]

/-- Cutting a text that is made up of lines gives these lines. -/
theorem Lined.charLines_eq {lines : List (List Char)} {s : List Char} (h : Lined lines s) :
    charLines s = lines := by
  induction h with
  | nil => rfl
  | @last line hne hline =>
    have hempty : line.isEmpty = false := List.isEmpty_eq_false_iff.mpr hne
    rw [charLines, splitAtChar_of_not_mem hline, linesOfSegments, hempty]
    rfl
  | cons hline terminator hfits hrest ih => rw [charLines_append_terminator hline hfits, ih]

/-- What stands in front of a line feed is a line and the rest of a fitting terminator. -/
theorem exists_terminator (segment : List Char) :
    ∃ line, ∃ terminator : Terminator, line ⊆ segment ∧ terminator.Fits line ∧
      segment ++ ['\n'] = line ++ terminator.text := by
  by_cases hreturn : segment.getLast? = some '\r'
  · obtain ⟨line, rfl⟩ := List.getLast?_eq_some_iff.mp hreturn
    refine ⟨line, .returnFeed, List.subset_append_left line ['\r'], trivial, ?_⟩
    rw [Terminator.text, List.append_assoc, List.singleton_append]
  · exact ⟨segment, .feed, List.Subset.refl segment, hreturn, rfl⟩

/-- Every text is made up of lines. -/
theorem exists_lined (s : List Char) : ∃ lines, Lined lines s := by
  -- The induction is on the length: behind the first line feed there is a shorter text.
  induction hlength : s.length using Nat.strongRecOn generalizing s with
  | _ length ih =>
    by_cases hmem : '\n' ∈ s
    · obtain ⟨segment, rest, rfl, hsegment⟩ := List.eq_append_cons_of_mem hmem
      obtain ⟨line, terminator, hsubset, hfits, heq⟩ := exists_terminator segment
      have hline : '\n' ∉ line := fun h ↦ hsegment (hsubset h)
      have hshort : rest.length < length := by
        rw [← hlength, List.length_append, List.length_cons]
        omega
      obtain ⟨lines, hlines⟩ := ih rest.length hshort rest rfl
      refine ⟨line :: lines, ?_⟩
      have htext : segment ++ '\n' :: rest = line ++ terminator.text ++ rest := by
        rw [← heq, List.append_assoc, List.singleton_append]
      rw [htext]
      exact .cons hline terminator hfits hlines
    · by_cases hnil : s = []
      · rw [hnil]
        exact ⟨[], .nil⟩
      · exact ⟨[s], .last hnil hmem⟩

/-- **A text is made up of lines in one way**, which is how it is cut. -/
theorem charLines_eq_iff {s : List Char} {lines : List (List Char)} :
    charLines s = lines ↔ Lined lines s := by
  constructor
  · intro h
    obtain ⟨found, hfound⟩ := exists_lined s
    rw [← h, hfound.charLines_eq]
    exact hfound
  · exact Lined.charLines_eq

theorem splitLines_eq_iff {s : String} {lines : List String} :
    splitLines s = lines ↔ Lined (lines.map String.toList) s.toList := by
  rw [← charLines_eq_iff, splitLines]
  constructor
  · intro h
    rw [← h, List.map_map]
    simp
  · intro h
    rw [h, List.map_map]
    simp

/-- No line of a text has a line feed in it. -/
theorem newline_not_mem_of_mem_splitLines {text line : String} (h : line ∈ splitLines text) :
    '\n' ∉ line.toList :=
  (splitLines_eq_iff.mp rfl).newline_not_mem _ (List.mem_map_of_mem h)

/-! ## Texts of files -/

/-- Holds of a text in which every carriage return stands directly in front of a line feed. -/
def Paired (s : List Char) : Prop :=
  ∀ before after, s = before ++ '\r' :: after → after.head? = some '\n'

/-- A carriage return and a line feed in a row, each time as one line feed. -/
def joinReturns : List Char → List Char
  | [] => []
  | '\r' :: '\n' :: rest => '\n' :: joinReturns rest
  | c :: rest => c :: joinReturns rest

theorem Paired.of_append (before : List Char) {s : List Char} (h : Paired (before ++ s)) :
    Paired s := by
  intro front after heq
  exact h (before ++ front) after (by rw [heq, List.append_assoc])

/-- Without lone carriage returns there is nothing else to translate in a file. -/
theorem unifyNewlines_eq_joinReturns {s : List Char} (h : Paired s) :
    unifyNewlines s = joinReturns s := by
  fun_induction unifyNewlines s with
  | case1 => rfl
  | case2 rest ih => rw [joinReturns, ih (h.of_append ['\r', '\n'])]
  | case3 rest hlone ih =>
    have hhead : rest.head? = some '\n' := h [] rest rfl
    obtain ⟨after, hafter⟩ := List.head?_eq_some_iff.mp hhead
    exact absurd hafter (hlone after)
  | case4 c rest hpair hlone ih =>
    rw [joinReturns, ih (h.of_append [c])]
    exact hpair

/-- A line of such a text is free of carriage returns. -/
theorem Paired.return_not_mem {line : List Char} (hline : '\n' ∉ line)
    {terminator : Terminator} (hfits : terminator.Fits line) {rest : List Char}
    (h : Paired (line ++ terminator.text ++ rest)) : '\r' ∉ line := by
  intro hmem
  obtain ⟨before, after, rfl⟩ := List.append_of_mem hmem
  have hhead : (after ++ terminator.text ++ rest).head? = some '\n' :=
    h before _ (by simp)
  cases after with
  | nil =>
    cases terminator with
    | feed => exact hfits List.getLast?_concat
    | returnFeed => simp [Terminator.text] at hhead
  | cons c after =>
    have hc : c = '\n' := by simpa using hhead
    exact hline (by simp [hc])

theorem unifyNewlines_append_terminator {line : List Char} (hline : '\r' ∉ line)
    (terminator : Terminator) (rest : List Char) :
    unifyNewlines (line ++ terminator.text ++ rest) =
      line ++ Terminator.feed.text ++ unifyNewlines rest := by
  induction line with
  | nil => cases terminator <;> rfl
  | cons c line ih =>
    rw [List.mem_cons, not_or] at hline
    rw [List.cons_append, List.cons_append, unifyNewlines, ih hline.2, List.cons_append,
      List.cons_append]
    · exact fun _ hc _ ↦ hline.1 hc.symm
    · exact fun hc ↦ hline.1 hc.symm

/-- Reading such a text from a file turns every terminator into a line feed, and that is all. -/
theorem Lined.unifyNewlines {lines : List (List Char)} {s : List Char} (h : Lined lines s)
    (hpaired : Paired s) : Lined lines (unifyNewlines s) := by
  induction h with
  | nil => exact .nil
  | @last line hne hline =>
    have hreturn : '\r' ∉ line := by
      intro hmem
      obtain ⟨before, after, rfl⟩ := List.append_of_mem hmem
      have hhead : after.head? = some '\n' := hpaired before after rfl
      exact hline (by simp [List.mem_of_mem_head? hhead])
    rw [unifyNewlines_eq_self hreturn]
    exact .last hne hline
  | @cons line rest lines hline terminator hfits hrest ih =>
    have hreturn : '\r' ∉ line := hpaired.return_not_mem hline hfits
    have hfeed : Terminator.feed.Fits line := fun hlast ↦ hreturn (List.mem_of_getLast? hlast)
    rw [unifyNewlines_append_terminator hreturn]
    exact .cons hline .feed hfeed (ih (hpaired.of_append _))

/-- Such a text has the same lines in a file. -/
theorem splitLines_universalNewlines {s : String} (h : Paired s.toList) :
    splitLines (universalNewlines s) = splitLines s := by
  have hlined : Lined ((splitLines s).map String.toList) s.toList := splitLines_eq_iff.mp rfl
  rw [splitLines_eq_iff, universalNewlines, String.toList_ofList]
  exact hlined.unifyNewlines h

/-- **Cutting a text into lines undoes putting lines and terminators together.** The lines of a text
are the ones it is made up of, in the only way there is, and none of them has a line feed in it. So
the lines of a text behind a terminated one are put behind those of the other. And if every carriage
return is followed by a line feed, nothing but these pairs changes in a file, and no line does. -/
theorem splitLines_lined :
    (∀ (s : String) (lines : List String),
      splitLines s = lines ↔ Lined (lines.map String.toList) s.toList) ∧
    (∀ (s : String), ∀ line ∈ splitLines s, '\n' ∉ line.toList) ∧
    (∀ first second : String, Terminated first →
      splitLines (first ++ second) = splitLines first ++ splitLines second) ∧
    ∀ s : String, Paired s.toList →
      universalNewlines s = String.ofList (joinReturns s.toList) ∧
        splitLines (universalNewlines s) = splitLines s := by
  refine ⟨fun s lines ↦ splitLines_eq_iff, ?_, fun first second hfirst ↦
    splitLines_append hfirst second, ?_⟩
  · intro s line hline
    have hlined : Lined ((splitLines s).map String.toList) s.toList := splitLines_eq_iff.mp rfl
    exact hlined.newline_not_mem _ (List.mem_map_of_mem hline)
  · intro s hpaired
    refine ⟨?_, splitLines_universalNewlines hpaired⟩
    rw [universalNewlines, unifyNewlines_eq_joinReturns hpaired]

/-- A doubled carriage return, an empty line and a last line without a terminator, next to a text
that a file gives back with a line feed only. -/
theorem splitLines_lined_mixed :
    splitLines "a\r\r\n\nb" = ["a\r", "", "b"] ∧
      (∀ line ∈ splitLines "a\r\r\n\nb", '\n' ∉ line.toList) ∧
      (Terminated "a\n" ∧ splitLines ("a\n" ++ "\r\n") = ["a"] ++ [""]) ∧
      (Paired "b\r\n".toList ∧ universalNewlines "b\r\n" = "b\n" ∧
        splitLines (universalNewlines "b\r\n") = ["b"]) := by
  obtain ⟨hlines, hfree, happend, hfile⟩ := splitLines_lined
  have hmixed : Lined [['a', '\r'], [], ['b']] ['a', '\r', '\r', '\n', '\n', 'b'] :=
    .cons (by decide) .returnFeed trivial
      (.cons (by decide) .feed (by simp [Terminator.Fits])
        (.last (by decide) (by decide)))
  have hterminated : Terminated "a\n" := .inr ⟨"a", rfl⟩
  have hpaired : Paired "b\r\n".toList := by
    intro before after heq
    match before, heq with
    | [], heq => simp at heq
    | [_], heq =>
      have hafter : ['\n'] = after := by simpa using congrArg (List.drop 2) heq
      rw [← hafter]
      rfl
    | [_, _], heq => simp at heq
    | _ :: _ :: _ :: before, heq => simp at heq
  refine ⟨(hlines _ _).mpr hmixed, hfree _, ⟨hterminated, ?_⟩, hpaired, (hfile _ hpaired).1, ?_⟩
  · exact happend "a\n" "\r\n" hterminated
  · exact (hfile _ hpaired).2

end LineMachine.Text
