import Mathlib.Data.List.Nodup
import LineMachine.Proofs.Except
import LineMachine.Regex.Reader

/-!
# Numbers of named groups

Groups are numbered by their opening parentheses, and a name that was used before keeps its number,
so the named groups of a pattern stand in the order of their numbers (`names_of_read?`) and no two
of them have the same name (`nodup_names_of_read?`). While a pattern is being read a step leaves the
names alone or puts a new one behind them, under a number that no group has yet (`Grows`); this is
all that a look at the tokens has to tell.
-/

namespace LineMachine.Regex

namespace Progress

/-- The named groups have increasing numbers, none of them above the number of groups. -/
structure Numbered (p : Progress) : Prop where
  /-- The numbers increase. -/
  increasing : (p.names.map (·.2)).Pairwise (· < ·)
  /-- No number is above the number of groups. -/
  bounded : ∀ n ∈ p.names.map (·.2), n ≤ p.groupCount
  /-- No name is there twice. -/
  distinct : (p.names.map (·.1)).Nodup

/-- What a step of reading can do to the names: nothing, or putting in a new one under a new
number. -/
def Grows (p q : Progress) : Prop :=
  (q.names = p.names ∧ p.groupCount ≤ q.groupCount) ∨
    ∃ name, name ∉ p.names.map (·.1) ∧ q.names = p.names ++ [(name, p.groupCount + 1)] ∧
      q.groupCount = p.groupCount + 1

theorem Grows.refl (p : Progress) : Grows p p := Or.inl ⟨rfl, Nat.le_refl _⟩

theorem Numbered.grow {p q : Progress} (hp : p.Numbered) (h : Grows p q) : q.Numbered := by
  rcases h with ⟨hnames, hcount⟩ | ⟨name, hnew, hnames, hcount⟩
  · refine ⟨by rw [hnames]; exact hp.increasing, ?_, by rw [hnames]; exact hp.distinct⟩
    intro n hn
    rw [hnames] at hn
    exact Nat.le_trans (hp.bounded n hn) hcount
  · have hmap : q.names.map (·.2) = p.names.map (·.2) ++ [p.groupCount + 1] := by
      rw [hnames, List.map_append, List.map_singleton]
    refine ⟨?_, ?_, ?_⟩
    · rw [hmap]
      refine List.pairwise_append.mpr ⟨hp.increasing, List.pairwise_singleton _ _, ?_⟩
      intro n hn k hk
      rw [List.mem_singleton.mp hk]
      exact Nat.lt_succ_of_le (hp.bounded n hn)
    · intro n hn
      rw [hmap, List.mem_append, List.mem_singleton] at hn
      rw [hcount]
      rcases hn with hn | rfl
      · exact Nat.le_succ_of_le (hp.bounded n hn)
      · exact Nat.le_refl _
    · rw [hnames, List.map_append, List.map_singleton, ← List.concat_eq_append]
      exact hp.distinct.concat hnew

/-! ## Steps -/

theorem grows_openCapture (p : Progress) (rest : List Char) : Grows p (p.openCapture rest) :=
  Or.inl ⟨rfl, Nat.le_succ _⟩

theorem grows_openNamed (p : Progress) (name : String) (rest : List Char) :
    Grows p (p.openNamed name rest) := by
  rw [openNamed]
  cases hlookup : p.names.lookup name with
  | some n => exact Grows.refl _
  | none =>
    refine Or.inr ⟨name, ?_, rfl, rfl⟩
    intro hmem
    obtain ⟨e, he, rfl⟩ := List.mem_map.mp hmem
    exact bne_iff_ne.mp (List.lookup_eq_none_iff.mp hlookup e he) rfl

theorem grows_quantify {p q : Progress} {counts : Counts} {start rest : List Char}
    (h : p.quantify counts start rest = .ok q) : Grows p q := by
  rw [quantify] at h
  split at h
  · cases h
    exact Grows.refl _
  · cases h
  · cases h

theorem grows_comment {p q : Progress} {s : List Char} (h : p.comment s = .ok q) : Grows p q := by
  fun_induction comment p s with
  -- A comment ends at its first parenthesis that no backslash stands before.
  | case1 => cases h
  | case2 rest =>
    cases h
    exact Grows.refl _
  | case3 => cases h
  | case4 _ _ _ _ _ ih => exact ih h
  | case5 _ _ _ _ ih => exact ih h

theorem grows_named {p q : Progress} {s : List Char} (h : p.named s = .ok q) : Grows p q := by
  obtain ⟨⟨name, rest⟩, -, h⟩ := bind_eq_ok.mp h
  obtain ⟨rest', -, h⟩ := bind_eq_ok.mp h
  cases h
  exact grows_openNamed p name rest'

theorem grows_inlineFlags {p q : Progress} {s : List Char} (h : p.inlineFlags s = .ok q) :
    Grows p q := by
  simp only [inlineFlags, stopAt, pure_bind, error_bind] at h
  repeat' split at h
  all_goals cases h
  all_goals exact Grows.refl _

theorem grows_condition {p q : Progress} {s : List Char} (h : p.condition s = .ok q) :
    Grows p q := by
  rw [condition] at h
  split at h
  · cases h
  · obtain ⟨⟨target, rest⟩, -, h⟩ := bind_eq_ok.mp h
    obtain ⟨rest', -, h⟩ := bind_eq_ok.mp h
    cases h
    exact Grows.refl _

theorem grows_verb {p q : Progress} {word rest start : List Char}
    (h : p.verb word rest start = .ok q) : Grows p q := by
  rw [verb] at h
  split at h
  · cases h
  · obtain ⟨rest', -, h⟩ := bind_eq_ok.mp h
    cases h
    exact Grows.refl _

theorem grows_paren {p q : Progress} {s : List Char} (h : p.paren s = .ok q) : Grows p q := by
  simp only [paren] at h
  -- One case for every branch of the definition, in its order; what is not delegated leaves the
  -- names alone.
  split at h
  · split at h
    · cases h
      exact Grows.refl _
    · cases h
      exact Grows.refl _
    · exact grows_named h
  · cases h
    exact Grows.refl _
  · cases h
    exact Grows.refl _
  · cases h
    exact Grows.refl _
  · exact grows_comment h
  · exact grows_condition h
  · split at h
    · exact grows_named h
    · obtain ⟨⟨target, afterName⟩, -, h⟩ := bind_eq_ok.mp h
      obtain ⟨after, -, h⟩ := bind_eq_ok.mp h
      dsimp only at h
      split at h
      · cases h
      · cases h
        exact Grows.refl _
    · cases h
  · exact grows_inlineFlags h
  · split at h
    · exact grows_verb h
    · cases h
      exact grows_openCapture p _
  · cases h
    exact grows_openCapture p _

theorem grows_escaped {p q : Progress} {s : List Char} (h : p.escaped s = .ok q) : Grows p q := by
  obtain ⟨⟨found, rest⟩, -, h⟩ := bind_eq_ok.mp h
  dsimp only at h
  repeat' split at h
  all_goals cases h
  all_goals exact Grows.refl _

theorem grows_closeGroup {p q : Progress} {rest : List Char} (h : p.closeGroup rest = .ok q) :
    Grows p q := by
  rw [closeGroup] at h
  split at h
  · cases h
  · cases h
    exact Grows.refl _

theorem grows_nextBranch {p q : Progress} {rest : List Char} (h : p.nextBranch rest = .ok q) :
    Grows p q := by
  rw [nextBranch] at h
  split at h
  · cases h
  · cases h
    exact Grows.refl _

/-- Reading a token leaves the names alone, or puts one behind them under a new number. -/
theorem grows_token {p q : Progress} {c : Char} {rest : List Char} (h : p.token c rest = .ok q) :
    Grows p q := by
  simp only [token] at h
  split at h
  · exact grows_closeGroup h
  · exact grows_nextBranch h
  · exact grows_paren h
  · cases h
    exact Grows.refl _
  · obtain ⟨⟨test, rest'⟩, -, h⟩ := bind_eq_ok.mp h
    cases h
    exact Grows.refl _
  · cases h
    exact Grows.refl _
  · cases h
    exact Grows.refl _
  · exact grows_quantify h
  · exact grows_quantify h
  · exact grows_quantify h
  · obtain ⟨counts, -, h⟩ := bind_eq_ok.mp h
    split at h
    · exact grows_quantify h
    · cases h
      exact Grows.refl _
  · split at h
    · exact grows_escaped h
    · cases h
      exact Grows.refl _

/-! ## Patterns -/

theorem names_of_finish {p : Progress} {pattern : Pattern} (h : p.finish = .ok pattern) :
    pattern.names = p.names := by
  rw [finish] at h
  split at h
  · cases h
  · split at h
    · cases h
    · cases h
    · cases h
      rfl

/-- Whatever is left to be read, the numbers of the named groups increase in the end, and their
names are distinct. -/
theorem names_of_readTokens {fuel : Nat} {p : Progress} {pattern : Pattern} (hp : p.Numbered)
    (h : readTokens fuel p = .ok pattern) :
    (pattern.names.map (·.2)).Pairwise (· < ·) ∧ (pattern.names.map (·.1)).Nodup := by
  -- The fuel goes down by one for each token, and `Numbered` is what every token keeps.
  induction fuel generalizing p with
  | zero => cases h
  | succ fuel ih =>
    rw [readTokens] at h
    split at h
    · rw [names_of_finish h]
      exact ⟨hp.increasing, hp.distinct⟩
    · obtain ⟨q, hq, h⟩ := bind_eq_ok.mp h
      exact ih (hp.grow (grows_token hq)) h

end Progress

namespace Pattern

theorem names_of_read {s : String} {flags : Flags} {pattern : Pattern}
    (h : read? s flags = .ok pattern) :
    (pattern.names.map (·.2)).Pairwise (· < ·) ∧ (pattern.names.map (·.1)).Nodup := by
  have hstart : Progress.Numbered { rest := s.toList, flags := flags } :=
    ⟨List.Pairwise.nil, List.forall_mem_nil _, List.nodup_nil⟩
  exact Progress.names_of_readTokens hstart (mapError_eq_ok.mp h)

/-- The named groups of a pattern stand in the order of their numbers. -/
theorem names_of_read? {s : String} {flags : Flags} {pattern : Pattern}
    (h : read? s flags = .ok pattern) : (pattern.names.map (·.2)).Pairwise (· < ·) :=
  (names_of_read h).1

/-- No two named groups of a pattern have the same name. -/
theorem nodup_names_of_read? {s : String} {flags : Flags} {pattern : Pattern}
    (h : read? s flags = .ok pattern) : (pattern.names.map (·.1)).Nodup :=
  (names_of_read h).2

end Pattern

end LineMachine.Regex
