import LineMachine.Proofs.TextFsm.Imported

/-!
# Values along a trace

What the Value of a name holds is followed over the entries of a trace on the document alone. An
entry gives the Value what its rule captures for it (`captureAt?`), and afterwards takes it away
if the record operation of the rule clears it (`clears`); `carried` is the fold of this over the
entries, and `bound` is what is there in between, when a record is made.

What is there comes from one entry: the latest one whose rule has the group of the Value, provided
that no operation has cleared it since (`bound_eq_some_iff`). The induction goes from each entry to
the next one, whose rule either has the group or leaves the `Source` where it was.
-/

namespace LineMachine.TextFsm

open Machine (TraceEntry)

namespace RuleDecl

/-- Whether the expression of a rule has a group of a name. -/
def hasGroup (v : String) (r : RuleDecl) : Bool :=
  (Regex.Pattern.read? r.expression {}).toOption.any fun p ↦ (p.names.map (·.1)).contains v

/-- What a rule captures in a line for the Value of a name, null if the group took no part in the
match; none if the expression has no such group. -/
def capture? (v line : String) (r : RuleDecl) : Option Value :=
  (r.captures? line).bind fun groups ↦ (groups.lookup v).map Machine.captured

/-- A rule that captures something for a Value has its group. -/
theorem hasGroup_of_capture? {v line : String} {r : RuleDecl} {x : Value}
    (h : r.capture? v line = some x) : r.hasGroup v = true := by
  obtain ⟨groups, hcaptures, hlookup⟩ := Option.bind_eq_some_iff.mp h
  obtain ⟨pattern, hpattern, hgroups⟩ := Option.bind_eq_some_iff.mp hcaptures
  obtain ⟨capture, hcapture, -⟩ := Option.map_eq_some_iff.mp hlookup
  obtain ⟨before, after, rfl, -⟩ := List.lookup_eq_some_iff.mp hcapture
  have hmem : v ∈ pattern.names.map (·.1) := by
    rw [← Regex.lawful.named hgroups]
    exact List.mem_map.mpr ⟨(v, capture), List.mem_append_right before List.mem_cons_self, rfl⟩
  rw [hasGroup, hpattern]
  exact List.contains_iff_mem.mpr hmem

end RuleDecl

namespace Document

/-! ## One entry -/

/-- What the rule of an entry captures for the Value of a name. -/
def captureAt? (d : Document) (v : String) (e : TraceEntry) : Option Value :=
  (d.ruleAt? e).bind (·.capture? v e.line)

/-- What the rule of an entry does with the record. -/
def operationAt? (d : Document) (e : TraceEntry) : Option RecordOperation :=
  (d.ruleAt? e).bind (·.action.record)

/-- Whether the rule of an entry makes a record. -/
def makesRecord (d : Document) (e : TraceEntry) : Bool :=
  d.operationAt? e == some .record

/-- Whether a record operation clears the Value of a name. -/
def clears (d : Document) (v : String) : Option RecordOperation → Bool
  | some .record => d.filldown.2.contains v
  | some .clear => d.filldown.2.contains v
  | some .clearAll => d.valueNames.contains v
  | some .noRecord => false
  | none => false

/-- What a Value holds when the rule of an entry makes a record, from what it held in front of the
entry. -/
def bound (d : Document) (v : String) (held : Option Value) (e : TraceEntry) : Option Value :=
  (d.captureAt? v e).or held

/-- What an entry leaves of what a Value held in front of it. -/
def left (d : Document) (v : String) (held : Option Value) (e : TraceEntry) : Option Value :=
  if d.clears v (d.operationAt? e) then none else d.bound v held e

/-! ## Many entries -/

/-- What a Value holds behind some entries. -/
def carried (d : Document) (v : String) (entries : List TraceEntry) : Option Value :=
  entries.foldl (d.left v) none

theorem carried_concat (d : Document) (v : String) (entries : List TraceEntry) (e : TraceEntry) :
    d.carried v (entries ++ [e]) = d.left v (d.carried v entries) e := by
  rw [carried, List.foldl_append]
  rfl

/-- Holds of the entry `i` that a Value has its content `x` from when entry `j` is dealt with. -/
structure Source (d : Document) (v : String) (entries : List TraceEntry) (i j : Nat) (x : Value) :
    Prop where
  /-- It is not behind the other one. -/
  le : i ≤ j
  /-- Its rule captured the content. -/
  captured : ∃ e, entries[i]? = some e ∧ d.captureAt? v e = some x
  /-- No rule has cleared it since. -/
  kept : ∀ (l : Nat) e, i ≤ l → l < j → entries[l]? = some e →
    d.clears v (d.operationAt? e) = false
  /-- No other rule has captured anything for the Value since. -/
  latest : ∀ (l : Nat) e, i < l → l ≤ j → entries[l]? = some e → d.captureAt? v e = none

variable {d : Document} {v : String} {entries : List TraceEntry} {i j : Nat} {x : Value}

theorem source_self_iff {e : TraceEntry} (he : entries[j]? = some e) :
    d.Source v entries j j x ↔ d.captureAt? v e = some x := by
  constructor
  · rintro ⟨-, ⟨f, hf, hcaptured⟩, -, -⟩
    cases he.symm.trans hf
    exact hcaptured
  · intro hcaptured
    refine ⟨Nat.le_refl j, ⟨e, he, hcaptured⟩, ?_, ?_⟩
    · intro l f hil hlj
      omega
    · intro l f hil hlj
      omega

/-- The source of a Value stays where it is behind an entry that does not clear it and in front of
one that captures nothing for it. -/
theorem source_succ_iff {e f : TraceEntry} (he : entries[j]? = some e)
    (hf : entries[j + 1]? = some f) (hnone : d.captureAt? v f = none) :
    d.Source v entries i (j + 1) x ↔
      d.clears v (d.operationAt? e) = false ∧ d.Source v entries i j x := by
  constructor
  · rintro ⟨hle, ⟨g, hg, hcaptured⟩, hkept, hlatest⟩
    have hij : i ≤ j := by
      rcases Nat.lt_or_ge j i with hlt | hge
      · -- Otherwise the source would be the entry that captures nothing.
        have hsame : i = j + 1 := by omega
        rw [hsame, hf] at hg
        cases hg
        rw [hnone] at hcaptured
        cases hcaptured
      · exact hge
    refine ⟨hkept j e hij (Nat.lt_succ_self j) he, hij, ⟨g, hg, hcaptured⟩, ?_, ?_⟩
    · exact fun l u hil hlj ↦ hkept l u hil (by omega)
    · exact fun l u hil hlj ↦ hlatest l u hil (by omega)
  · rintro ⟨hclears, hle, hcaptured, hkept, hlatest⟩
    refine ⟨by omega, hcaptured, ?_, ?_⟩
    · intro l u hil hlj hu
      rcases Nat.lt_succ_iff_lt_or_eq.mp hlj with hlt | rfl
      · exact hkept l u hil hlt hu
      · cases he.symm.trans hu
        exact hclears
    · intro l u hil hlj hu
      rcases Nat.le_succ_iff.mp hlj with hle | rfl
      · exact hlatest l u hil hle hu
      · cases hf.symm.trans hu
        exact hnone

/-- An entry whose rule captures something for a Value is the only source there. -/
theorem eq_of_source {e : TraceEntry} (he : entries[j]? = some e)
    (hsome : (d.captureAt? v e).isSome = true) (h : d.Source v entries i j x) : i = j := by
  rcases Nat.eq_or_lt_of_le h.le with heq | hlt
  · exact heq
  · rw [h.latest j e hlt (Nat.le_refl j) he] at hsome
    cases hsome

/-- **Where a Value has its content from.** -/
theorem bound_eq_some_iff {e : TraceEntry} (he : entries[j]? = some e) :
    d.bound v (d.carried v (entries.take j)) e = some x ↔ ∃ i, d.Source v entries i j x := by
  induction j generalizing e with
  | zero =>
    rw [List.take_zero, bound, carried, List.foldl_nil, Option.or_none, ← source_self_iff he]
    constructor
    · exact fun h ↦ ⟨0, h⟩
    · rintro ⟨i, h⟩
      obtain rfl : i = 0 := by
        have := h.le
        omega
      exact h
  | succ j ih =>
    obtain ⟨hj, -⟩ := List.getElem?_eq_some_iff.mp he
    have hbefore : entries[j]? = some entries[j] := List.getElem?_eq_getElem (by omega)
    rcases hcapture : d.captureAt? v e with - | y
    · rw [bound, hcapture, Option.none_or, List.take_add_one, hbefore, Option.toList_some,
        carried_concat, left]
      simp only [source_succ_iff hbefore he hcapture, exists_and_left, ← ih hbefore]
      cases d.clears v (d.operationAt? entries[j]) <;> simp
    · rw [bound, hcapture, Option.some_or]
      constructor
      · rintro ⟨rfl⟩
        exact ⟨j + 1, (source_self_iff he).mpr hcapture⟩
      · rintro ⟨i, h⟩
        obtain rfl := eq_of_source he (Option.isSome_of_eq_some hcapture) h
        rw [← hcapture]
        exact (source_self_iff he).mp h

/-! ## Records -/

/-- Holds of the entry `j` that makes the record of number `k`. -/
structure Emits (d : Document) (entries : List TraceEntry) (k j : Nat) : Prop where
  /-- Its rule makes a record. -/
  makes : ∃ e, entries[j]? = some e ∧ d.makesRecord e = true
  /-- So many records were made in front of it. -/
  number : (entries.take j).countP d.makesRecord = k

variable {k : Nat}

theorem Emits.append (h : d.Emits entries k j) (more : List TraceEntry) :
    d.Emits (entries ++ more) k j := by
  obtain ⟨⟨e, he, hmakes⟩, hnumber⟩ := h
  obtain ⟨hj, -⟩ := List.getElem?_eq_some_iff.mp he
  refine ⟨⟨e, ?_, hmakes⟩, ?_⟩
  · rw [List.getElem?_append_left hj, he]
  · rw [List.take_append_of_le_length (Nat.le_of_lt hj), hnumber]

/-- Records are numbered in the order of the entries that make them. -/
theorem Emits.lt {k' j' : Nat} (h : d.Emits entries k j) (h' : d.Emits entries k' j')
    (hk : k' < k) : j' < j := by
  by_contra hj
  have hle := (List.take_prefix_take_left (l := entries) (Nat.le_of_not_lt hj)).sublist.countP_le
    (p := d.makesRecord)
  rw [h.number, h'.number] at hle
  omega

end Document

end LineMachine.TextFsm
