import LineMachine.Proofs.Match.Comparison
import LineMachine.Proofs.Pieces
import LineMachine.Proofs.Record.Recast

/-!
# What scores depend on

A score depends on the counts of the records, and on whether the command asks for a version: in
lower case it has the word in it (`AsksVersion`). Records with the same counts have the same score,
over any numbers, so the score stays as it is when the records are recast (`scoreWith_of_counts`).
-/

namespace LineMachine.Record

open Match (orElse_phraseValue phraseValue)

/-! ## Commands -/

/-- Holds of a command that has the word "version" in it, in any case. -/
def AsksVersion (command : Option String) : Prop :=
  ∃ text ∈ command, "version".toList <:+: Text.lower text.toList

theorem expectsOne_iff {command : Option String} :
    expectsOne (command.getD "") = true ↔ AsksVersion command := by
  rw [AsksVersion]
  cases command with
  | none =>
    refine iff_of_false (by decide) ?_
    rintro ⟨text, htext, -⟩
    cases htext
  | some text =>
    rw [Option.getD_some, expectsOne, Text.occursIn_iff]
    constructor
    · intro h
      exact ⟨text, rfl, h⟩
    · rintro ⟨text, ⟨⟩, h⟩
      exact h

instance (command : Option String) : Decidable (AsksVersion command) :=
  decidable_of_iff _ expectsOne_iff

/-! ## Scores by counts -/

theorem ofRecords_eq (records : List Record) (single : Bool) :
    Counts.ofRecords records single =
      ⟨records.length, (keySet records).card, (filledEntries records).length,
        (uniformKeys records).card, single⟩ := by
  rw [Counts.ofRecords, length_columns, filledCells_eq, countP_isConsistent]

theorem SameCounts.ofRecords_eq {records others : List Record} (h : SameCounts records others)
    (single : Bool) : Counts.ofRecords others single = Counts.ofRecords records single := by
  rw [Record.ofRecords_eq, Record.ofRecords_eq, h.length, h.keys, h.filled, h.uniform]

section Scores

variable {α : Type} [NatCast α] [Add α] [Mul α] [Div α]

/-- Under a command, or none, records score what comes of their counts. -/
theorem scoreWith_phraseValue (records : List Record) (command : Option String) :
    scoreWith (α := α) records (phraseValue command) =
      .ok (Counts.ofRecords records (decide (AsksVersion command))).score := by
  have hsingle : expectsOne (command.getD "") = decide (AsksVersion command) := by
    rw [Bool.eq_iff_iff, expectsOne_iff, decide_eq_true_iff]
  rw [scoreWith]
  by_cases hrecords : records.isEmpty = true
  · rw [if_pos hrecords, List.isEmpty_iff.mp hrecords]
    rfl
  · rw [if_neg hrecords, orElse_phraseValue, ← hsingle]

/-- **Scores depend on counts alone.** If the same numbers of records, of keys, of entries that are
filled in, and of keys that are filled in by all records or by none are counted over two lists of
records, then both have a score, and it is the same one, under any two commands of which both or
neither ask for a version. This is so in particular if one list is the other one recast: if the
records or the entries of a record come in another order, if the keys are renamed and different ones
stay different, if a value that is filled in takes the place of one that is, or a blank text that
of null. -/
theorem scoreWith_of_counts {records others : List Record} {command phrase : Option String}
    (hphrase : AsksVersion phrase ↔ AsksVersion command)
    (h : SameCounts records others ∨ Recast records others) :
    ∃ s : α, scoreWith records (phraseValue command) = .ok s ∧
      scoreWith others (phraseValue phrase) = .ok s := by
  have hcounts : SameCounts records others := h.elim id Recast.sameCounts
  refine ⟨_, scoreWith_phraseValue records command, ?_⟩
  rw [scoreWith_phraseValue, decide_eq_decide.mpr hphrase, hcounts.ofRecords_eq]

end Scores

/-- Two hosts, of the second of which nothing more is known. -/
def hosts : List Record :=
  [[(.str "host", .str "r1"), (.str "seen", .str "today")],
    [(.str "host", .str "r2"), (.str "seen", .null)]]

/-- The two hosts in another order, and other values. -/
def hostsAgain : List Record :=
  [[(.str "host", .str "r3"), (.str "seen", .str " ")],
    [(.str "host", .str "r4"), (.str "seen", .int 0)]]

theorem recast_hosts : Recast hosts hostsAgain := by
  refine .trans (.permuted (List.Perm.swap _ _ [])) (.refilled ?_)
  refine .cons (.cons ⟨rfl, .filled ?_ ?_⟩ (.cons ⟨rfl, .blank rfl⟩ .nil))
    (.cons (.cons ⟨rfl, .filled ?_ ?_⟩ (.cons ⟨rfl, .filled ?_ ?_⟩ .nil)) .nil)
  all_goals decide

/-- Machine numbers are numbers too: the hosts score the same in both forms. -/
theorem scoreWith_of_counts_hosts :
    (AsksVersion (some "VERSION") ↔ AsksVersion (some "show Version")) ∧ Recast hosts hostsAgain ∧
      ∃ s : Float, score hosts (phraseValue (some "show Version")) = .ok s ∧
        score hostsAgain (phraseValue (some "VERSION")) = .ok s := by
  have hphrase : AsksVersion (some "VERSION") ↔ AsksVersion (some "show Version") :=
    iff_of_true (by decide +kernel) (by decide +kernel)
  let : NatCast Float := ⟨Float.ofNat⟩
  exact ⟨hphrase, recast_hosts, scoreWith_of_counts hphrase (.inr recast_hosts)⟩

end LineMachine.Record
