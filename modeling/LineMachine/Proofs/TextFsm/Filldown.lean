import Mathlib.Data.List.Induction
import LineMachine.Proofs.TextFsm.Carried
import LineMachine.Proofs.TextFsm.States

/-!
# Values that are filled down

A record of an imported template holds a Value that is filled down from the latest line that
captured it, unless a `Clearall` came behind; any other Value is in a record only if it was captured
behind the record before (`find?_record_of_parse`).

Imported rules say this by lists of actions that clear one variable each. The invariant behind it
(`Recounts`) is that the variables are what the entries so far carry, name by name, and that every
record is what was bound at the entry that made it. One entry keeps it: the groups of the match are
written, and the actions of the record operation then take away just what the operation clears.
-/

namespace LineMachine.TextFsm.Document

open Machine (TraceEntry Sheet Groups Change)

variable {d : Document} {m : Machine} {o : Options}

/-! ## What a rule does to the sheet -/

/-- The groups of a match are written under their own names, whatever was held there. -/
theorem find?_of_writes (hm : d.Imported m) {r : Machine.Rule} (hrename : r.rename = none)
    {groups : Groups} (hnames : (groups.map (·.1)).Nodup) {s t : Sheet}
    (h : s.applyAll m o (groups.map (Machine.writeOf r)) = .ok t) :
    t.records = s.records ∧ ∀ v : String, Table.find? t.bindings (.str v) =
      ((groups.lookup v).map Machine.captured).or (Table.find? s.bindings (.str v)) := by
  induction groups generalizing s with
  | nil =>
    cases h
    exact ⟨rfl, fun v ↦ rfl⟩
  | cons group groups ih =>
    obtain ⟨u, hu, hrest⟩ := bind_eq_ok.mp h
    have hwrite : s.apply m o (Machine.writeOf r group) = .ok { s with
        bindings := Table.put s.bindings (.str group.1) (Machine.captured group.2) } := by
      rw [Machine.writeOf, Machine.targetName, hrename, Sheet.apply, Machine.assign,
        Option.bind_none]
      simp only [Value.key, Value.key?_str, ok_bind, hm.coerce]
      rfl
    cases hu.symm.trans hwrite
    rw [List.map_cons, List.nodup_cons] at hnames
    obtain ⟨hrecords, hfind⟩ := ih hnames.2 hrest
    refine ⟨hrecords, fun v ↦ ?_⟩
    rw [hfind v, List.lookup_cons, Table.find?_put, Key.same_str]
    by_cases hv : v = group.1
    · -- The groups behind it have other names.
      have hnone : groups.lookup v = none := by
        refine List.lookup_eq_none_iff.mpr fun e he ↦ bne_iff_ne.mpr ?_
        rintro rfl
        exact hnames.1 (List.mem_map.mpr ⟨e, he, hv⟩)
      rw [hnone, if_pos (beq_iff_eq.mpr hv), beq_iff_eq.mpr hv]
      rfl
    · rw [beq_eq_false_iff_ne.mpr hv, if_neg Bool.false_ne_true]

/-- Clearing variables leaves the others. -/
theorem find?_of_clearAll {groups : Groups} {names : List String} {s t : Sheet}
    (h : s.applyAll m o ((clearAll names).map (Machine.changeOf groups)) = .ok t) :
    t.records = s.records ∧ ∀ v : String, Table.find? t.bindings (.str v) =
      if names.contains v then none else Table.find? s.bindings (.str v) := by
  induction names generalizing s with
  | nil =>
    cases h
    exact ⟨rfl, fun v ↦ rfl⟩
  | cons name names ih =>
    obtain ⟨u, hu, hrest⟩ := bind_eq_ok.mp h
    obtain ⟨hrecords, hfind⟩ := ih hrest
    have herase : u.records = s.records ∧ ∀ v : String, Table.find? u.bindings (.str v) =
        if v = name then none else Table.find? s.bindings (.str v) := by
      obtain ⟨bindings, hunset, hu⟩ := bind_eq_ok.mp hu
      cases hu
      refine ⟨rfl, fun v ↦ ?_⟩
      rw [Machine.unset] at hunset
      split at hunset
      · rename_i hempty
        cases hunset
        rw [List.isEmpty_iff.mp hempty, Table.find?_nil, ite_self]
      · cases hunset
        rw [Table.find?_remove, Key.same_str]
        simp only [beq_iff_eq]
    refine ⟨hrecords.trans herase.1, fun v ↦ ?_⟩
    rw [hfind v, herase.2 v, List.contains_cons]
    by_cases hv : v = name
    · simp [hv]
    · simp [hv]

/-- A record operation makes a record of what there is, if it is to make one, and takes away what it
clears. -/
theorem find?_of_recordActions (hreset : o.resetOnEmit = false) {groups : Groups}
    {operation : Option RecordOperation} {s t : Sheet}
    (h : s.applyAll m o ((d.recordActions operation).map (Machine.changeOf groups)) = .ok t) :
    t.records = s.records ++ (if operation = some .record then [s.bindings] else []) ∧
      ∀ v : String, Table.find? t.bindings (.str v) =
        if d.clears v operation then none else Table.find? s.bindings (.str v) := by
  rcases operation with - | - | - | - | -
  · cases h
    exact ⟨(List.append_nil _).symm, fun v ↦ rfl⟩
  · obtain ⟨hrecords, hfind⟩ := find?_of_clearAll h
    exact ⟨hrecords.trans (List.append_nil _).symm, hfind⟩
  · obtain ⟨hrecords, hfind⟩ := find?_of_clearAll h
    exact ⟨hrecords.trans (List.append_nil _).symm, hfind⟩
  · obtain ⟨u, hu, hrest⟩ := bind_eq_ok.mp h
    have hemit : s.apply m o .emit = .ok ⟨s.bindings, s.records ++ [s.bindings]⟩ := by
      rw [Sheet.apply, hreset]
      rfl
    cases hu.symm.trans hemit
    exact find?_of_clearAll hrest
  · cases h
    exact ⟨(List.append_nil _).symm, fun v ↦ rfl⟩

/-- Holds of the sheet that an entry leaves of another one: the variables are what the entry leaves
of them, and the record that it makes, if any, is what was bound there. -/
structure Leaves (d : Document) (e : TraceEntry) (s t : Sheet) : Prop where
  /-- The variables, name by name. -/
  held : ∀ v : String,
    Table.find? t.bindings (.str v) = d.left v (Table.find? s.bindings (.str v)) e
  /-- The records. -/
  records : ∃ record : Table Value,
    t.records = s.records ++ (if d.makesRecord e then [record] else []) ∧
      ∀ v : String, Table.find? record (.str v) = d.bound v (Table.find? s.bindings (.str v)) e

theorem leaves_of_unmatched {e : TraceEntry} (he : d.ruleAt? e = none) (s : Sheet) :
    d.Leaves e s s := by
  have hbound (v : String) (held : Option Value) : d.bound v held e = held := by
    rw [bound, captureAt?, he]
    rfl
  have hnone : d.operationAt? e = none := by
    rw [operationAt?, he]
    rfl
  refine ⟨fun v ↦ ?_, s.bindings, ?_, fun v ↦ (hbound v _).symm⟩
  · rw [left, hnone, clears, if_neg Bool.false_ne_true, hbound]
  · rw [makesRecord, hnone]
    exact (List.append_nil _).symm

/-- **What an entry leaves.** Taking the rule that an entry tells of does to the sheet what the
document says. -/
theorem leaves_of_taken (hm : d.Imported m) (hreset : o.resetOnEmit = false) {e : TraceEntry}
    {r : Machine.Rule} {groups : Groups} (htaken : m.takenAt? e = some (r, groups)) {s t : Sheet}
    (h : s.applyAll m o (r.changes groups) = .ok t) : d.Leaves e s t := by
  obtain ⟨hrule, hcaptures⟩ := Machine.takenAt?_eq_some.mp htaken
  obtain ⟨decl, hdecl, hmakes⟩ := hm.exists_ruleAt? hrule
  have hoperation : d.operationAt? e = decl.action.record := by
    rw [operationAt?, hdecl, Option.bind_some]
  have hnames : (groups.map (·.1)).Nodup := by
    rw [Regex.lawful.named hcaptures]
    exact Regex.lawful.distinct hmakes.pattern
  rw [Machine.Rule.changes, hmakes.actions, Sheet.applyAll_append] at h
  -- The sheet in between has what was bound; the actions only take away from it.
  obtain ⟨u, hwrites, hactions⟩ := bind_eq_ok.mp h
  obtain ⟨hsame, hwritten⟩ := find?_of_writes hm hmakes.rename hnames hwrites
  obtain ⟨hrecords, hcleared⟩ := find?_of_recordActions hreset hactions
  have hbound (v : String) : Table.find? u.bindings (.str v) =
      d.bound v (Table.find? s.bindings (.str v)) e := by
    rw [hwritten v, bound, captureAt?, hdecl, Option.bind_some, RuleDecl.capture?,
      hmakes.captures?, hcaptures, Option.bind_some]
  refine ⟨fun v ↦ ?_, u.bindings, ?_, hbound⟩
  · rw [hcleared v, hbound v, left, hoperation]
  · rw [hrecords, hsame, makesRecord, hoperation]
    simp only [beq_iff_eq]

/-! ## The invariant -/

/-- Holds of a sheet that is as some entries tell: the variables are what the entries carry, and
every record is what was bound at the entry that made it. -/
structure Recounts (d : Document) (entries : List TraceEntry) (s : Sheet) : Prop where
  /-- The variables, name by name. -/
  held : ∀ v : String, Table.find? s.bindings (.str v) = d.carried v entries
  /-- There are as many records as entries that make one. -/
  count : s.records.length = entries.countP d.makesRecord
  /-- The records, name by name. -/
  record : ∀ (k : Nat) record, s.records[k]? = some record →
    ∃ j e, d.Emits entries k j ∧ entries[j]? = some e ∧ ∀ v : String,
      Table.find? record (.str v) = d.bound v (d.carried v (entries.take j)) e

theorem recounts_nil (d : Document) : d.Recounts [] {} where
  held v := rfl
  count := rfl
  record k record hk := by cases hk

/-- One more entry keeps a sheet as the entries tell. -/
theorem Recounts.concat {entries : List TraceEntry} {s t : Sheet} (h : d.Recounts entries s)
    {e : TraceEntry} (he : d.Leaves e s t) : d.Recounts (entries ++ [e]) t := by
  obtain ⟨made, hrecords, hmade⟩ := he.records
  have hlast : (entries ++ [e])[entries.length]? = some e := List.getElem?_concat_length
  have htake : (entries ++ [e]).take entries.length = entries := List.take_left
  refine ⟨fun v ↦ ?_, ?_, ?_⟩
  · rw [he.held v, h.held v, carried_concat]
  · rw [hrecords, List.length_append, h.count, List.countP_append, List.countP_singleton]
    cases d.makesRecord e <;> rfl
  · intro k record hk
    rcases Nat.lt_or_ge k s.records.length with hlt | hge
    · -- A record that was there before was made by an entry that was there before.
      rw [hrecords, List.getElem?_append_left hlt] at hk
      obtain ⟨j, f, hemits, hf, hfind⟩ := h.record k record hk
      obtain ⟨hj, -⟩ := List.getElem?_eq_some_iff.mp hf
      refine ⟨j, f, hemits.append [e], ?_, fun v ↦ ?_⟩
      · rw [List.getElem?_append_left hj, hf]
      · rw [hfind v, List.take_append_of_le_length (Nat.le_of_lt hj)]
    · rw [hrecords, List.getElem?_append_right hge] at hk
      rcases hmakes : d.makesRecord e with - | -
      · rw [hmakes] at hk
        cases hk
      · rw [hmakes, if_pos rfl, List.getElem?_singleton] at hk
        obtain ⟨hzero, hsame⟩ := Option.ite_none_right_eq_some.mp hk
        cases hsame
        refine ⟨entries.length, e, ⟨⟨e, hlast, hmakes⟩, ?_⟩, hlast, fun v ↦ ?_⟩
        · rw [htake, ← h.count]
          omega
        · rw [htake, hmade v, h.held v]

/-- The sheet that the changes told by some entries make is as the entries tell. -/
theorem recounts_of_changesAt (hm : d.Imported m) (hreset : o.resetOnEmit = false)
    {entries : List TraceEntry}
    (htold : ∀ e ∈ entries, m.takenAt? e = none → d.ruleAt? e = none) {s : Sheet}
    (h : Sheet.applyAll m o {} (m.changesAt entries) = .ok s) : d.Recounts entries s := by
  -- The induction goes from the first entry on, so that the entries so far are a front part.
  induction entries using List.reverseRecOn generalizing s with
  | nil =>
    cases h
    exact recounts_nil d
  | append_singleton entries e ih =>
    have hbefore := fun f hf ↦ htold f (List.mem_append_left [e] hf)
    rcases htaken : m.takenAt? e with - | ⟨r, groups⟩
    · rw [Machine.changesAt_concat_none htaken] at h
      have hnone := htold e (List.mem_append_right entries List.mem_cons_self) htaken
      exact (ih hbefore h).concat (leaves_of_unmatched hnone s)
    · rw [Machine.changesAt_concat_some htaken, Sheet.applyAll_append] at h
      obtain ⟨u, hu, hlast⟩ := bind_eq_ok.mp h
      exact (ih hbefore hu).concat (leaves_of_taken hm hreset htaken hlast)

/-- **A run of an imported template recounts its trace.** -/
theorem recounts_of_run (hm : d.Imported m) (hreset : o.resetOnEmit = false)
    {lines : List String} {c : Machine.Config} (h : m.run o lines = .ok c) :
    d.Recounts c.trace c.sheet := by
  have haccount := (Machine.accounted_run hm.orderly h).account
  refine recounts_of_changesAt hm hreset ?_ (Machine.sheet_of_trace hm.orderly h)
  intro e he hnone
  rcases hmatched : e.matched with - | k
  · rw [ruleAt?, hmatched]
    rfl
  · obtain ⟨r, groups, htaken⟩ := haccount.exists_takenAt? he hmatched
    rw [hnone] at htaken
    cases htaken

/-! ## Values that are filled down and others -/

theorem filldown_eq (d : Document) :
    d.filldown = ((d.values.filter (·.isFilldown)).map (·.name),
      (d.values.filter fun w ↦ !w.isFilldown).map (·.name)) := by
  rw [filldown, List.partition_eq_filter_filter]
  rfl

/-- Every name is on one side. -/
theorem perm_filldown (d : Document) : (d.filldown.1 ++ d.filldown.2).Perm d.valueNames := by
  rw [filldown_eq, ← List.map_append]
  exact (List.filter_append_perm _ _).map _

theorem disjoint_filldown (hd : d.Coherent) : d.filldown.1.Disjoint d.filldown.2 :=
  (List.nodup_append'.mp ((perm_filldown d).nodup_iff.mpr hd.values)).2.2

/-- A record operation that clears no Value that is filled down is any but the one that clears
all. -/
theorem clears_of_filldown (hd : d.Coherent) {v : String} (hv : v ∈ d.filldown.1)
    (operation : Option RecordOperation) :
    d.clears v operation = false ↔ operation ≠ some .clearAll := by
  have hother : v ∉ d.filldown.2 := fun h ↦ disjoint_filldown hd hv h
  have hname : v ∈ d.valueNames := (perm_filldown d).mem_iff.mp (List.mem_append_left _ hv)
  rcases operation with - | - | - | - | - <;> simp [clears, hother, hname]

variable {entries : List TraceEntry} {v : String} {i j : Nat} {x : Value}

/-- A Value that is filled down has its content from the latest entry that captured it, if no
operation has cleared all since. -/
theorem source_iff_of_filldown (hd : d.Coherent) (hv : v ∈ d.filldown.1) {k : Nat}
    (hj : d.Emits entries k j) :
    d.Source v entries i j x ↔
      i ≤ j ∧ (∃ e, entries[i]? = some e ∧ d.captureAt? v e = some x) ∧
      (∀ (l : Nat) f, i ≤ l → l ≤ j → entries[l]? = some f →
        d.operationAt? f ≠ some .clearAll) ∧
      ∀ (l : Nat) f, i < l → l ≤ j → entries[l]? = some f → d.captureAt? v f = none := by
  constructor
  · rintro ⟨hle, hcaptured, hkept, hlatest⟩
    refine ⟨hle, hcaptured, fun l f hil hlj hf ↦ ?_, hlatest⟩
    rcases Nat.lt_or_eq_of_le hlj with hlt | rfl
    · exact (clears_of_filldown hd hv _).mp (hkept l f hil hlt hf)
    · -- The entry itself makes a record.
      obtain ⟨e, he, hmakes⟩ := hj.makes
      cases he.symm.trans hf
      rw [beq_iff_eq.mp hmakes]
      exact fun h ↦ by cases h
  · rintro ⟨hle, hcaptured, hkept, hlatest⟩
    refine ⟨hle, hcaptured, fun l f hil hlj hf ↦ ?_, hlatest⟩
    exact (clears_of_filldown hd hv _).mpr (hkept l f hil (Nat.le_of_lt hlj) hf)

/-- Any other Value has its content from an entry behind all that made a record before. -/
theorem lt_of_source (hv : v ∈ d.filldown.2) (hsource : d.Source v entries i j x) {k k' j' : Nat}
    (hj : d.Emits entries k j) (hj' : d.Emits entries k' j') (hk : k' < k) : j' < i := by
  by_contra hle
  obtain ⟨e, he, hmakes⟩ := hj'.makes
  have hkept := hsource.kept j' e (Nat.le_of_not_lt hle) (hj.lt hj' hk) he
  -- Making that record would have cleared the Value.
  rw [beq_iff_eq.mp hmakes, clears, List.contains_iff_mem.mpr hv] at hkept
  cases hkept

end LineMachine.TextFsm.Document

namespace LineMachine.Engine

open TextFsm

/-- **What is filled down and what is not.** The Values of a TextFSM template are split into those
that are filled down and the others, in their order, and the imported template is labelled with the
first list. Let a run of it that keeps the variables after a record come to an end. Its trace
follows the document, and it makes one record for every line whose rule makes one. What such a
record holds for a Value that is not filled down was captured behind the lines that made the
records before. It holds a Value that is filled down exactly if some line up to the one that makes
it captured the Value and no line from there on cleared all; and what it holds is what the latest
such line captured. -/
theorem filldown_of_parse {ε : Type} {read : String → Except ε Document} (hlawful : Lawful read)
    {content : String} {d : Document} (hread : read content = .ok d)
    (heading : Heading) :
    (d.filldown.1.Sublist d.valueNames ∧ d.filldown.2.Sublist d.valueNames ∧
      (d.filldown.1 ++ d.filldown.2).Perm d.valueNames ∧
      d.filldown.1.Disjoint d.filldown.2 ∧
      (∀ w ∈ d.values, w.name ∈ d.filldown.1 ↔ w.isFilldown = true) ∧
      Table.find? (d.toTemplate heading).metadata (.str "filldown") =
        some (.list (d.filldown.1.map .str))) ∧
    ∀ (cache : Cache) (text : String) (o : Options) (r : ParseResult),
      Suits cache (d.toTemplate heading) → o.resetOnEmit = false →
      (parse cache (.str text) (d.toTemplate heading) o).result = .ok r →
      ∃ m c, Machine.ofTemplate (d.toTemplate heading) = .ok m ∧
        m.run o (Text.splitLines text) = .ok c ∧ r = .ofConfig (d.toTemplate heading) o c ∧
        d.Follows RuleDecl.reaches? (Text.splitLines text) c.trace ∧
        r.records.length = c.trace.countP d.makesRecord ∧
        ∀ (k : Nat) record, r.records[k]? = some record → ∃ j, d.Emits c.trace k j ∧
          (∀ v ∈ d.filldown.2, ∀ x, Table.find? record (.str v) = some x →
            ∃ i e rule, i ≤ j ∧ (∀ k' j', k' < k → d.Emits c.trace k' j' → j' < i) ∧
              c.trace[i]? = some e ∧ d.ruleAt? e = some rule ∧ rule.hasGroup v = true) ∧
          ∀ v ∈ d.filldown.1, ∀ x, Table.find? record (.str v) = some x ↔
            ∃ i ≤ j, (∃ e, c.trace[i]? = some e ∧ d.captureAt? v e = some x) ∧
              (∀ (l : Nat) f, i ≤ l → l ≤ j → c.trace[l]? = some f →
                d.operationAt? f ≠ some .clearAll) ∧
              ∀ (l : Nat) f, i < l → l ≤ j → c.trace[l]? = some f →
                d.captureAt? v f = none := by
  have hd := hlawful.coherent hread
  refine ⟨⟨?_, ?_, Document.perm_filldown d, Document.disjoint_filldown hd, ?_, rfl⟩, ?_⟩
  · rw [Document.filldown_eq]
    exact List.filter_sublist.map _
  · rw [Document.filldown_eq]
    exact List.filter_sublist.map _
  · intro w hw
    rw [Document.filldown_eq, List.mem_map]
    constructor
    · rintro ⟨u, hu, hname⟩
      obtain ⟨hu, hfilldown⟩ := List.mem_filter.mp hu
      rwa [← List.inj_on_of_nodup_map hd.values hu hw hname]
    · intro hfilldown
      exact ⟨w, List.mem_filter.mpr ⟨hw, hfilldown⟩, rfl⟩
  · intro cache text o r hsuits hreset h
    obtain ⟨m, c, hm, himported, hrun, rfl⟩ := exists_imported hd hsuits h
    have hrecounts := Document.recounts_of_run himported hreset hrun
    have hfollows := himported.follows_of_accounted (Machine.accounted_run himported.orderly hrun)
    refine ⟨m, c, hm, hrun, rfl, hfollows, hrecounts.count, fun k record hk ↦ ?_⟩
    obtain ⟨j, e, hemits, he, hfind⟩ := hrecounts.record k record hk
    refine ⟨j, hemits, ?_, ?_⟩
    · intro v hv x hx
      rw [hfind v, Document.bound_eq_some_iff he] at hx
      obtain ⟨i, hsource⟩ := hx
      obtain ⟨f, hf, hcaptured⟩ := hsource.captured
      obtain ⟨rule, hrule, hcapture⟩ := Option.bind_eq_some_iff.mp hcaptured
      exact ⟨i, f, rule, hsource.le,
        fun k' j' hk' hj' ↦ Document.lt_of_source hv hsource hemits hj' hk',
        hf, hrule, RuleDecl.hasGroup_of_capture? hcapture⟩
    · intro v hv x
      rw [hfind v, Document.bound_eq_some_iff he]
      exact exists_congr fun i ↦ Document.source_iff_of_filldown hd hv hemits

/-- Hosts under the area that was named last. -/
def areas : Document where
  values := [⟨"AREA", [.filldown], "(\\S+)"⟩, ⟨"HOST", [], "(\\S+)"⟩]
  states := [
    ⟨"Start", [
      ⟨"^Area $AREA", "^Area (?P<AREA>\\S+)", {}⟩,
      ⟨"^Host $HOST", "^Host (?P<HOST>\\S+)", { record := some .record }⟩,
      ⟨"^--", "^--", { record := some .clearAll }⟩]⟩]

/-- The text that it is read from. -/
def areasText : String :=
  "Value Filldown AREA (\\S+)\nValue HOST (\\S+)\n\nStart\n  ^Area $AREA\n" ++
    "  ^Host $HOST -> Record\n  ^-- -> Clearall\n"

/-- The area in the record of the second host is the one that was named in front of the first. -/
theorem filldown_of_parse_areas :
    ∃ (r : ParseResult) (record : Table Value) (c : Machine.Config) (j : Nat),
      readDocument areasText = .ok areas ∧
      (parse Cache.empty (.str "Area a\nHost x\nHost y\n--\nHost z\n")
        (areas.toTemplate { id := .str "areas" }) {}).result = .ok r ∧
      r.records[1]? = some record ∧ areas.Emits c.trace 1 j ∧
      areas.filldown.1.Disjoint areas.filldown.2 ∧
      ∃ i ≤ j, ∃ e, c.trace[i]? = some e ∧ areas.captureAt? "AREA" e = some (.str "a") := by
  have hread : readDocument areasText = .ok areas := by decide +kernel
  obtain ⟨r, hr, hrecords⟩ := map_eq_ok.mp (show
    (parse Cache.empty (.str "Area a\nHost x\nHost y\n--\nHost z\n")
      (areas.toTemplate { id := .str "areas" }) {}).result.map ParseResult.records = .ok [
        [(.str "AREA", .str "a"), (.str "HOST", .str "x")],
        [(.str "AREA", .str "a"), (.str "HOST", .str "y")],
        [(.str "HOST", .str "z")]] by decide +kernel)
  have hsecond : r.records[1]? = some [(.str "AREA", .str "a"), (.str "HOST", .str "y")] := by
    rw [hrecords]
    rfl
  obtain ⟨⟨-, -, -, hdisjoint, -⟩, hruns⟩ := filldown_of_parse lawful_readDocument hread
    { id := .str "areas" }
  obtain ⟨m, c, -, -, -, -, -, hrecord⟩ := hruns _ _ _ r (suits_empty _) rfl hr
  obtain ⟨j, hemits, -, hfilled⟩ := hrecord 1 _ hsecond
  obtain ⟨i, hij, hcaptured, -⟩ := (hfilled "AREA" List.mem_cons_self (.str "a")).mp rfl
  exact ⟨r, _, c, j, hread, hr, hsecond, hemits, hdisjoint, i, hij, hcaptured⟩

end LineMachine.Engine
