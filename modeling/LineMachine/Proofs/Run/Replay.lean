import LineMachine.Proofs.Engine
import LineMachine.Proofs.Machine
import LineMachine.Proofs.Run.History

/-!
# Variables one at a time

All variables of a run share one table, and writes, removals, appends and records to all of them
interleave. Still a variable can be followed on its own: what a record holds under a name is what
is left by *replaying* the changes of that name alone, starting from nothing. The changes that
count are those in front of the record, and, where the variables are cleared after every record,
only those behind the record before it (`window`).

`replayStep` says what one change makes of what a variable holds, in terms of values only. The
induction is on the changes, with the sheet generalised: a change of another name leaves the
variable as it is, and a record either keeps all variables or forgets all of them.
-/

namespace LineMachine.Machine

/-! ## Replaying -/

/-- Whether a change is about the variable of a given name. -/
def Change.concerns (v : Key) : Change → Bool
  | .write name _ => name.key?.any v.same
  | .extend name _ => name.key?.any v.same
  | .erase name => name.key?.any v.same
  | .emit => false

/-- Whether a change is the making of a record. -/
def Change.isEmit : Change → Bool
  | .emit => true
  | _ => false

/-- What a change makes of what its variable holds. A value that is written or appended is first
turned into the declared type. The items of an appended list count one by one if the values are
turned into types and the variable is declared a list; any other value is a single item. -/
def replayStep (m : Machine) (o : Options) (v : Key) (held : Option Value) :
    Change → Except Fault (Option Value)
  | .write _ x => do pure (some (← m.coerce o v x))
  | .erase _ => pure none
  | .extend _ x => do
    let y ← m.coerce o v x
    let items := match y with
      | .list parts =>
        if o.coerceTypes = true ∧ m.type? v = some (.str "list") then parts else [y]
      | _ => [y]
    pure (some (match held with
      | none => .list items
      | some (.list old) => .list (old ++ items)
      | some w => .list (w :: items)))
  | .emit => pure held

/-- What a variable holds after changes. -/
def replay (m : Machine) (o : Options) (v : Key) (held : Option Value) (changes : List Change) :
    Except Fault (Option Value) :=
  changes.foldlM (replayStep m o v) held

/-- The changes that bear on the record of a given number, counted from zero: those in front of
it, and, if the variables are cleared after every record, only those behind the record before. -/
def window (reset : Bool) : Nat → List Change → List Change
  | _, [] => []
  | 0, change :: rest => if change.isEmit then [] else change :: window reset 0 rest
  | k + 1, change :: rest =>
    if change.isEmit then window reset k rest
    else if reset then window reset (k + 1) rest
    else change :: window reset (k + 1) rest

/-! ## One change -/

theorem type?_congr (m : Machine) {j k : Key} (h : j.same k = true) : m.type? j = m.type? k :=
  Table.find?_congr m.types h

theorem coerce_congr (m : Machine) (o : Options) {j k : Key} (h : j.same k = true) (v : Value) :
    m.coerce o j v = m.coerce o k v := by
  rw [coerce, coerce, type?_congr m h]

theorem newItems_congr (m : Machine) (o : Options) {j k : Key} (h : j.same k = true) (v : Value) :
    m.newItems o j v = m.newItems o k v := by
  cases v with
  | list items => rw [newItems, newItems, type?_congr m h]
  | null | bool | int | float | str | object => rfl

/-- Giving a value decides what the variable holds, and leaves the others as they are. -/
theorem find?_assign {m : Machine} {o : Options} {name x : Value} {b b' : Table Value}
    (h : m.assign o name x b = .ok b') (v : Key) :
    if name.key?.any v.same then ∃ y, m.coerce o v x = .ok y ∧ Table.find? b' v = some y
    else Table.find? b' v = Table.find? b v := by
  obtain ⟨k, hk, h⟩ := bind_eq_ok.mp h
  obtain ⟨y, hy, h⟩ := bind_eq_ok.mp h
  cases h
  rw [Value.key_eq_ok.mp hk, Option.any_some, Table.find?_put]
  by_cases hv : v.same k = true
  · rw [if_pos hv, if_pos hv, coerce_congr m o hv]
    exact ⟨y, hy, rfl⟩
  · rw [if_neg hv, if_neg hv]

/-- Appending decides what the variable holds, and leaves the others as they are. -/
theorem find?_append {m : Machine} {o : Options} {name x : Value} {b b' : Table Value}
    (h : m.append o name x b = .ok b') (v : Key) :
    if name.key?.any v.same then
      ∃ y, m.coerce o v x = .ok y ∧
        Table.find? b' v = some (extended (Table.find? b v) (m.newItems o v y))
    else Table.find? b' v = Table.find? b v := by
  obtain ⟨k, hk, h⟩ := bind_eq_ok.mp h
  obtain ⟨y, hy, h⟩ := bind_eq_ok.mp h
  cases h
  rw [Value.key_eq_ok.mp hk, Option.any_some, Table.find?_put]
  by_cases hv : v.same k = true
  · rw [if_pos hv, if_pos hv, coerce_congr m o hv, Table.find?_congr b hv,
      ← newItems_congr m o hv y]
    exact ⟨y, hy, rfl⟩
  · rw [if_neg hv, if_neg hv]

/-- Removing a variable leaves it unset, and leaves the others as they are. -/
theorem find?_unset {name : Value} {b b' : Table Value} (h : unset name b = .ok b') (v : Key) :
    Table.find? b' v = if name.key?.any v.same then none else Table.find? b v := by
  rw [unset] at h
  by_cases hb : b.isEmpty = true
  · rw [if_pos hb] at h
    cases h
    rw [List.isEmpty_iff.mp hb, Table.find?_nil, ite_self]
  · rw [if_neg hb] at h
    obtain ⟨k, hk, h⟩ := bind_eq_ok.mp h
    cases h
    rw [Value.key_eq_ok.mp hk, Option.any_some, Table.find?_remove]

theorem newItems_eq (m : Machine) (o : Options) (v : Key) (y : Value) :
    m.newItems o v y =
      match y with
      | .list parts =>
        if o.coerceTypes = true ∧ m.type? v = some (.str "list") then parts else [y]
      | _ => [y] := by
  cases y with
  | list parts =>
    have hlist : (o.coerceTypes && m.type? v == some (.str "list")) = true ↔
        o.coerceTypes = true ∧ m.type? v = some (.str "list") := by
      rw [Bool.and_eq_true, beq_iff_eq]
    exact if_congr hlist rfl rfl
  | null | bool | int | float | str | object => rfl

theorem replayStep_extend {m : Machine} {o : Options} {v : Key} {x y : Value}
    (h : m.coerce o v x = .ok y) (name : Value) (held : Option Value) :
    replayStep m o v held (.extend name x) = .ok (some (extended held (m.newItems o v y))) := by
  rw [replayStep, h, ok_bind, newItems_eq]
  rfl

/-- A change that makes no record does to each variable what replaying it does, and nothing to the
variables that it is not about. -/
theorem replayStep_of_apply {m : Machine} {o : Options} {s t : Sheet} {change : Change}
    (h : s.apply m o change = .ok t) (hemit : change.isEmit = false) (v : Key) :
    if change.concerns v then
      replayStep m o v (Table.find? s.bindings v) change = .ok (Table.find? t.bindings v)
    else Table.find? t.bindings v = Table.find? s.bindings v := by
  cases change with
  | emit => cases hemit
  | write name x =>
    obtain ⟨b, hb, h⟩ := bind_eq_ok.mp h
    cases h
    have hfind := find?_assign hb v
    rw [Change.concerns]
    split
    · rename_i hv
      rw [if_pos hv] at hfind
      obtain ⟨y, hy, hfound⟩ := hfind
      rw [replayStep, hy, hfound]
      rfl
    · rename_i hv
      rwa [if_neg hv] at hfind
  | extend name x =>
    obtain ⟨b, hb, h⟩ := bind_eq_ok.mp h
    cases h
    have hfind := find?_append hb v
    rw [Change.concerns]
    split
    · rename_i hv
      rw [if_pos hv] at hfind
      obtain ⟨y, hy, hfound⟩ := hfind
      rw [replayStep_extend hy, hfound]
    · rename_i hv
      rwa [if_neg hv] at hfind
  | erase name =>
    obtain ⟨b, hb, h⟩ := bind_eq_ok.mp h
    cases h
    have hfind := find?_unset hb v
    rw [Change.concerns]
    split
    · rename_i hv
      rw [if_pos hv] at hfind
      rw [hfind]
      rfl
    · rename_i hv
      rwa [if_neg hv] at hfind

theorem records_of_apply {m : Machine} {o : Options} {s t : Sheet} {change : Change}
    (h : s.apply m o change = .ok t) (hemit : change.isEmit = false) : t.records = s.records := by
  cases change with
  | emit => cases hemit
  | write name x | extend name x | erase name =>
    obtain ⟨b, -, h⟩ := bind_eq_ok.mp h
    cases h
    rfl

/-! ## Many changes -/

/-- The changes that bear on a record are some of all changes, in their order. -/
theorem window_sublist (reset : Bool) (k : Nat) (changes : List Change) :
    (window reset k changes).Sublist changes := by
  induction changes generalizing k with
  | nil => cases k <;> exact List.Sublist.slnil
  | cons change changes ih =>
    cases k with
    | zero =>
      rw [window]
      split
      · exact List.nil_sublist _
      · exact (ih 0).cons_cons change
    | succ k =>
      rw [window]
      split
      · exact (ih k).cons change
      · split
        · exact (ih (k + 1)).cons change
        · exact (ih (k + 1)).cons_cons change

/-- What every change of a list keeps is kept by replaying them. -/
theorem replay_induction {m : Machine} {o : Options} {v : Key} {P : Option Value → Prop}
    {changes : List Change}
    (hstep : ∀ change ∈ changes, ∀ a b, P a → replayStep m o v a change = .ok b → P b)
    {a b : Option Value} (ha : P a) (h : replay m o v a changes = .ok b) : P b := by
  induction changes generalizing a with
  | nil =>
    cases h
    exact ha
  | cons change changes ih =>
    obtain ⟨hfirst, hrest⟩ := List.forall_mem_cons.mp hstep
    obtain ⟨held, hheld, h⟩ := bind_eq_ok.mp h
    exact ih hrest (hfirst a held ha hheld) h

/-- Replaying what comes behind an applied change starts from what that change left. -/
theorem replay_cons_of_apply {m : Machine} {o : Options} {s t : Sheet} {change : Change}
    (h : s.apply m o change = .ok t) (hemit : change.isEmit = false) (v : Key)
    (later : List Change) :
    replay m o v (Table.find? s.bindings v) ((change :: later).filter (·.concerns v)) =
      replay m o v (Table.find? t.bindings v) (later.filter (·.concerns v)) := by
  have hstep := replayStep_of_apply h hemit v
  by_cases hv : change.concerns v = true
  · rw [if_pos hv] at hstep
    rw [List.filter_cons, if_pos hv, replay, List.foldlM_cons, hstep, ok_bind]
    rfl
  · rw [if_neg hv] at hstep
    rw [List.filter_cons, if_neg hv, hstep]

/-- What a variable holds where the changes for a record start to count: nothing, if the variables
were cleared after the record before. -/
def heldBefore (o : Options) (s : Sheet) (k : Nat) (v : Key) : Option Value :=
  if o.resetOnEmit = true ∧ 0 < k then none else Table.find? s.bindings v

theorem heldBefore_zero (o : Options) (s : Sheet) (v : Key) :
    heldBefore o s 0 v = Table.find? s.bindings v :=
  if_neg fun h ↦ absurd h.2 (Nat.lt_irrefl 0)

/-- Behind a record, the next one is counted from zero. -/
theorem heldBefore_emit (o : Options) (s : Sheet) (k : Nat) (v : Key) :
    heldBefore o s (k + 1) v =
      heldBefore o ⟨if o.resetOnEmit then [] else s.bindings, s.records ++ [s.bindings]⟩ k v := by
  rw [heldBefore, heldBefore]
  cases o.resetOnEmit with
  | false => simp only [Bool.false_eq_true, false_and, ↓reduceIte]
  | true => simp only [Nat.zero_lt_succ, and_self, ↓reduceIte, Table.find?_nil, ite_self]

/-- The changes that bear on a record, replayed for one variable, give what the record holds. The
induction is on the changes; the sheet is the one that they start from. -/
theorem replay_of_applyAll {m : Machine} {o : Options} {s t : Sheet} {changes : List Change}
    (h : s.applyAll m o changes = .ok t) :
    ∃ made, t.records = s.records ++ made ∧ made.length = changes.countP Change.isEmit ∧
      ∀ k record, made[k]? = some record → ∀ v,
        replay m o v (heldBefore o s k v)
          ((window o.resetOnEmit k changes).filter (·.concerns v)) =
            .ok (Table.find? record v) := by
  induction changes generalizing s with
  | nil =>
    cases h
    exact ⟨[], (List.append_nil _).symm, rfl, fun k record hk ↦ by cases hk⟩
  | cons change changes ih =>
    obtain ⟨u, hu, hrest⟩ := bind_eq_ok.mp h
    obtain ⟨made, hrecords, hcount, hreplay⟩ := ih hrest
    cases hemit : change.isEmit with
    | true =>
      cases change with
      | write | extend | erase => cases hemit
      | emit =>
        cases hu
        -- The first record is the sheet as it is; the others are counted from behind it.
        refine ⟨s.bindings :: made, ?_, ?_, ?_⟩
        · rw [hrecords, List.append_assoc, List.singleton_append]
        · rw [List.length_cons, hcount, List.countP_cons_of_pos hemit]
        · intro k record hk v
          cases k with
          | zero =>
            cases hk
            rw [window, if_pos hemit, heldBefore_zero]
            rfl
          | succ k =>
            rw [window, if_pos hemit, heldBefore_emit]
            exact hreplay k record hk v
    | false =>
      have hsame := records_of_apply hu hemit
      refine ⟨made, hsame ▸ hrecords, ?_, ?_⟩
      · rw [hcount, List.countP_cons_of_neg (by rw [hemit]; decide)]
      · intro k record hk v
        have hlater := hreplay k record hk v
        have hnot : ¬ change.isEmit = true := by rw [hemit]; decide
        cases k with
        | zero =>
          rw [heldBefore_zero] at hlater ⊢
          rw [window, if_neg hnot, replay_cons_of_apply hu hemit]
          exact hlater
        | succ k =>
          rw [window, if_neg hnot]
          rw [heldBefore] at hlater ⊢
          cases hreset : o.resetOnEmit with
          | true =>
            -- Both sides start from nothing, whatever the change did.
            rw [hreset] at hlater
            simpa only [Nat.zero_lt_succ, and_self, ↓reduceIte] using hlater
          | false =>
            rw [hreset] at hlater
            simp only [Bool.false_eq_true, false_and, ↓reduceIte] at hlater ⊢
            rw [replay_cons_of_apply hu hemit]
            exact hlater

/-! ## The groups of a match -/

/-- The groups of a rule that is taken are the named groups of its pattern, by their numbers. -/
theorem names_of_mem_taken {t : Template} {m : Machine} (hm : ofTemplate t = .ok m)
    {state : Value} {lines : List String} {e : Rule × Groups} (he : e ∈ m.taken state lines) :
    e.2.map (·.1) = e.1.pattern.names.map (·.1) ∧
      (e.1.pattern.names.map (·.2)).Pairwise (· < ·) := by
  obtain ⟨name, s, line, hentry, -, hmatch⟩ := exists_of_mem_taken he
  obtain ⟨hrule, hcaptures⟩ := captures?_of_firstMatch? hmatch
  obtain ⟨k, -, hfind⟩ := Option.bind_eq_some_iff.mp hentry
  obtain ⟨state, -, source, -, index, hbuilt⟩ :=
    exists_rule_of_find?_states (built_of_ofTemplate hm) hfind hrule
  exact ⟨Regex.lawful.named hcaptures, names_of_rule hbuilt⟩

/-! ## Runs -/

/-- The records of a run, variable by variable. -/
theorem replay_of_run {m : Machine} {o : Options} {c : Config} {lines : List String}
    (h : m.run o lines = .ok c) :
    c.records.length = (m.history lines).countP Change.isEmit ∧
      ∀ k record, c.records[k]? = some record → ∀ v,
        replay m o v none ((window o.resetOnEmit k (m.history lines)).filter (·.concerns v)) =
          .ok (Table.find? record v) := by
  obtain ⟨made, hrecords, hcount, hreplay⟩ := replay_of_applyAll (run_sheet h)
  have hmade : c.records = made := by rw [← List.nil_append made]; exact hrecords
  rw [hmade]
  refine ⟨hcount, ?_⟩
  intro k record hk v
  have hnone : heldBefore o {} k v = none := by rw [heldBefore, Table.find?_nil, ite_self]
  rw [← hnone]
  exact hreplay k record hk v

end LineMachine.Machine

namespace LineMachine.Engine

open Machine (window replay)

/-- **Variables can be followed one at a time.** A run has as many records as its history has
emits, and what a record holds under a name is what replaying the changes of that name leaves,
starting from nothing: those in front of the emit of the record and, if the variables are cleared
after every record, behind the emit before it. A rule that is taken writes its named groups by
their numbers. -/
theorem find?_record {cache : Cache} {t : Template} (hsuits : Suits cache t) {text : String}
    {o : Options} {r : ParseResult} (h : (parse cache (.str text) t o).result = .ok r) :
    ∃ m, Machine.ofTemplate t = .ok m ∧
      (∀ e ∈ m.taken m.start (Text.splitLines text),
        e.2.map (·.1) = e.1.pattern.names.map (·.1) ∧
          (e.1.pattern.names.map (·.2)).Pairwise (· < ·)) ∧
      r.records.length = (m.history (Text.splitLines text)).countP Machine.Change.isEmit ∧
      ∀ k record, r.records[k]? = some record → ∀ v : Key,
        replay m o v none
          ((window o.resetOnEmit k (m.history (Text.splitLines text))).filter (·.concerns v)) =
            .ok (Table.find? record v) := by
  obtain ⟨stored, c, hcompile, hrun, rfl⟩ := parse_eq_ok h
  have hm := hsuits stored hcompile
  exact ⟨stored.machine, hm, fun e he ↦ Machine.names_of_mem_taken hm he,
    Machine.replay_of_run hrun⟩

/-- A list of ports whose group is stored under another name than its own. -/
def portsStored : Template :=
  { ports with
    states := [⟨.str "list", [
      ⟨.str "p(?<port>.)", none, some [(.str "port", .str "number")],
        [.append (.str "seen") ⟨some (.str "port"), .null⟩, .emit], none⟩]⟩] }

/-- The second record holds the second port, as replaying the writes of the number alone tells. -/
theorem find?_record_ports :
    ∃ r m record, (parse Cache.empty (.str "p1\np2\n") portsStored {}).result = .ok r ∧
      Machine.ofTemplate portsStored = .ok m ∧ r.records[1]? = some record ∧
      Table.find? record (.str "number") = some (.str "2") ∧
      replay m {} (.str "number") none ((window false 1
        (m.history (Text.splitLines "p1\np2\n"))).filter (·.concerns (.str "number"))) =
          .ok (some (.str "2")) := by
  obtain ⟨r, hr, hrecords⟩ := map_eq_ok.mp (show
    (parse Cache.empty (.str "p1\np2\n") portsStored {}).result.map ParseResult.records = .ok [
      [(.str "number", .str "1"), (.str "seen", .list [.str "1"])],
      [(.str "number", .str "2"), (.str "seen", .list [.str "1", .str "2"])]] by decide +kernel)
  have hsecond : r.records[1]? =
      some [(.str "number", .str "2"), (.str "seen", .list [.str "1", .str "2"])] := by
    rw [hrecords]
    rfl
  obtain ⟨m, hm, -, -, hrecord⟩ := find?_record (suits_empty portsStored) hr
  exact ⟨r, m, _, hr, hm, hsecond, rfl, hrecord 1 _ hsecond (.str "number")⟩

end LineMachine.Engine
