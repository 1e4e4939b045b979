import LineMachine.Proofs.Run.Course
import LineMachine.Proofs.Run.Replay

/-!
# Runs are blind to declared types

Turning texts into the declared types of their variables changes values and nothing else
(`coercion_noninterference`). A run takes the same course with it and without it, and its records
have the same keys in the same order, although the two runs hold numbers against texts and lists
of different lengths. What a variable holds that is declared neither a number nor a list is the
same in both.

The keys are followed for all variables at once, since their order depends on all of them: two
sheets stay *alike* when the same change is applied to both (`alike_apply`). The values are
followed one variable at a time, by replaying: for a variable of no such type, the option makes no
difference to what a change does (`replayStep_of_untyped`).
-/

namespace LineMachine.Machine

/-! ## Keys -/

/-- Holds of sheets whose variables and records have the same keys, in the same order. -/
structure Alike (s t : Sheet) : Prop where
  bindings : Table.keys s.bindings = Table.keys t.bindings
  records : s.records.map Table.keys = t.records.map Table.keys

/-- Holds of a sheet that is left when some value is put under a name. -/
def PutUnder (name : Value) (s s' : Sheet) : Prop :=
  ∃ k y, name.key? = some k ∧ s' = { s with bindings := Table.put s.bindings k y }

theorem putUnder_of_write {m : Machine} {o : Options} {name x : Value} {s s' : Sheet}
    (h : s.apply m o (.write name x) = .ok s') : PutUnder name s s' := by
  obtain ⟨b, hb, h⟩ := bind_eq_ok.mp h
  obtain ⟨k, hk, hb⟩ := bind_eq_ok.mp hb
  obtain ⟨y, -, hb⟩ := bind_eq_ok.mp hb
  cases hb
  exact ⟨k, y, Value.key_eq_ok.mp hk, (pure_eq_ok.mp h).symm⟩

theorem putUnder_of_extend {m : Machine} {o : Options} {name x : Value} {s s' : Sheet}
    (h : s.apply m o (.extend name x) = .ok s') : PutUnder name s s' := by
  obtain ⟨b, hb, h⟩ := bind_eq_ok.mp h
  obtain ⟨k, hk, hb⟩ := bind_eq_ok.mp hb
  obtain ⟨y, -, hb⟩ := bind_eq_ok.mp hb
  cases hb
  exact ⟨k, _, Value.key_eq_ok.mp hk, (pure_eq_ok.mp h).symm⟩

/-- Which values are put under a name does not show in the keys. -/
theorem alike_put {name : Value} {s t s' t' : Sheet} (h : Alike s t) (hs : PutUnder name s s')
    (ht : PutUnder name t t') : Alike s' t' := by
  obtain ⟨k, y, hk, rfl⟩ := hs
  obtain ⟨j, z, hj, rfl⟩ := ht
  cases hk.symm.trans hj
  exact ⟨Table.keys_put_congr h.bindings k y z, h.records⟩

/-- Variables of the same keys have the same keys after one of them was removed from both. -/
theorem keys_unset_congr {name : Value} {b c b' c' : Table Value}
    (hkeys : Table.keys b = Table.keys c) (hb : unset name b = .ok b')
    (hc : unset name c = .ok c') : Table.keys b' = Table.keys c' := by
  rw [unset] at hb hc
  by_cases hempty : b.isEmpty = true
  · rw [if_pos hempty] at hb
    rw [if_pos (Table.isEmpty_congr hkeys ▸ hempty)] at hc
    cases hb
    cases hc
    exact hkeys
  · rw [if_neg hempty] at hb
    rw [if_neg (Table.isEmpty_congr hkeys ▸ hempty)] at hc
    obtain ⟨k, hk, hb⟩ := bind_eq_ok.mp hb
    obtain ⟨j, hj, hc⟩ := bind_eq_ok.mp hc
    cases hk.symm.trans hj
    cases hb
    cases hc
    rw [Table.keys_remove, Table.keys_remove, hkeys]

/-- Sheets that are alike stay alike when the same change is applied to both, whether or not texts
are turned into types. -/
theorem alike_apply {m : Machine} {o o' : Options} (hreset : o.resetOnEmit = o'.resetOnEmit)
    {s t s' t' : Sheet} {change : Change} (h : Alike s t) (hs : s.apply m o change = .ok s')
    (ht : t.apply m o' change = .ok t') : Alike s' t' := by
  cases change with
  | write name x => exact alike_put h (putUnder_of_write hs) (putUnder_of_write ht)
  | extend name x => exact alike_put h (putUnder_of_extend hs) (putUnder_of_extend ht)
  | erase name =>
    obtain ⟨b, hb, hs⟩ := bind_eq_ok.mp hs
    obtain ⟨c, hc, ht⟩ := bind_eq_ok.mp ht
    cases hs
    cases ht
    exact ⟨keys_unset_congr h.bindings hb hc, h.records⟩
  | emit =>
    cases hs
    cases ht
    constructor
    · rw [hreset]
      cases o'.resetOnEmit with
      | true => rfl
      | false => exact h.bindings
    · simp only [List.map_append, List.map_cons, List.map_nil, h.records, h.bindings]

theorem alike_applyAll {m : Machine} {o o' : Options} (hreset : o.resetOnEmit = o'.resetOnEmit)
    {changes : List Change} {s t s' t' : Sheet} (h : Alike s t)
    (hs : s.applyAll m o changes = .ok s') (ht : t.applyAll m o' changes = .ok t') :
    Alike s' t' := by
  induction changes generalizing s t with
  | nil =>
    cases hs
    cases ht
    exact h
  | cons change changes ih =>
    obtain ⟨u, hu, hs⟩ := bind_eq_ok.mp hs
    obtain ⟨w, hw, ht⟩ := bind_eq_ok.mp ht
    exact ih (alike_apply hreset h hu hw) hs ht

/-! ## Values of other types -/

/-- A variable that is declared neither a number nor a list takes values as they are. -/
theorem coerce_of_untyped {m : Machine} {v : Key} (hnumber : m.type? v ≠ some (.str "number"))
    (hlist : m.type? v ≠ some (.str "list")) (o : Options) (x : Value) :
    m.coerce o v x = .ok x := by
  have hplain : Coercion.coerce x (m.type? v) = .ok x := by
    cases x with
    | str s => rw [Coercion.coerce, if_neg hnumber, if_neg hlist]
    | null | bool | int | float | list | object => rfl
  rw [coerce, hplain, ite_self]

/-- For such a variable no option makes a difference to what a change does. -/
theorem replayStep_of_untyped {m : Machine} {v : Key} (hnumber : m.type? v ≠ some (.str "number"))
    (hlist : m.type? v ≠ some (.str "list")) (o o' : Options) :
    replayStep m o v = replayStep m o' v := by
  funext held change
  cases change with
  | emit | erase name => rfl
  | write name x =>
    rw [replayStep, replayStep, coerce_of_untyped hnumber hlist, coerce_of_untyped hnumber hlist]
  | extend name x =>
    rw [replayStep, replayStep, coerce_of_untyped hnumber hlist, coerce_of_untyped hnumber hlist]
    simp only [hlist, and_false, if_false]

/-- Such a variable holds the same in all records of two runs that differ in other options than
clearing the variables. -/
theorem map_find?_of_run {m : Machine} {o o' : Options} (hreset : o.resetOnEmit = o'.resetOnEmit)
    {lines : List String} {c d : Config} (hc : m.run o lines = .ok c) (hd : m.run o' lines = .ok d)
    {v : Key} (hnumber : m.type? v ≠ some (.str "number"))
    (hlist : m.type? v ≠ some (.str "list")) :
    c.records.map (Table.find? · v) = d.records.map (Table.find? · v) := by
  obtain ⟨hlength, hrecord⟩ := replay_of_run hc
  obtain ⟨hlength', hrecord'⟩ := replay_of_run hd
  refine List.ext_getElem ?_ fun k hk hk' ↦ ?_
  · rw [List.length_map, List.length_map, hlength, hlength']
  · rw [List.length_map] at hk hk'
    rw [List.getElem_map, List.getElem_map]
    -- Both records are replayed from the same changes, by the same steps.
    have hleft := hrecord k _ (List.getElem?_eq_getElem hk) v
    have hright := hrecord' k _ (List.getElem?_eq_getElem hk') v
    rw [replay, hreset, replayStep_of_untyped hnumber hlist o o'] at hleft
    exact Except.ok.inj (hleft.symm.trans hright)

end LineMachine.Machine

namespace LineMachine.Engine

/-- **Turning texts into types changes nothing else.** Let a run over a text come to an end both
with texts turned into the declared types of their variables and with texts left as they are. The
two results have the same trace, the same counts, the same message, and as many records; their
records have the same keys in the same order; and a variable that is declared neither a number nor
a list, or not at all, holds the same in both. -/
theorem coercion_noninterference {cache : Cache} {t : Template} (hsuits : Suits cache t)
    {text : String} {o : Options} {r s : ParseResult}
    (hr : (parse cache (.str text) t { o with coerceTypes := true }).result = .ok r)
    (hs : (parse cache (.str text) t { o with coerceTypes := false }).result = .ok s) :
    r.SameCourse s ∧ r.records.map Table.keys = s.records.map Table.keys ∧
      ∀ v : Key, t.typeOf? v ≠ some (.str "number") → t.typeOf? v ≠ some (.str "list") →
        r.records.map (Table.find? · v) = s.records.map (Table.find? · v) := by
  obtain ⟨stored, c, hcompile, hc, rfl⟩ := parse_eq_ok hr
  obtain ⟨stored', d, hcompile', hd, rfl⟩ := parse_eq_ok hs
  cases hcompile.symm.trans hcompile'
  have halike := Machine.alike_applyAll (by rfl) ⟨rfl, rfl⟩ (Machine.run_sheet hc)
    (Machine.run_sheet hd)
  have hkeys : c.records.map Table.keys = d.records.map Table.keys := halike.records
  have hcount : c.records.length = d.records.length := by
    rw [← List.length_map (f := Table.keys), hkeys, List.length_map]
  refine ⟨Machine.sameCourse_of_run hc hd t rfl hcount, hkeys, fun v hnumber hlist ↦ ?_⟩
  rw [← Machine.type?_of_ofTemplate (hsuits stored hcompile)] at hnumber hlist
  exact Machine.map_find?_of_run (by rfl) hc hd hnumber hlist

/-- In a list of ports the port is a number or a text, and what was seen is the same. -/
theorem coercion_noninterference_ports :
    ∃ r s,
      (parse Cache.empty (.str "ports\np1\n") ports { coerceTypes := true }).result = .ok r ∧
      (parse Cache.empty (.str "ports\np1\n") ports { coerceTypes := false }).result = .ok s ∧
      r.records = [[(.str "port", .int 1), (.str "seen", .list [.str "1"])]] ∧
      r.SameCourse s ∧ r.records.map Table.keys = s.records.map Table.keys ∧
      r.records.map (Table.find? · (.str "seen")) =
        s.records.map (Table.find? · (.str "seen")) := by
  obtain ⟨r, hr, hrecords⟩ := map_eq_ok.mp (show
    (parse Cache.empty (.str "ports\np1\n") ports { coerceTypes := true }).result.map
      ParseResult.records = .ok [[(.str "port", .int 1), (.str "seen", .list [.str "1"])]] by
    decide +kernel)
  obtain ⟨s, hs⟩ : ∃ s,
      (parse Cache.empty (.str "ports\np1\n") ports { coerceTypes := false }).result = .ok s :=
    ⟨_, rfl⟩
  obtain ⟨hcourse, hkeys, hvalues⟩ :=
    coercion_noninterference (suits_empty ports) (o := {}) hr hs
  exact ⟨r, s, hr, hs, hrecords, hcourse, hkeys,
    hvalues (.str "seen") (by decide) (by decide)⟩

end LineMachine.Engine
