import LineMachine.Proofs.Decimal.Numeral
import LineMachine.Proofs.Run.Blind
import LineMachine.Proofs.Run.Coerced
import LineMachine.Proofs.Run.Safe

/-!
# What coercion refuses

A text that is no number stays a text, with one exception: an integer numeral of too many digits is
refused, and a run stops where a number variable is given one. Nothing else comes of turning texts
into the declared types of their variables. A run that comes to an end without it comes to an end
with it as well, unless a change in its history is refused; then it stops with the fault about the
numeral, whatever else the template holds (`Engine.parse_coerced`).

The reason is that two sheets that are alike take the same changes (`apply_of_alike`): whether a
name can be used as a key is seen in the keys alone, and those do not depend on the values. And a
numeral of too many digits is a long text, so it is in a long line or among the literals of the
template (`Engine.parse_coerced` again, its last part).
-/

namespace LineMachine

/-! ## Long numerals are long texts -/

/-- What a group captured is not longer than the line. -/
theorem Regex.Pattern.length_le_of_captures? {p : Pattern} {line : String}
    {groups : List (String × Option String)} (h : p.captures? line = some groups)
    {group : String × Option String} (hgroup : group ∈ groups) {s : String}
    (hs : group.2 = some s) : s.length ≤ line.length := by
  obtain ⟨spot, -, rfl⟩ := Option.map_eq_some_iff.mp h
  obtain ⟨⟨name, n⟩, -, rfl⟩ := List.mem_map.mp hgroup
  obtain ⟨span, -, rfl⟩ := Option.map_eq_some_iff.mp hs
  have hspan : (spanText line.toList.toArray span).length ≤ line.toList.length := by
    rw [spanText, ← String.length_toList, String.toList_ofList, Array.length_toList,
      Array.size_extract, List.size_toArray]
    omega
  rwa [String.length_toList] at hspan

namespace Machine

theorem lt_length_of_longNumeral {s : String} (h : LongNumeral s) :
    Numeral.maxDigits < s.length := by
  obtain ⟨negative, digits, hdigits, hlong⟩ := h
  have htrim : (Text.trim s.toList).length ≤ s.toList.length :=
    (Text.trim_sublist s.toList).length_le
  have hnumeral := (Numeral.integer?_eq_some_iff.mp hdigits).length_le
  rw [String.length_toList] at htrim
  omega

/-! ## Changes of sheets that are alike -/

/-- A change that was made has a scalar for its name, unless it takes a name from variables none of
which is set. -/
theorem named_of_apply {m : Machine} {o : Options} {s s' : Sheet} {change : Change}
    (h : s.apply m o change = .ok s') :
    change.Named ∨ ∃ name, change = .erase name ∧ s.bindings.isEmpty = true := by
  cases change with
  | write name v | extend name v =>
    obtain ⟨b, hb, -⟩ := bind_eq_ok.mp h
    obtain ⟨k, hk, -⟩ := bind_eq_ok.mp hb
    left
    rw [Change.Named, Value.key_eq_ok.mp hk]
    rfl
  | emit => exact .inl trivial
  | erase name =>
    by_cases hempty : s.bindings.isEmpty = true
    · exact .inr ⟨name, rfl, hempty⟩
    · obtain ⟨b, hb, -⟩ := bind_eq_ok.mp h
      rw [unset, if_neg hempty] at hb
      obtain ⟨k, hk, -⟩ := bind_eq_ok.mp hb
      left
      rw [Change.Named, Value.key_eq_ok.mp hk]
      rfl

/-- A change that was made to one sheet can be made to one that is alike, unless it is refused. -/
theorem apply_of_alike {m : Machine} {o o' : Options} {s t s' : Sheet} {change : Change}
    (halike : Alike s t) (h : s.apply m o change = .ok s') (hok : ¬ change.Refused m o') :
    ∃ t', t.apply m o' change = .ok t' := by
  rcases named_of_apply h with hnamed | ⟨name, rfl, hempty⟩
  · exact apply_of_named hnamed hok t
  · rw [Table.isEmpty_congr halike.bindings] at hempty
    rw [Sheet.apply, unset, if_pos hempty]
    exact ⟨_, rfl⟩

variable {m : Machine} {o o' : Options}

/-- Changes that were made to one sheet can be made to one that is alike, as long as none is
refused; the first one that is refused stops them. -/
theorem applyAll_of_alike (hreset : o.resetOnEmit = o'.resetOnEmit) {changes : List Change}
    {s t s' : Sheet} (halike : Alike s t) (h : s.applyAll m o changes = .ok s') :
    ((∃ change ∈ changes, change.Refused m o') → t.applyAll m o' changes = .error .longNumeral) ∧
      ((¬ ∃ change ∈ changes, change.Refused m o') → ∃ t', t.applyAll m o' changes = .ok t') := by
  induction changes generalizing s t with
  | nil =>
    refine ⟨?_, fun _ ↦ ⟨t, rfl⟩⟩
    rintro ⟨change, hchange, -⟩
    cases hchange
  | cons change changes ih =>
    obtain ⟨u, hu, hrest⟩ := bind_eq_ok.mp h
    rw [Sheet.applyAll_cons]
    by_cases hrefused : change.Refused m o'
    · rw [apply_of_refused hrefused, error_bind]
      exact ⟨fun _ ↦ rfl, fun hnone ↦ absurd ⟨change, List.mem_cons_self, hrefused⟩ hnone⟩
    · obtain ⟨w, hw⟩ := apply_of_alike halike hu hrefused
      rw [hw, ok_bind, List.exists_mem_cons_iff, or_iff_right hrefused]
      exact ih (alike_apply hreset halike hu hw) hrest

/-- A run that comes to an end does so under other options, unless a change in its history is
refused; then it is stopped by that. -/
theorem run_of_run (hreset : o.resetOnEmit = o'.resetOnEmit) {lines : List String} {c : Config}
    (h : m.run o lines = .ok c) :
    ((∃ change ∈ m.history lines, change.Refused m o') → m.run o' lines = .error .longNumeral) ∧
      ((¬ ∃ change ∈ m.history lines, change.Refused m o') → ∃ d, m.run o' lines = .ok d) := by
  obtain ⟨hstopped, hended⟩ := applyAll_of_alike (s := {}) (t := {}) hreset ⟨rfl, rfl⟩ (run_sheet h)
  rw [run_eq_applyAll h o']
  constructor
  · intro hrefused
    rw [hstopped hrefused]
    rfl
  · intro hnone
    obtain ⟨t, ht⟩ := hended hnone
    rw [ht]
    exact ⟨_, rfl⟩

/-- Where the lines are short, and so are the numerals among the literals for number variables,
nothing is refused. -/
theorem not_refused_of_short {t : Template} (hm : ofTemplate t = .ok m) {lines : List String}
    (hlines : ∀ line ∈ lines, line.length ≤ Numeral.maxDigits)
    (hliterals : ∀ v, t.typeOf? v = some (.str "number") →
      ∀ s, .str s ∈ t.literalsFor v → ¬ LongNumeral s) :
    ¬ ∃ change ∈ m.history lines, change.Refused m o' := by
  rintro ⟨change, hchange, hrefused⟩
  obtain ⟨k, s, hconcerns, hvalue, htype, hlong⟩ : ∃ k s, change.concerns k = true ∧
      change.value? = some (.str s) ∧ m.type? k = some (.str "number") ∧ LongNumeral s := by
    cases change with
    | erase name | emit => cases hrefused
    | write name x | extend name x =>
      obtain ⟨k, hk, -, htype, s, rfl, hlong⟩ := hrefused
      refine ⟨k, s, ?_, rfl, htype, hlong⟩
      rw [Change.concerns, hk, Option.any_some]
      exact Key.same_self k
  rw [type?_of_ofTemplate hm] at htype
  rcases value_of_mem_history hm hchange hconcerns hvalue with
    hnull | ⟨e, htaken, group, hgroup, found, hfound, hs⟩ | hliteral
  · cases hnull
  · cases hs
    obtain ⟨-, state, line, -, hline, hmatch⟩ := exists_of_mem_taken htaken
    obtain ⟨-, hcaptures⟩ := captures?_of_firstMatch? hmatch
    have hcaptured := Regex.Pattern.length_le_of_captures? hcaptures hgroup hfound
    have hshort := hlines line hline
    have hnumeral := lt_length_of_longNumeral hlong
    omega
  · exact hliterals k htype s hliteral hlong

end Machine

namespace Coercion

/-- A text that is refused is one for a number variable, and a numeral of too many digits. -/
theorem exists_coerce_str_iff {s : String} {type : Option Value} :
    (∃ y, coerce (.str s) type = .ok y) ↔
      ¬ (type = some (.str "number") ∧ Machine.LongNumeral s) := by
  rw [coerce]
  by_cases hnumber : type = some (.str "number")
  · rw [if_pos hnumber, and_iff_right hnumber]
    constructor
    · rintro ⟨y, hy⟩ hlong
      cases hy.symm.trans (Machine.toNumber_of_long hlong)
    · exact Machine.toNumber_of_not_long
  · rw [if_neg hnumber]
    refine iff_of_true ?_ fun h ↦ hnumber h.1
    split <;> exact ⟨_, rfl⟩

/-- What comes of a text: a number or the text itself where numbers are wanted, the list of its
pieces where lists are, and the text itself everywhere else. -/
theorem coerce_str_eq_ok {s : String} {type : Option Value} {y : Value}
    (h : coerce (.str s) type = .ok y) :
    (type = some (.str "number") ∧ ((∃ n, y = .int n) ∨ (∃ d, y = .float d) ∨ y = .str s)) ∨
      (type = some (.str "list") ∧ y = .list (toList s)) ∨
      (type ≠ some (.str "number") ∧ type ≠ some (.str "list") ∧ y = .str s) := by
  rw [coerce] at h
  split at h
  · rename_i hnumber
    exact .inl ⟨hnumber, toNumber_eq_ok h⟩
  split at h
  · rename_i hlist
    exact .inr (.inl ⟨hlist, (Except.ok.inj h).symm⟩)
  · rename_i hnumber hlist
    exact .inr (.inr ⟨hnumber, hlist, (Except.ok.inj h).symm⟩)

end Coercion

namespace Engine

/-! ## A numeral that is refused -/

/-- An integer numeral of one digit too many. -/
def longOnes : String :=
  String.ofList (List.replicate (Numeral.maxDigits + 1) '1')

theorem longNumeral_longOnes : Machine.LongNumeral longOnes := by
  have hblank : ∀ c ∈ List.replicate (Numeral.maxDigits + 1) '1', Text.isBlank c = false :=
    List.forall_mem_replicate.mpr (.inr (by decide))
  have hdigits : Numeral.isDigits (List.replicate (Numeral.maxDigits + 1) '1') = true := by
    rw [Numeral.isDigits, List.replicate_succ, List.isEmpty_cons, ← List.replicate_succ,
      List.all_replicate]
    rfl
  have htrim : Text.trim (List.replicate (Numeral.maxDigits + 1) '1') =
      List.replicate (Numeral.maxDigits + 1) '1' :=
    Text.trim_eq_self hblank
  have hsign : Numeral.takeSign (List.replicate (Numeral.maxDigits + 1) '1') =
      (false, List.replicate (Numeral.maxDigits + 1) '1') := by
    rw [List.replicate_succ]
    rfl
  refine ⟨false, List.replicate (Numeral.maxDigits + 1) '1', ?_, ?_⟩
  · rw [longOnes, String.toList_ofList, htrim, Numeral.integer?, hsign]
    exact if_pos hdigits
  · rw [List.length_replicate]
    exact Nat.lt_succ_self _

/-- The list of ports, with a heading that gives the port a text. -/
def portsGiven (s : String) : Template :=
  { ports with
    states := [⟨.str "heading", [
      ⟨.str "ports", none, none, [.set (.str "port") ⟨none, .str s⟩, .emit], none⟩]⟩] }

/-- Whatever the text is, its machine gives it to a number variable where the heading is. -/
theorem history_portsGiven (s : String) :
    ∃ m, Machine.ofTemplate (portsGiven s) = .ok m ∧
      m.history ["ports"] = [.write (.str "port") (.str s), .emit] ∧
      m.type? (.str "port") = some (.str "number") :=
  ⟨_, rfl, rfl, rfl⟩

theorem refused_portsGiven {s : String} (hlong : Machine.LongNumeral s) {m : Machine}
    (hm : Machine.ofTemplate (portsGiven s) = .ok m) :
    ∃ change ∈ m.history (Text.splitLines "ports\n"),
      change.Refused m { coerceTypes := true } := by
  obtain ⟨built, hbuilt, hhistory, htype⟩ := history_portsGiven s
  cases hm.symm.trans hbuilt
  have hlines : Text.splitLines "ports\n" = ["ports"] := by decide +kernel
  rw [hlines, hhistory]
  exact ⟨_, List.mem_cons_self, .str "port", rfl, rfl, htype, s, rfl, hlong⟩

/-- With texts left as they are, the text is taken for what it is. -/
theorem exists_parse_portsGiven (s : String) :
    ∃ r, (parse Cache.empty (.str "ports\n") (portsGiven s) { coerceTypes := false }).result =
      .ok r :=
  ⟨_, rfl⟩

/-! ## Results -/

/-- **What coercion can stop.** A text is refused only as an integer numeral of too many digits for
a number variable. Otherwise it becomes a number or a list, as its variable is declared, or stays as
it is. Let a run come to an end with texts left as they are. With texts turned into types it is
stopped by such a numeral if its history gives one to a number variable, and it comes to an end if
not. There is none in the history if no line of the text is long enough for it, and no literal for a
number variable is one. -/
theorem parse_coerced (s : String) (type : Option Value) (cache : Cache) (t : Template)
    (text : String) (o : Options) :
    ((∃ y, Coercion.coerce (.str s) type = .ok y) ↔
        ¬ (type = some (.str "number") ∧ Machine.LongNumeral s)) ∧
      (∀ y, Coercion.coerce (.str s) type = .ok y →
        (type = some (.str "number") ∧ ((∃ n, y = .int n) ∨ (∃ d, y = .float d) ∨ y = .str s)) ∨
          (type = some (.str "list") ∧ y = .list (Coercion.toList s)) ∨
          (type ≠ some (.str "number") ∧ type ≠ some (.str "list") ∧ y = .str s)) ∧
      ∀ r, Suits cache t →
        (parse cache (.str text) t { o with coerceTypes := false }).result = .ok r →
        ∃ m, Machine.ofTemplate t = .ok m ∧
          ((∃ change ∈ m.history (Text.splitLines text),
              change.Refused m { o with coerceTypes := true }) →
            (parse cache (.str text) t { o with coerceTypes := true }).result =
              .error .longNumeral) ∧
          ((¬ ∃ change ∈ m.history (Text.splitLines text),
              change.Refused m { o with coerceTypes := true }) →
            ∃ r', (parse cache (.str text) t { o with coerceTypes := true }).result = .ok r') ∧
          ((∀ line ∈ Text.splitLines text, line.length ≤ Numeral.maxDigits) →
            (∀ v, t.typeOf? v = some (.str "number") →
              ∀ literal, .str literal ∈ t.literalsFor v → ¬ Machine.LongNumeral literal) →
            ∃ r', (parse cache (.str text) t { o with coerceTypes := true }).result = .ok r') := by
  refine ⟨Coercion.exists_coerce_str_iff, fun y ↦ Coercion.coerce_str_eq_ok, ?_⟩
  intro r hsuits h
  obtain ⟨stored, c, hcompile, hrun, -⟩ := parse_eq_ok h
  have hm := hsuits stored hcompile
  have hresult := parse_result hcompile text { o with coerceTypes := true }
  have hreset : ({ o with coerceTypes := false } : Options).resetOnEmit =
      ({ o with coerceTypes := true } : Options).resetOnEmit := rfl
  obtain ⟨hstopped, hended⟩ := Machine.run_of_run hreset hrun
  have hreturns : (¬ ∃ change ∈ stored.machine.history (Text.splitLines text),
      change.Refused stored.machine { o with coerceTypes := true }) →
        ∃ r', (parse cache (.str text) t { o with coerceTypes := true }).result = .ok r' := by
    intro hnone
    obtain ⟨d, hd⟩ := hended hnone
    rw [hresult, hd]
    exact ⟨_, rfl⟩
  refine ⟨stored.machine, hm, ?_, hreturns, ?_⟩
  · intro hrefused
    rw [hresult, hstopped hrefused]
    rfl
  · intro hlines hliterals
    exact hreturns (Machine.not_refused_of_short hm hlines hliterals)

/-- In a list of ports nothing is refused: its lines are short, and it gives no variable a literal.
If the heading gives the port a numeral that is too long, the run stops there. -/
theorem parse_coerced_ports :
    (∃ r, (parse Cache.empty (.str "ports\np1\n") ports { coerceTypes := false }).result = .ok r) ∧
      (∀ line ∈ Text.splitLines "ports\np1\n", line.length ≤ Numeral.maxDigits) ∧
      (∀ v, ports.literalsFor v = []) ∧
      (∃ r, (parse Cache.empty (.str "ports\np1\n") ports { coerceTypes := true }).result =
        .ok r) ∧
      (∃ r, (parse Cache.empty (.str "ports\n") (portsGiven longOnes)
        { coerceTypes := false }).result = .ok r) ∧
      (parse Cache.empty (.str "ports\n") (portsGiven longOnes) { coerceTypes := true }).result =
        .error .longNumeral := by
  obtain ⟨r, hr⟩ : ∃ r, (parse Cache.empty (.str "ports\np1\n") ports
      { coerceTypes := false }).result = .ok r := ⟨_, rfl⟩
  have hlines : ∀ line ∈ Text.splitLines "ports\np1\n", line.length ≤ Numeral.maxDigits := by
    decide +kernel
  have hliterals : ∀ v, ports.literalsFor v = [] := fun v ↦ rfl
  obtain ⟨-, -, hruns⟩ :=
    parse_coerced "p1" (some (.str "number")) Cache.empty ports "ports\np1\n" {}
  obtain ⟨-, -, -, -, hreturns⟩ := hruns r (suits_empty ports) hr
  obtain ⟨r', hr'⟩ := exists_parse_portsGiven longOnes
  obtain ⟨-, -, hruns'⟩ := parse_coerced longOnes (some (.str "number")) Cache.empty
    (portsGiven longOnes) "ports\n" {}
  obtain ⟨m, hm, hstopped, -⟩ := hruns' r' (suits_empty _) hr'
  refine ⟨⟨r, hr⟩, hlines, hliterals, hreturns hlines fun v _ s hs ↦ ?_, ⟨r', hr'⟩,
    hstopped (refused_portsGiven longNumeral_longOnes hm)⟩
  rw [hliterals v] at hs
  cases hs

theorem parse_portsGiven {s : String} (hlong : Machine.LongNumeral s) :
    Coercion.coerce (.str s) (some (.str "number")) = .error .longNumeral ∧
      (∃ m, Machine.ofTemplate (portsGiven s) = .ok m) ∧
      (∃ r, (parse Cache.empty (.str "ports\n") (portsGiven s)
        { coerceTypes := false }).result = .ok r) ∧
      (parse Cache.empty (.str "ports\n") (portsGiven s) { coerceTypes := true }).result =
        .error .longNumeral := by
  obtain ⟨r, hr⟩ := exists_parse_portsGiven s
  obtain ⟨stored, c, hcompile, hrun, -⟩ := parse_eq_ok hr
  have hm := suits_empty _ stored hcompile
  have hreset : ({ coerceTypes := false } : Options).resetOnEmit =
      ({ coerceTypes := true } : Options).resetOnEmit := rfl
  refine ⟨?_, ⟨_, hm⟩, ⟨r, hr⟩, ?_⟩
  · rw [Coercion.coerce, if_pos rfl, Machine.toNumber_of_long hlong]
  · rw [parse_result hcompile,
      (Machine.run_of_run hreset hrun).1 (refused_portsGiven hlong hm)]
    rfl

/-- The numeral is refused where a text is turned into a number, and a run that gives it to a number
variable stops, although it comes to an end with texts left as they are. -/
theorem not_coerced_longOnes :
    Coercion.coerce (.str longOnes) (some (.str "number")) = .error .longNumeral ∧
      (∃ m, Machine.ofTemplate (portsGiven longOnes) = .ok m) ∧
      (∃ r, (parse Cache.empty (.str "ports\n") (portsGiven longOnes)
        { coerceTypes := false }).result = .ok r) ∧
      (parse Cache.empty (.str "ports\n") (portsGiven longOnes) { coerceTypes := true }).result =
        .error .longNumeral :=
  parse_portsGiven longNumeral_longOnes

end Engine

end LineMachine
