import LineMachine.Proofs.Coercion
import LineMachine.Proofs.Run.Course
import LineMachine.Proofs.Run.Replay

/-!
# Coerced records

Where texts are turned into the declared types of their variables, the records hold nothing that
could still be turned (`coerced_records`): writes store what came of coercion, and appends store
lists, which coercion leaves alone. Moreover lists do not nest. A variable that is declared a list
and whose literals are scalars holds a scalar other than a text, or a list of scalars whose texts
are tidy.

Both are kept by every change that bears on the variable, so they follow by replaying. For the
second one the values of the changes have to be scalars (`scalar_of_mem_history`): they were
captured, or they are literals of the template.
-/

namespace LineMachine

/-! ## Flat values -/

/-- Holds of the scalars, except for texts that are not tidy. -/
def Value.IsFlatItem : Value → Prop
  | .null | .bool _ | .int _ | .float _ => True
  | .str s => Coercion.Tidy s.toList
  | .list _ | .object _ => False

/-- Holds of a scalar that is no text, and of a list of scalars whose texts are tidy. -/
def Value.IsFlat : Value → Prop
  | .null | .bool _ | .int _ | .float _ => True
  | .list items => ∀ x ∈ items, x.IsFlatItem
  | .str _ | .object _ => False

/-! ## Literals -/

/-- The literal that an action gives to the variable of a name, or appends to it. -/
def Action.literalFor? (v : Key) : Action → Option Value
  | .set name operand | .append name operand =>
    if operand.group.isNone && name.key?.any v.same then some operand.literal else none
  | .emit | .clear _ => none

/-- The literals that a template gives to the variable of a name, or appends to it. -/
def Template.literalsFor (t : Template) (v : Key) : List Value :=
  t.states.flatMap fun s ↦ s.rules.flatMap fun r ↦ r.actions.filterMap (·.literalFor? v)

theorem Template.mem_literalsFor {t : Template} {s : State} (hs : s ∈ t.states) {r : Rule}
    (hr : r ∈ s.rules) {a : Action} (ha : a ∈ r.actions) {v : Key} {y : Value}
    (h : a.literalFor? v = some y) : y ∈ t.literalsFor v :=
  List.mem_flatMap.mpr ⟨s, hs, List.mem_flatMap.mpr ⟨r, hr, List.mem_filterMap.mpr ⟨a, ha, h⟩⟩⟩

namespace Machine

/-! ## Values of changes -/

/-- The value that a change carries, if any. -/
def Change.value? : Change → Option Value
  | .write _ x | .extend _ x => some x
  | .erase _ | .emit => none

/-- What an operand stands for is null, or a text that a group captured, or the literal of an
operand without a group. -/
theorem meaning_cases (groups : Groups) (operand : Operand) :
    meaning groups operand = .null ∨
      (∃ group ∈ groups, ∃ s, group.2 = some s ∧ meaning groups operand = .str s) ∨
      operand.group = none ∧ meaning groups operand = operand.literal := by
  obtain ⟨group, literal⟩ := operand
  rcases group with - | name
  · exact .inr (.inr ⟨rfl, rfl⟩)
  · cases name with
    | null | bool | int | float | list | object => exact .inl rfl
    | str name =>
      have hmeaning : meaning groups ⟨some (.str name), literal⟩ =
          captured (groups.lookup name).join := rfl
      rw [hmeaning]
      rcases hfound : (groups.lookup name).join with - | s
      · exact .inl rfl
      · obtain ⟨before, after, rfl, -⟩ :=
          List.lookup_eq_some_iff.mp (Option.join_eq_some_iff.mp hfound)
        exact .inr (.inl
          ⟨(name, some s), List.mem_append_right before List.mem_cons_self, s, rfl, rfl⟩)

/-- The change of an action that is about a variable carries null, or a text that a group captured,
or a literal for the variable. -/
theorem value_of_action {groups : Groups} {a : Action} {v : Key}
    (hv : (changeOf groups a).concerns v = true) {x : Value}
    (hx : (changeOf groups a).value? = some x) :
    x = .null ∨ (∃ group ∈ groups, ∃ s, group.2 = some s ∧ x = .str s) ∨
      a.literalFor? v = some x := by
  cases a with
  | emit | clear name => cases hx
  | set name operand | append name operand =>
    cases hx
    refine (meaning_cases groups operand).imp_right (Or.imp_right ?_)
    rintro ⟨hgroup, hliteral⟩
    rw [hliteral, Action.literalFor?, hgroup, Option.isNone_none, Bool.true_and]
    exact if_pos hv

/-- **Where the values of a run come from.** What is written to a variable, or appended to it, is
null, or a text that a group of a matched rule captured, or a literal of the template for the
variable. -/
theorem value_of_mem_history {t : Template} {m : Machine} (hm : ofTemplate t = .ok m) {v : Key}
    {lines : List String} {change : Change} (hchange : change ∈ m.history lines)
    (hv : change.concerns v = true) {x : Value} (hx : change.value? = some x) :
    x = .null ∨
      (∃ e ∈ m.taken m.start lines, ∃ group ∈ e.2, ∃ s, group.2 = some s ∧ x = .str s) ∨
      x ∈ t.literalsFor v := by
  obtain ⟨e, htaken, hmem⟩ := List.mem_flatMap.mp hchange
  rcases List.mem_append.mp hmem with hmem | hmem
  · obtain ⟨group, hgroup, rfl⟩ := List.mem_map.mp hmem
    cases hx
    rcases hcapture : group.2 with - | s
    · exact .inl rfl
    · exact .inr (.inl ⟨e, htaken, group, hgroup, s, hcapture, rfl⟩)
  · obtain ⟨a, ha, rfl⟩ := List.mem_map.mp hmem
    refine (value_of_action hv hx).imp_right (Or.imp ?_ ?_)
    · intro hcaptured
      exact ⟨e, htaken, hcaptured⟩
    · intro hliteral
      obtain ⟨s, hs, source, hsource, -, hactions⟩ := exists_source_of_mem_taken hm htaken
      exact Template.mem_literalsFor hs hsource (hactions ▸ ha) hliteral

/-- If the literals for a variable are scalars, then so are all values that a run writes or appends
to it. -/
theorem scalar_of_mem_history {t : Template} {m : Machine} (hm : ofTemplate t = .ok m) {v : Key}
    (hliterals : ∀ y ∈ t.literalsFor v, y.key?.isSome = true) {lines : List String}
    {change : Change} (hchange : change ∈ m.history lines) (hv : change.concerns v = true)
    {x : Value} (hx : change.value? = some x) : x.key?.isSome = true := by
  rcases value_of_mem_history hm hchange hv hx with rfl | ⟨-, -, -, -, s, -, rfl⟩ | hliteral
  · rfl
  · rfl
  · exact hliterals x hliteral

/-! ## One change -/

/-- Holds when coercion leaves alone what a variable holds. -/
def Settled (type : Option Value) (held : Option Value) : Prop :=
  ∀ x, held = some x → Coercion.coerce x type = .ok x

theorem coerce_of_coerceTypes {o : Options} (h : o.coerceTypes = true) (m : Machine) (v : Key)
    (x : Value) : m.coerce o v x = Coercion.coerce x (m.type? v) :=
  if_pos h

theorem exists_extended (held : Option Value) (items : List Value) :
    ∃ all, extended held items = .list all := by
  cases held with
  | none => exact ⟨_, rfl⟩
  | some w =>
    cases w with
    | list old => exact ⟨_, rfl⟩
    | null | bool | int | float | str | object => exact ⟨_, rfl⟩

theorem settled_of_replayStep {m : Machine} {o : Options} (hcoerce : o.coerceTypes = true) {v : Key}
    {a b : Option Value} {change : Change} (ha : Settled (m.type? v) a)
    (h : replayStep m o v a change = .ok b) : Settled (m.type? v) b := by
  cases change with
  | emit =>
    cases h
    exact ha
  | erase name =>
    cases h
    intro x hx
    cases hx
  | write name x =>
    obtain ⟨y, hy, h⟩ := bind_eq_ok.mp h
    cases h
    rw [coerce_of_coerceTypes hcoerce] at hy
    intro z hz
    cases hz
    exact Coercion.coerce_coerce hy
  | extend name x =>
    obtain ⟨y, hy, -⟩ := bind_eq_ok.mp h
    rw [replayStep_extend hy] at h
    cases h
    obtain ⟨all, hall⟩ := exists_extended a (m.newItems o v y)
    intro z hz
    cases hz
    rw [hall, Coercion.coerce_list]

/-! ## One change of a list -/

/-- A scalar as the value of a list: its pieces if it is a text, and else the scalar itself. -/
theorem isFlat_of_coerce {x y : Value} (hx : x.key?.isSome = true)
    (h : Coercion.coerce x (some (.str "list")) = .ok y) : y.IsFlat := by
  cases x with
  | str s =>
    cases h
    intro item hitem
    obtain ⟨piece, hpiece, rfl⟩ := List.mem_map.mp hitem
    rw [Value.IsFlatItem, String.toList_ofList]
    exact Coercion.tidy_of_mem_listItems hpiece
  | null | bool | int | float =>
    cases h
    exact trivial
  | list | object => cases hx

theorem isFlat_extended {held : Option Value} (hheld : ∀ x, held = some x → x.IsFlat)
    {items : List Value} (hitems : ∀ x ∈ items, x.IsFlatItem) : (extended held items).IsFlat := by
  cases held with
  | none => exact hitems
  | some w =>
    have hw := hheld w rfl
    cases w with
    | list old => exact List.forall_mem_append.mpr ⟨hw, hitems⟩
    | null | bool | int | float => exact List.forall_mem_cons.mpr ⟨trivial, hitems⟩
    | str | object => cases hw

/-- The items that a flat value adds to a list are flat. -/
theorem isFlatItem_of_newItems {m : Machine} {o : Options} (hcoerce : o.coerceTypes = true)
    {v : Key} (htype : m.type? v = some (.str "list")) {y : Value} (hy : y.IsFlat) :
    ∀ x ∈ m.newItems o v y, x.IsFlatItem := by
  rw [newItems_eq]
  cases y with
  | list parts =>
    simp only [hcoerce, htype, and_self, if_true]
    exact hy
  | null | bool | int | float => exact List.forall_mem_singleton.mpr trivial
  | str | object => cases hy

theorem isFlat_of_replayStep {m : Machine} {o : Options} (hcoerce : o.coerceTypes = true) {v : Key}
    (htype : m.type? v = some (.str "list")) {a b : Option Value} {change : Change}
    (hvalue : ∀ x, change.value? = some x → x.key?.isSome = true)
    (ha : ∀ x, a = some x → x.IsFlat) (h : replayStep m o v a change = .ok b) :
    ∀ x, b = some x → x.IsFlat := by
  cases change with
  | emit =>
    cases h
    exact ha
  | erase name =>
    cases h
    intro x hx
    cases hx
  | write name x =>
    obtain ⟨y, hy, h⟩ := bind_eq_ok.mp h
    cases h
    rw [coerce_of_coerceTypes hcoerce, htype] at hy
    intro z hz
    cases hz
    exact isFlat_of_coerce (hvalue x rfl) hy
  | extend name x =>
    obtain ⟨y, hy, -⟩ := bind_eq_ok.mp h
    rw [replayStep_extend hy] at h
    cases h
    rw [coerce_of_coerceTypes hcoerce, htype] at hy
    have hflat := isFlat_of_coerce (hvalue x rfl) hy
    intro z hz
    cases hz
    exact isFlat_extended ha (isFlatItem_of_newItems hcoerce htype hflat)

/-! ## Runs -/

/-- What the records of a run hold under a name has every property that is had by a variable that
is not set and kept by every change of the history that is about the variable. -/
theorem find?_of_run {m : Machine} {o : Options} {lines : List String} {c : Config}
    (h : m.run o lines = .ok c) {v : Key} {P : Option Value → Prop} (hnone : P none)
    (hstep : ∀ change ∈ m.history lines, change.concerns v = true →
      ∀ a b, P a → replayStep m o v a change = .ok b → P b)
    {record : Table Value} (hrecord : record ∈ c.records) : P (Table.find? record v) := by
  obtain ⟨k, hk⟩ := List.mem_iff_getElem?.mp hrecord
  refine replay_induction ?_ hnone ((replay_of_run h).2 k record hk v)
  intro change hchange
  obtain ⟨hwindow, hv⟩ := List.mem_filter.mp hchange
  exact hstep change ((window_sublist _ k _).subset hwindow) hv

end Machine

namespace Engine

/-- **Coerced records are fully coerced, and lists do not nest.** Where texts are turned into the
declared types of their variables, coercion leaves alone whatever a record holds. A variable that
is declared a list, and whose literals in the template are scalars, holds in every record a scalar
other than a text, or a list of scalars whose texts are not empty, have no blanks at their ends and
no commas. -/
theorem coerced_records {cache : Cache} {t : Template} (hsuits : Suits cache t) {text : String}
    {o : Options} (hcoerce : o.coerceTypes = true) {r : ParseResult}
    (h : (parse cache (.str text) t o).result = .ok r) :
    ∀ record ∈ r.records, ∀ (v : Key) (x : Value), Table.find? record v = some x →
      Coercion.coerce x (t.typeOf? v) = .ok x ∧
        (t.typeOf? v = some (.str "list") → (∀ y ∈ t.literalsFor v, y.key?.isSome = true) →
          x.IsFlat) := by
  obtain ⟨stored, c, hcompile, hrun, rfl⟩ := parse_eq_ok h
  have hm := hsuits stored hcompile
  intro record hrecord v x hx
  rw [← Machine.type?_of_ofTemplate hm]
  constructor
  · have hsettled : Machine.Settled (stored.machine.type? v) (Table.find? record v) :=
      Machine.find?_of_run hrun (fun z hz ↦ by cases hz)
        (fun change hchange hv a b ha hb ↦ Machine.settled_of_replayStep hcoerce ha hb) hrecord
    exact hsettled x hx
  · intro htype hliterals
    have hflat : ∀ z, Table.find? record v = some z → z.IsFlat :=
      Machine.find?_of_run hrun (fun z hz ↦ by cases hz)
        (fun change hchange hv a b ha hb ↦ Machine.isFlat_of_replayStep hcoerce htype
          (fun y hy ↦ Machine.scalar_of_mem_history hm hliterals hchange hv hy) ha hb) hrecord
    exact hflat x hx

/-- The list of ports, with what was seen declared a list. -/
def portsSeen : Template :=
  { ports with
    declared := [⟨.str "port", .str "number", .null, .str ""⟩,
      ⟨.str "seen", .str "list", .null, .str ""⟩] }

/-- A port that is a comma adds nothing to what was seen. -/
theorem coerced_records_portsSeen :
    ∃ r, (parse Cache.empty (.str "ports\np1\np,\n") portsSeen { coerceTypes := true }).result =
        .ok r ∧
      r.records = [
        [(.str "port", .int 1), (.str "seen", .list [.str "1"])],
        [(.str "port", .str ","), (.str "seen", .list [.str "1"])]] ∧
      Coercion.coerce (.str ",") (portsSeen.typeOf? (.str "port")) = .ok (.str ",") ∧
      (Value.list [.str "1"]).IsFlat := by
  obtain ⟨r, hr, hrecords⟩ := map_eq_ok.mp (show
    (parse Cache.empty (.str "ports\np1\np,\n") portsSeen { coerceTypes := true }).result.map
      ParseResult.records = .ok [
        [(.str "port", .int 1), (.str "seen", .list [.str "1"])],
        [(.str "port", .str ","), (.str "seen", .list [.str "1"])]] by
    decide +kernel)
  have hcoerced := coerced_records (suits_empty portsSeen) (by rfl) hr
    [(.str "port", .str ","), (.str "seen", .list [.str "1"])] (by rw [hrecords]; decide)
  exact ⟨r, hr, hrecords, (hcoerced (.str "port") (.str ",") (by decide)).1,
    (hcoerced (.str "seen") (.list [.str "1"]) (by decide)).2 (by decide) (by decide)⟩

end Engine

end LineMachine
