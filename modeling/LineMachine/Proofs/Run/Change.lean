import LineMachine.Machine.Run
import LineMachine.Proofs.Except

/-!
# Changes made by a run

What a matched line does to the variables and the records is a list of *changes*: one write for
every named group of the match, in the order of the groups, and then one change for every action.
A change carries the plain value; turning it into the declared type of its variable is part of
applying it.

The variables and the records together are a *sheet*. Taking a rule is applying its changes to the
sheet of the configuration and nothing else (`take_eq_ok`), so what a rule does can be followed
without the state, the counters and the trace.
-/

namespace LineMachine.Machine

/-! ## Changes -/

/-- One change to the variables or the records of a run. -/
inductive Change where
  /-- A variable is given a value. -/
  | write (name value : Value)
  /-- A value is added at the end of a list variable. -/
  | extend (name value : Value)
  /-- A variable is removed. -/
  | erase (name : Value)
  /-- The variables are recorded as they are. -/
  | emit
  deriving DecidableEq

/-- The value that an operand stands for. Something else than text names no group. -/
def meaning (groups : Groups) (operand : Operand) : Value :=
  match operand.group with
  | some (.str name) => captured (groups.lookup name).join
  | some _ => .null
  | none => operand.literal

/-- The change that an action makes after a match. -/
def changeOf (groups : Groups) : Action → Change
  | .emit => .emit
  | .set name operand => .write name (meaning groups operand)
  | .clear name => .erase name
  | .append name operand => .extend name (meaning groups operand)

/-- The change that a captured group makes. -/
def writeOf (r : Rule) (group : String × Option String) : Change :=
  .write (targetName r.rename group.1) (captured group.2)

/-- The changes that a rule makes after a match: what its groups captured, then its actions. -/
def Rule.changes (r : Rule) (groups : Groups) : List Change :=
  groups.map (writeOf r) ++ r.actions.map (changeOf groups)

/-! ## Sheets -/

/-- The variables and the records of a run. -/
structure Sheet where
  bindings : Table Value := []
  records : List (Table Value) := []
  deriving DecidableEq

/-- Applies a change. -/
def Sheet.apply (m : Machine) (o : Options) (s : Sheet) : Change → Except Fault Sheet
  | .write name v => do pure { s with bindings := ← m.assign o name v s.bindings }
  | .extend name v => do pure { s with bindings := ← m.append o name v s.bindings }
  | .erase name => do pure { s with bindings := ← unset name s.bindings }
  | .emit => .ok ⟨if o.resetOnEmit then [] else s.bindings, s.records ++ [s.bindings]⟩

/-- Applies changes one after the other. -/
def Sheet.applyAll (m : Machine) (o : Options) (s : Sheet) (changes : List Change) :
    Except Fault Sheet :=
  changes.foldlM (Sheet.apply m o) s

theorem Sheet.applyAll_cons (m : Machine) (o : Options) (s : Sheet) (change : Change)
    (changes : List Change) :
    s.applyAll m o (change :: changes) = s.apply m o change >>= fun t ↦ t.applyAll m o changes :=
  rfl

theorem Sheet.applyAll_append (m : Machine) (o : Options) (s : Sheet)
    (first second : List Change) :
    s.applyAll m o (first ++ second) =
      s.applyAll m o first >>= fun t ↦ t.applyAll m o second := by
  simp only [applyAll, List.foldlM_append]

/-- A change adds at most a record, behind those that are there. -/
theorem Sheet.records_prefix_apply {m : Machine} {o : Options} {s t : Sheet} {change : Change}
    (h : s.apply m o change = .ok t) : s.records <+: t.records := by
  cases change with
  | emit =>
    cases h
    exact List.prefix_append _ _
  | write name v | extend name v | erase name =>
    obtain ⟨bindings, -, ht⟩ := bind_eq_ok.mp h
    cases ht
    exact List.prefix_refl _

theorem Sheet.records_prefix_applyAll {m : Machine} {o : Options} {s t : Sheet}
    {changes : List Change} (h : s.applyAll m o changes = .ok t) : s.records <+: t.records := by
  induction changes generalizing s with
  | nil =>
    cases h
    exact List.prefix_refl _
  | cons change changes ih =>
    obtain ⟨u, hu, hrest⟩ := bind_eq_ok.mp h
    exact (records_prefix_apply hu).trans (ih hrest)

/-- The sheet of a configuration. -/
def Config.sheet (c : Config) : Sheet := ⟨c.bindings, c.records⟩

/-- A configuration with another sheet. -/
def Config.withSheet (c : Config) (s : Sheet) : Config :=
  { c with bindings := s.bindings, records := s.records }

/-! ## Operands

An operand that names its group by a list or an object has no value. Every other operand has one,
whatever the match. -/

/-- Holds of an operand that has a value. -/
def Sourced (operand : Operand) : Prop :=
  ∀ group, operand.group = some group → group.key?.isSome = true

/-- Holds of an action whose operand, if any, has a value. -/
def SourcedAction : Action → Prop
  | .set _ operand => Sourced operand
  | .append _ operand => Sourced operand
  | _ => True

theorem operandValue_of_sourced {operand : Operand} (h : Sourced operand) (groups : Groups) :
    operandValue groups operand = .ok (meaning groups operand) := by
  obtain ⟨group, literal⟩ := operand
  cases group with
  | none => rfl
  | some v =>
    have hkey := h v rfl
    cases v with
    | list items => cases hkey
    | object fields => cases hkey
    | null | bool | int | float | str => rfl

theorem sourced_of_operandValue {groups : Groups} {operand : Operand} {v : Value}
    (h : operandValue groups operand = .ok v) : Sourced operand := by
  intro group hgroup
  rw [operandValue, hgroup] at h
  obtain ⟨k, hk, -⟩ := bind_eq_ok.mp h
  rw [Value.key_eq_ok.mp hk]
  rfl

/-! ## Rules as changes -/

/-- An action whose operand has a value does what its change does to the sheet. -/
theorem act_of_sourced (m : Machine) (o : Options) (groups : Groups) (c : Config) {a : Action}
    (h : SourcedAction a) :
    m.act o groups c a = c.withSheet <$> c.sheet.apply m o (changeOf groups a) := by
  cases a with
  | emit => rfl
  | clear name =>
    rw [act, changeOf, Sheet.apply, bind_pure_comp, bind_pure_comp, Functor.map_map]
    rfl
  | set name operand =>
    rw [act, operandValue_of_sourced h, ok_bind, changeOf, Sheet.apply, bind_pure_comp,
      bind_pure_comp, Functor.map_map]
    rfl
  | append name operand =>
    rw [act, operandValue_of_sourced h, ok_bind, changeOf, Sheet.apply, bind_pure_comp,
      bind_pure_comp, Functor.map_map]
    rfl

theorem sourced_of_act {m : Machine} {o : Options} {groups : Groups} {c d : Config} {a : Action}
    (h : m.act o groups c a = .ok d) : SourcedAction a := by
  cases a with
  | emit => trivial
  | clear name => trivial
  | set name operand =>
    obtain ⟨v, hv, -⟩ := bind_eq_ok.mp h
    exact sourced_of_operandValue hv
  | append name operand =>
    obtain ⟨v, hv, -⟩ := bind_eq_ok.mp h
    exact sourced_of_operandValue hv

/-- Storing the groups of a match is applying their writes. -/
theorem applyAll_writes (m : Machine) (o : Options) (r : Rule) (groups : Groups) (s : Sheet) :
    s.applyAll m o (groups.map (writeOf r)) =
      (fun bindings ↦ { s with bindings := bindings }) <$> m.bind o r groups s.bindings := by
  -- Both sides are folds over the groups, one over sheets and one over their bindings.
  induction groups generalizing s with
  | nil => rfl
  | cons group groups ih =>
    rw [List.map_cons, Sheet.applyAll_cons, bind, List.foldlM_cons, map_bind, writeOf, Sheet.apply,
      bind_pure_comp, bind_map_left]
    exact bind_congr fun bindings ↦ ih { s with bindings := bindings }

/-- Carrying out actions whose operands have values is applying their changes. -/
theorem foldlM_act_of_sourced (m : Machine) (o : Options) (groups : Groups) {actions : List Action}
    (h : ∀ a ∈ actions, SourcedAction a) (c : Config) :
    actions.foldlM (m.act o groups) c =
      c.withSheet <$> c.sheet.applyAll m o (actions.map (changeOf groups)) := by
  induction actions generalizing c with
  | nil => rfl
  | cons a actions ih =>
    rw [List.foldlM_cons, act_of_sourced m o groups c (h a List.mem_cons_self), List.map_cons,
      Sheet.applyAll_cons, bind_map_left, map_bind]
    refine bind_congr fun s ↦ ?_
    exact ih (fun b hb ↦ h b (List.mem_cons_of_mem a hb)) (c.withSheet s)

theorem sourced_of_foldlM_act {m : Machine} {o : Options} {groups : Groups}
    {actions : List Action} {c d : Config} (h : actions.foldlM (m.act o groups) c = .ok d) :
    ∀ a ∈ actions, SourcedAction a := by
  induction actions generalizing c with
  | nil => exact List.forall_mem_nil _
  | cons a actions ih =>
    obtain ⟨e, he, hrest⟩ := bind_eq_ok.mp h
    exact List.forall_mem_cons.mpr ⟨sourced_of_act he, ih hrest⟩

/-- Taking a rule whose operands have values is applying its changes to the sheet. -/
theorem take_of_sourced (m : Machine) (o : Options) (c : Config) {r : Rule}
    (h : ∀ a ∈ r.actions, SourcedAction a) (groups : Groups) :
    m.take o c r groups = c.withSheet <$> c.sheet.applyAll m o (r.changes groups) := by
  rw [take, Rule.changes, Sheet.applyAll_append, applyAll_writes, bind_map_left, map_bind]
  exact bind_congr fun bindings ↦
    foldlM_act_of_sourced m o groups h { c with bindings := bindings }

/-- **What taking a rule does.** It comes to an end when the operands have values and the changes
of the rule can be applied, and it leaves everything but the sheet as it was. -/
theorem take_eq_ok {m : Machine} {o : Options} {c d : Config} {r : Rule} {groups : Groups} :
    m.take o c r groups = .ok d ↔ (∀ a ∈ r.actions, SourcedAction a) ∧
      ∃ s, c.sheet.applyAll m o (r.changes groups) = .ok s ∧ d = c.withSheet s := by
  constructor
  · intro h
    -- Each action that was carried out had a value for its operand.
    obtain ⟨bindings, -, hactions⟩ := bind_eq_ok.mp h
    have hsourced := sourced_of_foldlM_act hactions
    rw [take_of_sourced m o c hsourced, map_eq_pure_bind, bind_eq_ok] at h
    obtain ⟨s, hs, hd⟩ := h
    exact ⟨hsourced, s, hs, (pure_eq_ok.mp hd).symm⟩
  · rintro ⟨hsourced, s, hs, rfl⟩
    rw [take_of_sourced m o c hsourced, hs]
    rfl

end LineMachine.Machine
