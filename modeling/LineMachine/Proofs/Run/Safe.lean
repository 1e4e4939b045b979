import LineMachine.Proofs.Run.History
import LineMachine.Proofs.Table

/-!
# Runs that nothing stops but a numeral

A machine is *safe* when every state that it can come to is in its table, and every rule of it
names its variables and its groups by scalars. A run of a safe machine never comes to a state that
does not exist, and there is one thing alone that can stop it with a fault: a number variable that
is given an integer numeral of too many digits, where texts are turned into their declared types
(`run_of_safe`, `run_of_refused`).

Whether that happens is again a question about the history of the run: the first fault in applying
the history is the fault of the run (`applyAll_of_resume_error`).
-/

namespace LineMachine

/-- The variable that an action is about. -/
def Action.variable? : Action → Option Value
  | .emit => none
  | .set name _ => some name
  | .clear name => some name
  | .append name _ => some name

namespace Machine

/-! ## Numerals that are refused -/

/-- Holds of a text that is an integer numeral of too many digits. -/
def LongNumeral (s : String) : Prop :=
  ∃ negative digits, Numeral.integer? (Text.trim s.toList) = some (negative, digits) ∧
    Numeral.maxDigits < digits.length

/-- Holds of a value that a variable cannot take. -/
def Refused (m : Machine) (o : Options) (name : Key) (v : Value) : Prop :=
  o.coerceTypes = true ∧ m.type? name = some (.str "number") ∧ ∃ s, v = .str s ∧ LongNumeral s

theorem toNumber_of_long {s : String} (h : LongNumeral s) :
    Coercion.toNumber s = .error .longNumeral := by
  obtain ⟨negative, digits, hdigits, hlong⟩ := h
  simp only [Coercion.toNumber, hdigits, if_pos hlong]

theorem toNumber_of_not_long {s : String} (h : ¬ LongNumeral s) :
    ∃ v, Coercion.toNumber s = .ok v := by
  rw [Coercion.toNumber]
  cases hinteger : Numeral.integer? (Text.trim s.toList) with
  | some numeral =>
    obtain ⟨negative, digits⟩ := numeral
    have hshort : ¬ Numeral.maxDigits < digits.length :=
      fun hlong ↦ h ⟨negative, digits, hinteger, hlong⟩
    simp only [if_neg hshort]
    exact ⟨_, rfl⟩
  | none =>
    cases hdecimal : Numeral.decimal? (Text.trim s.toList) with
    | some decimal => exact ⟨_, rfl⟩
    | none => exact ⟨_, rfl⟩

theorem coerce_of_refused {m : Machine} {o : Options} {name : Key} {v : Value}
    (h : m.Refused o name v) : m.coerce o name v = .error .longNumeral := by
  obtain ⟨hcoerce, htype, s, rfl, hlong⟩ := h
  rw [coerce, if_pos hcoerce, htype, Coercion.coerce, if_pos rfl, toNumber_of_long hlong]

theorem coerce_of_not_refused {m : Machine} {o : Options} {name : Key} {v : Value}
    (h : ¬ m.Refused o name v) : ∃ w, m.coerce o name v = .ok w := by
  rw [coerce]
  by_cases hcoerce : o.coerceTypes = true
  · rw [if_pos hcoerce]
    cases v with
    | null | bool | int | float | list | object => exact ⟨_, rfl⟩
    | str s =>
      rw [Coercion.coerce]
      by_cases htype : m.type? name = some (.str "number")
      · rw [if_pos htype]
        exact toNumber_of_not_long fun hlong ↦ h ⟨hcoerce, htype, s, rfl, hlong⟩
      · rw [if_neg htype]
        by_cases hlist : m.type? name = some (.str "list")
        · rw [if_pos hlist]
          exact ⟨_, rfl⟩
        · rw [if_neg hlist]
          exact ⟨_, rfl⟩
  · rw [if_neg hcoerce]
    exact ⟨_, rfl⟩

/-! ## Changes that can be applied -/

/-- Holds of a change whose variable, if it has one, is named by a scalar. -/
def Change.Named : Change → Prop
  | .write name _ => name.key?.isSome = true
  | .extend name _ => name.key?.isSome = true
  | .erase name => name.key?.isSome = true
  | .emit => True

/-- A group is stored in a variable that is named by a scalar. -/
theorem isSome_key?_targetName {rename : Option (Table Value)}
    (h : ∀ table, rename = some table → ∀ v ∈ Table.values table, v.key?.isSome = true)
    (group : String) : (targetName rename group).key?.isSome = true := by
  rw [targetName]
  cases hfound : rename.bind fun names ↦ Table.find? names (.str group) with
  | none => rfl
  | some v =>
    obtain ⟨table, htable, hv⟩ := Option.bind_eq_some_iff.mp hfound
    obtain ⟨j, hmem, -⟩ := Table.mem_of_find? hv
    have hscalar := h table htable v (List.mem_map.mpr ⟨(j, v), hmem, rfl⟩)
    simp only [Value.orElse]
    split
    · exact hscalar
    · rfl

/-- The changes of a rule are made to variables that are named by scalars, if its actions name
scalars and its groups are renamed to scalars. -/
theorem named_of_scalar {r : Rule}
    (hrename : ∀ table, r.rename = some table → ∀ v ∈ Table.values table, v.key?.isSome = true)
    (hactions : ∀ a ∈ r.actions, ∀ name, a.variable? = some name → name.key?.isSome = true)
    (groups : Groups) : ∀ change ∈ r.changes groups, change.Named := by
  intro change hchange
  rcases List.mem_append.mp hchange with hwrite | haction
  · obtain ⟨group, -, rfl⟩ := List.mem_map.mp hwrite
    exact isSome_key?_targetName hrename group.1
  · obtain ⟨a, ha, rfl⟩ := List.mem_map.mp haction
    cases a with
    | emit => trivial
    | set name operand | clear name | append name operand => exact hactions _ ha name rfl

/-- Holds of a change that gives a variable a value that it cannot take. -/
def Change.Refused (m : Machine) (o : Options) : Change → Prop
  | .write name v => ∃ k, name.key? = some k ∧ m.Refused o k v
  | .extend name v => ∃ k, name.key? = some k ∧ m.Refused o k v
  | _ => False

theorem apply_of_refused {m : Machine} {o : Options} {change : Change}
    (h : change.Refused m o) (s : Sheet) : s.apply m o change = .error .longNumeral := by
  cases change with
  | write name v =>
    obtain ⟨k, hk, hrefused⟩ := h
    rw [Sheet.apply, assign, Value.key_eq_ok.mpr hk, ok_bind, coerce_of_refused hrefused]
    rfl
  | extend name v =>
    obtain ⟨k, hk, hrefused⟩ := h
    rw [Sheet.apply, append, Value.key_eq_ok.mpr hk, ok_bind, coerce_of_refused hrefused]
    rfl
  | erase name => cases h
  | emit => cases h

theorem apply_of_named {m : Machine} {o : Options} {change : Change} (hnamed : change.Named)
    (h : ¬ change.Refused m o) (s : Sheet) : ∃ t, s.apply m o change = .ok t := by
  cases change with
  | write name v =>
    obtain ⟨k, hk⟩ := Option.isSome_iff_exists.mp hnamed
    obtain ⟨w, hw⟩ := coerce_of_not_refused fun hrefused ↦ h ⟨k, hk, hrefused⟩
    rw [Sheet.apply, assign, Value.key_eq_ok.mpr hk, ok_bind, hw]
    exact ⟨_, rfl⟩
  | extend name v =>
    obtain ⟨k, hk⟩ := Option.isSome_iff_exists.mp hnamed
    obtain ⟨w, hw⟩ := coerce_of_not_refused fun hrefused ↦ h ⟨k, hk, hrefused⟩
    rw [Sheet.apply, append, Value.key_eq_ok.mpr hk, ok_bind, hw]
    exact ⟨_, rfl⟩
  | erase name =>
    obtain ⟨k, hk⟩ := Option.isSome_iff_exists.mp hnamed
    rw [Sheet.apply, unset, Value.key_eq_ok.mpr hk]
    by_cases hempty : s.bindings.isEmpty = true
    · rw [if_pos hempty]
      exact ⟨_, rfl⟩
    · rw [if_neg hempty]
      exact ⟨_, rfl⟩
  | emit => exact ⟨_, rfl⟩

/-- Changes of named variables come to an end unless one of them is refused. -/
theorem applyAll_of_named {m : Machine} {o : Options} {changes : List Change}
    (hnamed : ∀ change ∈ changes, change.Named)
    (h : ¬ ∃ change ∈ changes, change.Refused m o) (s : Sheet) :
    ∃ t, s.applyAll m o changes = .ok t := by
  induction changes generalizing s with
  | nil => exact ⟨s, rfl⟩
  | cons change changes ih =>
    obtain ⟨hfirst, hrest⟩ := List.forall_mem_cons.mp hnamed
    rw [List.exists_mem_cons_iff, not_or] at h
    obtain ⟨t, ht⟩ := apply_of_named hfirst h.1 s
    rw [Sheet.applyAll_cons, ht, ok_bind]
    exact ih hrest h.2 t

/-- Where one of them is refused, that is what stops them. -/
theorem applyAll_of_refused {m : Machine} {o : Options} {changes : List Change}
    (hnamed : ∀ change ∈ changes, change.Named) (h : ∃ change ∈ changes, change.Refused m o)
    (s : Sheet) : s.applyAll m o changes = .error .longNumeral := by
  induction changes generalizing s with
  | nil =>
    obtain ⟨change, hchange, -⟩ := h
    cases hchange
  | cons change changes ih =>
    obtain ⟨hfirst, hrest⟩ := List.forall_mem_cons.mp hnamed
    rw [Sheet.applyAll_cons]
    by_cases hrefused : change.Refused m o
    · rw [apply_of_refused hrefused, error_bind]
    · obtain ⟨t, ht⟩ := apply_of_named hfirst hrefused s
      rw [ht, ok_bind]
      rw [List.exists_mem_cons_iff] at h
      exact ih hrest (h.resolve_left hrefused) t

/-- What was applied had no change that is refused. -/
theorem not_refused_of_applyAll {m : Machine} {o : Options} {changes : List Change}
    (hnamed : ∀ change ∈ changes, change.Named) {s t : Sheet}
    (h : s.applyAll m o changes = .ok t) : ¬ ∃ change ∈ changes, change.Refused m o := by
  intro hrefused
  cases h.symm.trans (applyAll_of_refused hnamed hrefused s)

/-! ## Safe machines -/

/-- Holds of a rule that can be taken, and gone on from, in any run. -/
structure SafeRule (m : Machine) (r : Rule) : Prop where
  /-- The operands of its actions have values. -/
  sourced : ∀ a ∈ r.actions, SourcedAction a
  /-- The variables that it changes are named by scalars. -/
  named : ∀ groups, ∀ change ∈ r.changes groups, change.Named
  /-- Its transition leads to a state of the table, stays, or ends the run. -/
  target : ∀ t, r.transition = some t →
    t.target = .str selfTarget ∨ t.target = .str endTarget ∨ (m.stateAt? t.target).isSome = true

/-- Holds of a machine that comes to states of its table alone, whatever the lines. -/
structure Safe (m : Machine) : Prop where
  /-- The state in which runs start is in the table. -/
  start : (m.stateAt? m.start).isSome = true
  /-- The rules of the states in the table are safe. -/
  rule {name : Value} {s : State} {r : Rule} :
    m.stateAt? name = some s → r ∈ s.rules → SafeRule m r

/-- A safe rule leads from states of the table to states of the table. -/
theorem isSome_stateAt?_of_nextState? {m : Machine} {r : Rule} (hr : SafeRule m r)
    {state next : Value} (hstate : (m.stateAt? state).isSome = true)
    (hnext : nextState? r.transition state = some next) : (m.stateAt? next).isSome = true := by
  cases htransition : r.transition with
  | none =>
    rw [htransition] at hnext
    cases hnext
    exact hstate
  | some t =>
    rw [htransition, nextState?] at hnext
    -- The condition, then the two reserved targets, and last a target in the table.
    split at hnext
    · cases hnext
      exact hstate
    split at hnext
    · cases hnext
      exact hstate
    rename_i hself
    split at hnext
    · cases hnext
    rename_i hend
    cases hnext
    exact ((hr.target t htransition).resolve_left hself).resolve_left hend

/-- The rule that a run of a safe machine takes is safe. -/
theorem safeRule_of_match {m : Machine} (h : Safe m) {name : Value} {s : State} {line : String}
    {r : Rule} {groups : Groups} (hentry : m.stateAt? name = some s)
    (hmatch : s.firstMatch? line = some (r, groups)) : SafeRule m r :=
  h.rule hentry (captures?_of_firstMatch? hmatch).1

/-! ## Runs of safe machines -/

/-- A step from a state of the table leads to a state of the table. -/
theorem known_step {m : Machine} {o : Options} (h : Safe m) {c d : Config} {line : String}
    (hc : c.status ≠ .lost ∧ (m.stateAt? c.state).isSome = true) (hd : m.step o c line = .ok d) :
    d.status ≠ .lost ∧ (m.stateAt? d.state).isSome = true := by
  cases hstatus : c.status with
  | ended =>
    rw [step_of_ended hstatus] at hd
    cases hd
    exact hc
  | lost => exact absurd hstatus hc.1
  | running =>
    rw [step_of_running hstatus, look_eq_ok] at hd
    cases hd with
    | lost hkey hentry =>
      rw [hentry] at hc
      cases hc.2
    | passed hentry hmatch => exact hc
    | moved hentry hmatch hsourced hsheet hnext =>
      exact ⟨hc.1, isSome_stateAt?_of_nextState? (safeRule_of_match h hentry hmatch) hc.2 hnext⟩
    | ended hentry hmatch hsourced hsheet hnext => exact ⟨Status.noConfusion, hc.2⟩

/-- A run of a safe machine comes to states of the table alone. -/
theorem known_run {m : Machine} {o : Options} (h : Safe m) {lines : List String} {c : Config}
    (hc : m.run o lines = .ok c) : c.status ≠ .lost ∧ (m.stateAt? c.state).isSome = true :=
  resume_invariant [] (fun _ d ↦ d.status ≠ .lost ∧ (m.stateAt? d.state).isSome = true)
    (known_step h) ⟨Status.noConfusion, h.start⟩ hc

/-- A matched line has its rule in front of the rules that are taken. -/
theorem exists_taken_cons {m : Machine} {state : Value} {s : State} {line : String} {r : Rule}
    {groups : Groups} (hentry : m.stateAt? state = some s)
    (hmatch : s.firstMatch? line = some (r, groups)) (lines : List String) :
    ∃ rest, m.taken state (line :: lines) = (r, groups) :: rest := by
  cases hnext : nextState? r.transition state with
  | some next => exact ⟨_, taken_of_moved hentry hmatch hnext lines⟩
  | none => exact ⟨_, taken_of_ended hentry hmatch hnext lines⟩

/-- A look at a line in a state of the table fails only where the changes of a safe rule do. -/
theorem applyAll_of_look_error {m : Machine} {o : Options} (h : Safe m) {c : Config}
    {line : String} {fault : Fault} (hstate : (m.stateAt? c.state).isSome = true)
    (hlook : m.look o c line = .error fault) (lines : List String) :
    c.sheet.applyAll m o (changesOf (m.taken c.state (line :: lines))) = .error fault := by
  obtain ⟨s, hentry⟩ := Option.isSome_iff_exists.mp hstate
  cases hmatch : s.firstMatch? line with
  | none =>
    rw [look_eq_ok.mpr (.passed hentry hmatch)] at hlook
    cases hlook
  | some first =>
    obtain ⟨r, groups⟩ := first
    have hsourced := (safeRule_of_match h hentry hmatch).sourced
    obtain ⟨rest, htaken⟩ := exists_taken_cons hentry hmatch lines
    rw [htaken, changesOf_cons, Sheet.applyAll_append]
    cases hsheet : c.sheet.applyAll m o (r.changes groups) with
    | ok sheet =>
      rw [look_of_changes hentry hmatch hsourced hsheet] at hlook
      cases hlook
    | error e =>
      rw [look_of_changes_error hentry hmatch hsourced hsheet] at hlook
      cases hlook
      rfl

/-- The fault that stops a run of a safe machine is the first one in applying its history. -/
theorem applyAll_of_resume_error {m : Machine} {o : Options} (h : Safe m) {c : Config}
    {lines : List String} {fault : Fault} (hstatus : c.status = .running)
    (hstate : (m.stateAt? c.state).isSome = true) (hfault : m.resume o c lines = .error fault) :
    c.sheet.applyAll m o (changesOf (m.taken c.state lines)) = .error fault := by
  induction lines generalizing c with
  | nil => cases hfault
  | cons line lines ih =>
    rw [resume_cons, step_of_running hstatus] at hfault
    cases hlook : m.look o c line with
    | error e =>
      rw [hlook, error_bind] at hfault
      cases hfault
      exact applyAll_of_look_error h hstate hlook lines
    | ok d =>
      rw [hlook, ok_bind] at hfault
      -- The look came to an end, so the fault is one of the later lines.
      have hknown := known_step h ⟨by rw [hstatus]; exact Status.noConfusion, hstate⟩
        ((step_of_running hstatus line).trans hlook)
      cases look_eq_ok.mp hlook with
      | lost hkey hentry => exact absurd rfl hknown.1
      | passed hentry hmatch =>
        have hlater := ih (by exact hstatus) (by exact hstate) hfault
        rw [taken_of_unmatched hentry hmatch]
        exact hlater
      | moved hentry hmatch hsourced hsheet hnext =>
        rw [taken_of_moved hentry hmatch hnext, changesOf_cons, Sheet.applyAll_append, hsheet,
          ok_bind]
        exact ih (by exact hstatus) (by exact hknown.2) hfault
      | ended hentry hmatch hsourced hsheet hnext =>
        rw [resume_of_ended (by rfl)] at hfault
        cases hfault

/-- The history of a run of a safe machine changes named variables alone. -/
theorem named_of_mem_history {m : Machine} (h : Safe m) {lines : List String} {change : Change}
    (hchange : change ∈ m.history lines) : change.Named := by
  obtain ⟨⟨r, groups⟩, htaken, hmem⟩ := List.mem_flatMap.mp hchange
  obtain ⟨name, s, line, hentry, -, hmatch⟩ := exists_of_mem_taken htaken
  exact (safeRule_of_match h hentry hmatch).named groups change hmem

/-- **A run of a safe machine comes to an end**, in a state of the table, unless a change in its
history is refused. -/
theorem run_of_safe {m : Machine} (h : Safe m) {o : Options} {lines : List String}
    (hnone : ¬ ∃ change ∈ m.history lines, change.Refused m o) :
    ∃ c, m.run o lines = .ok c ∧ c.status ≠ .lost := by
  cases hrun : m.run o lines with
  | ok c => exact ⟨c, rfl, (known_run h hrun).1⟩
  | error fault =>
    have hfault := applyAll_of_resume_error h (c := m.begin) rfl h.start hrun
    obtain ⟨t, ht⟩ := applyAll_of_named (fun _ ↦ named_of_mem_history h) hnone {}
    cases ht.symm.trans hfault

/-- A run of a safe machine in whose history a change is refused is stopped by that. -/
theorem run_of_refused {m : Machine} (h : Safe m) {o : Options} {lines : List String}
    (hrefused : ∃ change ∈ m.history lines, change.Refused m o) :
    m.run o lines = .error .longNumeral := by
  have happly := applyAll_of_refused (fun _ ↦ named_of_mem_history h) hrefused {}
  -- The run cannot come to an end, since its history does not; its fault is the history's.
  cases hrun : m.run o lines with
  | ok c => cases (run_sheet hrun).symm.trans happly
  | error fault =>
    have hfault := applyAll_of_resume_error h (c := m.begin) rfl h.start hrun
    cases hfault.symm.trans happly
    rfl

end Machine

end LineMachine
