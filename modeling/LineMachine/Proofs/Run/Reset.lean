import LineMachine.Proofs.Run.Course
import LineMachine.Proofs.Run.Replay
import LineMachine.Proofs.Run.Safe

/-!
# Clearing the variables only forgets

Clearing the variables after every record takes something away from the records that follow and
does nothing else (`reset_forgets`). The run takes the same course and makes as many records. What
a record holds under a name it also holds where the variables are kept, but for lists: of a list
that was gone on with over several records only the end is left.

Followed one variable at a time this is about replaying. The changes that bear on a record where
the variables are cleared are the last ones of those that bear on it where they are kept
(`window_suffix`), and replaying them from nothing gives the end of what replaying them from
something gives (`forgets_of_replay`).
-/

namespace LineMachine

/-- Holds of a value that is another one or, where both are lists, the end of it. -/
def Value.IsEndOf (x y : Value) : Prop :=
  x = y ∨ ∃ xs ys, x = .list xs ∧ y = .list ys ∧ xs <:+ ys

theorem Value.IsEndOf.refl (x : Value) : x.IsEndOf x := .inl rfl

/-! ## Names of variables -/

/-- Whether a rule names the variables that it changes by scalars. -/
def Rule.hasScalarNames (r : Rule) : Bool :=
  r.actions.all (fun a ↦ a.variable?.all (·.key?.isSome)) &&
    r.rename.all fun names ↦ (Table.values names).all (·.key?.isSome)

/-- Whether a template names the variables that it changes by scalars. -/
def Template.hasScalarNames (t : Template) : Bool :=
  t.states.all fun s ↦ s.rules.all Rule.hasScalarNames

namespace Machine

theorem named_of_hasScalarNames {source : LineMachine.Rule} (h : source.hasScalarNames = true)
    {r : Rule} (hrename : r.rename = source.rename) (hactions : r.actions = source.actions)
    (groups : Groups) : ∀ change ∈ r.changes groups, change.Named := by
  obtain ⟨hvariables, htargets⟩ := Bool.and_eq_true_iff.mp h
  refine named_of_scalar ?_ ?_ groups
  · intro table htable v hv
    rw [← hrename, htable] at htargets
    exact List.all_eq_true.mp htargets v hv
  · intro a ha name hname
    have hall := List.all_eq_true.mp hvariables a (hactions ▸ ha)
    rwa [hname] at hall

/-- The history of a run is about variables that are named by scalars, if those of the template
are. -/
theorem named_of_mem_history_of_scalar {t : Template} {m : Machine} (hm : ofTemplate t = .ok m)
    (hnames : t.hasScalarNames = true) {lines : List String} :
    ∀ change ∈ m.history lines, change.Named := by
  intro change hchange
  obtain ⟨e, htaken, hmem⟩ := List.mem_flatMap.mp hchange
  obtain ⟨s, hs, source, hsource, hrename, hactions⟩ := exists_source_of_mem_taken hm htaken
  have hscalar := List.all_eq_true.mp (List.all_eq_true.mp hnames s hs) source hsource
  exact named_of_hasScalarNames hscalar hrename hactions e.2 change hmem

/-! ## Options that do not show in one change -/

theorem coerce_of_eq {o o' : Options} (h : o.coerceTypes = o'.coerceTypes) (m : Machine) (k : Key)
    (v : Value) : m.coerce o k v = m.coerce o' k v := by
  rw [coerce, coerce, h]

/-- Replaying a change looks at no other option than whether texts are turned into types. -/
theorem replayStep_of_eq {o o' : Options} (h : o.coerceTypes = o'.coerceTypes) (m : Machine)
    (v : Key) : replayStep m o v = replayStep m o' v := by
  funext held change
  cases change with
  | emit | erase name => rfl
  | write name x => rw [replayStep, replayStep, coerce_of_eq h]
  | extend name x =>
    rw [replayStep, replayStep, coerce_of_eq h]
    simp only [h]

theorem refused_of_eq {o o' : Options} (h : o.coerceTypes = o'.coerceTypes) {m : Machine}
    {change : Change} (hrefused : change.Refused m o) : change.Refused m o' := by
  cases change with
  | emit | erase name => cases hrefused
  | write name x | extend name x =>
    obtain ⟨k, hk, hcoerce, hvalue⟩ := hrefused
    exact ⟨k, hk, h ▸ hcoerce, hvalue⟩

/-- Whether a run comes to an end does not depend on whether the variables are cleared. -/
theorem exists_run_of_eq {m : Machine} {o o' : Options} (h : o.coerceTypes = o'.coerceTypes)
    {lines : List String} (hnamed : ∀ change ∈ m.history lines, change.Named) {c : Config}
    (hc : m.run o lines = .ok c) : ∃ d, m.run o' lines = .ok d := by
  have hnone := not_refused_of_applyAll hnamed (run_sheet hc)
  obtain ⟨t, ht⟩ := applyAll_of_named (o := o') hnamed
    (fun ⟨change, hchange, hrefused⟩ ↦ hnone ⟨change, hchange, refused_of_eq h.symm hrefused⟩) {}
  exact ⟨_, run_withSheet hc ht⟩

/-! ## The changes that bear on a record -/

theorem window_zero (reset reset' : Bool) (changes : List Change) :
    window reset 0 changes = window reset' 0 changes := by
  induction changes with
  | nil => rfl
  | cons change changes ih => rw [window, window, ih]

/-- Where the variables are cleared, the changes that bear on a record are the last ones of those
that bear on it where they are kept. -/
theorem window_suffix (k : Nat) (changes : List Change) :
    window true k changes <:+ window false k changes := by
  induction changes generalizing k with
  | nil => cases k <;> exact List.suffix_refl _
  | cons change changes ih =>
    cases k with
    | zero => exact window_zero true false (change :: changes) ▸ List.suffix_refl _
    | succ k =>
      rw [window, window]
      by_cases hemit : change.isEmit = true
      · rw [if_pos hemit, if_pos hemit]
        exact ih k
      · rw [if_neg hemit, if_neg hemit, if_pos rfl, if_neg Bool.false_ne_true]
        exact (ih (k + 1)).trans (List.suffix_cons _ _)

/-! ## Replaying from nothing and from something -/

/-- Holds when whatever a variable holds in the first case it holds in the second, or something
that ends in it. -/
def Forgets (a b : Option Value) : Prop :=
  ∀ x, a = some x → ∃ y, b = some y ∧ x.IsEndOf y

theorem forgets_none (b : Option Value) : Forgets none b := by
  intro x hx
  cases hx

theorem forgets_refl (a : Option Value) : Forgets a a :=
  fun x hx ↦ ⟨x, hx, .refl x⟩

/-- What is appended to less is the end of what is appended to more. -/
theorem isEndOf_extended {a b : Option Value} (h : Forgets a b) (items : List Value) :
    (extended a items).IsEndOf (extended b items) := by
  cases a with
  | none =>
    -- The appended items alone end every list that they are appended to.
    refine .inr ?_
    cases b with
    | none => exact ⟨_, _, rfl, rfl, List.suffix_refl _⟩
    | some y =>
      cases y with
      | list old => exact ⟨_, _, rfl, rfl, List.suffix_append _ _⟩
      | null | bool | int | float | str | object =>
        exact ⟨_, _, rfl, rfl, List.suffix_cons _ _⟩
  | some x =>
    obtain ⟨y, rfl, rfl | ⟨xs, ys, rfl, rfl, before, rfl⟩⟩ := h x rfl
    · exact .refl _
    · exact .inr ⟨_, _, rfl, rfl, before, (List.append_assoc _ _ _).symm⟩

theorem forgets_of_replayStep {m : Machine} {o : Options} {v : Key} {a b a' b' : Option Value}
    {change : Change} (h : Forgets a b) (ha : replayStep m o v a change = .ok a')
    (hb : replayStep m o v b change = .ok b') : Forgets a' b' := by
  cases change with
  | emit =>
    cases ha
    cases hb
    exact h
  | erase name =>
    cases ha
    cases hb
    exact forgets_refl none
  | write name x =>
    cases ha.symm.trans hb
    exact forgets_refl a'
  | extend name x =>
    obtain ⟨y, hy, -⟩ := bind_eq_ok.mp ha
    rw [replayStep_extend hy] at ha hb
    cases ha
    cases hb
    intro x' hx'
    cases hx'
    exact ⟨_, rfl, isEndOf_extended h _⟩

/-- The same changes replayed from less leave less. -/
theorem forgets_of_replay {m : Machine} {o : Options} {v : Key} {changes : List Change}
    {a b a' b' : Option Value} (h : Forgets a b) (ha : replay m o v a changes = .ok a')
    (hb : replay m o v b changes = .ok b') : Forgets a' b' := by
  induction changes generalizing a b with
  | nil =>
    cases ha
    cases hb
    exact h
  | cons change changes ih =>
    obtain ⟨x, hx, ha⟩ := bind_eq_ok.mp ha
    obtain ⟨y, hy, hb⟩ := bind_eq_ok.mp hb
    exact ih (forgets_of_replayStep h hx hy) ha hb

/-- The last ones of some changes replayed from nothing leave less than all of them. -/
theorem forgets_of_suffix {m : Machine} {o : Options} {v : Key} {last all : List Change}
    (hsuffix : last <:+ all) {a b : Option Value} (ha : replay m o v none last = .ok a)
    (hb : replay m o v none all = .ok b) : Forgets a b := by
  obtain ⟨before, rfl⟩ := hsuffix
  rw [replay, List.foldlM_append] at hb
  obtain ⟨held, -, hb⟩ := bind_eq_ok.mp hb
  exact forgets_of_replay (forgets_none held) ha hb

/-- Clearing the variables leaves less in every record. -/
theorem forgets_of_run {m : Machine} {o o' : Options} (hcoerce : o.coerceTypes = o'.coerceTypes)
    (hreset : o.resetOnEmit = true) (hkeep : o'.resetOnEmit = false) {lines : List String}
    {c d : Config} (hc : m.run o lines = .ok c) (hd : m.run o' lines = .ok d) {k : Nat}
    {a b : Table Value} (ha : c.records[k]? = some a) (hb : d.records[k]? = some b) (v : Key) :
    Forgets (Table.find? a v) (Table.find? b v) := by
  have hcleared := (replay_of_run hc).2 k a ha v
  have hkept := (replay_of_run hd).2 k b hb v
  rw [hreset, replay, replayStep_of_eq hcoerce] at hcleared
  rw [hkeep] at hkept
  exact forgets_of_suffix ((window_suffix k _).filter _) hcleared hkept

end Machine

namespace Engine

/-- **Clearing the variables only forgets.** Let a template name the variables that it changes by
scalars. Running it over a text comes to an end with the variables cleared after every record
exactly if it does with the variables kept. The results then have the same trace, the same counts,
the same message, and as many records. What a record holds where the variables are cleared, the
same record holds where they are kept, under the same name and with the same value, or with a list
that ends in it. -/
theorem reset_forgets {cache : Cache} {t : Template} (hsuits : Suits cache t)
    (hnames : t.hasScalarNames = true) (text : String) (o : Options) :
    ((∃ r, (parse cache (.str text) t { o with resetOnEmit := true }).result = .ok r) ↔
      ∃ s, (parse cache (.str text) t { o with resetOnEmit := false }).result = .ok s) ∧
    ∀ r s, (parse cache (.str text) t { o with resetOnEmit := true }).result = .ok r →
      (parse cache (.str text) t { o with resetOnEmit := false }).result = .ok s →
      r.SameCourse s ∧
        ∀ (k : Nat) (a b : Table Value), r.records[k]? = some a → s.records[k]? = some b →
          ∀ (v : Key) (x : Value), Table.find? a v = some x →
            ∃ y, Table.find? b v = some y ∧ x.IsEndOf y := by
  have hends {o o' : Options} (hcoerce : o.coerceTypes = o'.coerceTypes) :
      (∃ r, (parse cache (.str text) t o).result = .ok r) →
        ∃ s, (parse cache (.str text) t o').result = .ok s := by
    rintro ⟨r, hr⟩
    obtain ⟨stored, c, hcompile, hc, -⟩ := parse_eq_ok hr
    obtain ⟨d, hd⟩ := Machine.exists_run_of_eq hcoerce
      (Machine.named_of_mem_history_of_scalar (hsuits stored hcompile) hnames) hc
    exact ⟨.ofConfig t o' d, by rw [parse_result hcompile, hd]; rfl⟩
  refine ⟨⟨hends rfl, hends rfl⟩, ?_⟩
  intro r s hr hs
  obtain ⟨stored, c, hcompile, hc, rfl⟩ := parse_eq_ok hr
  obtain ⟨stored', d, hcompile', hd, rfl⟩ := parse_eq_ok hs
  cases hcompile.symm.trans hcompile'
  -- Both runs have one record for every emit of their common history.
  have hcount : c.records.length = d.records.length :=
    (Machine.replay_of_run hc).1.trans (Machine.replay_of_run hd).1.symm
  refine ⟨Machine.sameCourse_of_run hc hd t rfl hcount, ?_⟩
  intro k a b ha hb v
  exact Machine.forgets_of_run (by rfl) rfl rfl hc hd ha hb v

/-- Where the variables are cleared, the second record of a list of ports holds the second port as
all that was seen. -/
theorem reset_forgets_ports :
    ∃ r s a b,
      (parse Cache.empty (.str "ports\np1\np2\n") ports { resetOnEmit := true }).result = .ok r ∧
      (parse Cache.empty (.str "ports\np1\np2\n") ports { resetOnEmit := false }).result = .ok s ∧
      r.SameCourse s ∧ r.records[1]? = some a ∧ s.records[1]? = some b ∧
      Table.find? a (.str "seen") = some (.list [.str "2"]) ∧
      ∃ y, Table.find? b (.str "seen") = some y ∧ (Value.list [.str "2"]).IsEndOf y := by
  have hnames : ports.hasScalarNames = true := by decide
  obtain ⟨r, hr, hrecords⟩ : ∃ r,
      (parse Cache.empty (.str "ports\np1\np2\n") ports { resetOnEmit := true }).result = .ok r ∧
        r.records = [
          [(.str "port", .str "1"), (.str "seen", .list [.str "1"])],
          [(.str "port", .str "2"), (.str "seen", .list [.str "2"])]] :=
    ⟨_, rfl, by decide +kernel⟩
  obtain ⟨s, hs⟩ : ∃ s,
      (parse Cache.empty (.str "ports\np1\np2\n") ports { resetOnEmit := false }).result = .ok s :=
    ⟨_, rfl⟩
  obtain ⟨hcourse, hforgets⟩ :=
    (reset_forgets (suits_empty ports) hnames "ports\np1\np2\n" {}).2 r s hr hs
  have ha : r.records[1]? =
      some [(.str "port", .str "2"), (.str "seen", .list [.str "2"])] := by
    rw [hrecords]
    rfl
  have hlength : 1 < s.records.length := by
    rw [← hcourse.count, hrecords]
    decide
  obtain ⟨b, hb⟩ : ∃ b, s.records[1]? = some b := ⟨_, List.getElem?_eq_getElem hlength⟩
  exact ⟨r, s, _, b, hr, hs, hcourse, ha, hb, rfl, hforgets 1 _ b ha hb (.str "seen") _ rfl⟩

end Engine

end LineMachine
