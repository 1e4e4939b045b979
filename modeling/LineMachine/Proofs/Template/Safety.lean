import LineMachine.Proofs.Engine
import LineMachine.Proofs.Machine
import LineMachine.Proofs.Run.Safe
import LineMachine.Proofs.Run.Trace
import LineMachine.Proofs.Template.Sound

/-!
# Valid documents run

What was vouched for part by part comes together here. A sound template has a machine, and that
machine is safe: the state in which runs start is in the table, and so is every state that a
transition names. Validation of a well-kinded document therefore speaks for every run of it:
reading it, making its machine and running that over any text with any options come to an end, and
the run never comes to a state that does not exist (`parse_of_valid`). The one exception is an
integer numeral of too many digits, and it is exact: a run stops there whenever its history holds
one.
-/

namespace LineMachine.Machine

/-! ## Machines of sound templates -/

/-- A sound template has a machine. -/
theorem ofTemplate_of_sound {t : Template} (h : t.Sound) : ∃ m, ofTemplate t = .ok m := by
  obtain ⟨names, -, hsound⟩ := h.names
  refine exists_ofTemplate_iff.mpr ⟨h.states, fun s hs ↦ exists_stateEntry_iff.mpr ⟨?_, ?_⟩,
    fun v hv ↦ exists_typeEntry_iff.mpr (h.declared v hv)⟩
  · exact fun r hr ↦ ((hsound s hs).rule r hr).pattern
  · exact (hsound s hs).name

/-! ## Safety -/

/-- A sound action is about a variable that is named by a scalar. -/
theorem isSome_key?_of_sound {a : Action} (h : a.Sound) {name : Value}
    (hname : a.variable? = some name) : name.key?.isSome = true := by
  cases a with
  | emit => cases hname
  | clear name =>
    cases hname
    exact h
  | set name operand | append name operand =>
    cases hname
    exact h.1

theorem sourced_of_sound {a : Action} (h : a.Sound) : SourcedAction a := by
  cases a with
  | emit => trivial
  | clear name => trivial
  | set name operand => exact h.2
  | append name operand => exact h.2

/-- A rule of the machine of a sound template is safe. -/
theorem safeRule_of_sound {t : Template} {m : Machine} (hbuilt : Built t m) {names : List Key}
    (hnames : ∀ k ∈ names, ∃ s ∈ t.states, s.name.key? = some k) {source : LineMachine.Rule}
    (h : source.Sound names) {state : Value} {index : Nat} {r : Rule}
    (hr : Rule.ofTemplate state index source = .ok r) : SafeRule m r := by
  obtain ⟨pattern, -, rfl⟩ := rule_of_ofTemplate hr
  refine ⟨fun a ha ↦ sourced_of_sound (h.action a ha), named_of_scalar h.rename
    fun a ha _ ↦ isSome_key?_of_sound (h.action a ha), ?_⟩
  intro t ht
  rcases h.target t ht with hself | hend | ⟨k, hk, hany⟩
  · exact .inl hself
  · exact .inr (.inl hend)
  · obtain ⟨j, hj, hsame⟩ := List.any_eq_true.mp hany
    obtain ⟨s, hs, hname⟩ := hnames j hj
    exact .inr (.inr (isSome_stateAt?_of_mem hbuilt hs hname hk hsame))

/-- The machine of a sound template is safe. -/
theorem safe_of_sound {t : Template} {m : Machine} (h : t.Sound) (hm : ofTemplate t = .ok m) :
    Safe m := by
  have hbuilt := built_of_ofTemplate hm
  obtain ⟨names, hnames, hsound⟩ := h.names
  constructor
  · obtain ⟨first, rest, hstates, hstart⟩ := hbuilt.start
    have hfirst : first ∈ t.states := by
      rw [hstates]
      exact List.mem_cons_self
    obtain ⟨k, hk⟩ := Option.isSome_iff_exists.mp (hsound first hfirst).name
    rw [hstart]
    exact isSome_stateAt?_of_mem hbuilt hfirst hk hk (Key.same_self k)
  · intro name s r hentry hr
    obtain ⟨k, -, hfound⟩ := Option.bind_eq_some_iff.mp hentry
    obtain ⟨state, hstate, source, hsource, index, hread⟩ :=
      exists_rule_of_find?_states hbuilt hfound hr
    exact safeRule_of_sound hbuilt hnames ((hsound state hstate).rule source hsource) hread

end LineMachine.Machine

namespace LineMachine.Engine

/-! ## Documents -/

/-- A new cache makes the machine of a template whose id can be used as a key. -/
theorem compile_empty {t : Template} {m : Machine} (hid : t.id.key?.isSome = true)
    (hm : Machine.ofTemplate t = .ok m) :
    ∃ stored, (compile Cache.empty t).result = .ok stored := by
  obtain ⟨k, hk⟩ := Option.isSome_iff_exists.mp hid
  have hkey : t.id.key = .ok k := Value.key_eq_ok.mpr hk
  have hget : Cache.empty.get? t.id = .ok none := by
    rw [Cache.get?, hkey]
    rfl
  have htemplate : m.template.id.key = .ok k := by
    rw [(Machine.built_of_ofTemplate hm).template, hkey]
  refine ⟨⟨0, m⟩, ?_⟩
  rw [compile, getOr, hget]
  simp only [Answer.after, put, build, hm, Answer.andThen, Answer.ofUpdate, Cache.put, htemplate]
  rfl

/-- **A valid document runs.** Let a document have the kinds that validation passes over, and let
validation have no problem with it. Then it is read, its template has a machine, and running that
over any text with any options comes to an end without a message, unless texts are turned into
declared types and the history of the run gives a number variable an integer numeral of too many
digits; and there the run is stopped by that numeral. -/
theorem parse_of_valid {doc : Value} (hkinds : Validation.wellKinded doc = true)
    (hvalid : Validation.isValid doc = .ok true) :
    ∃ t m, Template.read doc = .ok t ∧ Machine.ofTemplate t = .ok m ∧
      ∀ (text : String) (o : Options),
        ((¬ ∃ change ∈ m.history (Text.splitLines text), change.Refused m o) →
          ∃ r, (parse Cache.empty (.str text) t o).result = .ok r ∧ r.errors = []) ∧
        ((∃ change ∈ m.history (Text.splitLines text), change.Refused m o) →
          (parse Cache.empty (.str text) t o).result = .error .longNumeral) := by
  obtain ⟨problems, hproblems, hempty⟩ := bind_eq_ok.mp hvalid
  rw [List.isEmpty_iff.mp (pure_eq_ok.mp hempty)] at hproblems
  obtain ⟨t, hread, hsound⟩ := Template.read_of_validate hkinds hproblems
  obtain ⟨m, hm⟩ := Machine.ofTemplate_of_sound hsound
  have hsafe := Machine.safe_of_sound hsound hm
  obtain ⟨stored, hcompile⟩ := compile_empty hsound.id hm
  have hmachine : stored.machine = m :=
    Except.ok.inj ((suits_empty t stored hcompile).symm.trans hm)
  refine ⟨t, m, hread, hm, fun text o ↦ ⟨?_, ?_⟩⟩
  · intro hnone
    obtain ⟨c, hrun, hknown⟩ := Machine.run_of_safe hsafe hnone
    refine ⟨.ofConfig t o c, ?_, errors_of_not_lost hknown⟩
    rw [parse_result hcompile, hmachine, hrun]
    rfl
  · intro hrefused
    rw [parse_result hcompile, hmachine, Machine.run_of_refused hsafe hrefused]
    rfl

/-- The document of the list of ports is valid, and runs over every text. -/
theorem parse_of_valid_ports :
    ∃ t, Template.read ports.write = .ok t ∧ ∀ text,
      ∃ r, (parse Cache.empty (.str text) t {}).result = .ok r ∧ r.errors = [] := by
  have hkinds : Validation.wellKinded ports.write = true := by decide
  have hvalid : Validation.isValid ports.write = .ok true := by rfl
  obtain ⟨t, m, hread, -, hruns⟩ := parse_of_valid hkinds hvalid
  refine ⟨t, hread, fun text ↦ (hruns text {}).1 ?_⟩
  -- Without coercion no value is refused.
  rintro ⟨change, -, hrefused⟩
  cases change with
  | write name v | extend name v =>
    obtain ⟨k, -, hcoerce, -⟩ := hrefused
    cases hcoerce
  | erase name | emit => cases hrefused

end LineMachine.Engine
