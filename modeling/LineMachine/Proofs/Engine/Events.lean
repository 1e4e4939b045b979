import LineMachine.Proofs.Cache.Past
import LineMachine.Proofs.Run.Final

/-!
# What a run reports

Running a template through a cache makes events in three places: the cache reports whether it had a
machine, the machine is reported if it was built, and the run reports where it came to. Each of them
counts for itself. Still the events say what the result says (`mirrors_parse`): they begin with
those of looking up the machine, nothing follows if the run stops with a fault, and otherwise a
warning follows exactly if the result has a message, and last the counts of the result.
-/

namespace LineMachine

/-! ## Events of two operations -/

namespace Answer

variable {α β : Type}

theorem events_andThen_of_ok {a : Answer α} {v : α} (h : a.result = .ok v)
    (next : Cache → α → Answer β) :
    (a.andThen next).events = a.events ++ (next a.cache v).events := by
  rw [andThen, h]

theorem events_andThen_of_error {a : Answer α} {fault : Fault} (h : a.result = .error fault)
    (next : Cache → α → Answer β) : (a.andThen next).events = a.events := by
  rw [andThen, h]

/-- Giving back something made of a result reports nothing more. -/
theorem events_andThen_pure (a : Answer α) (f : α → β) :
    (a.andThen fun cache v ↦ pure cache (f v)).events = a.events := by
  cases hresult : a.result with
  | error fault => exact events_andThen_of_error hresult _
  | ok v =>
    rw [events_andThen_of_ok hresult]
    exact List.append_nil _

theorem ofExcept_ok_andThen (cache : Cache) (v : α) (next : Cache → α → Answer β) :
    (ofExcept cache (.ok v)).andThen next = next cache v := rfl

theorem ofExcept_error_andThen (cache : Cache) (fault : Fault) (next : Cache → α → Answer β) :
    (ofExcept cache (.error fault)).andThen next = fail cache fault := rfl

end Answer

namespace Engine

/-! ## Looking up a machine -/

/-- The events of asking a cache for the machine of a template whose id is a given key. -/
def lookupEvents (c : Cache) (t : Template) (k : Key) : List Event :=
  match Table.find? c.entries k, Machine.ofTemplate t with
  | some _, _ => [.cacheHit t.id]
  | none, .ok m => [.cacheMiss t.id, .templateCompiled t.id m.states.length m.patternCount]
  | none, .error _ => [.cacheMiss t.id]

theorem events_compile {c : Cache} {t : Template} {k : Key} (hk : t.id.key? = some k) :
    (compile c t).events = lookupEvents c t k := by
  rw [lookupEvents]
  cases asking c t with
  | refused hj h => cases hj.symm.trans hk
  | held j stored hj hheld h =>
    cases hj.symm.trans hk
    rw [h, hheld]
  | built j m hj hnone hm h =>
    cases hj.symm.trans hk
    rw [h, hnone, hm, Machine.builtEvent, (Machine.built_of_ofTemplate hm).template]
  | faulty j fault hj hnone hm h =>
    cases hj.symm.trans hk
    rw [h, hnone, hm]

/-! ## Running it -/

/-- Holds of an answer whose events mirror what comes of running a template over a text. -/
structure Mirrors (c : Cache) (t : Template) (k : Key) (text : String) (a : Answer ParseResult) :
    Prop where
  /-- A run that stops with a fault, be it while its machine is built or later, has reported
  nothing but the lookup. -/
  failed {fault : Fault} : a.result = .error fault → a.events = lookupEvents c t k
  /-- A run that comes to an end warns of the state that it has come to if that does not exist,
  and then tells the counts of its result and that state. -/
  finished {r : ParseResult} : a.result = .ok r →
    ∃ stored, (compile c t).result = .ok stored ∧ ∃ final,
      final = stored.machine.finalState (Text.splitLines text) ∧
      (r.errors = [] ∨ r.errors = ["UnknownStateError: Unknown state: " ++ final.text]) ∧
      a.events = lookupEvents c t k ++
        (if r.errors = [] then [] else [.unknownState t.id final r.linesProcessed]) ++
        [.parseCompleted t.id r.records.length r.linesProcessed r.matched final]

/-- What a run reports, told from its result. -/
theorem runEvents_eq (t : Template) (o : Options) (c : Machine.Config) :
    runEvents t c =
      (if (ParseResult.ofConfig t o c).errors = [] then []
        else [.unknownState t.id c.state c.lines]) ++
        [.parseCompleted t.id c.records.length c.lines c.matched c.state] := by
  rw [runEvents]
  by_cases hlost : c.status = .lost
  · rw [if_pos hlost, errors_of_lost hlost, if_neg (List.cons_ne_nil _ _)]
  · rw [if_neg hlost, errors_of_not_lost hlost, if_pos rfl]

/-- **The events of a run mirror its outcome.** -/
theorem mirrors_parse {t : Template} {k : Key} (hk : t.id.key? = some k) (c : Cache)
    (text : String) (o : Options) : Mirrors c t k text (parse c (.str text) t o) := by
  cases hcompile : (compile c t).result with
  | error fault =>
    have hresult : (parse c (.str text) t o).result = .error fault := by
      rw [parse, Answer.result_andThen, hcompile]
      rfl
    constructor
    · intro fault' _
      rw [parse, Answer.events_andThen_of_error hcompile, events_compile hk]
    · intro r hr
      cases hr.symm.trans hresult
  | ok stored =>
    have hresult := parse_result hcompile text o
    -- The events of the lookup stand in front, whatever comes of the run.
    have hevents : (parse c (.str text) t o).events = lookupEvents c t k ++
        (runMachine (compile c t).cache stored.machine t (.str text) o).events := by
      rw [parse, Answer.events_andThen_of_ok hcompile, events_compile hk]
    rw [runMachine, textOf, ok_bind] at hevents
    cases hrun : stored.machine.run o (Text.splitLines text) with
    | error fault =>
      rw [hrun] at hresult hevents
      constructor
      · intro fault' _
        rw [hevents]
        exact List.append_nil _
      · intro r hr
        cases hr.symm.trans hresult
    | ok d =>
      rw [hrun] at hresult hevents
      constructor
      · intro fault hfault
        cases hfault.symm.trans hresult
      · intro r hr
        cases hr.symm.trans hresult
        refine ⟨stored, hcompile, d.state, Machine.state_of_run hrun, ?_, ?_⟩
        · by_cases hlost : d.status = .lost
          · exact .inr (errors_of_lost hlost)
          · exact .inl (errors_of_not_lost hlost)
        · rw [hevents, List.append_assoc]
          exact congrArg (lookupEvents c t k ++ ·) (runEvents_eq t o d)

/-! ## Documents -/

/-- A document that is no template is refused without a report. -/
theorem parseDocument_of_unreadable {doc : Value} {fault : Fault}
    (h : Template.read doc = .error fault) (c : Cache) (text options : Value) :
    parseDocument c text doc options = .fail c fault := by
  rw [parseDocument, h, Answer.ofExcept_error_andThen]

/-- A document of a template, with a document of options, is run as the template. -/
theorem parseDocument_of_read {doc options : Value} {t : Template} {o : Options}
    (h : Template.read doc = .ok t) (hoptions : Options.read options = .ok o) (c : Cache)
    (text : Value) : parseDocument c text doc options = parse c text t o := by
  rw [parseDocument, h, Answer.ofExcept_ok_andThen, hoptions, Answer.ofExcept_ok_andThen]

end Engine

end LineMachine
