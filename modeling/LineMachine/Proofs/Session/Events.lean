import LineMachine.Proofs.Engine.Events
import LineMachine.Proofs.Session.Upkeep

/-!
# What a session reports

A request makes events of several kinds, and some of them tell that a machine was built. These are
reported by the part of the library that builds machines, and the caches that the machines are
stored in know nothing of them. Still they tell the same story: request by request, the machines
that are reported to be built are those that the edits of the request store (`reported_perform`).

So over any session as many machines are reported as were built, and the caches have given out a
stamp for each of them whose id is a key (`tellsBuilt`). Together with what a single run reports
this is `session_events`.
-/

namespace LineMachine

open Cache (Edit)

/-- Whether an event tells that a machine was built. -/
def Event.isBuilt : Event → Bool
  | .templateCompiled .. => true
  | _ => false

/-! ## Events beside edits -/

namespace Cache.Edit

/-- The machine that an edit stores. -/
def machine? : Edit → Option Machine
  | .store m => some m
  | .drop _ | .dropAll => none

/-- The machines that edits store, one after the other. -/
def machines (edits : List Edit) : List Machine :=
  edits.filterMap machine?

theorem machines_append (xs ys : List Edit) : machines (xs ++ ys) = machines xs ++ machines ys :=
  List.filterMap_append

theorem store_mem_of_mem_machines {edits : List Edit} {m : Machine} (h : m ∈ machines edits) :
    store m ∈ edits := by
  obtain ⟨e, he, hm⟩ := List.mem_filterMap.mp h
  cases e with
  | store n =>
    cases hm
    exact he
  | drop | dropAll => cases hm

/-- Holds of events that report the machines which edits store to be built, one after the other, and
no other ones. -/
def Reported (edits : List Edit) (events : List Event) : Prop :=
  events.filter Event.isBuilt = (machines edits).map Machine.builtEvent

namespace Reported

variable {xs ys : List Edit} {events others : List Event}

/-- Where nothing is stored, events about other things will do. -/
theorem nil (h : ∀ e ∈ events, e.isBuilt = false) : Reported [] events := by
  refine List.filter_eq_nil_iff.mpr ?_
  intro e he
  rw [h e he]
  exact Bool.false_ne_true

theorem append (hxs : Reported xs events) (hys : Reported ys others) :
    Reported (xs ++ ys) (events ++ others) := by
  unfold Reported at *
  rw [List.filter_append, machines_append, List.map_append, hxs, hys]

theorem append_silent (hxs : Reported xs events) (h : ∀ e ∈ others, e.isBuilt = false) :
    Reported xs (events ++ others) := by
  rw [← List.append_nil xs]
  exact hxs.append (nil h)

theorem silent_append (h : ∀ e ∈ events, e.isBuilt = false) (hxs : Reported xs others) :
    Reported xs (events ++ others) :=
  (nil h).append hxs

/-- One more event in front, about something else. -/
theorem after {α : Type} {e : Event} (h : e.isBuilt = false) {a : Answer α}
    (hxs : Reported xs a.events) : Reported xs (a.after e).events :=
  .silent_append (List.forall_mem_singleton.mpr h) hxs

end Reported

end Cache.Edit

open Cache.Edit (Reported machines)

/-! ## Stamps beside edits -/

/-- Whether a machine can be put under the id of its template. -/
def Machine.isKeyed (m : Machine) : Bool :=
  m.template.id.key?.isSome

namespace Cache

/-- An edit takes a stamp if it stores a machine under a key. -/
theorem next_edited (c : Cache) (e : Edit) :
    (c.edited e).next = c.next + (machines [e]).countP Machine.isKeyed := by
  cases e with
  | store m =>
    rw [edited, put]
    cases hk : m.template.id.key? with
    | none =>
      have hkeyed : m.isKeyed = false := by rw [Machine.isKeyed, hk]; rfl
      change _ = c.next + [m].countP Machine.isKeyed
      rw [Value.key, hk, List.countP_singleton, hkeyed]
      rfl
    | some k =>
      have hkeyed : m.isKeyed = true := by rw [Machine.isKeyed, hk]; rfl
      change _ = c.next + [m].countP Machine.isKeyed
      rw [Value.key_eq_ok.mpr hk, List.countP_singleton, hkeyed]
      rfl
  | drop id =>
    rw [edited, remove]
    split
    · rfl
    · cases id.key <;> rfl
  | dropAll => rfl

theorem next_foldl_edited (edits : List Edit) (c : Cache) :
    (edits.foldl edited c).next = c.next + (machines edits).countP Machine.isKeyed := by
  induction edits generalizing c with
  | nil => rfl
  | cons e edits ih =>
    rw [List.foldl_cons, ih, next_edited, ← List.singleton_append (l := edits),
      Edit.machines_append, List.countP_append, Nat.add_assoc]

end Cache

/-! ## Operations -/

theorem Answer.events_ofUpdate {α : Type} (c : Cache) (x : Except Fault (α × Cache)) :
    (ofUpdate c x).events = [] := by
  cases x <;> rfl

namespace Engine

theorem reported_compile (c : Cache) (t : Template) :
    Reported ((Deed.ask t).edits c) (compile c t).events := by
  rw [Deed.edits]
  cases asking c t with
  | refused hk h =>
    rw [h, Cache.get?, Value.key, hk]
    rfl
  | held k stored hk hheld h =>
    rw [h, Cache.get?_eq hk, hheld]
    rfl
  | built k m hk hnone hm h =>
    rw [h, Cache.get?_eq hk, hnone, hm]
    rfl
  | faulty k fault hk hnone hm h =>
    rw [h, Cache.get?_eq hk, hnone, hm]
    rfl

/-- A run builds nothing. -/
theorem isBuilt_of_mem_runMachine {c : Cache} {m : Machine} {t : Template} {text : Value}
    {o : Options} : ∀ e ∈ (runMachine c m t text o).events, e.isBuilt = false := by
  rw [runMachine]
  cases textOf text >>= fun s ↦ m.run o (Text.splitLines s) with
  | error fault => exact List.forall_mem_nil _
  | ok d =>
    intro e he
    rcases List.mem_append.mp he with hwarning | hcounts
    · split at hwarning
      · cases List.mem_singleton.mp hwarning
        rfl
      · cases hwarning
    · cases List.mem_singleton.mp hcounts
      rfl

theorem reported_parse (c : Cache) (text : Value) (t : Template) (o : Options) :
    Reported ((Deed.ask t).edits c) (parse c text t o).events := by
  rw [parse]
  cases hcompile : (compile c t).result with
  | error fault =>
    rw [Answer.events_andThen_of_error hcompile]
    exact reported_compile c t
  | ok stored =>
    rw [Answer.events_andThen_of_ok hcompile]
    exact (reported_compile c t).append_silent isBuilt_of_mem_runMachine

theorem reported_parseDocument (c : Cache) (engine : String) (text doc options : Value) :
    Reported ((Request.parse engine text doc options).edits c)
      (parseDocument c text doc options).events := by
  change Reported (Deed.editsAll c ((Request.parse engine text doc options).deeds c)) _
  rw [parseDocument, Request.deeds]
  cases Template.read doc with
  | error fault => rfl
  | ok t =>
    cases Options.read options with
    | error fault => rfl
    | ok o =>
      simp only [Deed.editsAll, List.append_nil]
      exact reported_parse c text t o

theorem reported_compileDocument (c : Cache) (engine : String) (doc : Value) :
    Reported ((Request.compile engine doc).edits c) (compileDocument c doc).events := by
  change Reported (Deed.editsAll c ((Request.compile engine doc).deeds c)) _
  rw [compileDocument, Request.deeds]
  cases Template.read doc with
  | error fault => rfl
  | ok t =>
    simp only [Deed.editsAll, List.append_nil]
    exact reported_compile c t

theorem reported_putDocument (c : Cache) (doc : Value) :
    Reported (documentEdits doc) (putDocument c doc).events := by
  rw [putDocument, documentEdits]
  cases Template.read doc with
  | error fault => rfl
  | ok t =>
    rw [Answer.ofExcept_ok_andThen, ok_bind, put, build]
    cases Machine.ofTemplate t with
    | error fault => rfl
    | ok m =>
      -- The machine was built and reported, also where its id is no key to store it under.
      have hbuilt : (⟨.ok m, c, [m.builtEvent]⟩ : Answer Machine).result = .ok m := rfl
      simp only
      rw [Answer.events_andThen_of_ok hbuilt, Answer.events_ofUpdate]
      rfl

theorem reported_getOrCompileDocument (c : Cache) (place : Place) (id doc : Value) :
    Reported ((Request.getOrCompile place id doc).edits c)
      (getOrCompileDocument c id doc).events := by
  rw [getOrCompileDocument, getOr, Request.edits]
  cases c.get? id with
  | error fault => rfl
  | ok found =>
    cases found with
    | some stored => rfl
    | none => exact (reported_putDocument c doc).after rfl

end Engine

namespace Match

section Trying

variable {σ : Type} {score : Scorer σ} {text : Value}

/-- The events of one candidate are those of its run, and then of its being left out, if it is. -/
theorem exists_events_tryAll_of_ok {c : Cache} {t : Template} {s : Option (Scored σ)}
    (h : attempt score text c t = .ok s) (rest : List Template) :
    ∃ skipped, (∀ e ∈ skipped, e.isBuilt = false) ∧
      (tryAll score text c (t :: rest)).events =
        (Engine.parse c text t {}).events ++
          (skipped ++ (tryAll score text (c.after (.ask t)) rest).events) := by
  rw [tryAll, ← Engine.cache_parse c text t {}]
  rw [attempt] at h
  cases hrun : (Engine.parse c text t {}).result with
  | error fault =>
    rw [hrun] at h
    simp only at h ⊢
    split at h
    · rename_i hskipped
      rw [if_pos hskipped]
      exact ⟨[.templateSkipped t.id fault.message], List.forall_mem_singleton.mpr rfl, rfl⟩
    · cases h
  | ok r =>
    rw [hrun] at h
    obtain ⟨scored, hscored, -⟩ := map_eq_ok.mp h
    refine ⟨[], List.forall_mem_nil _, ?_⟩
    simp only
    rw [Answer.events_andThen_of_ok hscored, Answer.events_andThen_pure, List.nil_append]

theorem events_tryAll_of_error {c : Cache} {t : Template} {fault : Fault}
    (h : attempt score text c t = .error fault) (rest : List Template) :
    (tryAll score text c (t :: rest)).events = (Engine.parse c text t {}).events := by
  rw [tryAll]
  rw [attempt] at h
  cases hrun : (Engine.parse c text t {}).result with
  | error found =>
    rw [hrun] at h
    simp only at h ⊢
    split at h
    · cases h
    · rename_i hskipped
      rw [if_neg hskipped]
  | ok r =>
    rw [hrun] at h
    simp only at h ⊢
    cases hscored : scoredOf score t r with
    | error found => rfl
    | ok s =>
      rw [hscored] at h
      cases h

theorem reported_tryAll (c : Cache) (templates : List Template) :
    Reported (Deed.editsAll c ((tried score text c templates).map Deed.ask))
      (tryAll score text c templates).events := by
  induction templates generalizing c with
  | nil => rfl
  | cons t rest ih =>
    have hfirst := Engine.reported_parse c text t {}
    cases hattempt : attempt score text c t with
    | ok s =>
      obtain ⟨skipped, hskipped, hevents⟩ := exists_events_tryAll_of_ok hattempt rest
      rw [hevents, tried_of_ok hattempt]
      exact hfirst.append (.silent_append hskipped (ih _))
    | error fault =>
      rw [events_tryAll_of_error hattempt, tried_of_error hattempt]
      change Reported ((Deed.ask t).edits c ++ []) _
      rw [List.append_nil]
      exact hfirst

end Trying

/-- Reading candidates builds nothing. -/
theorem isBuilt_of_mem_readCandidates (c : Cache) (docs : List Value) :
    ∀ e ∈ (readCandidates c docs).events, e.isBuilt = false := by
  induction docs with
  | nil => exact List.forall_mem_nil _
  | cons doc rest ih =>
    rw [readCandidates]
    cases Template.read doc with
    | error fault =>
      simp only
      split
      · exact List.forall_mem_cons.mpr ⟨rfl, ih⟩
      · exact List.forall_mem_nil _
    | ok t =>
      simp only
      rwa [Answer.events_andThen_pure]

section Comparing

variable {σ : Type} [LT σ] [DecidableLT σ] {score : Scorer σ} {zero : σ} {text : Value}

theorem reported_compareTemplates (c : Cache) {templates kept : List Template} {filter : Value}
    (h : filterTemplates templates filter = .ok kept) :
    Reported (Deed.editsAll c ((tried score text c kept).map Deed.ask))
      (compareTemplates score zero c text templates filter).events := by
  rw [compareTemplates, h, Answer.ofExcept_ok_andThen, Answer.events_andThen_pure]
  exact (reported_tryAll c kept).after rfl

theorem reported_compareDocuments (c : Cache) (docs filter : Value) :
    Reported (Deed.editsAll c ((triedDocuments score text c docs filter).map Deed.ask))
      (compareDocuments score zero c text docs filter).events := by
  rw [triedDocuments, candidates, compareDocuments]
  cases docs.elements with
  | error fault => rfl
  | ok docs =>
    obtain ⟨hcache, hread⟩ := readCandidates_eq c docs
    have hsilent := isBuilt_of_mem_readCandidates c docs
    rw [Answer.ofExcept_ok_andThen, ok_bind]
    cases hresult : (readCandidates c docs).result with
    | error fault =>
      rw [Answer.events_andThen_of_error hresult, ← hread, hresult]
      exact .nil hsilent
    | ok templates =>
      rw [Answer.events_andThen_of_ok hresult, ← hread, hresult, hcache, ok_bind]
      cases hkept : filterTemplates templates filter with
      | error fault =>
        rw [compareTemplates, hkept, Answer.ofExcept_error_andThen]
        exact .append_silent (.nil hsilent) (List.forall_mem_nil _)
      | ok kept => exact .silent_append hsilent (reported_compareTemplates c hkept)

end Comparing

end Match

/-! ## Requests -/

namespace Session

/-- The edits that a request makes, in the cache that it goes to. -/
def editsOf (s : Session) (r : Request) : List Edit :=
  (r.place?.bind s.handle?).elim [] fun handle ↦ r.edits (s.cacheAt handle)

/-- The events that a request makes. A request about unknown names makes none. -/
def eventsOf (s : Session) (r : Request) : List Event :=
  ((s.perform r).map Outcome.events).getD []

theorem events_conclude {α : Type} (s : Session) (handle : Nat) (a : Answer α)
    (reply : Session → α → Session × Reply) : (s.conclude handle a reply).events = a.events := by
  rw [conclude]
  cases a.result <;> rfl

/-- A request that is an operation on a cache reports what the operation reports. -/
theorem reported_of_operation {α : Type} {s : Session} {r : Request} {place : Place}
    (operation : Cache → Answer α) {reply : Nat → Session → α → Session × Reply}
    (hplace : r.place? = some place)
    (hperform : s.perform r =
      s.at? place fun handle c ↦ s.conclude handle (operation c) (reply handle))
    (h : ∀ c, Reported (r.edits c) (operation c).events) :
    Reported (s.editsOf r) (s.eventsOf r) := by
  rw [editsOf, eventsOf, hperform, hplace, Option.bind_some, at?]
  cases s.handle? place with
  | none => rfl
  | some handle =>
    rw [Option.map_some, Option.map_some, Option.getD_some, events_conclude]
    exact h (s.cacheAt handle)

/-- **The machines that a request reports to be built are those that it stores.** -/
theorem reported_perform (s : Session) (r : Request) : Reported (s.editsOf r) (s.eventsOf r) := by
  cases r with
  | newCache name => rfl
  | newEngine name cache =>
    cases cache with
    | none => rfl
    | some cache =>
      rw [editsOf, eventsOf, perform, at?]
      cases s.handle? (.cache cache) <;> rfl
  | parse engine text doc options =>
    exact reported_of_operation _ rfl rfl fun c ↦
      Engine.reported_parseDocument c engine text doc options
  | compile engine doc =>
    exact reported_of_operation _ rfl rfl fun c ↦ Engine.reported_compileDocument c engine doc
  | findBest engine text docs filter top =>
    exact reported_of_operation _ rfl rfl fun c ↦ Match.reported_compareDocuments c docs filter
  | put place doc =>
    exact reported_of_operation _ rfl rfl fun c ↦ Engine.reported_putDocument c doc
  | getOrCompile place id doc =>
    exact reported_of_operation _ rfl rfl fun c ↦
      Engine.reported_getOrCompileDocument c place id doc
  | invalidate engine id =>
    refine reported_of_operation (fun c ↦ .ofUpdate c (c.remove id)) rfl rfl fun c ↦ ?_
    rw [Answer.events_ofUpdate]
    rfl
  | clear engine =>
    exact reported_of_operation (fun c ↦ .pure c.clear ()) rfl rfl fun c ↦ rfl
  | get place id =>
    exact reported_of_operation (fun c ↦ .ofExcept c (c.get? id)) rfl rfl fun c ↦ rfl
  | contains place id =>
    exact reported_of_operation (fun c ↦ .ofExcept c (c.contains id)) rfl rfl fun c ↦ rfl
  | size place =>
    exact reported_of_operation (fun c ↦ .pure c c.size) rfl rfl fun c ↦ rfl

/-! ## Sessions -/

/-- The events that requests make, carried out one after the other. -/
def events (s : Session) : List Request → List Event
  | [] => []
  | r :: requests => s.eventsOf r ++ (s.next r).events requests

/-- The machines that requests build, carried out one after the other. -/
def built (s : Session) : List Request → List Machine
  | [] => []
  | r :: requests => machines (s.editsOf r) ++ (s.next r).built requests

theorem filter_events (s : Session) (requests : List Request) :
    (s.events requests).filter Event.isBuilt = (s.built requests).map Machine.builtEvent := by
  induction requests generalizing s with
  | nil => rfl
  | cons r requests ih =>
    have hfirst : (s.eventsOf r).filter Event.isBuilt =
        (machines (s.editsOf r)).map Machine.builtEvent := reported_perform s r
    rw [events, built, List.filter_append, List.map_append, hfirst, ih]

theorem ofTemplate_of_mem_built {s : Session} {requests : List Request} {m : Machine}
    (h : m ∈ s.built requests) : Machine.ofTemplate m.template = .ok m := by
  induction requests generalizing s with
  | nil => cases h
  | cons r requests ih =>
    rcases List.mem_append.mp h with hfirst | hrest
    · have hstore := Cache.Edit.store_mem_of_mem_machines hfirst
      rw [editsOf] at hstore
      cases hhandle : r.place?.bind s.handle? with
      | none =>
        rw [hhandle] at hstore
        cases hstore
      | some handle =>
        rw [hhandle] at hstore
        exact built_of_mem_edits hstore
    · exact ih hrest

/-! ### Stamps -/

/-- How many stamps caches have given out. -/
def stampsOf (caches : List Cache) : Nat :=
  caches.foldr (fun c stamps ↦ c.next + stamps) 0

theorem stampsOf_cons (c : Cache) (caches : List Cache) :
    stampsOf (c :: caches) = c.next + stampsOf caches := rfl

/-- How many stamps the caches of a session have given out. -/
def stampCount (s : Session) : Nat :=
  stampsOf s.caches

theorem stampsOf_set {caches : List Cache} {handle : Nat} (h : handle < caches.length) {c : Cache}
    {n : Nat} (hc : c.next = (caches[handle]?.getD Cache.empty).next + n) :
    stampsOf (caches.set handle c) = stampsOf caches + n := by
  induction caches generalizing handle with
  | nil => exact absurd h (Nat.not_lt_zero _)
  | cons first caches ih =>
    cases handle with
    | zero =>
      change c.next = first.next + n at hc
      rw [List.set_cons_zero, stampsOf_cons, stampsOf_cons, hc]
      omega
    | succ handle =>
      have hrest := ih (Nat.lt_of_succ_lt_succ h) hc
      rw [List.set_cons_succ, stampsOf_cons, stampsOf_cons, hrest]
      omega

/-- A request gives out a stamp for every machine that it builds and that has a key for an id. -/
theorem stampCount_next {s : Session} (hs : WellNamed s) (r : Request) :
    (s.next r).stampCount =
      s.stampCount + (machines (s.editsOf r)).countP Machine.isKeyed := by
  rw [editsOf]
  cases hplace : r.place? with
  | none =>
    have hopened := opened_of_perform hs hplace
    rw [stampCount, stampCount]
    rcases hopened.caches with hsame | hnew
    · rw [hsame]
      rfl
    · rw [hnew, stampsOf, List.foldr_append]
      rfl
  | some place =>
    rw [Option.bind_some]
    cases hhandle : s.handle? place with
    | none =>
      rw [next_of_unknown hplace hhandle]
      rfl
    | some handle =>
      rw [stampCount, (visited_of_perform hplace hhandle).caches]
      refine stampsOf_set (lt_of_handle? hs hhandle) ?_
      rw [Request.leaves_eq_edits]
      exact Cache.next_foldl_edited _ _

theorem stampCount_after {s : Session} (hs : WellNamed s) (requests : List Request) :
    (s.after requests).stampCount =
      s.stampCount + (s.built requests).countP Machine.isKeyed := by
  induction requests generalizing s with
  | nil => rfl
  | cons r requests ih =>
    rw [after_cons, ih (wellNamed_next hs r), stampCount_next hs, built, List.countP_append,
      Nat.add_assoc]

/-! ### What is reported -/

/-- Holds of requests whose events tell of the machines that they build. -/
structure TellsBuilt (requests : List Request) : Prop where
  /-- The machines are reported one after the other, as they are built. -/
  reported : (start.events requests).filter Event.isBuilt =
    (start.built requests).map Machine.builtEvent
  /-- As many are reported as are built. -/
  count : (start.events requests).countP Event.isBuilt = (start.built requests).length
  /-- What is built is the machine of its template. -/
  built : ∀ m ∈ start.built requests, Machine.ofTemplate m.template = .ok m
  /-- The caches have given out a stamp for each one that they could store. -/
  stamped : (start.after requests).stampCount =
    (start.built requests).countP Machine.isKeyed

theorem tellsBuilt (requests : List Request) : TellsBuilt requests where
  reported := filter_events start requests
  count := by rw [List.countP_eq_length_filter, filter_events, List.length_map]
  built _ h := ofTemplate_of_mem_built h
  stamped := by
    rw [stampCount_after wellNamed_start]
    exact Nat.zero_add _

/-- **What is reported mirrors what is done.** A document that is no template is refused without a
report. A template whose id is a key is looked up, and its run is reported as `Engine.Mirrors` says:
by events that repeat what the result tells. And in a whole session every machine that was built,
and no other one, was reported once. -/
theorem session_events :
    (∀ (c : Cache) (doc options : Value) (text : String) (fault : Fault),
      Template.read doc = .error fault →
        (Engine.parseDocument c (.str text) doc options).result = .error fault ∧
        (Engine.parseDocument c (.str text) doc options).events = []) ∧
    (∀ (c : Cache) (doc options : Value) (t : Template) (o : Options) (k : Key) (text : String),
      Template.read doc = .ok t → Options.read options = .ok o → t.id.key? = some k →
        Engine.Mirrors c t k text (Engine.parseDocument c (.str text) doc options)) ∧
    ∀ requests, TellsBuilt requests := by
  refine ⟨?_, ?_, tellsBuilt⟩
  · intro c doc options text fault hread
    rw [Engine.parseDocument_of_unreadable hread]
    exact ⟨rfl, rfl⟩
  · intro c doc options t o k text hread hoptions hk
    rw [Engine.parseDocument_of_read hread hoptions]
    exact Engine.mirrors_parse hk c text o

/-- The list of ports is looked up, built and run to its end, in the state that lists ports. Three
machines are reported by requests that put it in, another one, and it again. -/
theorem session_events_rounds :
    (Engine.parseDocument Cache.empty (.str "ports\np1\nend\np2\n") Engine.ports.write
      (.object [])).events =
        [.cacheMiss (.str "ports"), .templateCompiled (.str "ports") 2 3,
          .parseCompleted (.str "ports") 1 4 3 (.str "list")] ∧
      (start.events rounds).countP Event.isBuilt = 3 ∧
      (Engine.parseDocument Cache.empty (.str "ports\n") .null (.object [])).events = [] := by
  obtain ⟨hunread, hread, hbuilt⟩ := session_events
  refine ⟨?_, ?_, ?_⟩
  · have hmirrors := hread Cache.empty Engine.ports.write (.object []) Engine.ports {}
      (.str "ports") "ports\np1\nend\np2\n" (by decide +kernel) (by decide +kernel) rfl
    obtain ⟨r, hr, hcounts⟩ := map_eq_ok.mp (show
      (Engine.parseDocument Cache.empty (.str "ports\np1\nend\np2\n") Engine.ports.write
        (.object [])).result.map
          (fun r ↦ (r.errors, r.records.length, r.linesProcessed, r.matched)) =
            .ok ([], 1, 4, 3) by decide +kernel)
    obtain ⟨stored, hstored, final, rfl, -, hevents⟩ := hmirrors.finished hr
    have hfinal : (Engine.compile Cache.empty Engine.ports).result.map
        (fun stored ↦ stored.machine.finalState (Text.splitLines "ports\np1\nend\np2\n")) =
          .ok (.str "list") := by decide +kernel
    rw [hstored, Except.map, Except.ok.injEq] at hfinal
    have hlookup : Engine.lookupEvents Cache.empty Engine.ports (.str "ports") =
        [.cacheMiss (.str "ports"), .templateCompiled (.str "ports") 2 3] := by decide +kernel
    simp only [Prod.mk.injEq] at hcounts
    obtain ⟨herrors, hrecords, hlines, hmatched⟩ := hcounts
    rw [hevents, hlookup, if_pos herrors, hrecords, hlines, hmatched, hfinal]
    rfl
  · rw [(hbuilt rounds).count]
    decide +kernel
  · exact (hunread Cache.empty .null (.object []) "ports\n" _ rfl).2

end Session

end LineMachine
