import LineMachine.Proofs.Cache.Stamp
import LineMachine.Proofs.Match.Tried
import LineMachine.Session

/-!
# The course of a session

What a request leaves of a session. A request that opens a cache or an engine leaves all caches as
they are; any other one goes to a place, and leaves all caches as they are but the one at that
place (`visited_of_perform`). As far as that cache is concerned, a step of an engine is a list of
deeds (`leaves_eq_deeds`), so every cache of a session is what the deeds of its past leave of a new
cache (`cacheAt_after_start`), in whatever way the engines share the caches.

Machines are numbered by the list of machines reported so far, which only grows; so a number stands
for one machine of one cache throughout a session (`number_after`).
-/

namespace LineMachine

/-- The place that a request goes to, unless it opens a new one. -/
def Request.place? : Request → Option Place
  | .newCache _ | .newEngine _ _ => none
  | .parse engine _ _ _ | .compile engine _ | .invalidate engine _ | .clear engine
  | .findBest engine _ _ _ _ => some (.engine engine)
  | .put place _ | .get place _ | .getOrCompile place _ _ | .contains place _ | .size place =>
    some place

/-- What a request leaves of the cache that it goes to. -/
def Request.leaves (c : Cache) : Request → Cache
  | .parse _ text template options => (Engine.parseDocument c text template options).cache
  | .compile _ template => (Engine.compileDocument c template).cache
  | .invalidate _ id => (Answer.ofUpdate c (c.remove id)).cache
  | .clear _ => c.clear
  | .findBest _ text templates filter _ => (Match.findBestDocument c text templates filter).cache
  | .put _ template => (Engine.putDocument c template).cache
  | .getOrCompile _ id template => (Engine.getOrCompileDocument c id template).cache
  | .newCache _ | .newEngine _ _ | .get _ _ | .contains _ _ | .size _ => c

namespace Session

/-! ## Steps -/

/-- The session that a request leaves. A request about unknown names leaves it as it is. -/
def next (s : Session) (r : Request) : Session :=
  ((s.perform r).map Outcome.session).getD s

/-- The session that requests leave, carried out one after the other. -/
def after (s : Session) (requests : List Request) : Session :=
  requests.foldl next s

/-- The reply to a request, if the names in it are known. -/
def answer? (s : Session) (r : Request) : Option (Except Fault Reply) :=
  (s.perform r).map Outcome.result

theorem after_cons (s : Session) (r : Request) (requests : List Request) :
    s.after (r :: requests) = (s.next r).after requests := rfl

/-! ## Going to a place -/

/-- What a session is left as when one cache was changed and machines may have been numbered. -/
structure Visited (s : Session) (handle : Nat) (c : Cache) (t : Session) : Prop where
  caches : t.caches = s.caches.set handle c
  cacheNames : t.cacheNames = s.cacheNames
  engineNames : t.engineNames = s.engineNames
  reported : s.reported <+: t.reported

/-- Holds of a way to reply that does nothing to the session but number a machine. -/
def Numbers {α : Type} (reply : Session → α → Session × Reply) : Prop :=
  ∀ s v, ∃ more, (reply s v).1 = { s with reported := s.reported ++ more }

theorem numbers_plain {α : Type} (reply : α → Reply) : Numbers (plain reply) :=
  fun s _ ↦ ⟨[], by rw [List.append_nil]; rfl⟩

theorem exists_report (s : Session) (handle : Nat) (stored : Stored) :
    ∃ more, (s.report handle stored).2 = { s with reported := s.reported ++ more } := by
  rw [report]
  split
  · exact ⟨[], by rw [List.append_nil]⟩
  · exact ⟨_, rfl⟩

theorem numbers_described (handle : Nat) : Numbers (described handle) :=
  fun s stored ↦ exists_report s handle stored

theorem numbers_numbered (handle : Nat) : Numbers (numbered handle) :=
  fun s stored ↦ exists_report s handle stored

theorem numbers_numberedIfAny (handle : Nat) : Numbers (numberedIfAny handle) := by
  intro s found
  cases found with
  | none => exact ⟨[], by rw [List.append_nil]; rfl⟩
  | some stored => exact exists_report s handle stored

theorem at?_of_handle? {s : Session} {place : Place} {handle : Nat}
    (h : s.handle? place = some handle) (go : Nat → Cache → Outcome) :
    s.at? place go = some (go handle (s.cacheAt handle)) := by
  rw [at?, h]
  rfl

/-- A request that goes to a place is an operation on the cache of that place, and leaves of it what
the operation leaves. -/
theorem exists_operation {r : Request} {place : Place} (hplace : r.place? = some place) :
    ∃ (α : Type) (operation : Cache → Answer α) (reply : Nat → Session → α → Session × Reply),
      (∀ s : Session, s.perform r =
        s.at? place fun handle cache ↦ s.conclude handle (operation cache) (reply handle)) ∧
      (∀ c, (operation c).cache = r.leaves c) ∧ ∀ handle, Numbers (reply handle) := by
  cases r with
  | newCache | newEngine => cases hplace
  | parse | invalidate | findBest =>
    cases hplace
    exact ⟨_, _, _, fun _ ↦ rfl, fun _ ↦ rfl, fun _ ↦ numbers_plain _⟩
  | clear =>
    cases hplace
    exact ⟨_, fun c ↦ .pure c.clear (), _, fun _ ↦ rfl, fun _ ↦ rfl, fun _ ↦ numbers_plain _⟩
  | contains place id =>
    cases hplace
    exact ⟨_, fun c ↦ .ofExcept c (c.contains id), _, fun _ ↦ rfl, fun _ ↦ rfl,
      fun _ ↦ numbers_plain _⟩
  | size =>
    cases hplace
    exact ⟨_, fun c ↦ .pure c c.size, _, fun _ ↦ rfl, fun _ ↦ rfl, fun _ ↦ numbers_plain _⟩
  | compile =>
    cases hplace
    exact ⟨_, _, _, fun _ ↦ rfl, fun _ ↦ rfl, numbers_described⟩
  | put | getOrCompile =>
    cases hplace
    exact ⟨_, _, _, fun _ ↦ rfl, fun _ ↦ rfl, numbers_numbered⟩
  | get place id =>
    cases hplace
    exact ⟨_, fun c ↦ .ofExcept c (c.get? id), _, fun _ ↦ rfl, fun _ ↦ rfl,
      numbers_numberedIfAny⟩

/-- **What a request leaves.** A request that goes to a known place changes the cache of that place
and no other one. -/
theorem visited_of_perform {s : Session} {r : Request} {place : Place} {handle : Nat}
    (hplace : r.place? = some place) (hhandle : s.handle? place = some handle) :
    Visited s handle (r.leaves (s.cacheAt handle)) (s.next r) := by
  obtain ⟨α, operation, reply, hperform, hleaves, hreply⟩ := exists_operation hplace
  rw [next, hperform, at?_of_handle? hhandle, Option.map_some, Option.getD_some, conclude,
    ← hleaves]
  cases (operation (s.cacheAt handle)).result with
  | error fault => exact ⟨rfl, rfl, rfl, List.prefix_refl _⟩
  | ok v =>
    obtain ⟨more, hmore⟩ := hreply handle
      { s with caches := s.caches.set handle (operation (s.cacheAt handle)).cache } v
    simp only [hmore]
    exact ⟨rfl, rfl, rfl, List.prefix_append _ _⟩

/-- A request that goes to an unknown place leaves the session as it is. -/
theorem next_of_unknown {s : Session} {r : Request} {place : Place}
    (hplace : r.place? = some place) (hhandle : s.handle? place = none) : s.next r = s := by
  obtain ⟨α, operation, reply, hperform, -⟩ := exists_operation hplace
  rw [next, hperform, at?, hhandle]
  rfl

/-! ## Opening a place -/

/-- What a session is left as when a name was given to a cache that exists, or to a new one. -/
structure Opened (s t : Session) : Prop where
  caches : t.caches = s.caches ∨ t.caches = s.caches ++ [Cache.empty]
  cacheNames : ∀ e ∈ t.cacheNames, e ∈ s.cacheNames ∨ e.2 < t.caches.length
  engineNames : ∀ e ∈ t.engineNames, e ∈ s.engineNames ∨ e.2 < t.caches.length
  reported : t.reported = s.reported

/-- Holds of a session whose names all stand for caches that exist. -/
structure WellNamed (s : Session) : Prop where
  cacheNames : ∀ e ∈ s.cacheNames, e.2 < s.caches.length
  engineNames : ∀ e ∈ s.engineNames, e.2 < s.caches.length

theorem wellNamed_start : WellNamed start where
  cacheNames := List.forall_mem_nil _
  engineNames := List.forall_mem_singleton.mpr Nat.zero_lt_one

theorem mem_of_lookup {names : List (String × Nat)} {name : String} {handle : Nat}
    (h : names.lookup name = some handle) : (name, handle) ∈ names := by
  obtain ⟨before, rest, rfl, -⟩ := List.lookup_eq_some_iff.mp h
  exact List.mem_append_right before List.mem_cons_self

theorem lt_of_handle? {s : Session} (hs : WellNamed s) {place : Place} {handle : Nat}
    (h : s.handle? place = some handle) : handle < s.caches.length := by
  cases place with
  | cache name => exact hs.cacheNames _ (mem_of_lookup h)
  | engine name => exact hs.engineNames _ (mem_of_lookup h)

/-- A request that goes to no place opens one. -/
theorem opened_of_perform {s : Session} (hs : WellNamed s) {r : Request}
    (hplace : r.place? = none) : Opened s (s.next r) := by
  have hnew : s.caches.length < (s.caches ++ [Cache.empty]).length := by
    rw [List.length_append]
    exact Nat.lt_succ_self _
  cases r with
  | newCache name =>
    refine ⟨.inr rfl, ?_, fun e he ↦ .inl he, rfl⟩
    intro e he
    rcases List.mem_cons.mp he with rfl | he
    · exact .inr hnew
    · exact .inl he
  | newEngine name cache =>
    cases cache with
    | none =>
      refine ⟨.inr rfl, fun e he ↦ .inl he, ?_, rfl⟩
      intro e he
      rcases List.mem_cons.mp he with rfl | he
      · exact .inr hnew
      · exact .inl he
    | some cache =>
      rw [next, perform, at?]
      cases hhandle : s.handle? (.cache cache) with
      | none => exact ⟨.inl rfl, fun e he ↦ .inl he, fun e he ↦ .inl he, rfl⟩
      | some handle =>
        refine ⟨.inl rfl, fun e he ↦ .inl he, ?_, rfl⟩
        intro e he
        rcases List.mem_cons.mp he with rfl | he
        · exact .inr (lt_of_handle? hs hhandle)
        · exact .inl he
  | parse | compile | invalidate | clear | findBest | put | get | getOrCompile | contains | size =>
    cases hplace

/-! ## What every request keeps -/

theorem length_le_of_opened {s t : Session} (h : Opened s t) :
    s.caches.length ≤ t.caches.length := by
  rcases h.caches with hsame | hnew
  · rw [hsame]
  · rw [hnew, List.length_append]
    exact Nat.le_add_right _ _

theorem wellNamed_next {s : Session} (hs : WellNamed s) (r : Request) : WellNamed (s.next r) := by
  cases hplace : r.place? with
  | none =>
    have hopened := opened_of_perform hs hplace
    have hlength := length_le_of_opened hopened
    constructor
    · intro e he
      rcases hopened.cacheNames e he with hold | hnew
      · exact (hs.cacheNames e hold).trans_le hlength
      · exact hnew
    · intro e he
      rcases hopened.engineNames e he with hold | hnew
      · exact (hs.engineNames e hold).trans_le hlength
      · exact hnew
  | some place =>
    cases hhandle : s.handle? place with
    | none => rwa [next_of_unknown hplace hhandle]
    | some handle =>
      obtain ⟨hcaches, hcacheNames, hengineNames, -⟩ := visited_of_perform hplace hhandle
      constructor
      · rw [hcacheNames, hcaches, List.length_set]
        exact hs.cacheNames
      · rw [hengineNames, hcaches, List.length_set]
        exact hs.engineNames

theorem wellNamed_after {s : Session} (hs : WellNamed s) (requests : List Request) :
    WellNamed (s.after requests) := by
  induction requests generalizing s with
  | nil => exact hs
  | cons r requests ih => exact ih (wellNamed_next hs r)

/-- The machines that were reported keep their numbers. -/
theorem reported_prefix_next {s : Session} (hs : WellNamed s) (r : Request) :
    s.reported <+: (s.next r).reported := by
  cases hplace : r.place? with
  | none => exact (opened_of_perform hs hplace).reported ▸ List.prefix_refl _
  | some place =>
    cases hhandle : s.handle? place with
    | none => exact (next_of_unknown hplace hhandle).symm ▸ List.prefix_refl _
    | some handle => exact (visited_of_perform hplace hhandle).reported

theorem reported_prefix_after {s : Session} (hs : WellNamed s) (requests : List Request) :
    s.reported <+: (s.after requests).reported := by
  induction requests generalizing s with
  | nil => exact List.prefix_refl _
  | cons r requests ih => exact (reported_prefix_next hs r).trans (ih (wellNamed_next hs r))

/-! ## Caches -/

theorem cacheAt_of_opened {s t : Session} (h : Opened s t) (handle : Nat) :
    t.cacheAt handle = s.cacheAt handle := by
  rcases h.caches with hsame | hnew
  · rw [cacheAt, cacheAt, hsame]
  · rw [cacheAt, cacheAt, hnew, List.getElem?_append]
    split
    · rfl
    · rename_i hlast
      -- A handle of no cache stands for an empty one, before and after.
      rw [List.getElem?_eq_none (Nat.le_of_not_lt hlast)]
      cases handle - s.caches.length with
      | zero => rfl
      | succ n => rfl

theorem cacheAt_of_visited {s t : Session} {handle : Nat} {c : Cache} (h : Visited s handle c t)
    (hlt : handle < s.caches.length) (j : Nat) :
    t.cacheAt j = if handle = j then c else s.cacheAt j := by
  rw [cacheAt, h.caches, List.getElem?_set, if_pos hlt]
  split <;> rfl

end Session

/-! ## Deeds of requests -/

/-- Whether a request is a step of an engine, or opens or looks at something; the others put
machines into a cache by hand. -/
def Request.isEngineStep : Request → Bool
  | .put _ _ | .getOrCompile _ _ _ => false
  | _ => true

/-- What a step of an engine does to the cache that it goes to. -/
def Request.deeds (c : Cache) : Request → List Deed
  | .parse _ _ template options =>
    match Template.read template, Options.read options with
    | .ok t, .ok _ => [.ask t]
    | _, _ => []
  | .compile _ template =>
    match Template.read template with
    | .ok t => [.ask t]
    | .error _ => []
  | .invalidate _ id => [.forget id]
  | .clear _ => [.forgetAll]
  | .findBest _ text templates filter _ =>
    (Match.triedDocuments Record.score text c templates filter).map .ask
  | _ => []

theorem Engine.cache_parseDocument (c : Cache) (engine : String) (text template options : Value) :
    (Engine.parseDocument c text template options).cache =
      ((Request.parse engine text template options).deeds c).foldl Cache.after c := by
  rw [parseDocument, Request.deeds]
  cases Template.read template with
  | error fault => rfl
  | ok t =>
    rw [Answer.cache_ofExcept_andThen_ok]
    cases Options.read options with
    | error fault => rfl
    | ok o => exact cache_parse c text t o

theorem Engine.cache_compileDocument (c : Cache) (engine : String) (template : Value) :
    (Engine.compileDocument c template).cache =
      ((Request.compile engine template).deeds c).foldl Cache.after c := by
  rw [compileDocument, Request.deeds]
  cases Template.read template with
  | error fault => rfl
  | ok t => rfl

/-- A step of an engine leaves what its deeds leave. -/
theorem Request.leaves_eq_deeds {r : Request} (h : r.isEngineStep = true) (c : Cache) :
    r.leaves c = (r.deeds c).foldl Cache.after c := by
  cases r with
  | parse engine text template options => exact Engine.cache_parseDocument c engine _ _ _
  | compile engine template => exact Engine.cache_compileDocument c engine _
  | findBest engine text templates filter top => exact Match.cache_compareDocuments c _ _
  | newCache | newEngine | invalidate | clear | get | contains | size => rfl
  | put | getOrCompile => cases h

namespace Session

/-! ## Pasts of caches -/

/-- What a request does to the cache of a handle. -/
def deedsAt (s : Session) (handle : Nat) (r : Request) : List Deed :=
  if r.place?.bind s.handle? = some handle then r.deeds (s.cacheAt handle) else []

/-- What requests do to the cache of a handle, carried out one after the other. -/
def past (s : Session) (handle : Nat) : List Request → List Deed
  | [] => []
  | r :: requests => s.deedsAt handle r ++ (s.next r).past handle requests

/-- A request leaves every cache as it is but the one that it goes to. -/
theorem cacheAt_next_eq {s : Session} (hs : WellNamed s) (r : Request) (handle : Nat) :
    (s.next r).cacheAt handle =
      if r.place?.bind s.handle? = some handle then r.leaves (s.cacheAt handle)
      else s.cacheAt handle := by
  cases hplace : r.place? with
  | none => exact cacheAt_of_opened (opened_of_perform hs hplace) handle
  | some place =>
    rw [Option.bind_some]
    cases hhandle : s.handle? place with
    | none =>
      rw [next_of_unknown hplace hhandle]
      rfl
    | some found =>
      rw [cacheAt_of_visited (visited_of_perform hplace hhandle) (lt_of_handle? hs hhandle) handle]
      by_cases hsame : found = handle
      · rw [if_pos hsame, if_pos (congrArg some hsame), hsame]
      · rw [if_neg hsame, if_neg fun h ↦ hsame (Option.some.inj h)]

/-- One request changes the cache of a handle by its deeds there. -/
theorem cacheAt_next {s : Session} (hs : WellNamed s) {r : Request} (hr : r.isEngineStep = true)
    (handle : Nat) :
    (s.next r).cacheAt handle = (s.deedsAt handle r).foldl Cache.after (s.cacheAt handle) := by
  rw [cacheAt_next_eq hs, deedsAt, Request.leaves_eq_deeds hr]
  split <;> rfl

theorem cacheAt_after {s : Session} (hs : WellNamed s) {requests : List Request}
    (hsteps : ∀ r ∈ requests, r.isEngineStep = true) (handle : Nat) :
    (s.after requests).cacheAt handle =
      (s.past handle requests).foldl Cache.after (s.cacheAt handle) := by
  induction requests generalizing s with
  | nil => rfl
  | cons r requests ih =>
    obtain ⟨hr, hrest⟩ := List.forall_mem_cons.mp hsteps
    rw [after_cons, ih (wellNamed_next hs r) hrest, past, List.foldl_append, cacheAt_next hs hr]

/-- **Every cache is what its past leaves of a new one**, in whatever way the engines of the session
share the caches. -/
theorem cacheAt_after_start {requests : List Request}
    (hsteps : ∀ r ∈ requests, r.isEngineStep = true) (handle : Nat) :
    (start.after requests).cacheAt handle = Cache.ofPast (start.past handle requests) := by
  have hempty : start.cacheAt handle = Cache.empty := by
    cases handle with
    | zero => rfl
    | succ n => rfl
  rw [cacheAt_after wellNamed_start hsteps, hempty]
  rfl

/-! ## Numbers -/

/-- The number that a machine of a cache has, or will have if it is reported next. -/
def number (s : Session) (handle : Nat) (stored : Stored) : Nat :=
  s.reported.idxOf (handle, stored.stamp)

theorem report_eq (s : Session) (handle : Nat) (stored : Stored) :
    s.report handle stored =
      (s.number handle stored,
        if (handle, stored.stamp) ∈ s.reported then s
        else { s with reported := s.reported ++ [(handle, stored.stamp)] }) := by
  rw [report, number, List.idxOf_eq_getD_idxOf?]
  cases hfound : s.reported.idxOf? (handle, stored.stamp) with
  | none => rw [if_neg (List.idxOf?_eq_none_iff.mp hfound)]; rfl
  | some n =>
    have hmem : (handle, stored.stamp) ∈ s.reported := by
      by_contra hnot
      rw [List.idxOf?_eq_none_iff.mpr hnot] at hfound
      cases hfound
    rw [if_pos hmem]
    rfl

/-- What a request for a machine is answered with. -/
theorem answer?_compile {s : Session} {engine : String} {handle : Nat}
    (hhandle : s.handle? (.engine engine) = some handle) (doc : Value) :
    s.answer? (.compile engine doc) =
      some ((Engine.compileDocument (s.cacheAt handle) doc).result.map fun stored ↦
        .machine (s.number handle stored) stored.machine.template.name stored.machine.start) := by
  rw [answer?, perform, at?, hhandle, Option.map_some, Option.map_some, conclude]
  cases (Engine.compileDocument (s.cacheAt handle) doc).result with
  | error fault => rfl
  | ok stored =>
    simp only [described, report_eq]
    rfl

/-- A machine that was answered with is reported from then on, under the number of the answer. -/
theorem number_next_compile {s : Session} {engine : String} {handle : Nat}
    (hhandle : s.handle? (.engine engine) = some handle) {doc : Value} {stored : Stored}
    (h : (Engine.compileDocument (s.cacheAt handle) doc).result = .ok stored) :
    (handle, stored.stamp) ∈ (s.next (.compile engine doc)).reported ∧
      (s.next (.compile engine doc)).number handle stored = s.number handle stored := by
  have hreported : (s.next (.compile engine doc)).reported =
      if (handle, stored.stamp) ∈ s.reported then s.reported
      else s.reported ++ [(handle, stored.stamp)] := by
    rw [next, perform, at?, hhandle, Option.map_some, Option.map_some, conclude]
    simp only [h, described, report_eq]
    split <;> rfl
  rw [number, number, hreported]
  split
  · rename_i hmem
    exact ⟨hmem, rfl⟩
  · rename_i hnot
    refine ⟨List.mem_append_right _ List.mem_cons_self, ?_⟩
    rw [List.idxOf_append, if_neg hnot, List.idxOf_eq_length hnot, List.idxOf_cons_self,
      Nat.zero_add]

/-- **A machine that was reported keeps its number.** -/
theorem number_after {s : Session} (hs : WellNamed s) {handle : Nat} {stored : Stored}
    (h : (handle, stored.stamp) ∈ s.reported) (requests : List Request) :
    (s.after requests).number handle stored = s.number handle stored := by
  obtain ⟨more, hmore⟩ := reported_prefix_after hs requests
  rw [number, number, ← hmore, List.idxOf_append_of_mem h]

/-- The number of a reported machine stands for no other machine of the cache. -/
theorem number_inj {s : Session} {handle : Nat} {stored later : Stored}
    (h : (handle, stored.stamp) ∈ s.reported) :
    s.number handle stored = s.number handle later ↔ stored.stamp = later.stamp := by
  rw [number, number, List.idxOf_inj h, Prod.mk.injEq]
  exact and_iff_right rfl

end Session

end LineMachine
