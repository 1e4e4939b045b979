import LineMachine.Proofs.Cache.Edit
import LineMachine.Proofs.Session.Course

/-!
# The upkeep of the caches of a session

Every request of a session, and not only the steps of its engines, is a list of edits of the cache
that it goes to (`leaves_eq_edits`). So what a cache holds after any requests is told by the edits
that were made to it, whichever engines and names they came through (`kept_after`): each entry
stands under the id of its own template, also where a machine was asked for under another id, and
the ids are listed in the order in which they were stored.

A request that fails leaves its cache alone until it has a machine to store, and stores it at the
end. What this means for each kind of request is listed in `Upkeep`, which holds of every cache in
every session that can be reached (`session_upkeep`).
-/

namespace LineMachine

open Cache (Edit Kept)

/-! ## Edits of deeds -/

/-- The edits that a deed comes to. Asking for a machine stores it if there is none under the id and
it can be built. -/
def Deed.edits (c : Cache) : Deed → List Edit
  | .ask t =>
    match c.get? t.id, Machine.ofTemplate t with
    | .ok none, .ok m => [.store m]
    | _, _ => []
  | .forget id => [.drop id]
  | .forgetAll => [.dropAll]

/-- The edits of deeds that are done one after the other. -/
def Deed.editsAll (c : Cache) : List Deed → List Edit
  | [] => []
  | d :: deeds => d.edits c ++ editsAll (c.after d) deeds

theorem Cache.after_eq_edits (c : Cache) (d : Deed) :
    c.after d = (d.edits c).foldl Cache.edited c := by
  cases d with
  | forget id | forgetAll => rfl
  | ask t =>
    rw [after, Deed.edits]
    cases Engine.asking c t with
    | refused hk h =>
      rw [h, get?, Value.key, hk]
      rfl
    | held k stored hk hheld h =>
      rw [h, get?_eq hk, hheld]
      rfl
    | built k m hk hnone hm h =>
      have hid : m.template.id.key = .ok k := by
        rw [(Machine.built_of_ofTemplate hm).template]
        exact Value.key_eq_ok.mpr hk
      rw [h, get?_eq hk, hnone, hm]
      simp only [List.foldl_cons, List.foldl_nil, edited, put, hid]
      rfl
    | faulty k fault hk hnone hm h =>
      rw [h, get?_eq hk, hnone, hm]
      rfl

theorem Cache.foldl_after_eq_edits (c : Cache) (deeds : List Deed) :
    deeds.foldl Cache.after c = (Deed.editsAll c deeds).foldl Cache.edited c := by
  induction deeds generalizing c with
  | nil => rfl
  | cons d deeds ih =>
    rw [List.foldl_cons, ih, Deed.editsAll, List.foldl_append, ← after_eq_edits]

/-! ## Edits of requests -/

/-- The edits that putting in the machine of a document comes to. -/
def documentEdits (doc : Value) : List Edit :=
  match Template.read doc >>= Machine.ofTemplate with
  | .ok m => [.store m]
  | .error _ => []

theorem Engine.cache_putDocument (c : Cache) (doc : Value) :
    (putDocument c doc).cache = (documentEdits doc).foldl Cache.edited c := by
  rw [putDocument, documentEdits]
  cases Template.read doc with
  | error fault => rfl
  | ok t =>
    rw [Answer.cache_ofExcept_andThen_ok, ok_bind, put, build]
    cases Machine.ofTemplate t with
    | error fault => rfl
    | ok m => rfl

/-- The edits that a request comes to in the cache that it goes to. -/
def Request.edits (c : Cache) : Request → List Edit
  | .put _ doc => documentEdits doc
  | .getOrCompile _ id doc =>
    match c.get? id with
    | .ok none => documentEdits doc
    | _ => []
  | r => Deed.editsAll c (r.deeds c)

/-- What a request leaves is what its edits leave. -/
theorem Request.leaves_eq_edits (r : Request) (c : Cache) :
    r.leaves c = (r.edits c).foldl Cache.edited c := by
  cases r with
  | put place doc => exact Engine.cache_putDocument c doc
  | getOrCompile place id doc =>
    rw [leaves, edits, Engine.getOrCompileDocument, Engine.getOr]
    cases c.get? id with
    | error fault => rfl
    | ok found =>
      cases found with
      | some stored => rfl
      | none => exact Engine.cache_putDocument c doc
  | newCache | newEngine | parse | compile | invalidate | clear | findBest | get | contains
  | size =>
    rw [leaves_eq_deeds rfl, Cache.foldl_after_eq_edits]
    rfl

/-! ### What is stored was built -/

theorem built_of_mem_documentEdits {doc : Value} {m : Machine}
    (h : Edit.store m ∈ documentEdits doc) : Machine.ofTemplate m.template = .ok m := by
  rw [documentEdits] at h
  cases hbuilt : Template.read doc >>= Machine.ofTemplate with
  | error fault =>
    rw [hbuilt] at h
    cases h
  | ok n =>
    rw [hbuilt, List.mem_singleton] at h
    cases h
    obtain ⟨t, -, ht⟩ := bind_eq_ok.mp hbuilt
    rwa [(Machine.built_of_ofTemplate ht).template]

theorem built_of_mem_edits_deed {c : Cache} {d : Deed} {m : Machine}
    (h : Edit.store m ∈ d.edits c) : Machine.ofTemplate m.template = .ok m := by
  cases d with
  | forget id | forgetAll =>
    rw [Deed.edits, List.mem_singleton] at h
    cases h
  | ask t =>
    rw [Deed.edits] at h
    split at h
    · rename_i n hget hn
      rw [List.mem_singleton] at h
      cases h
      rwa [(Machine.built_of_ofTemplate hn).template]
    · cases h

theorem built_of_mem_editsAll {c : Cache} {deeds : List Deed} {m : Machine}
    (h : Edit.store m ∈ Deed.editsAll c deeds) : Machine.ofTemplate m.template = .ok m := by
  induction deeds generalizing c with
  | nil => cases h
  | cons d deeds ih =>
    rcases List.mem_append.mp h with hfirst | hrest
    · exact built_of_mem_edits_deed hfirst
    · exact ih hrest

/-- A machine that a request stores was built from its own template. -/
theorem built_of_mem_edits {r : Request} {c : Cache} {m : Machine}
    (h : Edit.store m ∈ r.edits c) : Machine.ofTemplate m.template = .ok m := by
  cases r with
  | put place doc => exact built_of_mem_documentEdits h
  | getOrCompile place id doc =>
    rw [Request.edits] at h
    split at h
    · exact built_of_mem_documentEdits h
    · cases h
  | newCache | newEngine | parse | compile | invalidate | clear | findBest | get | contains
  | size => exact built_of_mem_editsAll h

/-! ## Edits of sessions -/

namespace Session

/-- The edits that a request comes to in the cache of a handle. -/
def editsAt (s : Session) (handle : Nat) (r : Request) : List Edit :=
  if r.place?.bind s.handle? = some handle then r.edits (s.cacheAt handle) else []

/-- The edits that requests come to in the cache of a handle, carried out one after the other. -/
def edits (s : Session) (handle : Nat) : List Request → List Edit
  | [] => []
  | r :: requests => s.editsAt handle r ++ (s.next r).edits handle requests

theorem kept_next {s : Session} (hs : WellNamed s) {handle : Nat} {past : List Edit}
    (h : Kept past (s.cacheAt handle)) (r : Request) :
    Kept (past ++ s.editsAt handle r) ((s.next r).cacheAt handle) := by
  rw [cacheAt_next_eq hs, editsAt]
  split
  · rw [Request.leaves_eq_edits]
    exact Cache.kept_foldl h _
  · rwa [List.append_nil]

theorem kept_after_of {s : Session} (hs : WellNamed s) {handle : Nat} {past : List Edit}
    (h : Kept past (s.cacheAt handle)) (requests : List Request) :
    Kept (past ++ s.edits handle requests) ((s.after requests).cacheAt handle) := by
  induction requests generalizing s past with
  | nil => rwa [edits, List.append_nil]
  | cons r requests ih =>
    rw [edits, ← List.append_assoc]
    exact ih (wellNamed_next hs r) (kept_next hs h r)

/-- Every cache of a session holds what its edits tell. -/
theorem kept_after (requests : List Request) (handle : Nat) :
    Kept (start.edits handle requests) ((start.after requests).cacheAt handle) := by
  have hempty : Kept [] (start.cacheAt handle) := by
    cases handle with
    | zero => exact Cache.kept_empty
    | succ n => exact Cache.kept_empty
  exact kept_after_of wellNamed_start hempty requests

theorem built_of_mem_edits_session {s : Session} {handle : Nat} {requests : List Request}
    {m : Machine} (h : Edit.store m ∈ s.edits handle requests) :
    Machine.ofTemplate m.template = .ok m := by
  induction requests generalizing s with
  | nil => cases h
  | cons r requests ih =>
    rcases List.mem_append.mp h with hfirst | hrest
    · rw [editsAt] at hfirst
      split at hfirst
      · exact built_of_mem_edits hfirst
      · cases hfirst
    · exact ih hrest

end Session

/-! ## Requests that fail -/

section Failing

variable {c : Cache} {fault : Fault}

theorem Engine.cache_compile_of_error {t : Template} (h : (compile c t).result = .error fault) :
    (compile c t).cache = c := by
  cases asking c t with
  | refused _ heq | faulty _ _ _ _ _ heq => exact congrArg Answer.cache heq
  | held _ _ _ _ heq | built _ _ _ _ _ heq =>
    rw [heq] at h
    cases h

theorem Engine.cache_compileDocument_of_error {doc : Value}
    (h : (compileDocument c doc).result = .error fault) : (compileDocument c doc).cache = c := by
  rw [compileDocument] at h ⊢
  cases hread : Template.read doc with
  | error found => rfl
  | ok t =>
    rw [hread] at h
    exact cache_compile_of_error (by exact h)

/-- A run that fails before it has a machine to run leaves the cache as it was. -/
theorem Engine.cache_parseDocument_of_error {doc options : Value}
    (h : (compileDocument c doc).result = .error fault ∨ Options.read options = .error fault)
    (text : Value) : (parseDocument c text doc options).cache = c := by
  rw [parseDocument]
  cases hread : Template.read doc with
  | error found => rfl
  | ok t =>
    rw [Answer.cache_ofExcept_andThen_ok]
    rcases h with hcompile | hoptions
    · cases Options.read options with
      | error found => rfl
      | ok o =>
        rw [Answer.cache_ofExcept_andThen_ok, cache_parse]
        rw [compileDocument, hread] at hcompile
        exact cache_compile_of_error (by exact hcompile)
    · rw [hoptions]
      rfl

theorem Engine.cache_putDocument_of_error {doc : Value}
    (h : (putDocument c doc).result = .error fault) : (putDocument c doc).cache = c := by
  rw [putDocument] at h ⊢
  cases hread : Template.read doc with
  | error found => rfl
  | ok t =>
    rw [hread] at h
    rw [Answer.cache_ofExcept_andThen_ok, put, build]
    change (put c t).result = .error fault at h
    rw [put, build] at h
    cases hm : Machine.ofTemplate t with
    | error found => rfl
    | ok m =>
      rw [hm] at h
      change (Answer.ofUpdate c (c.put m)).result = .error fault at h
      change (Answer.ofUpdate c (c.put m)).cache = c
      cases hput : c.put m with
      | error found => rfl
      | ok stored =>
        rw [hput] at h
        cases h

/-- Asking for a machine under an id stores nothing unless it comes to an end. -/
theorem Engine.cache_getOrCompileDocument_of_error {id doc : Value}
    (h : (getOrCompileDocument c id doc).result = .error fault) :
    (getOrCompileDocument c id doc).cache = c := by
  rw [getOrCompileDocument, getOr] at h ⊢
  cases hget : c.get? id with
  | error found => rfl
  | ok found =>
    cases found with
    | some stored => rfl
    | none =>
      rw [hget] at h
      exact cache_putDocument_of_error (by exact h)

end Failing

/-! ## Requests that add machines -/

/-- Holds of a cache that has more entries than another one behind those of the other, each of them
the machine of one of some templates under its id. -/
def Extends (P : Template → Prop) (c d : Cache) : Prop :=
  ∃ added, d.entries = c.entries ++ added ∧
    ∀ e ∈ added, ∃ t, P t ∧ Machine.ofTemplate t = .ok e.2.machine ∧ t.id.key? = some e.1

namespace Extends

variable {P : Template → Prop} {c d e : Cache}

theorem refl (P : Template → Prop) (c : Cache) : Extends P c c :=
  ⟨[], (List.append_nil _).symm, List.forall_mem_nil _⟩

theorem trans (hcd : Extends P c d) (hde : Extends P d e) : Extends P c e := by
  obtain ⟨first, hd, hfirst⟩ := hcd
  obtain ⟨second, he, hsecond⟩ := hde
  refine ⟨first ++ second, ?_, List.forall_mem_append.mpr ⟨hfirst, hsecond⟩⟩
  rw [he, hd, List.append_assoc]

/-- Asking for the machine of a template adds that machine or nothing. -/
theorem ask {t : Template} (ht : P t) (c : Cache) : Extends P c (c.after (.ask t)) := by
  rw [Cache.after]
  cases Engine.asking c t with
  | refused _ h | held _ _ _ _ h | faulty _ _ _ _ _ h =>
    rw [h]
    exact refl P c
  | built k m hk hnone hm h =>
    rw [h]
    refine ⟨[(k, ⟨c.next, m⟩)], Table.put_of_find?_eq_none hnone _, ?_⟩
    exact List.forall_mem_singleton.mpr ⟨t, ht, hm, hk⟩

theorem asks {templates : List Template} (h : ∀ t ∈ templates, P t) (c : Cache) :
    Extends P c ((templates.map Deed.ask).foldl Cache.after c) := by
  induction templates generalizing c with
  | nil => exact refl P c
  | cons t templates ih =>
    obtain ⟨ht, hrest⟩ := List.forall_mem_cons.mp h
    exact (ask ht c).trans (ih hrest (c.after (.ask t)))

end Extends

/-- Candidates that are tried are candidates. -/
theorem Match.tried_subset {σ : Type} (score : Scorer σ) (text : Value) (c : Cache)
    (templates : List Template) : tried score text c templates ⊆ templates := by
  induction templates generalizing c with
  | nil => exact List.Subset.refl _
  | cons t rest ih =>
    cases hattempt : attempt score text c t with
    | ok s =>
      rw [tried_of_ok hattempt]
      exact List.cons_subset_cons t (ih _)
    | error fault =>
      rw [tried_of_error hattempt]
      exact List.cons_subset_cons t (List.nil_subset rest)

theorem extends_parseDocument (c : Cache) (text doc options : Value) :
    Extends (fun t ↦ Template.read doc = .ok t) c
      (Engine.parseDocument c text doc options).cache := by
  rw [Engine.parseDocument]
  cases Template.read doc with
  | error fault => exact .refl _ c
  | ok t =>
    rw [Answer.cache_ofExcept_andThen_ok]
    cases Options.read options with
    | error fault => exact .refl _ c
    | ok o =>
      rw [Answer.cache_ofExcept_andThen_ok, Engine.cache_parse]
      refine .ask ?_ c
      rfl

theorem extends_findBestDocument (c : Cache) (text docs filter : Value) :
    Extends (fun t ↦ ∃ templates, Match.candidates docs filter = .ok templates ∧ t ∈ templates) c
      (Match.findBestDocument c text docs filter).cache := by
  rw [Match.findBestDocument, Match.cache_compareDocuments, Match.triedDocuments]
  cases hcandidates : Match.candidates docs filter with
  | error fault => exact .refl _ c
  | ok templates =>
    exact .asks (fun t ht ↦ ⟨templates, rfl, Match.tried_subset _ _ _ _ ht⟩) c

/-! ## Requests that look and remove -/

section Looking

variable {id : Value} {k : Key}

theorem contains_eq (hk : id.key? = some k) (c : Cache) :
    c.contains id = .ok (c.ids.any k.same) := by
  rw [Cache.contains, Value.key_eq_ok.mpr hk, ok_bind, Table.has_eq_any_keys]
  rfl

theorem exists_remove (hk : id.key? = some k) (c : Cache) :
    ∃ d, c.remove id = .ok (c.ids.any k.same, d) := by
  rw [Cache.remove]
  split
  · rename_i hempty
    refine ⟨c, ?_⟩
    rw [Cache.ids, List.isEmpty_iff.mp hempty]
    rfl
  · rw [Value.key_eq_ok.mpr hk, ok_bind, Table.has_eq_any_keys]
    exact ⟨_, rfl⟩

theorem remove_of_no_key (hk : id.key? = none) (c : Cache) :
    c.remove id = .ok (false, c) ∨ c.remove id = .error (.notScalar id.kindName) := by
  rw [Cache.remove, Value.key, hk]
  split
  · exact .inl rfl
  · exact .inr rfl

end Looking

/-! ## All sessions -/

/-- Whether a request asks for a machine to be made. -/
def Request.isMaking : Request → Bool
  | .compile _ _ | .getOrCompile _ _ _ | .put _ _ => true
  | _ => false

namespace Session

theorem result_of_conclude {α : Type} {s : Session} {handle : Nat} {a : Answer α}
    {reply : Session → α → Session × Reply} {fault : Fault}
    (h : (s.conclude handle a reply).result = .error fault) : a.result = .error fault := by
  rw [conclude] at h
  cases hresult : a.result with
  | error found =>
    simp only [hresult] at h
    cases h
    rfl
  | ok v =>
    simp only [hresult] at h
    cases h

/-- A request for a machine that fails leaves the cache as it was. -/
theorem leaves_of_error {s : Session} {r : Request} {handle : Nat} {fault : Fault}
    (hmaking : r.isMaking = true) (hhandle : r.place?.bind s.handle? = some handle)
    (h : s.answer? r = some (.error fault)) :
    r.leaves (s.cacheAt handle) = s.cacheAt handle := by
  cases r with
  | compile engine doc =>
    change s.handle? (.engine engine) = some handle at hhandle
    rw [answer?, perform, at?_of_handle? hhandle, Option.map_some, Option.some_inj] at h
    exact Engine.cache_compileDocument_of_error (result_of_conclude h)
  | put place doc =>
    change s.handle? place = some handle at hhandle
    rw [answer?, perform, at?_of_handle? hhandle, Option.map_some, Option.some_inj] at h
    exact Engine.cache_putDocument_of_error (result_of_conclude h)
  | getOrCompile place id doc =>
    change s.handle? place = some handle at hhandle
    rw [answer?, perform, at?_of_handle? hhandle, Option.map_some, Option.some_inj] at h
    exact Engine.cache_getOrCompileDocument_of_error (result_of_conclude h)
  | newCache | newEngine | parse | invalidate | clear | findBest | get | contains | size =>
    cases hmaking

/-- What is true of a cache of a session to which certain edits were made, and of the requests that
may come next. -/
structure Upkeep (s : Session) (handle : Nat) (edits : List Edit) : Prop where
  /-- Each entry stands under the id of its own template, no id is listed twice, and the ids are
  those that were stored since they were last dropped, in the order of their first storing. -/
  kept : Kept edits (s.cacheAt handle)
  /-- The machine of an entry is the one that is built from its template. -/
  built : ∀ e ∈ (s.cacheAt handle).entries,
    Machine.ofTemplate e.2.machine.template = .ok e.2.machine
  /-- A request that does not go to the cache leaves it as it is. -/
  others {r : Request} : r.place?.bind s.handle? ≠ some handle →
    (s.next r).cacheAt handle = s.cacheAt handle
  /-- The size is the number of ids. -/
  size {place : Place} : s.handle? place = some handle →
    s.answer? (.size place) = some (.ok (.number (s.cacheAt handle).ids.length))
  /-- An id is contained if it is listed. -/
  contains {place : Place} {id : Value} {k : Key} : s.handle? place = some handle →
    id.key? = some k →
      s.answer? (.contains place id) = some (.ok (.flag ((s.cacheAt handle).ids.any k.same)))
  /-- Invalidating tells whether the id was listed. -/
  invalidate {engine : String} {id : Value} {k : Key} : s.handle? (.engine engine) = some handle →
    id.key? = some k →
      s.answer? (.invalidate engine id) = some (.ok (.flag ((s.cacheAt handle).ids.any k.same)))
  /-- Of something that is no id it never tells that. -/
  invalidate_other {engine : String} {id : Value} : s.handle? (.engine engine) = some handle →
    id.key? = none → s.answer? (.invalidate engine id) ≠ some (.ok (.flag true))
  /-- A request for a machine that fails leaves the cache as it was. -/
  failed {r : Request} {fault : Fault} : r.isMaking = true →
    r.place?.bind s.handle? = some handle → s.answer? r = some (.error fault) →
      (s.next r).cacheAt handle = s.cacheAt handle
  /-- So does a run whose template or options cannot be made ready. -/
  unprepared {engine : String} {text doc options : Value} {fault : Fault} :
    s.handle? (.engine engine) = some handle →
      s.answer? (.compile engine doc) = some (.error fault) ∨ Options.read options = .error fault →
        (s.next (.parse engine text doc options)).cacheAt handle = s.cacheAt handle
  /-- A run adds at most the machine of its template, at the end, whatever comes of it. -/
  parsed {engine : String} {text doc options : Value} : s.handle? (.engine engine) = some handle →
    Extends (fun t ↦ Template.read doc = .ok t) (s.cacheAt handle)
      ((s.next (.parse engine text doc options)).cacheAt handle)
  /-- A comparison adds at most machines of its candidates, at the end, whatever comes of it. -/
  compared {engine : String} {text docs filter : Value} {top : Option Int} :
    s.handle? (.engine engine) = some handle →
      Extends (fun t ↦ ∃ templates, Match.candidates docs filter = .ok templates ∧ t ∈ templates)
        (s.cacheAt handle)
        ((s.next (.findBest engine text docs filter top)).cacheAt handle)

/-- **The caches of a session.** After any requests, every cache of a session holds what the edits
made to it tell, and the requests that may come next treat it as `Upkeep` says: only those that go
to it change it, those that ask about it answer by the ids that it lists, those that fail to make a
machine leave it as it was, and runs and comparisons only add machines at its end. -/
theorem session_upkeep (requests : List Request) (handle : Nat) :
    Upkeep (start.after requests) handle (start.edits handle requests) := by
  have hnamed := wellNamed_after wellNamed_start requests
  have hkept := kept_after requests handle
  generalize start.after requests = s at hnamed hkept
  have hnext {r : Request} {place : Place} (hplace : r.place? = some place)
      (hhandle : s.handle? place = some handle) :
      (s.next r).cacheAt handle = r.leaves (s.cacheAt handle) := by
    rw [cacheAt_next_eq hnamed, hplace, Option.bind_some, if_pos hhandle]
  constructor
  case kept => exact hkept
  case built => exact fun e he ↦ built_of_mem_edits_session (hkept.stored e he)
  case others => exact fun hother ↦ by rw [cacheAt_next_eq hnamed, if_neg hother]
  case size =>
    intro place hhandle
    rw [answer?, perform, at?_of_handle? hhandle, Cache.ids, Table.keys, List.length_map]
    rfl
  case contains =>
    intro place id k hhandle hk
    rw [answer?, perform, at?_of_handle? hhandle, contains_eq hk]
    rfl
  case invalidate =>
    intro engine id k hhandle hk
    obtain ⟨d, hd⟩ := exists_remove hk (s.cacheAt handle)
    rw [answer?, perform, at?_of_handle? hhandle, hd]
    rfl
  case invalidate_other =>
    intro engine id hhandle hk
    rw [answer?, perform, at?_of_handle? hhandle]
    rcases remove_of_no_key hk (s.cacheAt handle) with hempty | herror
    · rw [hempty]
      intro hflag
      cases hflag
    · rw [herror]
      intro hflag
      cases hflag
  case failed =>
    intro r fault hmaking hhandle hanswer
    rw [cacheAt_next_eq hnamed, if_pos hhandle]
    exact leaves_of_error hmaking hhandle hanswer
  case unprepared =>
    intro engine text doc options fault hhandle hfault
    refine (hnext rfl hhandle).trans
      (Engine.cache_parseDocument_of_error (hfault.imp_left fun hanswer ↦ ?_) text)
    rw [answer?, perform, at?_of_handle? hhandle, Option.map_some, Option.some_inj] at hanswer
    exact result_of_conclude hanswer
  case parsed =>
    intro engine text doc options hhandle
    rw [hnext rfl hhandle]
    exact extends_parseDocument _ text doc options
  case compared =>
    intro engine text docs filter top hhandle
    rw [hnext rfl hhandle]
    exact extends_findBestDocument _ text docs filter

/-- The list of ports asked for under another id, a second template, and the first one again. -/
def rounds : List Request := [
  .getOrCompile (.engine "default") (.str "other") Engine.ports.write,
  .put (.engine "default") (Template.write { Engine.ports with id := .str "second" }),
  .put (.engine "default") Engine.ports.write]

/-- The list of ports is listed first, under its own id alone. It comes last once it was removed and
asked for again. -/
theorem session_upkeep_rounds :
    ((start.after rounds).cacheAt 0).ids = [.str "ports", .str "second"] ∧
      (start.after rounds).answer? (.contains (.engine "default") (.str "other")) =
        some (.ok (.flag false)) ∧
      (start.after rounds).answer? (.invalidate "default" (.str "ports")) =
        some (.ok (.flag true)) ∧
      ((start.after (rounds ++ [.invalidate "default" (.str "ports"),
        .compile "default" Engine.ports.write])).cacheAt 0).ids =
          [.str "second", .str "ports"] := by
  have hids : ((start.after rounds).cacheAt 0).ids = [.str "ports", .str "second"] := by
    decide +kernel
  have hhandle : (start.after rounds).handle? (.engine "default") = some 0 := by decide +kernel
  have hupkeep := session_upkeep rounds 0
  refine ⟨hids, ?_, ?_, by decide +kernel⟩
  · rw [hupkeep.contains hhandle (Value.key?_str "other"), hids]
    rfl
  · rw [hupkeep.invalidate hhandle (Value.key?_str "ports"), hids]
    rfl

end Session

end LineMachine
