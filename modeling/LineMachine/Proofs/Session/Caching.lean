import LineMachine.Proofs.Session.Course

/-!
# What engines answer

Engines of a session answer from caches that they may share, in whatever order the requests come.
Still each answer is decided by the past of one cache. A template is run by the machine of the
first template of its id that was asked for since the id was last forgotten, and reported under its
own name (`AnswersBy`). A machine that was answered with is answered with again until its id is
forgotten, and never afterwards (`GivesAgain`). And as long as no two templates of one id are asked
for without the id being forgotten in between, all runs, machines and comparisons are those of a
new engine (`AnswersAnew`).

All three hold of every engine in every session (`session_answers`).
-/

namespace LineMachine

/-- A reply without the number of its machine. -/
def Reply.unnumbered : Reply → Reply
  | .machine _ name start => .machine 0 name start
  | r => r

namespace Engine

/-! ## Documents -/

theorem result_parseDocument (c : Cache) (text doc options : Value) :
    (parseDocument c text doc options).result =
      Template.read doc >>= fun t ↦ Options.read options >>= fun o ↦
        (parse c text t o).result := by
  rw [parseDocument, Answer.result_ofExcept_andThen]
  exact bind_congr fun t ↦ Answer.result_ofExcept_andThen _ _ _

theorem result_compileDocument (c : Cache) (doc : Value) :
    (compileDocument c doc).result = Template.read doc >>= fun t ↦ (compile c t).result :=
  Answer.result_ofExcept_andThen _ _ _

end Engine

namespace Session

/-! ## Plain answers -/

theorem result_conclude_plain {α : Type} (s : Session) (handle : Nat) (a : Answer α)
    (reply : α → Reply) : (s.conclude handle a (plain reply)).result = a.result.map reply := by
  rw [conclude]
  cases a.result <;> rfl

variable {s : Session} {engine : String} {handle : Nat}

theorem answer?_parse (hhandle : s.handle? (.engine engine) = some handle)
    (text doc options : Value) :
    s.answer? (.parse engine text doc options) =
      some ((Engine.parseDocument (s.cacheAt handle) text doc options).result.map .parsed) := by
  rw [answer?, perform, at?, hhandle, Option.map_some, Option.map_some, result_conclude_plain]

theorem answer?_findBest (hhandle : s.handle? (.engine engine) = some handle)
    (text docs filter : Value) (top : Option Int) :
    s.answer? (.findBest engine text docs filter top) =
      some ((Match.findBestDocument (s.cacheAt handle) text docs filter).result.map
        (.compared · top)) := by
  rw [answer?, perform, at?, hhandle, Option.map_some, Option.map_some, result_conclude_plain]

/-! ## Answers by the past -/

/-- Holds of an engine that answers by the past of its cache. -/
structure AnswersBy (s : Session) (engine : String) (past : List Deed) : Prop where
  /-- A template is run by the machine of the template that is held under its id, or by its own. -/
  parse : ∀ doc t k, Template.read doc = .ok t → t.id.key? = some k →
    ∀ text options o, Options.read options = .ok o →
      s.answer? (.parse engine (.str text) doc options) =
        some ((Engine.runAs ((Deed.holder? k past).getD t) t text o).map .parsed)
  /-- The same machine is the answer to a request for one. -/
  compile : ∀ doc t k, Template.read doc = .ok t → t.id.key? = some k →
    ∃ n, s.answer? (.compile engine doc) =
      some ((Machine.ofTemplate ((Deed.holder? k past).getD t)).map fun m ↦
        .machine n m.template.name m.start)
  /-- There is no such machine, and a request for it is refused, exactly when none is held and the
  template has none; the fault is then that of the template. -/
  refuse : ∀ doc t k, Template.read doc = .ok t → t.id.key? = some k → ∀ fault,
    (Machine.ofTemplate ((Deed.holder? k past).getD t) = .error fault ↔
      Deed.holder? k past = none ∧ Machine.ofTemplate t = .error fault) ∧
    (s.answer? (.compile engine doc) = some (.error fault) ↔
      Deed.holder? k past = none ∧ Machine.ofTemplate t = .error fault)

theorem answersBy_of_cacheAt {past : List Deed}
    (hhandle : s.handle? (.engine engine) = some handle)
    (hcache : s.cacheAt handle = Cache.ofPast past) : AnswersBy s engine past := by
  have hcompile : ∀ doc t k, Template.read doc = .ok t → t.id.key? = some k →
      ∃ n, s.answer? (.compile engine doc) =
        some ((Machine.ofTemplate ((Deed.holder? k past).getD t)).map fun m ↦
          .machine n m.template.name m.start) := by
    intro doc t k hread hk
    rw [answer?_compile hhandle, Engine.result_compileDocument, hread, ok_bind, hcache,
      ← Engine.compile_ofPast hk past]
    cases (Engine.compile (Cache.ofPast past) t).result with
    | error fault => exact ⟨0, rfl⟩
    | ok stored => exact ⟨_, rfl⟩
  refine ⟨?_, hcompile, ?_⟩
  · intro doc t k hread hk text options o hoptions
    rw [answer?_parse hhandle, Engine.result_parseDocument, hread, hoptions, ok_bind, ok_bind,
      hcache, Engine.parse_ofPast hk]
  · intro doc t k hread hk fault
    refine ⟨Engine.ofTemplate_holder?_eq_error, ?_⟩
    obtain ⟨n, hanswer⟩ := hcompile doc t k hread hk
    rw [hanswer, ← Engine.ofTemplate_holder?_eq_error, Option.some.injEq]
    cases Machine.ofTemplate ((Deed.holder? k past).getD t) with
    | error found => rw [Except.map, Except.error.injEq, Except.error.injEq]
    | ok m => exact ⟨(nomatch ·), (nomatch ·)⟩

/-! ## Machines answered with again -/

/-- Holds of an engine whose machines are answered with again until their ids are forgotten. In
both parts the engine was asked for a machine, other requests followed, and then an engine of the
same cache is asked for a machine of the same id. -/
structure GivesAgain (s : Session) (engine : String) (handle : Nat) : Prop where
  /-- If the id was not forgotten, the very same machine is answered with. -/
  again : ∀ doc t k n name begin, Template.read doc = .ok t → t.id.key? = some k →
    s.answer? (.compile engine doc) = some (.ok (.machine n name begin)) →
    ∀ between, (∀ r ∈ between, r.isEngineStep = true) →
    ∀ other doc' u, Template.read doc' = .ok u → u.id.key?.any k.same = true →
      (s.after (.compile engine doc :: between)).handle? (.engine other) = some handle →
      (∀ d ∈ (s.next (.compile engine doc)).past handle between, d.forgets k = false) →
        (s.after (.compile engine doc :: between)).answer? (.compile other doc') =
          some (.ok (.machine n name begin))
  /-- If the id was forgotten, no answer is about that machine. -/
  anew : ∀ doc t k n name begin, Template.read doc = .ok t → t.id.key? = some k →
    s.answer? (.compile engine doc) = some (.ok (.machine n name begin)) →
    ∀ between, (∀ r ∈ between, r.isEngineStep = true) →
    ∀ other doc' u, Template.read doc' = .ok u → u.id.key?.any k.same = true →
      (s.after (.compile engine doc :: between)).handle? (.engine other) = some handle →
      (∃ d ∈ (s.next (.compile engine doc)).past handle between, d.forgets k = true) →
        ∀ n' name' begin',
          (s.after (.compile engine doc :: between)).answer? (.compile other doc') =
            some (.ok (.machine n' name' begin')) → n' ≠ n

/-- The machine behind an answer. -/
theorem exists_stored_of_answer? (hhandle : s.handle? (.engine engine) = some handle) {doc : Value}
    {t : Template} (hread : Template.read doc = .ok t) {n : Nat} {name begin : Value}
    (h : s.answer? (.compile engine doc) = some (.ok (.machine n name begin))) :
    ∃ stored, (Engine.compile (s.cacheAt handle) t).result = .ok stored ∧
      n = s.number handle stored ∧ name = stored.machine.template.name ∧
      begin = stored.machine.start := by
  rw [answer?_compile hhandle, Engine.result_compileDocument, hread, ok_bind] at h
  obtain ⟨stored, hstored, hreply⟩ := map_eq_ok.mp (Option.some.inj h)
  cases hreply
  exact ⟨stored, hstored, rfl, rfl, rfl⟩

/-- The machine behind an answer is reported from then on, under the number of the answer. -/
theorem exists_reported_of_answer? (hs : WellNamed s)
    (hhandle : s.handle? (.engine engine) = some handle) {doc : Value} {t : Template}
    (hread : Template.read doc = .ok t) {n : Nat} {name begin : Value}
    (h : s.answer? (.compile engine doc) = some (.ok (.machine n name begin)))
    (between : List Request) :
    ∃ stored, (Engine.compile (s.cacheAt handle) t).result = .ok stored ∧
      name = stored.machine.template.name ∧ begin = stored.machine.start ∧
      (handle, stored.stamp) ∈ (s.after (.compile engine doc :: between)).reported ∧
      (s.after (.compile engine doc :: between)).number handle stored = n := by
  obtain ⟨stored, hstored, rfl, hname, hbegin⟩ := exists_stored_of_answer? hhandle hread h
  have hdocument : (Engine.compileDocument (s.cacheAt handle) doc).result = .ok stored := by
    rw [Engine.result_compileDocument, hread]
    exact hstored
  obtain ⟨hreported, hnumber⟩ := number_next_compile hhandle hdocument
  have hnext := wellNamed_next hs (.compile engine doc)
  refine ⟨stored, hstored, hname, hbegin, (reported_prefix_after hnext between).mem hreported, ?_⟩
  rw [after_cons, number_after hnext hreported, hnumber]

/-- Asking for a machine is a deed, and so are the requests that follow. -/
theorem cacheAt_after_compile (hs : WellNamed s)
    (hhandle : s.handle? (.engine engine) = some handle) {doc : Value} {t : Template}
    (hread : Template.read doc = .ok t) {between : List Request}
    (hsteps : ∀ r ∈ between, r.isEngineStep = true) :
    (s.after (.compile engine doc :: between)).cacheAt handle =
      ((s.next (.compile engine doc)).past handle between).foldl Cache.after
        ((s.cacheAt handle).after (.ask t)) := by
  have hdeeds : s.deedsAt handle (.compile engine doc) = [.ask t] := by
    rw [deedsAt, Request.place?, Option.bind_some, if_pos hhandle, Request.deeds, hread]
  rw [after_cons, cacheAt_after (wellNamed_next hs _) hsteps, cacheAt_next hs rfl, hdeeds]
  rfl

theorem givesAgain_of_stamped (hs : WellNamed s)
    (hhandle : s.handle? (.engine engine) = some handle) (hstamped : (s.cacheAt handle).Stamped) :
    GivesAgain s engine handle where
  again doc t k n name begin hread hk hanswer between hsteps other doc' u hread' hu hlater
      hkeep := by
    obtain ⟨stored, hstored, rfl, rfl, -, hnumber⟩ :=
      exists_reported_of_answer? hs hhandle hread hanswer between
    rw [answer?_compile hlater, Engine.result_compileDocument, hread', ok_bind,
      cacheAt_after_compile hs hhandle hread hsteps, Engine.compile_again hk hstored hkeep hu,
      Except.map, hnumber]
  anew doc t k n name begin hread hk hanswer between hsteps other doc' u hread' hu hlater
      hforget n' name' begin' hanswer' := by
    obtain ⟨stored, hstored, -, -, hreported, hnumber⟩ :=
      exists_reported_of_answer? hs hhandle hread hanswer between
    obtain ⟨found, hfound, hnumber', -, -⟩ := exists_stored_of_answer? hlater hread' hanswer'
    rw [cacheAt_after_compile hs hhandle hread hsteps] at hfound
    have hstamp := Engine.compile_anew hstamped hk hstored hforget hu hfound
    rw [hnumber', ← hnumber]
    exact fun hsame ↦ hstamp ((number_inj hreported).mp hsame.symm).symm

/-! ## Answers of a new engine -/

/-- Holds of an engine that answers like a new one, as long as the past of its cache stays unmixed
by what it is asked for. -/
structure AnswersAnew (s : Session) (engine : String) (handle : Nat) (past : List Deed) : Prop where
  parse : ∀ text doc options,
    Deed.Unmixed (past ++ s.deedsAt handle (.parse engine text doc options)) →
      s.answer? (.parse engine text doc options) =
        start.answer? (.parse "default" text doc options)
  /-- Machines are the same but for their numbers. -/
  compile : ∀ doc, Deed.Unmixed (past ++ s.deedsAt handle (.compile engine doc)) →
    (s.answer? (.compile engine doc)).map (·.map Reply.unnumbered) =
        (start.answer? (.compile "default" doc)).map (·.map Reply.unnumbered) ∧
      (Engine.compileDocument (s.cacheAt handle) doc).result.map Stored.machine =
        (Engine.compileDocument Cache.empty doc).result.map Stored.machine
  findBest : ∀ text docs filter top,
    Deed.Unmixed (past ++ s.deedsAt handle (.findBest engine text docs filter top)) →
      s.answer? (.findBest engine text docs filter top) =
        start.answer? (.findBest "default" text docs filter top)

theorem deedsAt_of_handle? (hhandle : s.handle? (.engine engine) = some handle) {r : Request}
    (hplace : r.place? = some (.engine engine)) :
    s.deedsAt handle r = r.deeds (s.cacheAt handle) := by
  rw [deedsAt, hplace, Option.bind_some, if_pos hhandle]

theorem handle?_start : start.handle? (.engine "default") = some 0 := rfl

/-- Without its number, the answer to a request for a machine depends on the machine alone. -/
theorem unnumbered_answer?_compile (hhandle : s.handle? (.engine engine) = some handle)
    (doc : Value) :
    (s.answer? (.compile engine doc)).map (·.map Reply.unnumbered) =
      some (((Engine.compileDocument (s.cacheAt handle) doc).result.map Stored.machine).map fun m ↦
        .machine 0 m.template.name m.start) := by
  rw [answer?_compile hhandle]
  cases (Engine.compileDocument (s.cacheAt handle) doc).result <;> rfl

theorem answersAnew_of_cacheAt {past : List Deed}
    (hhandle : s.handle? (.engine engine) = some handle)
    (hcache : s.cacheAt handle = Cache.ofPast past) : AnswersAnew s engine handle past where
  parse text doc options h := by
    rw [deedsAt_of_handle? hhandle rfl, Request.deeds] at h
    rw [answer?_parse hhandle, answer?_parse handle?_start, Engine.result_parseDocument,
      Engine.result_parseDocument, hcache]
    cases hread : Template.read doc with
    | error fault => rfl
    | ok t =>
      cases hoptions : Options.read options with
      | error fault => rfl
      | ok o =>
        rw [hread, hoptions] at h
        simp only [ok_bind, Engine.parse_of_unmixed h]
        rfl
  compile doc h := by
    rw [deedsAt_of_handle? hhandle rfl, Request.deeds] at h
    have hmachine : (Engine.compileDocument (s.cacheAt handle) doc).result.map Stored.machine =
        (Engine.compileDocument Cache.empty doc).result.map Stored.machine := by
      rw [Engine.result_compileDocument, Engine.result_compileDocument, hcache]
      cases hread : Template.read doc with
      | error fault => rfl
      | ok t =>
        rw [hread] at h
        exact Engine.compile_of_unmixed h
    refine ⟨?_, hmachine⟩
    rw [unnumbered_answer?_compile hhandle, unnumbered_answer?_compile handle?_start, hmachine]
    rfl
  findBest text docs filter top h := by
    rw [deedsAt_of_handle? hhandle rfl, Request.deeds, hcache] at h
    rw [answer?_findBest hhandle, answer?_findBest handle?_start, hcache, Match.findBestDocument,
      Match.compareDocuments_of_unmixed h]
    rfl

/-! ## All sessions -/

/-- **The answers of engines that share caches.** After any steps of any engines, an engine answers
by the past of its cache: it runs a template by the machine of the first template of its id that
was asked for since the id was last forgotten and that has a machine, or else by its own. The very
same machine is answered with until the id is forgotten, and not afterwards. And if no two
templates of one id were asked for without the id being forgotten in between, then runs, machines
and comparisons are those of a new engine. -/
theorem session_answers {requests : List Request}
    (hsteps : ∀ r ∈ requests, r.isEngineStep = true) {engine : String} {handle : Nat}
    (hhandle : (start.after requests).handle? (.engine engine) = some handle) :
    AnswersBy (start.after requests) engine (start.past handle requests) ∧
      GivesAgain (start.after requests) engine handle ∧
      AnswersAnew (start.after requests) engine handle (start.past handle requests) := by
  have hcache := cacheAt_after_start hsteps handle
  have hnamed := wellNamed_after wellNamed_start requests
  refine ⟨answersBy_of_cacheAt hhandle hcache, ?_, answersAnew_of_cacheAt hhandle hcache⟩
  exact givesAgain_of_stamped hnamed hhandle (hcache ▸ Cache.stamped_ofPast _)

/-- Two engines on one cache, the first of which has run the list of ports. -/
def sharing : List Request := [
  .newCache "shared",
  .newEngine "first" (some "shared"),
  .newEngine "second" (some "shared"),
  .parse "first" (.str "ports\np1\n") Engine.ports.write (.object [])]

/-- A template of the id of the list of ports that matches no line. -/
def silentPorts : Template :=
  { Engine.ports with name := .str "Silent", states := [⟨.str "silent", []⟩] }

/-- The second engine runs the list of ports under the name of the other template. -/
theorem session_answers_sharing :
    ∃ r, (start.after sharing).answer?
        (.parse "second" (.str "ports\np1\n") silentPorts.write (.object [])) =
          some (.ok (.parsed r)) ∧
      r.templateName = .str "Silent" ∧
      r.records = [[(.str "port", .str "1"), (.str "seen", .list [.str "1"])]] := by
  have hsteps : ∀ r ∈ sharing, r.isEngineStep = true := by decide
  have hhandle : (start.after sharing).handle? (.engine "second") = some 1 := by decide +kernel
  have hread : Template.read silentPorts.write = .ok silentPorts := by decide +kernel
  have hholder : Deed.holder? (.str "ports") (start.past 1 sharing) = some Engine.ports := by
    decide +kernel
  obtain ⟨hanswers, -, -⟩ := session_answers hsteps hhandle
  have hparse := hanswers.parse _ _ (.str "ports") hread rfl "ports\np1\n" (.object []) {} rfl
  rw [hholder, Option.getD_some] at hparse
  obtain ⟨r, hr, hrecords⟩ := map_eq_ok.mp (show
    (Engine.runAs Engine.ports silentPorts "ports\np1\n" {}).map ParseResult.records =
      .ok [[(.str "port", .str "1"), (.str "seen", .list [.str "1"])]] by decide +kernel)
  refine ⟨r, by rw [hparse, hr]; rfl, ?_, hrecords⟩
  obtain ⟨m, -, hrun⟩ := bind_eq_ok.mp hr
  obtain ⟨c, -, rfl⟩ := map_eq_ok.mp hrun
  rfl

end Session

end LineMachine
