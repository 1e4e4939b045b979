import LineMachine.Proofs.TextFsm.States

/-!
# Where runs of TextFSM templates start

A TextFSM template starts in `Start`, wherever that is declared. An imported template lists its
states as they were declared, without those that have no rules, and starts in the first of them. So
it starts in `Start` exactly if every state in front of it is left out (`start_of_parse`).
-/

namespace LineMachine.TextFsm.Document

/-- Holds of a document in which no state with rules stands in front of `Start`. -/
def StartsFirst (d : Document) : Prop :=
  ∀ before s after, d.states = before ++ s :: after → s.name = startState →
    ∀ u ∈ before, u.rules = []

theorem head?_importedStates {d : Document} (hd : d.Coherent) :
    d.importedStates.head? = d.states.find? fun s ↦ !s.rules.isEmpty := by
  have hsame : d.importedStates = d.states.filter fun s ↦ !s.rules.isEmpty := by
    refine List.filter_congr fun s hs ↦ ?_
    by_cases hfinal : s.name ∈ finalStates
    · rw [hd.final s hs hfinal]
      simp
    · simp [hfinal]
  rw [hsame, List.head?_filter]

/-- Two states of one name are one state. -/
theorem Coherent.eq_of_name {d : Document} (hd : d.Coherent) {s u : StateDecl}
    (hs : s ∈ d.states) (hu : u ∈ d.states) (hname : s.name = u.name) : s = u :=
  List.inj_on_of_nodup_map hd.states hs hu hname

/-- The first state with rules is `Start` exactly if no other one stands in front of it. -/
theorem name_eq_startState_iff {d : Document} (hd : d.Coherent) {s first : StateDecl}
    (hs : s ∈ d.states) (hname : s.name = startState) (hrules : s.rules ≠ [])
    (hfirst : (d.states.find? fun s ↦ !s.rules.isEmpty) = some first) :
    first.name = startState ↔ d.StartsFirst := by
  constructor
  · intro hstart before u after hsplit hu
    have hmem : u ∈ d.states := by
      rw [hsplit]
      exact List.mem_append_right before List.mem_cons_self
    obtain rfl : u = first :=
      hd.eq_of_name hmem (List.mem_of_find?_eq_some hfirst) (hu.trans hstart.symm)
    have hnodup : d.states.Nodup := hd.states.of_map _
    rw [hsplit] at hnodup hfirst
    rw [List.find?_append] at hfirst
    -- A state with rules in front would be found first, and it would be `u` again.
    rcases hbefore : before.find? (fun s ↦ !s.rules.isEmpty) with - | w
    · intro v hv
      simpa using List.find?_eq_none.mp hbefore v hv
    · rw [hbefore] at hfirst
      cases hfirst
      exact absurd List.mem_cons_self
        ((List.nodup_append.mp hnodup).2.2 u (List.mem_of_find?_eq_some hbefore) u · rfl)
  · intro hbefore
    obtain ⟨before, after, hsplit⟩ := List.append_of_mem hs
    have hnone : before.find? (fun s ↦ !s.rules.isEmpty) = none := by
      refine List.find?_eq_none.mpr fun u hu ↦ ?_
      rw [hbefore before s after hsplit hname u hu]
      simp
    have hfound : (!s.rules.isEmpty) = true := by simpa using hrules
    rw [hsplit, List.find?_append, hnone, Option.none_or, List.find?_cons, hfound] at hfirst
    cases hfirst
    exact hname

end LineMachine.TextFsm.Document

namespace LineMachine.Engine

open TextFsm

/-- **Where runs start.** If `Start` has rules, an imported template starts in the first state of
the document that has any, in its list of states, in its machine, and with the first line of every
text. This is `Start` exactly if no state with rules stands in front of it. -/
theorem start_of_parse {ε : Type} {read : String → Except ε Document} (hlawful : Lawful read)
    {content : String} {d : Document} (hread : read content = .ok d)
    {s : StateDecl} (hs : s ∈ d.states) (hname : s.name = startState) (hrules : s.rules ≠ [])
    (heading : Heading) :
    ∃ first ∈ d.states, (d.states.find? fun s ↦ !s.rules.isEmpty) = some first ∧
      (first.name = startState ↔ d.StartsFirst) ∧
      (d.toTemplate heading).states.head?.map State.name = some (.str first.name) ∧
      (∀ m, Machine.ofTemplate (d.toTemplate heading) = .ok m → m.start = .str first.name) ∧
      ∀ (cache : Cache) (text : String) (o : Options) r entries line,
        Suits cache (d.toTemplate heading) →
        (parse cache (.str text) (d.toTemplate heading) o).result = .ok r →
        r.trace = some entries → (Text.splitLines text)[0]? = some line →
          ∃ e, entries[0]? = some e ∧ e.line = line ∧ e.state = .str first.name := by
  have hd := hlawful.coherent hread
  obtain ⟨first, hfirst⟩ : ∃ first, (d.states.find? fun s ↦ !s.rules.isEmpty) = some first := by
    refine Option.isSome_iff_exists.mp (List.find?_isSome.mpr ⟨s, hs, ?_⟩)
    simpa using hrules
  have hhead := (Document.head?_importedStates hd).trans hfirst
  have hstart {m : Machine} (hm : d.Imported m) : m.start = .str first.name := by
    obtain ⟨found, hfound, hstart⟩ := hm.start
    cases hfound.symm.trans hhead
    exact hstart
  refine ⟨first, List.mem_of_find?_eq_some hfirst, hfirst,
    Document.name_eq_startState_iff hd hs hname hrules hfirst, ?_, ?_, ?_⟩
  · rw [Document.toTemplate, List.head?_map, hhead]
    rfl
  · intro m hm
    exact hstart (Document.imported_of_ofTemplate hd hm)
  · intro cache text o r entries line hsuits h htrace hline
    obtain ⟨m, c, -, himported, hrun, rfl⟩ := exists_imported hd hsuits h
    obtain ⟨-, hentries⟩ := Option.ite_none_right_eq_some.mp htrace
    cases hentries
    obtain ⟨e, he, hsame, hstate⟩ :=
      (Machine.accounted_run himported.orderly hrun).exists_first hline
    exact ⟨e, he, hsame, hstate.trans (hstart himported)⟩

/-- The list of hosts starts in `Start`. -/
theorem start_of_parse_hosts :
    readDocument hostsText = .ok hosts ∧ hosts.StartsFirst ∧
      (hosts.toTemplate { id := .str "hosts" }).states.head?.map State.name =
        some (.str startState) := by
  obtain ⟨first, -, hfirst, hstart, hhead, -⟩ := start_of_parse lawful_readDocument
    readDocument_hosts List.mem_cons_self rfl (List.cons_ne_nil _ _) { id := .str "hosts" }
  cases hfirst
  exact ⟨readDocument_hosts, hstart.mp rfl, hhead⟩

/-- A document in which another state with rules stands in front of `Start`. -/
def aside : Document where
  values := []
  states := [⟨"Aside", [⟨"^b", "^b", {}⟩]⟩, ⟨"Start", [⟨"^a", "^a", {}⟩]⟩]

/-- The text that it is read from. -/
def asideText : String :=
  "\nAside\n  ^b\n\nStart\n  ^a\n"

/-- A run starts in the state in front of `Start`, and its first line is looked at there. -/
theorem not_start_aside :
    ∃ m r entries, readDocument asideText = .ok aside ∧
      (∃ s ∈ aside.states, s.name = startState ∧ s.rules ≠ []) ∧
      (aside.toTemplate { id := .str "aside" }).states.head?.map State.name ≠
        some (.str startState) ∧
      Machine.ofTemplate (aside.toTemplate { id := .str "aside" }) = .ok m ∧
      m.start ≠ .str startState ∧
      (parse Cache.empty (.str "a\n") (aside.toTemplate { id := .str "aside" })
        { debug := true }).result = .ok r ∧
      r.trace = some entries ∧ ∃ e, entries[0]? = some e ∧ e.state ≠ .str startState := by
  obtain ⟨m, hm, hstart⟩ := map_eq_ok.mp (show
    (Machine.ofTemplate (aside.toTemplate { id := .str "aside" })).map Machine.start =
      .ok (.str "Aside") by decide +kernel)
  obtain ⟨r, hr, htrace⟩ := map_eq_ok.mp (show
    (parse Cache.empty (.str "a\n") (aside.toTemplate { id := .str "aside" })
      { debug := true }).result.map ParseResult.trace =
        .ok (some [⟨1, "a", .str "Aside", none⟩]) by decide +kernel)
  refine ⟨m, r, _, by decide +kernel, ?_, by decide, hm, ?_, hr, htrace, _, rfl, by decide⟩
  · exact ⟨_, List.mem_cons_of_mem _ List.mem_cons_self, rfl, List.cons_ne_nil _ _⟩
  · rw [hstart]
    decide

end LineMachine.Engine
