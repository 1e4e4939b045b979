import LineMachine.Proofs.Match.Comparison
import LineMachine.Proofs.Template.Described

/-!
# Broken candidates

A document is *broken* if it is no template, or if its template has no machine. A comparison leaves
a broken document out where its fault describes a defect of a template, and then comes out as if the
document were not there. Any other fault of a broken document stops the comparison: a fault of
reading wherever it arises, and a fault of making the machine if the filter keeps the template
(`compareDocuments_broken`). So the condition under which no broken document disturbs the others,
`Passable`, cannot be dropped (`not_left_out`).
-/

namespace LineMachine.Match

open Cache (ofPast)

/-! ## Broken documents -/

/-- Whether a document is no template, or one without a machine. -/
def isBroken (doc : Value) : Bool :=
  match Template.read doc with
  | .ok t => t.machine?.isNone
  | .error _ => true

/-- The id that a document has, if it has one. -/
def id? (doc : Value) : Option Value :=
  match doc with
  | .object fields => Table.find? fields (.str "id")
  | _ => none

/-- Holds of documents whose ids, where they have one, are texts and differ from each other. -/
structure NamedApart (docs : List Value) : Prop where
  text : ∀ v ∈ docs.filterMap id?, ∃ s, v = .str s
  distinct : (docs.filterMap id?).Nodup

/-- The fault that stops the reading of candidates at a document: one that describes no defect of a
template. -/
def strayFault? (doc : Value) : Option Fault :=
  match Template.read doc with
  | .ok _ => none
  | .error fault => if fault.isTemplateFault then none else some fault

/-- The template that a document is read as, if it is one. -/
def readable? (doc : Value) : Option Template :=
  (Template.read doc).toOption

theorem readable?_eq_some {doc : Value} {t : Template} :
    readable? doc = some t ↔ Template.read doc = .ok t := by
  rw [readable?]
  cases Template.read doc with
  | ok found => exact ⟨fun h ↦ congrArg Except.ok (Option.some.inj h), fun h ↦ by cases h; rfl⟩
  | error fault => exact ⟨(nomatch ·), (nomatch ·)⟩

theorem id?_of_read {doc : Value} {t : Template} (h : Template.read doc = .ok t) :
    id? doc = some t.id := by
  obtain ⟨fields, rfl, hid⟩ := (Template.read_eq_ok.mp h).id
  exact hid

/-- What is read from candidates: all that are templates, or the first fault that is no defect of a
template. -/
theorem result_readCandidates (cache : Cache) (docs : List Value) :
    (readCandidates cache docs).result =
      match docs.findSome? strayFault? with
      | some fault => .error fault
      | none => .ok (docs.filterMap readable?) := by
  induction docs with
  | nil => rfl
  | cons doc rest ih =>
    rw [readCandidates, List.findSome?_cons, List.filterMap_cons, strayFault?, readable?]
    cases Template.read doc with
    | ok t =>
      simp only [Answer.result_andThen, ih, Except.toOption]
      cases rest.findSome? strayFault? <;> rfl
    | error fault =>
      simp only [Except.toOption]
      split
      · exact ih
      · rfl

/-- The templates of documents that are not broken are those that have a machine. -/
theorem filterMap_readable? (docs : List Value) :
    (docs.filter (!isBroken ·)).filterMap readable? =
      (docs.filterMap readable?).filter (·.machine?.isSome) := by
  induction docs with
  | nil => rfl
  | cons doc rest ih =>
    rw [List.filterMap_cons, List.filter_cons, isBroken, readable?]
    cases hread : Template.read doc with
    | error fault => simpa [Except.toOption] using ih
    | ok t =>
      cases hmachine : t.machine? with
      | none => simpa [Except.toOption, hmachine] using ih
      | some m => simpa [Except.toOption, hmachine, readable?, hread] using ih

theorem findSome?_strayFault? (docs : List Value) :
    (docs.filter (!isBroken ·)).findSome? strayFault? = none := by
  rw [List.findSome?_eq_none_iff]
  intro doc hdoc
  have hbroken := (List.mem_filter.mp hdoc).2
  rw [isBroken] at hbroken
  rw [strayFault?]
  cases hread : Template.read doc with
  | ok t => rfl
  | error fault => simp [hread] at hbroken

theorem distinctIds_of_namedApart {docs : List Value} (h : NamedApart docs) :
    DistinctIds (docs.filterMap readable?) ∧
      ∀ t ∈ docs.filterMap readable?, ∃ s, t.id = .str s := by
  have htext : ∀ t ∈ docs.filterMap readable?, ∃ s, t.id = .str s := by
    intro t ht
    obtain ⟨doc, hdoc, hread⟩ := List.mem_filterMap.mp ht
    exact h.text t.id
      (List.mem_filterMap.mpr ⟨doc, hdoc, id?_of_read (readable?_eq_some.mp hread)⟩)
  refine ⟨?_, htext⟩
  have hdistinct := List.pairwise_filterMap.mp h.distinct
  rw [DistinctIds, List.pairwise_filterMap]
  refine hdistinct.imp_of_mem fun {d e} hd he hne t ht u hu ↦ ?_
  obtain ⟨s, hs⟩ := htext t (List.mem_filterMap.mpr ⟨d, hd, ht⟩)
  obtain ⟨s', hs'⟩ := htext u (List.mem_filterMap.mpr ⟨e, he, hu⟩)
  have hother := hne _ (id?_of_read (readable?_eq_some.mp ht)) _
    (id?_of_read (readable?_eq_some.mp hu))
  rw [hs, hs'] at hother ⊢
  simpa [Value.sameKey] using hother

/-! ## Templates without a machine -/

section Trying

variable {σ : Type} {score : Scorer σ} {text : Value}

/-- A template without a machine leaves a cache as it is. -/
theorem after_ask_of_fault {t : Template} {fault : Fault}
    (h : Machine.ofTemplate t = .error fault) (cache : Cache) : cache.after (.ask t) = cache := by
  rw [Cache.after]
  cases Engine.asking cache t with
  | refused hk hcompile =>
    rw [hcompile]
    rfl
  | held k stored hk hheld hcompile => rw [hcompile]
  | built k m hk hnone hm hcompile => cases h.symm.trans hm
  | faulty k found hk hnone hm hcompile => rw [hcompile]

theorem attempt_of_fault {t : Template} {fault : Fault} {id : String} (hid : t.id = .str id)
    (h : Machine.ofTemplate t = .error fault) :
    attempt score text Cache.empty t = if isSkipped fault then .ok none else .error fault := by
  have hk : t.id.key? = some (.str id) := by
    rw [hid]
    rfl
  have hcompile := Engine.compile_of_fault (c := Cache.empty) hk rfl h
  rw [attempt, Engine.parse, hcompile]
  rfl

/-- Templates without a machine that are left out make no difference to the others. -/
theorem tryAll_filter_machine? {templates : List Template} {past : List Deed}
    (h : Deed.Unmixed (past ++ templates.map Deed.ask))
    (hids : ∀ t ∈ templates, ∃ id, t.id = .str id)
    (hskipped : ∀ t ∈ templates, ∀ fault, Machine.ofTemplate t = .error fault →
      isSkipped fault = true) :
    (tryAll score text (ofPast past) templates).result =
      (tryAll score text (ofPast past) (templates.filter (·.machine?.isSome))).result := by
  induction templates generalizing past with
  | nil => rfl
  | cons t rest ih =>
    obtain ⟨⟨id, hid⟩, hids⟩ := List.forall_mem_cons.mp hids
    obtain ⟨hfirst, hskipped⟩ := List.forall_mem_cons.mp hskipped
    have hpast : past ++ (t :: rest).map Deed.ask =
        (past ++ [.ask t]) ++ rest.map Deed.ask := by simp
    have hrest := ih (hpast ▸ h) hids hskipped
    have hunmixed : Deed.Unmixed (past ++ [.ask t]) :=
      Deed.unmixed_of_isPrefix (hpast ▸ List.prefix_append _ _) h
    rw [Cache.ofPast_concat] at hrest
    rw [result_tryAll_cons, hrest, List.filter_cons]
    cases hm : Machine.ofTemplate t with
    | ok m =>
      rw [Template.machine?_eq_some.mpr hm, Option.isSome_some, if_pos rfl, result_tryAll_cons]
    | error fault =>
      have hnone : t.machine? = none := by
        rw [Template.machine?, hm]
        rfl
      rw [attempt_of_unmixed hunmixed, attempt_of_fault hid hm, if_pos (hfirst fault hm), ok_bind,
        after_ask_of_fault hm, hnone, Option.isSome_none, if_neg Bool.false_ne_true]
      cases (tryAll score text (ofPast past) (rest.filter (·.machine?.isSome))).result <;> rfl

/-- A template whose machine cannot be made for another reason stops the comparison. -/
theorem exists_error_tryAll {templates : List Template} {past : List Deed}
    (h : Deed.Unmixed (past ++ templates.map Deed.ask)) {t : Template} (ht : t ∈ templates)
    {id : String} (hid : t.id = .str id) {fault : Fault}
    (hm : Machine.ofTemplate t = .error fault) (hstray : isSkipped fault = false) :
    ∃ found, (tryAll score text (ofPast past) templates).result = .error found := by
  induction templates generalizing past with
  | nil => cases ht
  | cons u rest ih =>
    have hpast : past ++ (u :: rest).map Deed.ask =
        (past ++ [.ask u]) ++ rest.map Deed.ask := by simp
    have hunmixed : Deed.Unmixed (past ++ [.ask u]) :=
      Deed.unmixed_of_isPrefix (hpast ▸ List.prefix_append _ _) h
    rw [result_tryAll_cons, attempt_of_unmixed hunmixed]
    rcases List.mem_cons.mp ht with rfl | ht
    · rw [attempt_of_fault hid hm, hstray]
      exact ⟨fault, rfl⟩
    · cases attempt score text Cache.empty u with
      | error found => exact ⟨found, rfl⟩
      | ok s =>
        obtain ⟨found, hfound⟩ := ih (hpast ▸ h) ht
        rw [Cache.ofPast_concat] at hfound
        rw [ok_bind, hfound]
        exact ⟨found, rfl⟩

end Trying

/-! ## Comparisons -/

/-- Holds of documents whose broken ones are left out: where reading stops, the fault describes a
defect of a template, and where the filter keeps a template that has no machine, the fault is one
that leaves the template out. -/
structure Passable (phrase : Option String) (docs : List Value) : Prop where
  read : ∀ doc ∈ docs, ∀ fault, Template.read doc = .error fault → fault.isTemplateFault = true
  machine : ∀ doc ∈ docs, ∀ t, Template.read doc = .ok t →
    filterTemplates [t] (phraseValue phrase) = .ok [t] →
      ∀ fault, Machine.ofTemplate t = .error fault → isSkipped fault = true

theorem findSome?_strayFault?_eq_none_iff {docs : List Value} :
    docs.findSome? strayFault? = none ↔
      ∀ doc ∈ docs, ∀ fault, Template.read doc = .error fault → fault.isTemplateFault = true := by
  rw [List.findSome?_eq_none_iff]
  refine forall₂_congr fun doc _ ↦ ?_
  rw [strayFault?]
  cases Template.read doc with
  | ok t => simp
  | error fault => simp

section Comparing

variable {σ : Type} [LT σ] [DecidableLT σ]

/-- What a comparison of documents on a new cache comes to. -/
def compared (score : Scorer σ) (zero : σ) (text : String) (phrase : Option String)
    (docs : List Value) : Except Fault (MatchResult σ) :=
  (compareDocuments score zero Cache.empty (.str text) (.list docs) (phraseValue phrase)).result

variable (score : Scorer σ) (zero : σ) (text : String)

theorem compared_of_stray {phrase : Option String} {docs : List Value} {fault : Fault}
    (h : docs.findSome? strayFault? = some fault) :
    compared score zero text phrase docs = .error fault := by
  have hread := result_readCandidates Cache.empty docs
  rw [h] at hread
  rw [compared, result_compareDocuments, candidates]
  change ((readCandidates Cache.empty docs).result >>= _) >>= _ = _
  rw [hread]
  rfl

theorem compared_of_read {phrase : Option String} {keeps : Template → Bool}
    (hkeeps : ∀ others, filterTemplates others (phraseValue phrase) = .ok (others.filter keeps))
    {docs : List Value} (h : docs.findSome? strayFault? = none) :
    compared score zero text phrase docs =
      (tryAll score (.str text) (ofPast []) ((docs.filterMap readable?).filter keeps)).result.map
        (ofScored zero) := by
  have hread := result_readCandidates Cache.empty docs
  rw [h] at hread
  rw [compared, result_compareDocuments, candidates]
  change ((readCandidates Cache.empty docs).result >>= _) >>= _ = _
  rw [hread, ok_bind, hkeeps]
  rfl

/-- **Broken candidates.** Let the ids of documents be texts that differ from each other. If every
broken document has a fault that leaves it out, then comparing the documents on a new cache comes
to the same as comparing those that are not broken. And if not, the comparison stops with a fault;
with the first one, if it arises in reading. -/
theorem compareDocuments_broken {docs : List Value} (h : NamedApart docs)
    (phrase : Option String) :
    (Passable phrase docs →
      compared score zero text phrase docs =
        compared score zero text phrase (docs.filter (!isBroken ·))) ∧
      (¬ Passable phrase docs → ∃ fault, compared score zero text phrase docs = .error fault) ∧
      ∀ fault, docs.findSome? strayFault? = some fault →
        compared score zero text phrase docs = .error fault := by
  obtain ⟨keeps, hkeeps⟩ := exists_filterTemplates phrase
  obtain ⟨hids, htexts⟩ := distinctIds_of_namedApart h
  have hunmixed : Deed.Unmixed ([] ++ ((docs.filterMap readable?).filter keeps).map Deed.ask) :=
    unmixed_asks (hids.sublist List.filter_sublist)
  have hkept (t : Template) : filterTemplates [t] (phraseValue phrase) = .ok [t] ↔
      keeps t = true := by
    rw [hkeeps, Except.ok.injEq, List.filter_eq_self]
    exact List.forall_mem_singleton
  refine ⟨?_, ?_, fun fault ↦ compared_of_stray score zero text⟩
  · rintro ⟨hread, hmachine⟩
    rw [compared_of_read score zero text hkeeps (findSome?_strayFault?_eq_none_iff.mpr hread),
      compared_of_read score zero text hkeeps (findSome?_strayFault? docs), filterMap_readable?,
      List.filter_filter, tryAll_filter_machine? hunmixed, List.filter_filter]
    · simp only [Bool.and_comm]
    · intro t ht
      exact htexts t (List.mem_filter.mp ht).1
    · intro t ht fault hfault
      obtain ⟨hmem, hkeep⟩ := List.mem_filter.mp ht
      obtain ⟨doc, hdoc, hread⟩ := List.mem_filterMap.mp hmem
      exact hmachine doc hdoc t (readable?_eq_some.mp hread) ((hkept t).mpr hkeep) fault hfault
  · intro hnot
    cases hstray : docs.findSome? strayFault? with
    | some fault => exact ⟨fault, compared_of_stray score zero text hstray⟩
    | none =>
      -- All documents are read or left out, so some template that is kept has a stray fault.
      have hmachine : ∃ t ∈ (docs.filterMap readable?).filter keeps, ∃ fault,
          Machine.ofTemplate t = .error fault ∧ isSkipped fault = false := by
        by_contra hnone
        push Not at hnone
        refine hnot ⟨findSome?_strayFault?_eq_none_iff.mp hstray, ?_⟩
        intro doc hdoc t hread hkeep fault hfault
        have hmem : t ∈ (docs.filterMap readable?).filter keeps :=
          List.mem_filter.mpr ⟨List.mem_filterMap.mpr ⟨doc, hdoc, readable?_eq_some.mpr hread⟩,
            (hkept t).mp hkeep⟩
        simpa using hnone t hmem fault hfault
      obtain ⟨t, ht, fault, hfault, hskipped⟩ := hmachine
      obtain ⟨id, hid⟩ := htexts t (List.mem_filter.mp ht).1
      have hfails : ∃ found, (tryAll score (.str text) (ofPast [])
          ((docs.filterMap readable?).filter keeps)).result = .error found :=
        exists_error_tryAll hunmixed ht hid hfault hskipped
      obtain ⟨found, hfound⟩ := hfails
      refine ⟨found, ?_⟩
      rw [compared_of_read score zero text hkeeps hstray, hfound]
      rfl

end Comparing

/-- What is no template, a template without states, a template with a malformed pattern, and the
list of ports. -/
def brokenAndPorts : List Value :=
  [.null,
    Value.ofFields [("id", .str "none")],
    Value.ofFields [("id", .str "open"), ("states", .list [Value.ofFields [("name", .str "s"),
      ("patterns", .list [Value.ofFields [("regex", .str "(")]])]])],
    Engine.ports.write]

/-- Of the three broken documents, each of another kind, nothing is left in the comparison. -/
theorem compareDocuments_broken_ports :
    NamedApart brokenAndPorts ∧ Passable none brokenAndPorts ∧
      compared Record.score 0 "ports\np1\n" none brokenAndPorts =
        compared Record.score 0 "ports\np1\n" none [Engine.ports.write] := by
  have hids : NamedApart brokenAndPorts := by
    have hfound : brokenAndPorts.filterMap id? = [.str "none", .str "open", .str "ports"] := rfl
    constructor
    · rw [hfound]
      simp
    · rw [hfound]
      decide
  have hpassable : Passable none brokenAndPorts := by
    constructor
    · rw [brokenAndPorts, List.forall_mem_cons, List.forall_mem_cons, List.forall_mem_cons,
        List.forall_mem_singleton]
      refine ⟨fun fault hfault ↦ ?_, fun fault hfault ↦ ?_, fun fault hfault ↦ ?_,
        fun fault hfault ↦ ?_⟩
      · cases hfault
        rfl
      all_goals cases hfault
    · rw [brokenAndPorts, List.forall_mem_cons, List.forall_mem_cons, List.forall_mem_cons,
        List.forall_mem_singleton]
      refine ⟨fun t ht ↦ ?_, fun t ht _ fault hfault ↦ ?_, fun t ht _ fault hfault ↦ ?_,
        fun t ht _ fault hfault ↦ ?_⟩
      · cases ht
      · cases ht
        cases hfault
        rfl
      · cases ht
        cases hfault
        rfl
      · cases ht
        cases hfault
  refine ⟨hids, hpassable, ?_⟩
  exact (compareDocuments_broken Record.score 0 "ports\np1\n" hids none).1 hpassable

/-- A document in which a text stands in the place of a pattern. -/
def textForPattern : Value :=
  Value.ofFields [("id", .str "bare"), ("states", .list [Value.ofFields [("name", .str "s"),
    ("patterns", .list [.str "x"])]])]

/-- A document in which a state is named by a list. -/
def listForName : Value :=
  Value.ofFields [("id", .str "listed"), ("states", .list [Value.ofFields
    [("name", .list [.str "s"]), ("patterns", .list [Value.ofFields [("regex", .str "x")]])]])]

/-- Holds of a broken document that stops the comparison of the list of ports, which has a result
without it. -/
structure Disturbs (doc : Value) : Prop where
  named : NamedApart [doc, Engine.ports.write]
  broken : isBroken doc = true
  stops : ∃ fault, (findBestDocument Cache.empty (.str "ports\np1\n")
    (.list [doc, Engine.ports.write]) .null).result = .error fault
  without : ∃ r, (findBestDocument Cache.empty (.str "ports\np1\n")
    (.list ([doc, Engine.ports.write].filter (!isBroken ·))) .null).result = .ok r

theorem namedApart_beside_ports {doc : Value} {name : String} (hid : id? doc = some (.str name))
    (hname : name ≠ "ports") : NamedApart [doc, Engine.ports.write] := by
  have hfound : [doc, Engine.ports.write].filterMap id? = [.str name, .str "ports"] := by
    rw [List.filterMap_cons, hid]
    rfl
  constructor
  · rw [hfound]
    simp
  · rw [hfound]
    simpa using hname

/-- Either of the two broken documents disturbs a comparison. -/
theorem not_left_out : Disturbs textForPattern ∧ Disturbs listForName := by
  have htext : id? textForPattern = some (.str "bare") := rfl
  have hlist : id? listForName = some (.str "listed") := rfl
  exact ⟨⟨namedApart_beside_ports htext (by decide), rfl, ⟨_, rfl⟩, ⟨_, rfl⟩⟩,
    ⟨namedApart_beside_ports hlist (by decide), rfl, ⟨_, rfl⟩, ⟨_, rfl⟩⟩⟩

end LineMachine.Match
