import Mathlib.Algebra.Order.Ring.Rat
import LineMachine.Proofs.Match.Points
import LineMachine.Proofs.Match.Ranking
import LineMachine.Proofs.Match.Tried
import LineMachine.Proofs.Value

/-!
# Comparing templates

Comparing templates on a new cache ranks them by what each of them comes to *alone*, in a run on a
new cache of its own. No two candidates have the same id, so none of them finds a machine that
another one left in the cache (`unmixed_asks`), and the comparison collects exactly what the
candidates come to alone, in their order (`result_tryAll_of_unmixed`). Ranking that is a matter of
scores only (`compareTemplates_ranking`).

Scores may come from any linear order in which none is below the score of no records.
-/

namespace LineMachine.Match

open Cache (ofPast)
open Value (sameKey_comm sameKey_eq)

/-! ## Candidates of different ids -/

/-- Holds of templates no two of which have the same id. -/
def DistinctIds (templates : List Template) : Prop :=
  templates.Pairwise fun t u ↦ t.id.sameKey u.id = false

theorem DistinctIds.perm {templates others : List Template} (h : DistinctIds templates)
    (hperm : others.Perm templates) : DistinctIds others :=
  hperm.symm.pairwise h fun hid ↦ (sameKey_comm _ _).trans hid

/-- What was asked for since an id was forgotten was asked for under that id. -/
theorem mem_of_mem_asked {k : Key} {past : List Deed} {u : Template} (h : u ∈ Deed.asked k past) :
    Deed.ask u ∈ past ∧ u.id.key?.any k.same = true := by
  obtain ⟨d, hd, hask⟩ := List.mem_filterMap.mp h
  have hmem : d ∈ past := (List.rtakeWhile_suffix _ _).subset hd
  rcases d with t | id | -
  · rw [Deed.asks?, Option.ite_none_right_eq_some] at hask
    obtain ⟨hid, ht⟩ := hask
    cases ht
    exact ⟨hmem, hid⟩
  · cases hask
  · cases hask

/-- Asking for templates of different ids mixes no two of them. -/
theorem unmixed_asks {templates : List Template} (h : DistinctIds templates) :
    Deed.Unmixed (templates.map Deed.ask) := by
  intro before t k hprefix hk u hu
  obtain ⟨hmem, hid⟩ := mem_of_mem_asked hu
  obtain ⟨j, hj, hsame⟩ := (Option.any_eq_true _ _).mp hid
  -- `u` stands in front of `t`, so its id is another one.
  obtain ⟨front, hfront, hmap⟩ := List.prefix_map_iff.mp hprefix
  obtain ⟨earlier, last, rfl, rfl, hlast⟩ := List.map_eq_append_iff.mp hmap.symm
  obtain ⟨t', rfl, ht⟩ := List.map_eq_singleton_iff.mp hlast
  obtain ⟨u', hu', hu⟩ := List.mem_map.mp hmem
  cases ht
  cases hu
  have hpairs := List.pairwise_append.mp (h.sublist hfront.sublist)
  have hother := hpairs.2.2 u hu' t (List.mem_singleton_self t)
  rw [sameKey_eq hj hk, Key.same_comm, hsame] at hother
  cases hother

/-! ## Candidates alone -/

section Alone

variable {σ : Type} {score : Scorer σ} {text : Value}

/-- What a candidate comes to in a run of its own: its score and its records, if the run has a
result. -/
def alone (score : Scorer σ) (text : Value) (t : Template) : Option (Scored σ) :=
  match (Engine.parse Cache.empty text t {}).result with
  | .ok r => (scoredOf score t r).toOption
  | .error _ => none

/-- Holds of a template whose run alone either has a result or is left out, and that is scored
under a text. -/
structure Comparable (text : Value) (t : Template) : Prop where
  /-- The command, or else the id, is a text. -/
  label : ∃ label, t.command.orElse t.id = .str label
  /-- The run has a result, or a fault that leaves the template out. -/
  run : ∀ fault, (Engine.parse Cache.empty text t {}).result = .error fault →
    isSkipped fault = true

variable [LinearOrder σ] {zero : σ}

/-- Holds of a way of scoring that has a score for all records under a command that is a text, and
none below the score of nothing. -/
def ScoresFrom (zero : σ) (score : Scorer σ) : Prop :=
  ∀ records command, ∃ s, score records (.str command) = .ok s ∧ zero ≤ s

theorem scoredOf_of_label (hscore : ScoresFrom zero score) {t : Template}
    (hlabel : ∃ label, t.command.orElse t.id = .str label) (r : ParseResult) :
    ∃ s, scoredOf score t r = .ok ⟨t.id, s, r.records⟩ ∧ zero ≤ s := by
  obtain ⟨label, hlabel⟩ := hlabel
  obtain ⟨s, hs, hle⟩ := hscore r.records label
  refine ⟨s, ?_, hle⟩
  rw [scoredOf, hlabel, hs]
  rfl

/-- On a new cache a comparable candidate is tried with success, and comes to what it comes to
alone. -/
theorem attempt_eq_alone (hscore : ScoresFrom zero score) {t : Template}
    (ht : Comparable text t) : attempt score text Cache.empty t = .ok (alone score text t) := by
  rw [attempt, alone]
  rcases hresult : (Engine.parse Cache.empty text t {}).result with fault | r
  · exact if_pos (ht.run fault hresult)
  · obtain ⟨s, hs, -⟩ := scoredOf_of_label hscore ht.label r
    simp only [hs]
    rfl

theorem zero_le_of_alone (hscore : ScoresFrom zero score) {t : Template}
    (ht : Comparable text t) {s : Scored σ} (hs : alone score text t = some s) :
    zero ≤ s.score := by
  rw [alone] at hs
  rcases hresult : (Engine.parse Cache.empty text t {}).result with fault | r
  · rw [hresult] at hs
    cases hs
  · obtain ⟨x, hx, hle⟩ := scoredOf_of_label hscore ht.label r
    rw [hresult] at hs
    simp only [hx] at hs
    cases hs
    exact hle

/-- Candidates of different ids come out of a comparison as they do alone. -/
theorem result_tryAll_of_unmixed (hscore : ScoresFrom zero score) {templates : List Template}
    {past : List Deed} (h : Deed.Unmixed (past ++ templates.map Deed.ask))
    (hall : ∀ t ∈ templates, Comparable text t) :
    (tryAll score text (ofPast past) templates).result =
      .ok (templates.filterMap (alone score text)) := by
  induction templates generalizing past with
  | nil => rfl
  | cons t rest ih =>
    obtain ⟨ht, hrest⟩ := List.forall_mem_cons.mp hall
    have hpast : past ++ (t :: rest).map Deed.ask =
        (past ++ [.ask t]) ++ rest.map Deed.ask := by simp
    have hfirst : Deed.Unmixed (past ++ [.ask t]) :=
      Deed.unmixed_of_isPrefix (hpast ▸ List.prefix_append _ _) h
    rw [result_tryAll_cons, attempt_of_unmixed hfirst, attempt_eq_alone hscore ht, ok_bind,
      ← Cache.ofPast_concat, ih (hpast ▸ h) hrest, List.filterMap_cons]
    cases alone score text t <;> rfl

end Alone

/-! ## Comparisons -/

/-- A phrase to filter by, if there is one, as a value. -/
def phraseValue (phrase : Option String) : Value :=
  (phrase.map Value.str).getD .null

/-- No phrase and the empty one are taken for the same. -/
theorem orElse_phraseValue (phrase : Option String) :
    (phraseValue phrase).orElse (.str "") = .str (phrase.getD "") := by
  rcases phrase with - | phrase
  · rfl
  · by_cases hempty : phrase = ""
    · rw [hempty]
      rfl
    · exact if_pos (bne_iff_ne.mpr hempty)

theorem exists_filterTemplates (phrase : Option String) :
    ∃ keeps : Template → Bool, ∀ others : List Template,
      filterTemplates others (phraseValue phrase) = .ok (others.filter keeps) := by
  rcases phrase with - | phrase
  · refine ⟨fun _ ↦ true, fun others ↦ ?_⟩
    rw [List.filter_true]
    rfl
  · by_cases htruthy : (Value.str phrase).truthy = true
    · refine ⟨passes (terms phrase), fun others ↦ ?_⟩
      exact if_pos htruthy
    · refine ⟨fun _ ↦ true, fun others ↦ ?_⟩
      rw [List.filter_true]
      exact if_neg htruthy

section Comparing

variable {σ : Type} [LinearOrder σ] {zero : σ} {score : Scorer σ} {text : Value}

/-- A comparison of candidates of different ids on a new cache is one of what those that are kept
come to alone. -/
theorem result_compareTemplates (hscore : ScoresFrom zero score) {templates kept : List Template}
    (hids : DistinctIds kept) (hall : ∀ t ∈ kept, Comparable text t) {filter : Value}
    (hkept : filterTemplates templates filter = .ok kept) :
    (compareTemplates score zero Cache.empty text templates filter).result =
      .ok (ofScored zero (kept.filterMap (alone score text))) := by
  have hresult : (tryAll score text (ofPast []) kept).result =
      .ok (kept.filterMap (alone score text)) :=
    result_tryAll_of_unmixed hscore (unmixed_asks hids) hall
  rw [compareTemplates, Answer.result_ofExcept_andThen, hkept, ok_bind, Answer.result_andThen]
  exact congrArg (· >>= _) hresult

/-- **Comparing templates gives the true ranking.** Let no two candidates have the same id, and let
each have a run alone that either has a result or leaves it out. Then a comparison on a new cache
comes to an end. Its ranking has one entry for each candidate kept by the filter that scores at all
alone, from best to worst, and entries of one score stand in the order of the candidates. The best
candidate is the first one of the ranking, with its score and its own records; without a ranking
there is none. Where the candidates come in another order, only entries of one score change places,
and the best score stays. -/
theorem compareTemplates_ranking (hscore : ScoresFrom zero score) {text : String}
    {templates : List Template} (hids : DistinctIds templates)
    (hall : ∀ t ∈ templates, Comparable (.str text) t) (phrase : Option String) :
    ∃ kept result, filterTemplates templates (phraseValue phrase) = .ok kept ∧
      (compareTemplates score zero Cache.empty (.str text) templates (phraseValue phrase)).result =
        .ok result ∧
      result.ranking.Perm ((kept.filterMap (alone score (.str text))).filter (·.score ≠ zero)) ∧
      result.ranking.Pairwise (fun a b ↦ b.score ≤ a.score) ∧
      (∀ x, result.ranking.filter (·.score = x) =
        ((kept.filterMap (alone score (.str text))).filter (·.score ≠ zero)).filter (·.score = x)) ∧
      result.best = result.ranking.head? ∧
      (result.ranking = [] → result.bestTemplate = .null ∧
        (result.best.map (·.score)).getD zero = zero ∧ result.bestRecords = []) ∧
      ∀ others : List Template, others.Perm templates → ∃ other,
        (compareTemplates score zero Cache.empty (.str text) others (phraseValue phrase)).result =
          .ok other ∧
        (∀ x, (other.ranking.filter (·.score = x)).Perm (result.ranking.filter (·.score = x))) ∧
        other.ranking.map (·.score) = result.ranking.map (·.score) ∧
        other.best.map (·.score) = result.best.map (·.score) := by
  obtain ⟨keeps, hkeeps⟩ := exists_filterTemplates phrase
  have hresult {candidates : List Template} (hperm : candidates.Perm templates) :=
    result_compareTemplates hscore ((hids.perm hperm).sublist List.filter_sublist)
      (fun t ht ↦ hall t (hperm.subset (List.mem_filter.mp ht).1)) (hkeeps candidates)
  -- No candidate scores less than nothing, so those that score at all are those above it.
  have hpositive : ((templates.filter keeps).filterMap (alone score (.str text))).filter
        (fun s ↦ zero < s.score) =
      ((templates.filter keeps).filterMap (alone score (.str text))).filter (·.score ≠ zero) := by
    refine List.filter_congr fun s hs ↦ decide_eq_decide.mpr ?_
    obtain ⟨t, ht, hts⟩ := List.mem_filterMap.mp hs
    have hle := zero_le_of_alone hscore (hall t (List.mem_filter.mp ht).1) hts
    exact ⟨fun h ↦ h.ne', fun h ↦ lt_of_le_of_ne hle h.symm⟩
  refine ⟨templates.filter keeps, _, hkeeps templates, hresult (List.Perm.refl _), ?_, ?_, ?_, ?_,
    ?_, ?_⟩
  · rw [← hpositive]
    exact ranking_perm zero _
  · exact pairwise_ranking zero _
  · intro x
    rw [← hpositive]
    exact filter_ranking zero _ x
  · exact best_eq_head?_ranking zero _
  · intro hempty
    have hnone := (best_eq_head?_ranking zero _).trans (congrArg List.head? hempty)
    rw [MatchResult.bestTemplate, MatchResult.bestRecords]
    simp only [ofScored, hnone]
    exact ⟨rfl, rfl, rfl⟩
  · intro others hperm
    have hscored := (hperm.filter keeps).filterMap (alone score (.str text))
    refine ⟨_, hresult hperm, filter_ranking_perm hscored, map_score_ranking hscored, ?_⟩
    simp only [ofScored, best_eq_head?_ranking, ← List.head?_map, map_score_ranking hscored]

end Comparing

/-- A list of ports, a template without states, and a copy of the first under another id. -/
def portsTwice : List Template :=
  [Engine.ports, { Engine.ports with id := .str "none", states := [] },
    { Engine.ports with id := .str "copy" }]

/-- Of two lists of ports of equal score the first candidate is the best one, and what stands
between them is left out. -/
theorem compareTemplates_ranking_ports :
    DistinctIds portsTwice ∧ (∀ t ∈ portsTwice, Comparable (.str "ports\np1\n") t) ∧
      ∃ result, (compareTemplates (Record.scoreWith (α := ℚ)) 0 Cache.empty
          (.str "ports\np1\n") portsTwice .null).result = .ok result ∧
        result.ranking.Pairwise (fun a b ↦ b.score ≤ a.score) ∧
        result.best = result.ranking.head? := by
  have hscore : ScoresFrom (0 : ℚ) Record.scoreWith := Record.zero_le_scoreWith
  have hids : DistinctIds portsTwice := by
    rw [DistinctIds]
    decide
  have hall : ∀ t ∈ portsTwice, Comparable (.str "ports\np1\n") t := by
    rw [portsTwice, List.forall_mem_cons, List.forall_mem_cons, List.forall_mem_singleton]
    refine ⟨⟨⟨_, rfl⟩, fun fault hfault ↦ ?_⟩, ⟨⟨_, rfl⟩, fun fault hfault ↦ ?_⟩,
      ⟨⟨_, rfl⟩, fun fault hfault ↦ ?_⟩⟩
    · cases hfault
    · cases hfault
      rfl
    · cases hfault
  obtain ⟨kept, result, -, hresult, -, hsorted, -, hbest, -⟩ :=
    compareTemplates_ranking hscore hids hall none
  exact ⟨hids, hall, result, hresult, hsorted, hbest⟩

end LineMachine.Match
