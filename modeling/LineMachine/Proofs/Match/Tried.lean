import LineMachine.Match.Best
import LineMachine.Proofs.Cache.Past

/-!
# Candidates that are tried

Comparing templates runs the candidates one after the other, on one cache. It stops at the first
candidate whose run or score has a fault that is not left out; the candidates up to there are
*tried*. To the cache, a comparison is being asked for the machines of the candidates that are
tried (`cache_tryAll`). If no two of them, and none of them and a template asked for before, have
the same id, then the comparison comes out as with a new cache (`tryAll_of_unmixed`).
-/

namespace LineMachine.Match

open Cache (ofPast)

/-! ## One candidate -/

section Trying

variable {σ : Type} (score : Scorer σ) (text : Value)

/-- What comes of one candidate: a score, nothing if it is left out, or a fault that stops the
comparison. -/
def attempt (cache : Cache) (t : Template) : Except Fault (Option (Scored σ)) :=
  match (Engine.parse cache text t {}).result with
  | .ok r => (scoredOf score t r).map some
  | .error fault => if isSkipped fault then .ok none else .error fault

/-- The candidates that are tried. -/
def tried (cache : Cache) : List Template → List Template
  | [] => []
  | t :: rest =>
    t :: match attempt score text cache t with
      | .ok _ => tried (cache.after (.ask t)) rest
      | .error _ => []

variable {score text}

theorem tried_of_ok {cache : Cache} {t : Template} {s : Option (Scored σ)}
    (h : attempt score text cache t = .ok s) (rest : List Template) :
    tried score text cache (t :: rest) = t :: tried score text (cache.after (.ask t)) rest := by
  rw [tried, h]

theorem tried_of_error {cache : Cache} {t : Template} {fault : Fault}
    (h : attempt score text cache t = .error fault) (rest : List Template) :
    tried score text cache (t :: rest) = [t] := by
  rw [tried, h]

/-- Comparing more candidates: the first one, and then the others on the cache that it left. -/
theorem result_tryAll_cons (cache : Cache) (t : Template) (rest : List Template) :
    (tryAll score text cache (t :: rest)).result =
      attempt score text cache t >>= fun s ↦
        (tryAll score text (cache.after (.ask t)) rest).result.map (s.toList ++ ·) := by
  rw [tryAll, attempt, ← Engine.cache_parse cache text t {}]
  cases hrun : (Engine.parse cache text t {}).result with
  | error fault =>
    simp only
    split
    · change (tryAll score text (Engine.parse cache text t {}).cache rest).result = _
      cases (tryAll score text (Engine.parse cache text t {}).cache rest).result <;> rfl
    · rfl
  | ok r =>
    simp only [Answer.result_andThen]
    cases scoredOf score t r with
    | error fault => rfl
    | ok s =>
      cases (tryAll score text (Engine.parse cache text t {}).cache rest).result <;> rfl

theorem cache_tryAll_of_ok {cache : Cache} {t : Template} {s : Option (Scored σ)}
    (h : attempt score text cache t = .ok s) (rest : List Template) :
    (tryAll score text cache (t :: rest)).cache =
      (tryAll score text (cache.after (.ask t)) rest).cache := by
  rw [tryAll, ← Engine.cache_parse cache text t {}]
  rw [attempt] at h
  cases hrun : (Engine.parse cache text t {}).result with
  | error fault =>
    rw [hrun] at h
    simp only at h ⊢
    split at h
    · rename_i hskipped
      rw [if_pos hskipped]
      rfl
    · cases h
  | ok r =>
    rw [hrun] at h
    obtain ⟨scored, hscored, -⟩ := map_eq_ok.mp h
    simp only
    rw [Answer.cache_andThen_of_ok hscored]
    cases hrest : (tryAll score text (Engine.parse cache text t {}).cache rest).result with
    | error fault => exact Answer.cache_andThen_of_error hrest _
    | ok others => exact Answer.cache_andThen_of_ok hrest _

theorem cache_tryAll_of_error {cache : Cache} {t : Template} {fault : Fault}
    (h : attempt score text cache t = .error fault) (rest : List Template) :
    (tryAll score text cache (t :: rest)).cache = cache.after (.ask t) := by
  rw [tryAll, ← Engine.cache_parse cache text t {}]
  rw [attempt] at h
  cases hrun : (Engine.parse cache text t {}).result with
  | error found =>
    rw [hrun] at h
    simp only at h ⊢
    split at h
    · cases h
    · rename_i hskipped
      rw [if_neg hskipped]
  | ok r =>
    rw [hrun] at h
    simp only at h ⊢
    cases hscored : scoredOf score t r with
    | error found => rfl
    | ok s =>
      rw [hscored] at h
      cases h

/-! ## All candidates -/

/-- To the cache, a comparison is being asked for the candidates that are tried. -/
theorem cache_tryAll (cache : Cache) (templates : List Template) :
    (tryAll score text cache templates).cache =
      ((tried score text cache templates).map Deed.ask).foldl Cache.after cache := by
  induction templates generalizing cache with
  | nil => rfl
  | cons t rest ih =>
    cases hattempt : attempt score text cache t with
    | ok s =>
      rw [cache_tryAll_of_ok hattempt, tried_of_ok hattempt, ih]
      rfl
    | error fault =>
      rw [cache_tryAll_of_error hattempt, tried_of_error hattempt]
      rfl

theorem attempt_of_unmixed {past : List Deed} {t : Template}
    (h : Deed.Unmixed (past ++ [.ask t])) :
    attempt score text (ofPast past) t = attempt score text Cache.empty t := by
  rw [attempt, attempt, Engine.parse_of_unmixed h]

/-- A comparison comes out the same after two pasts, if both stay unmixed by the candidates that are
tried. -/
theorem tryAll_of_unmixed {templates : List Template} {p q : List Deed}
    (hp : Deed.Unmixed (p ++ (tried score text (ofPast p) templates).map Deed.ask))
    (hq : Deed.Unmixed (q ++ (tried score text (ofPast p) templates).map Deed.ask)) :
    (tryAll score text (ofPast p) templates).result =
      (tryAll score text (ofPast q) templates).result := by
  induction templates generalizing p q with
  | nil => rfl
  | cons t rest ih =>
    -- Either way the first candidate is tried, and comes out as it would on a new cache.
    have hfirst {before : List Deed} {others : List Template}
        (h : Deed.Unmixed (before ++ (t :: others).map Deed.ask)) :
        attempt score text (ofPast before) t = attempt score text Cache.empty t :=
      attempt_of_unmixed (Deed.unmixed_of_isPrefix
        (List.prefix_append_right_inj before |>.mpr (List.prefix_append [Deed.ask t] _)) h)
    rw [result_tryAll_cons, result_tryAll_cons]
    cases hattempt : attempt score text (ofPast p) t with
    | error fault =>
      rw [tried_of_error hattempt] at hp hq
      rw [hfirst hq, ← hfirst hp, hattempt]
      rfl
    | ok s =>
      rw [tried_of_ok hattempt] at hp hq
      rw [hfirst hq, ← hfirst hp, hattempt, ok_bind, ok_bind]
      rw [← Cache.ofPast_concat] at hp hq ⊢
      rw [← Cache.ofPast_concat]
      have hrest := ih (p := p ++ [Deed.ask t]) (q := q ++ [Deed.ask t])
        (by rwa [List.append_assoc]) (by rwa [List.append_assoc])
      rw [hrest]

end Trying

/-! ## Documents -/

/-- The templates that are compared: the documents that are templates, as far as a filter keeps
them. -/
def candidates (docs filter : Value) : Except Fault (List Template) := do
  let templates ← (readCandidates Cache.empty (← docs.elements)).result
  filterTemplates templates filter

/-- Reading candidates does nothing to the cache, nor does it look at it. -/
theorem readCandidates_eq (cache : Cache) (docs : List Value) :
    (readCandidates cache docs).cache = cache ∧
      (readCandidates cache docs).result = (readCandidates Cache.empty docs).result := by
  induction docs with
  | nil => exact ⟨rfl, rfl⟩
  | cons doc rest ih =>
    obtain ⟨hcache, hresult⟩ := ih
    rw [readCandidates, readCandidates]
    cases Template.read doc with
    | error fault =>
      simp only
      split
      · exact ⟨hcache, hresult⟩
      · exact ⟨rfl, rfl⟩
    | ok t =>
      simp only
      rw [Answer.result_andThen, Answer.result_andThen, hresult]
      refine ⟨?_, rfl⟩
      cases hread : (readCandidates cache rest).result with
      | error fault => rw [Answer.cache_andThen_of_error hread, hcache]
      | ok templates =>
        rw [Answer.cache_andThen_of_ok hread]
        exact hcache

section Comparing

variable {σ : Type} [LT σ] [DecidableLT σ] (score : Scorer σ) (zero : σ) (text : Value)

theorem result_compareDocuments (cache : Cache) (docs filter : Value) :
    (compareDocuments score zero cache text docs filter).result =
      candidates docs filter >>= fun templates ↦
        (tryAll score text cache templates).result.map (ofScored zero) := by
  rw [compareDocuments, candidates, Answer.result_ofExcept_andThen]
  cases docs.elements with
  | error fault => rfl
  | ok docs =>
    obtain ⟨hcache, hread⟩ := readCandidates_eq cache docs
    rw [ok_bind, ok_bind, Answer.result_andThen, hread, hcache]
    cases (readCandidates Cache.empty docs).result with
    | error fault => rfl
    | ok templates =>
      rw [ok_bind, ok_bind, compareTemplates, Answer.result_ofExcept_andThen]
      cases filterTemplates templates filter with
      | error fault => rfl
      | ok kept =>
        rw [ok_bind, ok_bind, Answer.result_andThen]
        change (tryAll score text cache kept).result >>= _ = _
        cases (tryAll score text cache kept).result <;> rfl

/-- The templates of documents that are tried. -/
def triedDocuments (cache : Cache) (docs filter : Value) : List Template :=
  match candidates docs filter with
  | .ok templates => tried score text cache templates
  | .error _ => []

variable {score zero text}

theorem cache_compareTemplates (cache : Cache) {templates kept : List Template} {filter : Value}
    (h : filterTemplates templates filter = .ok kept) :
    (compareTemplates score zero cache text templates filter).cache =
      (tryAll score text cache kept).cache := by
  rw [compareTemplates, h, Answer.cache_ofExcept_andThen_ok]
  cases hall : (tryAll score text cache kept).result with
  | error fault => exact Answer.cache_andThen_of_error (by exact hall) _
  | ok scored => exact Answer.cache_andThen_of_ok (by exact hall) _

/-- To the cache, comparing documents is being asked for the templates that are tried. -/
theorem cache_compareDocuments (cache : Cache) (docs filter : Value) :
    (compareDocuments score zero cache text docs filter).cache =
      ((triedDocuments score text cache docs filter).map Deed.ask).foldl Cache.after cache := by
  rw [triedDocuments, candidates, compareDocuments]
  cases hdocs : docs.elements with
  | error fault => rfl
  | ok docs =>
    obtain ⟨hcache, hread⟩ := readCandidates_eq cache docs
    rw [Answer.cache_ofExcept_andThen_ok, ok_bind]
    cases hresult : (readCandidates cache docs).result with
    | error fault =>
      rw [Answer.cache_andThen_of_error hresult, ← hread, hresult]
      exact hcache
    | ok templates =>
      rw [Answer.cache_andThen_of_ok hresult, ← hread, hresult, hcache, ok_bind]
      cases hkept : filterTemplates templates filter with
      | error fault =>
        rw [compareTemplates, hkept, Answer.cache_ofExcept_andThen_error]
        rfl
      | ok kept => rw [cache_compareTemplates cache hkept, cache_tryAll]

/-- **A comparison that keeps the past unmixed comes out as on a new cache.** -/
theorem compareDocuments_of_unmixed {past : List Deed} {docs filter : Value}
    (h : Deed.Unmixed
      (past ++ (triedDocuments score text (ofPast past) docs filter).map Deed.ask)) :
    (compareDocuments score zero (ofPast past) text docs filter).result =
      (compareDocuments score zero Cache.empty text docs filter).result := by
  rw [result_compareDocuments, result_compareDocuments]
  rw [triedDocuments] at h
  cases hcandidates : candidates docs filter with
  | error fault => rfl
  | ok templates =>
    rw [hcandidates] at h
    rw [ok_bind, ok_bind]
    exact congrArg (Except.map (ofScored zero))
      (tryAll_of_unmixed h (q := []) (Deed.unmixed_of_append h))

end Comparing

end LineMachine.Match
