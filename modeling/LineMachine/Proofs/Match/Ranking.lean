import Mathlib.Data.List.Induction
import Mathlib.Order.Lattice
import LineMachine.Match.Best

/-!
# Rankings

The ranking of scored candidates and the best one of them are computed apart: the ranking by
sorting the candidates that score at all, the best one by going over the candidates and keeping
the better of two. Over scores from a linear order they agree on every pattern of ties.

The ranking is the stable sort from best to worst: scores do not rise (`pairwise_ranking`), and
the candidates of any one score stand in their own order (`filter_ranking`). Going over the
candidates keeps the first one of the highest score (`firstBest_of_best`). The first candidate of
the ranking has the highest score, and among those of its score it is the first one, so it is the
best one (`best_eq_head?_ranking`).
-/

namespace LineMachine.Match

variable {σ : Type} [LinearOrder σ] {zero : σ} {scored : List (Scored σ)}

/-! ## The order of a ranking -/

theorem not_lt_score_iff {a b : Scored σ} :
    (!decide (a.score < b.score)) = true ↔ b.score ≤ a.score := by
  rw [Bool.not_eq_true', decide_eq_false_iff_not, not_lt]

theorem ranking_perm (zero : σ) (scored : List (Scored σ)) :
    (ranking zero scored).Perm (scored.filter fun s ↦ zero < s.score) :=
  List.mergeSort_perm _ _

theorem mem_ranking_iff {s : Scored σ} :
    s ∈ ranking zero scored ↔ s ∈ scored ∧ zero < s.score := by
  rw [(ranking_perm zero scored).mem_iff, List.mem_filter, decide_eq_true_iff]

/-- One candidate may stand in front of another if it does not score less. -/
theorem notWorse_trans (a b c : Scored σ) (hab : (!decide (a.score < b.score)) = true)
    (hbc : (!decide (b.score < c.score)) = true) : (!decide (a.score < c.score)) = true := by
  rw [not_lt_score_iff] at *
  exact hbc.trans hab

theorem notWorse_total (a b : Scored σ) :
    (!decide (a.score < b.score) || !decide (b.score < a.score)) = true := by
  rw [Bool.or_eq_true, not_lt_score_iff, not_lt_score_iff]
  exact le_total _ _

/-- The scores of a ranking do not rise. -/
theorem pairwise_ranking (zero : σ) (scored : List (Scored σ)) :
    (ranking zero scored).Pairwise fun a b ↦ b.score ≤ a.score := by
  have hsorted := List.pairwise_mergeSort notWorse_trans notWorse_total
    (scored.filter fun s ↦ zero < s.score)
  exact hsorted.imp fun h ↦ not_lt_score_iff.mp h

/-- **Rankings are stable.** The candidates of one score stand in a ranking as they stood before. -/
theorem filter_ranking (zero : σ) (scored : List (Scored σ)) (x : σ) :
    (ranking zero scored).filter (·.score = x) =
      (scored.filter fun s ↦ zero < s.score).filter (·.score = x) := by
  have hequal : ((scored.filter fun s ↦ zero < s.score).filter (·.score = x)).Pairwise
      fun a b ↦ (!decide (a.score < b.score)) = true := by
    refine List.pairwise_of_forall_mem_list fun a ha b hb ↦ ?_
    have hax := of_decide_eq_true (List.mem_filter.mp ha).2
    have hbx := of_decide_eq_true (List.mem_filter.mp hb).2
    rw [not_lt_score_iff, hax, hbx]
  -- Candidates of one score are in order already, so sorting keeps them as a sublist.
  have hsub := (List.sublist_mergeSort notWorse_trans notWorse_total hequal
    List.filter_sublist).filter (·.score = x)
  rw [List.filter_filter] at hsub
  simp only [Bool.and_self] at hsub
  exact (hsub.eq_of_length ((ranking_perm zero scored).filter _).length_eq.symm).symm

/-! ## The best candidate -/

/-- Holds of a candidate that scores at all, that no other one exceeds, and that all in front of it
fall short of. -/
structure FirstBest (zero : σ) (scored : List (Scored σ)) (b : Scored σ) : Prop where
  /-- It scores at all. -/
  positive : zero < b.score
  /-- It is the first one of the highest score. -/
  place : ∃ before behind, scored = before ++ b :: behind ∧
    (∀ s ∈ before, s.score < b.score) ∧ ∀ s ∈ behind, s.score ≤ b.score

namespace FirstBest

variable {b : Scored σ}

theorem mem (h : FirstBest zero scored b) : b ∈ scored := by
  obtain ⟨before, behind, rfl, -, -⟩ := h.place
  exact List.mem_append_right before List.mem_cons_self

theorem score_le (h : FirstBest zero scored b) {s : Scored σ} (hs : s ∈ scored) :
    s.score ≤ b.score := by
  obtain ⟨before, behind, rfl, hbefore, hbehind⟩ := h.place
  rcases List.mem_append.mp hs with hs | hs
  · exact (hbefore s hs).le
  · rcases List.mem_cons.mp hs with rfl | hs
    · exact le_refl _
    · exact hbehind s hs

/-- Of the candidates of its score it is the first one. -/
theorem head?_filter (h : FirstBest zero scored b) :
    ((scored.filter fun s ↦ zero < s.score).filter (·.score = b.score)).head? = some b := by
  obtain ⟨before, behind, rfl, hbefore, -⟩ := h.place
  have hnone : (before.filter fun s ↦ zero < s.score).filter (·.score = b.score) = [] := by
    refine List.filter_eq_nil_iff.mpr fun s hs ↦ ?_
    have hless := hbefore s (List.mem_filter.mp hs).1
    rw [decide_eq_true_iff]
    exact hless.ne
  rw [List.filter_append, List.filter_append, hnone, List.nil_append,
    List.filter_cons_of_pos (by simpa using h.positive), List.filter_cons_of_pos (by simp)]
  rfl

/-- One more candidate that does not exceed it changes nothing. -/
theorem concat (h : FirstBest zero scored b) {s : Scored σ} (hs : s.score ≤ b.score) :
    FirstBest zero (scored ++ [s]) b := by
  obtain ⟨before, behind, rfl, hbefore, hbehind⟩ := h.place
  refine ⟨h.positive, before, behind ++ [s], by simp, hbefore, ?_⟩
  intro t ht
  rcases List.mem_append.mp ht with ht | ht
  · exact hbehind t ht
  · rw [List.mem_singleton.mp ht]
    exact hs

end FirstBest

/-- A candidate that exceeds all in front of it is the best one so far. -/
theorem firstBest_concat {s : Scored σ} (hpositive : zero < s.score)
    (h : ∀ t ∈ scored, t.score < s.score) : FirstBest zero (scored ++ [s]) s :=
  ⟨hpositive, scored, [], rfl, h, List.forall_mem_nil _⟩

theorem best_concat (zero : σ) (scored : List (Scored σ)) (s : Scored σ) :
    best zero (scored ++ [s]) = better zero (best zero scored) s := by
  rw [best, List.foldl_append]
  rfl

/-- What going over candidates keeps is the first one of the highest score; it keeps nothing where
no candidate scores at all. -/
theorem firstBest_of_best (zero : σ) (scored : List (Scored σ)) :
    (best zero scored = none → ∀ s ∈ scored, s.score ≤ zero) ∧
      ∀ b, best zero scored = some b → FirstBest zero scored b := by
  -- The last candidate comes last, so the induction takes it off first.
  induction scored using List.reverseRecOn with
  | nil => exact ⟨fun _ ↦ List.forall_mem_nil _, fun b hb ↦ nomatch hb⟩
  | append_singleton scored s ih =>
    obtain ⟨ihnone, ihsome⟩ := ih
    rw [best_concat, better]
    rcases hbest : best zero scored with - | b
    · have hall := ihnone hbest
      by_cases hs : zero < s.score
      · rw [Option.map_none, Option.getD_none, if_pos hs]
        refine ⟨nofun, fun b hb ↦ ?_⟩
        rw [← Option.some.inj hb]
        exact firstBest_concat hs fun t ht ↦ (hall t ht).trans_lt hs
      · rw [Option.map_none, Option.getD_none, if_neg hs]
        refine ⟨fun _ t ht ↦ ?_, nofun⟩
        rcases List.mem_append.mp ht with ht | ht
        · exact hall t ht
        · rw [List.mem_singleton.mp ht]
          exact not_lt.mp hs
    · have hfirst := ihsome b hbest
      by_cases hs : b.score < s.score
      · rw [Option.map_some, Option.getD_some, if_pos hs]
        refine ⟨nofun, fun c hc ↦ ?_⟩
        rw [← Option.some.inj hc]
        exact firstBest_concat (hfirst.positive.trans hs) fun t ht ↦
          (hfirst.score_le ht).trans_lt hs
      · rw [Option.map_some, Option.getD_some, if_neg hs]
        refine ⟨nofun, fun c hc ↦ ?_⟩
        rw [← Option.some.inj hc]
        exact hfirst.concat (not_lt.mp hs)

/-- The first one of the highest score comes first in the ranking. -/
theorem head?_ranking_of_firstBest {b : Scored σ} (h : FirstBest zero scored b) :
    (ranking zero scored).head? = some b := by
  have hmem : b ∈ ranking zero scored := mem_ranking_iff.mpr ⟨h.mem, h.positive⟩
  obtain ⟨first, rest, hranking⟩ := List.exists_cons_of_ne_nil (List.ne_nil_of_mem hmem)
  -- The first candidate has the score of `b`: none exceeds `b`, and none exceeds the first one.
  have hfirst : first ∈ ranking zero scored := by
    rw [hranking]
    exact List.mem_cons_self
  have hle : first.score ≤ b.score := h.score_le (mem_ranking_iff.mp hfirst).1
  have hge : b.score ≤ first.score := by
    have hsorted := pairwise_ranking zero scored
    rw [hranking] at hmem hsorted
    rcases List.mem_cons.mp hmem with rfl | hrest
    · exact le_refl _
    · exact (List.pairwise_cons.mp hsorted).1 b hrest
  -- So both come first among the candidates of that score.
  have hequal : decide (first.score = b.score) = true := decide_eq_true (le_antisymm hle hge)
  have hhead := h.head?_filter
  rw [← filter_ranking, hranking, List.filter_cons, if_pos hequal, List.head?_cons] at hhead
  rw [hranking, List.head?_cons, hhead]

/-- **The best candidate comes first in the ranking.** -/
theorem best_eq_head?_ranking (zero : σ) (scored : List (Scored σ)) :
    best zero scored = (ranking zero scored).head? := by
  obtain ⟨hnone, hsome⟩ := firstBest_of_best zero scored
  rcases hbest : best zero scored with - | b
  · have hempty : ranking zero scored = [] := by
      refine List.eq_nil_iff_forall_not_mem.mpr fun s hs ↦ ?_
      obtain ⟨hmem, hpositive⟩ := mem_ranking_iff.mp hs
      exact (hnone hbest s hmem).not_gt hpositive
    rw [hempty, List.head?_nil]
  · rw [head?_ranking_of_firstBest (hsome b hbest)]

/-! ## Candidates in another order -/

/-- Rankings of the same candidates in different orders differ only among candidates of one
score. -/
theorem filter_ranking_perm {others : List (Scored σ)} (h : others.Perm scored) (x : σ) :
    ((ranking zero others).filter (·.score = x)).Perm
      ((ranking zero scored).filter (·.score = x)) := by
  rw [filter_ranking, filter_ranking]
  exact (h.filter _).filter _

/-- The scores of a ranking do not depend on the order of the candidates. -/
theorem map_score_ranking {others : List (Scored σ)} (h : others.Perm scored) :
    (ranking zero others).map (·.score) = (ranking zero scored).map (·.score) := by
  have hperm : ((ranking zero others).map (·.score)).Perm
      ((ranking zero scored).map (·.score)) :=
    ((ranking_perm zero others).trans ((h.filter _).trans (ranking_perm zero scored).symm)).map _
  have hsorted (l : List (Scored σ)) :
      ((ranking zero l).map (·.score)).Pairwise fun x y ↦ y ≤ x :=
    List.pairwise_map.mpr (pairwise_ranking zero l)
  exact hperm.eq_of_pairwise (fun _ _ _ _ hxy hyx ↦ le_antisymm hyx hxy) (hsorted _) (hsorted _)

end LineMachine.Match
