import LineMachine.Engine
import LineMachine.Match.Filter
import LineMachine.Match.Score

/-!
# The best template

Every candidate that passes a filter is run over the text, and its records are scored. Candidates
that are no templates, or that cannot be compiled, are left out. The ranking lists the candidates
that score at all, best first, and candidates of equal score in their own order; the best
candidate is the first one that no other exceeds.

What is said here holds of any kind of score that can be compared.
-/

namespace LineMachine

/-- A candidate with the records it made. -/
structure Scored (σ : Type) where
  template : Value
  score : σ
  records : List Record

/-- The outcome of comparing candidates. -/
structure MatchResult (σ : Type) where
  best : Option (Scored σ)
  ranking : List (Scored σ)

namespace Match

section Ranking

variable {σ : Type} [LT σ] [DecidableLT σ]

/-- The candidates that score more than nothing, best first. -/
def ranking (zero : σ) (scored : List (Scored σ)) : List (Scored σ) :=
  (scored.filter fun s ↦ zero < s.score).mergeSort fun a b ↦ !decide (a.score < b.score)

/-- The better of the best so far and one more candidate. -/
def better (zero : σ) (best : Option (Scored σ)) (s : Scored σ) : Option (Scored σ) :=
  if (best.map (·.score)).getD zero < s.score then some s else best

/-- The first candidate of the highest score. -/
def best (zero : σ) (scored : List (Scored σ)) : Option (Scored σ) :=
  scored.foldl (better zero) none

/-- What scored candidates amount to. -/
def ofScored (zero : σ) (scored : List (Scored σ)) : MatchResult σ where
  best := best zero scored
  ranking := ranking zero scored

end Ranking

/-! ## Candidates -/

/-- The id that a document gives, if it is an object. -/
def documentId (doc : Value) : Value :=
  match doc with
  | .object fields => Value.field fields "id"
  | _ => .null

/-- Reads the candidates, leaving out those that are no templates. -/
def readCandidates (cache : Cache) : List Value → Answer (List Template)
  | [] => .pure cache []
  | doc :: rest =>
    match Template.read doc with
    | .ok t => (readCandidates cache rest).andThen fun cache ts ↦ .pure cache (t :: ts)
    | .error fault =>
      if fault.isTemplateFault then
        (readCandidates cache rest).after (.templateSkipped (documentId doc) fault.message)
      else .fail cache fault

/-- Whether a fault of one candidate leaves the others to be tried. -/
def isSkipped (fault : Fault) : Bool :=
  fault.isTemplateFault || fault == .noStates

section Trying

variable {σ : Type}

/-- How records made under a command are scored. -/
abbrev Scorer (σ : Type) := List Record → Value → Except Fault σ

/-- The outcome of a run as a scored candidate. -/
def scoredOf (score : Scorer σ) (t : Template) (r : ParseResult) : Except Fault (Scored σ) := do
  let s ← score r.records (t.command.orElse t.id)
  pure ⟨t.id, s, r.records⟩

/-- Runs the candidates over a text, one after the other, and scores them. -/
def tryAll (score : Scorer σ) (text : Value) (cache : Cache) :
    List Template → Answer (List (Scored σ))
  | [] => .pure cache []
  | t :: rest =>
    let run := Engine.parse cache text t {}
    match run.result with
    | .error fault =>
      if isSkipped fault then
        let others := (tryAll score text run.cache rest).after
          (.templateSkipped t.id fault.message)
        { others with events := run.events ++ others.events }
      else ⟨.error fault, run.cache, run.events⟩
    | .ok r =>
      ({ run with result := scoredOf score t r } : Answer (Scored σ)).andThen fun cache s ↦
        (tryAll score text cache rest).andThen fun cache others ↦ .pure cache (s :: others)

/-- Compares templates that pass a filter. -/
def compareTemplates [LT σ] [DecidableLT σ] (score : Scorer σ) (zero : σ) (cache : Cache)
    (text : Value) (templates : List Template) (filter : Value) : Answer (MatchResult σ) :=
  (Answer.ofExcept cache (filterTemplates templates filter)).andThen fun cache candidates ↦
    ((tryAll score text cache candidates).after (.matchStarted candidates.length filter)).andThen
      fun cache scored ↦ .pure cache (ofScored zero scored)

/-- Compares documents of templates. -/
def compareDocuments [LT σ] [DecidableLT σ] (score : Scorer σ) (zero : σ) (cache : Cache)
    (text : Value) (docs : Value) (filter : Value) : Answer (MatchResult σ) :=
  (Answer.ofExcept cache docs.elements).andThen fun cache docs ↦
    (readCandidates cache docs).andThen fun cache templates ↦
      compareTemplates score zero cache text templates filter

end Trying

/-- Compares templates by their scores as machine numbers. -/
def findBest (cache : Cache) (text : Value) (templates : List Template) (filter : Value) :
    Answer (MatchResult Float) :=
  compareTemplates Record.score 0 cache text templates filter

/-- Compares documents of templates by their scores as machine numbers. -/
def findBestDocument (cache : Cache) (text docs filter : Value) : Answer (MatchResult Float) :=
  compareDocuments Record.score 0 cache text docs filter

end Match

namespace MatchResult

/-- The front part of a list: so many items, or, of a negative number, all but so many. Zero and
no number at all stand for the whole list. -/
def front {α : Type} (top : Option Int) (items : List α) : List α :=
  match top with
  | none => items
  | some n =>
    if n = 0 then items
    else if 0 < n then items.take n.toNat
    else items.take (items.length - n.natAbs)

/-- The id of the best template; null if there is none. -/
def bestTemplate {σ : Type} (r : MatchResult σ) : Value :=
  (r.best.map (·.template)).getD .null

/-- The score of the best template. -/
def bestScore (r : MatchResult Float) : Float :=
  (r.best.map (·.score)).getD 0

/-- The records of the best template. -/
def bestRecords {σ : Type} (r : MatchResult σ) : List Record :=
  (r.best.map (·.records)).getD []

/-- A score as a value. -/
def scoreValue (score : Float) : Value :=
  .float (Double.ofFloat score)

/-- A result as a document that lists the front part of the ranking. -/
def write (r : MatchResult Float) (top : Option Int) : Value :=
  Value.ofFields [
    ("bestTemplate", r.bestTemplate),
    ("score", scoreValue r.bestScore),
    ("records", .list (r.bestRecords.map .object)),
    ("topMatches", .list ((front top r.ranking).map fun s ↦ Value.ofFields [
      ("template", s.template),
      ("score", scoreValue s.score),
      ("records", .int s.records.length)]))]

end MatchResult

end LineMachine
