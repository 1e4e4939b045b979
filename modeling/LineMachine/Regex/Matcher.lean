import LineMachine.Regex.Reader

/-!
# Matching

Backtracking search of a pattern in a line. `Node.run` matches a tree at a position and hands
every way to do so, in order of preference, to a continuation; the first way that the
continuation accepts is the answer. Lookbehind matches its tree backwards, from the position to
the left.

The iterations of a repetition may match the empty text. Up to the least count that changes
nothing; beyond it, an iteration that stays in place is the last one. A group keeps its last
capture over the iterations of a repetition around it.
-/

namespace LineMachine.Regex

/-! ## Positions -/

/-- The part of a line between two positions. -/
structure Span where
  start : Nat
  stop : Nat
  deriving DecidableEq, Repr

/-- The captures of the groups, by group number. -/
abbrev Captures := Array (Option Span)

/-- A position in a line, with the captures made on the way to it. -/
structure Spot where
  pos : Nat
  captures : Captures
  deriving DecidableEq, Repr

/-- What is tried behind a part of a pattern. -/
abbrev Continuation := Spot → Option Spot

/-- The character that a step from a position goes over, to the right or to the left. -/
def charAt? (chars : Array Char) (forward : Bool) (pos : Nat) : Option Char :=
  if forward then chars[pos]? else if pos == 0 then none else chars[pos - 1]?

/-- The position `n` steps on. -/
def advance (forward : Bool) (pos n : Nat) : Nat :=
  if forward then pos + n else pos - n

/-- Whether a word character stands at a position. -/
def wordAt (chars : Array Char) (pos : Nat) : Bool :=
  (chars[pos]?).any CharClass.word.holds

/-- Whether a word character stands in front of a position. -/
def wordBefore (chars : Array Char) (pos : Nat) : Bool :=
  pos != 0 && wordAt chars (pos - 1)

/-- Whether a condition holds at a position. -/
def Anchor.holds (chars : Array Char) (pos : Nat) : Anchor → Bool
  | .textStart => pos == 0
  | .textEnd => pos == chars.size
  | .lineStart => pos == 0 || chars[pos - 1]? == some '\n'
  | .lineEnd => pos == chars.size || chars[pos]? == some '\n'
  | .finalEnd => pos == chars.size || (pos + 1 == chars.size && chars[pos]? == some '\n')
  | .boundary => wordBefore chars pos != wordAt chars pos
  | .noBoundary => wordBefore chars pos == wordAt chars pos
  | .wordStart => !wordBefore chars pos && wordAt chars pos
  | .wordEnd => wordBefore chars pos && !wordAt chars pos

/-! ## Captures -/

/-- The capture of a group. -/
def Spot.capture? (s : Spot) (n : Nat) : Option Span :=
  (s.captures[n]?).join

/-- Captures from one position to another, whichever is the left one. -/
def Spot.capture (s : Spot) (n start : Nat) : Spot :=
  { s with captures := s.captures.setIfInBounds n (some ⟨min start s.pos, max start s.pos⟩) }

/-- Whether the characters from `a` on and from `b` on agree for a given length. -/
def sameText (chars : Array Char) (ignoreCase : Bool) (a b length : Nat) : Bool :=
  (List.range length).all fun i ↦
    match chars[a + i]?, chars[b + i]? with
    | some c, some d => c == d || (ignoreCase && Text.sameIgnoringCase c d)
    | _, _ => false

/-- Goes over a copy of what a group captured. -/
def copyOf (chars : Array Char) (forward ignoreCase : Bool) (span : Span) (s : Spot) :
    Option Spot :=
  let length := span.stop - span.start
  if forward then
    if sameText chars ignoreCase span.start s.pos length then some { s with pos := s.pos + length }
    else none
  else if length ≤ s.pos && sameText chars ignoreCase span.start (s.pos - length) length then
    some { s with pos := s.pos - length }
  else none

/-! ## Repetition -/

/-- The first answer among `f n`, `f (n - 1)`, …, `f 0`. -/
def firstDown {α : Type} (f : Nat → Option α) : Nat → Option α
  | 0 => f 0
  | n + 1 => match f (n + 1) with
    | some a => some a
    | none => firstDown f n

/-- The first answer among `f i`, `f (i + 1)`, … for `count` values. -/
def firstUp {α : Type} (f : Nat → Option α) : Nat → Nat → Option α
  | 0, _ => none
  | count + 1, i => match f i with
    | some a => some a
    | none => firstUp f count (i + 1)

/-- How many characters in a row, at most `limit`, pass a test. -/
def reach (chars : Array Char) (test : CharTest) (forward : Bool) : Nat → Nat → Nat
  | 0, _ => 0
  | limit + 1, pos =>
    match charAt? chars forward pos with
    | some c => if test.accepts c then reach chars test forward limit (advance forward pos 1) + 1
      else 0
    | none => 0

/-- Repeats a test on one character. -/
def repeatChar (chars : Array Char) (test : CharTest) (least : Nat) (most : Option Nat)
    (greedy forward : Bool) (k : Continuation) (s : Spot) : Option Spot :=
  let n := reach chars test forward (min chars.size (most.getD chars.size)) s.pos
  let goOn (extra : Nat) : Option Spot := k { s with pos := advance forward s.pos (least + extra) }
  if n < least then none
  else if greedy then firstDown goOn (n - least) else firstUp goOn (n - least + 1) 0

/-- Repeats any part of a pattern: `least` more iterations are owed and at most `most` more are
allowed. `last` is where the last iteration that was not owed began; no other one begins there. At
most `fuel` iterations are tried. -/
def iterate (body : Continuation → Continuation) (greedy : Bool) (k : Continuation) :
    Nat → Nat → Option Nat → Option Nat → Spot → Option Spot
  | 0, least, _, _, s => if least == 0 then k s else none
  | fuel + 1, least + 1, most, last, s =>
    body (iterate body greedy k fuel least (most.map (· - 1)) last) s
  | fuel + 1, 0, most, last, s =>
    let tryBody : Option Spot :=
      if most == some 0 || last == some s.pos then none
      else body (iterate body greedy k fuel 0 (most.map (· - 1)) (some s.pos)) s
    if greedy then
      match tryBody with
      | some found => some found
      | none => k s
    else
      match k s with
      | some found => some found
      | none => tryBody

/-- How many iterations in a line can move or capture what the one before did not. A repetition
that owes more owes only idle ones on top. -/
def distinctIterations (chars : Array Char) (s : Spot) : Nat :=
  (chars.size + 1) * (s.captures.size + 1)

/-! ## Trees -/

/-- The number of the group that a reference means. -/
def GroupRef.resolve? (names : List (String × Nat)) : GroupRef → Option Nat
  | .number n => some n
  | .name s => names.lookup s

/-- Matches a tree at a position, to the right or to the left. -/
def Node.run (chars : Array Char) (names : List (String × Nat)) :
    Node → Bool → Continuation → Continuation
  | .empty, _, k, s => k s
  | .char test, forward, k, s =>
    match charAt? chars forward s.pos with
    | some c => if test.accepts c then k { s with pos := advance forward s.pos 1 } else none
    | none => none
  | .anchor a, _, k, s => if a.holds chars s.pos then k s else none
  | .seq a b, forward, k, s =>
    if forward then run chars names a forward (run chars names b forward k) s
    else run chars names b forward (run chars names a forward k) s
  | .alt a b, forward, k, s =>
    match run chars names a forward k s with
    | some found => some found
    | none => run chars names b forward k s
  | .group n body, forward, k, s =>
    run chars names body forward (fun after ↦ k (after.capture n s.pos)) s
  | .backref target ignoreCase, forward, k, s =>
    match (target.resolve? names).bind s.capture? with
    | some span => (copyOf chars forward ignoreCase span s).bind k
    | none => none
  | .given target yes no, forward, k, s =>
    if ((target.resolve? names).bind s.capture?).isSome then run chars names yes forward k s
    else run chars names no forward k s
  | .look ahead positive body, _, k, s =>
    match run chars names body ahead some s with
    | some found => if positive then k { found with pos := s.pos } else none
    | none => if positive then none else k s
  | .atomic body, forward, k, s => (run chars names body forward some s).bind k
  | .loop (.char test) least most greedy, forward, k, s =>
    repeatChar chars test least most greedy forward k s
  | .loop body least most greedy, forward, k, s =>
    let spare := least - distinctIterations chars s
    iterate (fun k' s' ↦ run chars names body forward k' s') greedy k
      (least - spare + chars.size + 2) (least - spare) (most.map (· - spare)) none s

/-! ## Search -/

namespace Pattern

/-- Matches a pattern at one position. -/
def matchAt (p : Pattern) (chars : Array Char) (pos : Nat) : Option Spot :=
  p.node.run chars p.names true some ⟨pos, Array.replicate (p.groupCount + 1) none⟩

/-- The leftmost match of a pattern in a line. -/
def search (p : Pattern) (chars : Array Char) : Option Spot :=
  firstUp (p.matchAt chars) (chars.size + 1) 0

/-- The text of a capture. -/
def spanText (chars : Array Char) (span : Span) : String :=
  String.ofList (chars.extract span.start span.stop).toList

/-- The named groups of a match, by group number: each name with what its group captured. -/
def namedCaptures (p : Pattern) (chars : Array Char) (s : Spot) : List (String × Option String) :=
  p.names.map fun (name, n) ↦ (name, (s.capture? n).map (spanText chars))

/-- Searches a line and gives the named groups of the leftmost match. -/
def captures? (p : Pattern) (line : String) : Option (List (String × Option String)) :=
  let chars := line.toList.toArray
  (p.search chars).map (p.namedCaptures chars)

end Pattern

end LineMachine.Regex
