import LineMachine.Regex.Scan

/-!
# Reading line patterns

`Pattern.read?` turns the text of a pattern into a tree. Reading goes from left to right and keeps
the groups that are still open on a stack, so that one step takes one token. Flags in the middle
of a pattern, as in `(?i)` or `(?-i)`, hold from there to the end of the group around them, over
all branches that follow; flags with a group of their own, as in `(?i:…)`, hold for that group.

Capture groups are numbered by their opening parenthesis; groups of one name share one number.

## What is covered

Literals, sets with ranges, classes and `[:…:]`, the escapes of `LineMachine.Regex.Scan`, anchors,
quantifiers that are greedy, lazy or possessive, groups that capture (with and without a name), that
do not, and that are atomic, looks ahead and behind, comments, references to groups, conditions on
groups, `(*F)`, and the flags `a b e f i m s u x V0 V1`. Flags that exclude each other are a fault
of the whole pattern. The flags `b`, `e`, `f` and the versions turn on nothing here, so neither the
set operations of the second version nor full case folding is there, and in a group with flags of
its own `u` does not take the place of `a`.

Refused as unknown are the flags `L p r w`, recursion such as `(?R)`, `(?1)` or `(?&name)`, the
verbs `(*PRUNE)` and `(*SKIP)`, conditions on a look, and a branch reset `(?|…)`, whose branches
would share the numbers of their groups, so that names could come out of order. Scripts and blocks
are unknown behind `\p`, and `\L<…>` finds no list. Properties with a value, such as
`\p{Script=Greek}`, and the counts of approximate matching, such as `{e<=1}`, are read as the
characters they are.
-/

namespace LineMachine.Regex

/-! ## The state of reading -/

/-- What an open parenthesis opened. -/
inductive GroupKind where
  | capture (number : Nat)
  | plain
  | atomic
  | look (ahead positive : Bool)
  /-- A choice by whether a group has captured something, with how much was left in front of the
  name of that group, and how many references had been read. -/
  | condition (target : GroupRef) (left references : Nat)
  deriving DecidableEq, Repr

/-- The node of a finished group, from its branches. -/
def GroupKind.close : GroupKind → List Node → Node
  | .capture n, branches => .group n (Node.choice branches)
  | .plain, branches => Node.choice branches
  | .atomic, branches => .atomic (Node.choice branches)
  | .look ahead positive, branches => .look ahead positive (Node.choice branches)
  | .condition target _ _, [yes] => .given target yes .empty
  | .condition target _ _, yes :: no :: _ => .given target yes no
  | .condition _ _ _, [] => .empty

/-- A group that is open: what it is, the flags to go back to behind it, and the branches and
items that were read in front of it. -/
structure Frame where
  kind : GroupKind
  flags : Flags
  branches : List Node
  items : List (Option Node)
  deriving Repr

/-- Where reading stands. The items of the current branch are kept latest first; `none` marks a
place that no quantifier reaches over. -/
structure Progress where
  rest : List Char
  flags : Flags
  frames : List Frame := []
  branches : List Node := []
  items : List (Option Node) := [none]
  groupCount : Nat := 0
  names : List (String × Nat) := []
  references : List (GroupRef × Nat) := []
  /-- The versions that flags have stated. They are for the whole pattern, wherever they stand. -/
  versions : List (List Char) := []
  deriving Repr

/-- A finished pattern. -/
structure Pattern where
  node : Node
  groupCount : Nat
  names : List (String × Nat)
  deriving DecidableEq, Repr

namespace Progress

/-- Adds an item to the current branch. -/
def add (p : Progress) (node : Node) (rest : List Char) : Progress :=
  { p with items := some node :: p.items, rest := rest }

/-- The test for one literal character. -/
def literal (p : Progress) (n : Nat) : Node :=
  .char { members := [.one n], ignoreCase := p.flags.ignoreCase }

/-- The items of the current branch as one node. -/
def branch (p : Progress) : Node :=
  Node.sequence (p.items.reverse.filterMap id)

/-- All branches of the current group. -/
def allBranches (p : Progress) : List Node :=
  (p.branch :: p.branches).reverse

/-- Opens a group. -/
def openGroup (p : Progress) (kind : GroupKind) (rest : List Char) : Progress :=
  { p with
    frames := ⟨kind, p.flags, p.branches, p.items⟩ :: p.frames
    branches := []
    items := [none]
    rest := rest }

/-- Opens a capture group without a name. -/
def openCapture (p : Progress) (rest : List Char) : Progress :=
  openGroup { p with groupCount := p.groupCount + 1 } (.capture (p.groupCount + 1)) rest

/-- Opens a capture group under a name; a name that was used before keeps its number. -/
def openNamed (p : Progress) (name : String) (rest : List Char) : Progress :=
  match p.names.lookup name with
  | some n => openGroup p (.capture n) rest
  | none =>
    let n := p.groupCount + 1
    openGroup { p with groupCount := n, names := p.names ++ [(name, n)] } (.capture n) rest

/-- Whether the group that a reference means is still open. -/
def isOpen (p : Progress) (target : GroupRef) : Bool :=
  let number := match target with
    | .number n => some n
    | .name s => p.names.lookup s
  p.frames.any fun frame ↦ match frame.kind with
    | .capture n => some n == number
    | _ => false

/-- Adds a back reference; `place` is what was left where its fault would be reported. -/
def addReference (p : Progress) (target : GroupRef) (place rest : List Char) : Progress :=
  { p.add (.backref target p.flags.ignoreCase) rest with
    references := p.references ++ [(target, place.length)] }

/-! ## Steps -/

/-- Applies a quantifier to the last item. `start` is what was left in front of the quantifier
and `rest` what is left behind it; a mark for lazy or possessive repetition may follow. -/
def quantify (p : Progress) (counts : Counts) (start rest : List Char) : Except Stop Progress :=
  match p.items with
  | some node :: items =>
    let verbose := p.flags.verbose
    let repeated (greedy : Bool) : Node := .loop node counts.1 counts.2 greedy
    let (result, rest) := match atToken verbose rest with
      | '?' :: rest => (repeated false, rest)
      | '+' :: rest => (.atomic (repeated true), rest)
      | _ => (repeated true, rest)
    let result := if counts == (1, some 1) then node else result
    .ok { p with items := none :: some result :: items, rest := rest }
  | none :: _ :: _ => stopAt .multipleRepeat start
  | _ => stopAt .nothingToRepeat start

/-- Reads a comment up to its closing parenthesis; a backslash shields the next character. -/
def comment (p : Progress) : List Char → Except Stop Progress
  | [] => stopAt (.missing ')') []
  | ')' :: rest => .ok { p with rest := rest }
  | c :: rest =>
    if c == Text.backslash then
      match rest with
      | [] => stopAt (.missing ')') []
      | _ :: rest => comment p rest
    else comment p rest

/-- Reads a group name and opens the group. -/
def named (p : Progress) (s : List Char) : Except Stop Progress := do
  let (name, rest) ← groupName p.flags.verbose s
  let rest ← expect p.flags.verbose '>' rest
  pure (p.openNamed name rest)

/-- Reads flags to turn on and off, and the group that they hold for; a parenthesis instead of
a group lets them hold from here on. -/
def inlineFlags (p : Progress) (s : List Char) : Except Stop Progress := do
  let verbose := p.flags.verbose
  let (on, rest) := flagSet verbose s
  let (off, rest) ← match take? verbose '-' rest with
    | some afterMinus =>
      let (off, rest) := flagSet verbose afterMinus
      if off.names.isEmpty then stopAt .noFlagsOff rest else pure (off, rest)
    | none => pure ({}, rest)
  let flags := (p.flags.or on.flags).minus off.flags
  if off.hasGlobal then stopAt .globalFlagOff rest
  else if on.meets off then stopAt .flagOnAndOff rest
  else
    let p := { p with versions := p.versions ++ on.versions }
    match take? verbose ':' rest with
    | some rest => pure { p.openGroup .plain rest with flags := flags }
    | none =>
      match take? verbose ')' rest with
      | some rest => pure { p with flags := flags, rest := rest }
      | none => stopAt .unknownExtension rest

/-- Reads the group that a condition is about, and opens the condition. -/
def condition (p : Progress) (s : List Char) : Except Stop Progress := do
  let verbose := p.flags.verbose
  match atToken verbose s with
  | '?' :: _ => stopAt .noConditionGroup s
  | _ =>
    let (target, rest) ← groupRef verbose s
    let rest ← expect verbose ')' rest
    pure (p.openGroup (.condition target s.length p.references.length) rest)

/-- Reads a word behind a parenthesis and an asterisk; the only one makes a match fail. -/
def verb (p : Progress) (word rest : List Char) (start : List Char) : Except Stop Progress := do
  if word != ['F'] && word != ['F', 'A', 'I', 'L'] then stopAt .unknownVerb start
  else
    let rest ← expect p.flags.verbose ')' rest
    pure (p.add (.look true false .empty) rest)

/-- Reads what an opening parenthesis, which was taken already, opens. -/
def paren (p : Progress) (s : List Char) : Except Stop Progress :=
  let verbose := p.flags.verbose
  match s with
  | '?' :: '<' :: rest =>
    match atToken verbose rest with
    | '=' :: rest => .ok (p.openGroup (.look false true) rest)
    | '!' :: rest => .ok (p.openGroup (.look false false) rest)
    | _ => p.named rest
  | '?' :: '=' :: rest => .ok (p.openGroup (.look true true) rest)
  | '?' :: '!' :: rest => .ok (p.openGroup (.look true false) rest)
  | '?' :: '>' :: rest => .ok (p.openGroup .atomic rest)
  | '?' :: '#' :: rest => p.comment rest
  | '?' :: '(' :: rest => p.condition rest
  | '?' :: 'P' :: rest =>
    match atToken verbose rest with
    | '<' :: rest => p.named rest
    | '=' :: afterEquals => do
      let (target, afterName) ← groupRef verbose afterEquals
      let after ← expect verbose ')' afterName
      if p.isOpen target then stopAt .openGroup rest else pure (p.addReference target rest after)
    | _ => stopAt .unknownExtension rest
  | '?' :: rest => p.inlineFlags rest
  | '*' :: start =>
    let (word, rest) := takeSome verbose (fun c ↦ c != '>' && c != ')') start
    if word.head?.any Text.isAlphabetic then p.verb word rest start else .ok (p.openCapture s)
  | _ => .ok (p.openCapture s)

/-- Reads an escape outside of a set. A letter with angle brackets around the name of a group that
is still open is just that letter. -/
def escaped (p : Progress) (s : List Char) : Except Stop Progress := do
  let (found, rest) ← escape false p.flags s
  match found with
  | .char n => pure (p.add (p.literal n) rest)
  | .cls negated cls =>
    let cls := if p.flags.ignoreCase then cls.ignoringCase else cls
    pure (p.add (.char { members := [.cls negated cls] }) rest)
  | .node node => pure (p.add node rest)
  | .reference target =>
    if p.isOpen target then stopAt .openGroup rest else pure (p.addReference target rest rest)
  | .bracketed target place =>
    if p.isOpen target then pure (p.add (p.literal referenceLetter.toNat) (s.drop 1))
    else pure (p.addReference target place rest)

/-- The references that have been read once a group is closed. A condition refers to its group,
unless nothing depends on it; one on a group called `DEFINE` need not refer to any. -/
def referencesBehind (p : Progress) : GroupKind → List (GroupRef × Nat)
  | .condition target left count =>
    if p.allBranches.all (· == .empty) || target == .name "DEFINE" then p.references
    else p.references.take count ++ (target, left) :: p.references.drop count
  | _ => p.references

/-- Closes the innermost group. -/
def closeGroup (p : Progress) (rest : List Char) : Except Stop Progress :=
  match p.frames with
  | [] => stopAt .unbalanced p.rest
  | frame :: frames =>
    .ok { p with
      frames := frames
      flags := frame.flags
      branches := frame.branches
      items := some (frame.kind.close p.allBranches) :: frame.items
      references := p.referencesBehind frame.kind
      rest := rest }

/-- Ends a branch. A condition has no more than two. -/
def nextBranch (p : Progress) (rest : List Char) : Except Stop Progress :=
  match p.frames, p.branches with
  | ⟨.condition _ _ _, _, _, _⟩ :: _, _ :: _ => stopAt (.missing ')') p.rest
  | _, _ => .ok { p with branches := p.branch :: p.branches, items := [none], rest := rest }

/-- Reads the token that starts with `c`. -/
def token (p : Progress) (c : Char) (rest : List Char) : Except Stop Progress :=
  let flags := p.flags
  match c with
  | ')' => p.closeGroup rest
  | '|' => p.nextBranch rest
  | '(' => p.paren rest
  | '.' =>
    .ok (p.add (.char (if flags.dotAll then CharTest.anything else CharTest.notNewline)) rest)
  | '[' => do
    let (test, rest) ← charSet flags rest
    pure (p.add (.char test) rest)
  | '^' => .ok (p.add (.anchor (if flags.multiline then .lineStart else .textStart)) rest)
  | '$' => .ok (p.add (.anchor (if flags.multiline then .lineEnd else .finalEnd)) rest)
  | '?' => p.quantify (0, some 1) p.rest rest
  | '*' => p.quantify (0, none) p.rest rest
  | '+' => p.quantify (1, none) p.rest rest
  | '{' => do
    match ← bracedCounts? flags.verbose rest with
    | some (counts, rest) => p.quantify counts p.rest rest
    | none => pure (p.add (p.literal c.toNat) rest)
  | c =>
    if c == Text.backslash then p.escaped rest else .ok (p.add (p.literal c.toNat) rest)

/-- The fault of the first reference to a group that does not exist. -/
def danglingReference? (p : Progress) : Option Stop :=
  p.references.findSome? fun (target, left) ↦
    match target with
    | .number n =>
      if 1 ≤ n && n ≤ p.groupCount then none else some ⟨.badReference, left⟩
    | .name s => if (p.names.lookup s).isSome then none else some ⟨.unknownGroup, left⟩

/-- What is wrong with the flags of the whole pattern. Flags that hold in a group alone are left
behind with it, but for the versions. -/
def flagConflict? (p : Progress) : Option Cause :=
  if versionFlags.all p.versions.contains then some .mixedVersions
  else if p.flags.ascii && p.flags.unicode then some .mixedEncodings
  else none

/-- The pattern, once all of it is read. -/
def finish (p : Progress) : Except Stop Pattern :=
  if !p.frames.isEmpty then stopAt (.missing ')') p.rest
  else
    match p.flagConflict?, p.danglingReference? with
    | some cause, _ => stopAt cause p.rest
    | none, some stop => .error stop
    | none, none => .ok ⟨Node.choice p.allBranches, p.groupCount, p.names⟩

/-- Reads token after token. Each takes one character or more, so `fuel` above the length of what
is left suffices. -/
def readTokens : Nat → Progress → Except Stop Pattern
  | 0, p => stopAt .unfinished p.rest
  | fuel + 1, p =>
    match atToken p.flags.verbose p.rest with
    | [] => p.finish
    | c :: rest => do readTokens fuel (← p.token c rest)

end Progress

namespace Pattern

/-- Reads a pattern; the flags hold from its start. -/
def read? (s : String) (flags : Flags) : Except Fault Pattern :=
  let cs := s.toList
  (Progress.readTokens (cs.length + 1) { rest := cs, flags := flags }).mapError fun stop ↦
    ⟨stop.cause, cs.length - stop.left⟩

end Pattern

end LineMachine.Regex
