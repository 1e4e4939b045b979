import LineMachine.TextFsm.Expression.Token

/-!
# TextFSM expressions

`Expression.check` says whether a text is an expression that a TextFSM template may hold, and if
not, why. It reads the text from left to right and keeps the groups that are still open on a
stack, so that one step takes one item. What an item matches is not of interest here, only what a
quantifier needs to know about it, and how wide it is: lookbehind has to have one width.
-/

namespace LineMachine.TextFsm.Expression

open Text

/-! ## Widths -/

/-- Widths stop growing here. -/
def widthLimit : Nat := Nat.pow 2 64

/-- Repetition counts from this one on are refused. -/
def countLimit : Nat := Nat.pow 2 32 - 1

/-- The least and the greatest number of characters that an item can match. -/
structure Width where
  least : Nat
  most : Nat
  deriving DecidableEq, Repr

namespace Width

/-- The width of what matches no character. -/
def none : Width := ⟨0, 0⟩

/-- The width of one character. -/
def one : Width := ⟨1, 1⟩

/-- One behind the other. -/
def add (a b : Width) : Width :=
  ⟨min widthLimit (a.least + b.least), min widthLimit (a.most + b.most)⟩

/-- One or the other. -/
def either (a b : Width) : Width :=
  ⟨min a.least b.least, max a.most b.most⟩

/-- A number of copies. -/
def times (w : Width) (least : Nat) (most : Option Nat) : Width :=
  ⟨min widthLimit (w.least * least), match most with
    | some n => min widthLimit (w.most * n)
    | Option.none => if w.most = 0 then 0 else widthLimit⟩

end Width

/-! ## The state of reading -/

/-- What a quantifier needs to know about the item in front of it. -/
inductive ItemKind where
  | anchor
  | repeated
  | other
  deriving DecidableEq, Repr

/-- An item of a branch. -/
structure Item where
  kind : ItemKind
  width : Width
  deriving DecidableEq, Repr

/-- What an open parenthesis opened. -/
inductive GroupKind where
  | capture (number : Nat)
  | plain
  | lookahead
  /-- Lookbehind, with the number of groups that the outermost lookbehind around it may refer
  to, if there is one. -/
  | lookbehind (outer : Option Nat)
  /-- A choice by whether a group took part. -/
  | conditional
  deriving DecidableEq, Repr

/-- A group that is open, with what was read in front of it. -/
structure Frame where
  start : Nat
  kind : GroupKind
  verbose : Bool
  branches : List Width
  items : List Item
  deriving Repr

/-- Where reading stands. The items of the current branch are kept latest first. -/
structure Progress where
  rest : Rest
  verbose : Bool := false
  frames : List Frame := []
  /-- The widths of the finished branches of the current group. -/
  branches : List Width := []
  items : List Item := []
  groupCount : Nat := 0
  names : List (String × Nat) := []
  /-- The widths of the groups that are closed. -/
  closed : List (Nat × Width) := []
  /-- Inside lookbehind, the number from which on groups belong to it. -/
  lookbehind : Option Nat := none
  /-- The numbers that conditions refer to, each with its first position. -/
  conditions : List (Nat × Nat) := []
  /-- Whether some lookbehind has no single width. -/
  variableLookbehind : Bool := false
  deriving Repr

namespace Progress

/-- Adds an item. -/
def add (p : Progress) (kind : ItemKind) (width : Width) (rest : Rest) : Progress :=
  { p with items := ⟨kind, width⟩ :: p.items, rest := rest }

/-- The width of the current branch. -/
def branchWidth (p : Progress) : Width :=
  p.items.foldr (fun i w ↦ w.add i.width) Width.none

/-- The width of the current group. -/
def groupWidth (p : Progress) : Width :=
  p.branches.foldl Width.either p.branchWidth

/-- Opens a group. -/
def openGroup (p : Progress) (start : Nat) (kind : GroupKind) (verbose : Bool) (rest : Rest) :
    Progress :=
  { p with
    frames := ⟨start, kind, p.verbose, p.branches, p.items⟩ :: p.frames
    verbose := verbose
    branches := []
    items := []
    rest := rest }

/-- The width of a group, if it is closed. -/
def closedWidth? (p : Progress) (number : Nat) : Option Width :=
  p.closed.lookup number

/-- Refuses references that lookbehind does not allow. -/
def checkLookbehind (p : Progress) (number : Nat) (rest : Rest) : Except Fault Unit :=
  match p.lookbehind with
  | none => .ok ()
  | some limit =>
    if (p.closedWidth? number).isNone then rest.fail .openGroup 0
    else if limit ≤ number then rest.fail .sameLookbehind 0
    else .ok ()

/-- Adds a reference to a group. -/
def addReference (p : Progress) (number : Nat) (back : Nat) (rest : Rest) :
    Except Fault Progress :=
  match p.closedWidth? number with
  | none => rest.fail .openGroup back
  | some width => do
    p.checkLookbehind number rest
    pure (p.add .other width rest)

/-! ## Quantifiers -/

/-- Applies a quantifier, which starts at a position, to the last item. -/
def quantify (p : Progress) (start least : Nat) (most : Option Nat) (rest : Rest) :
    Except Fault Progress :=
  match p.items with
  | [] => .error ⟨.nothingToRepeat, some start⟩
  | item :: items =>
    match item.kind with
    | .anchor => .error ⟨.nothingToRepeat, some start⟩
    | .repeated => .error ⟨.multipleRepeat, some start⟩
    | .other =>
      let rest := ((rest.take? '?').orElse fun _ ↦ rest.take? '+').getD rest
      .ok { p with items := ⟨.repeated, item.width.times least most⟩ :: items, rest := rest }

/-- The counts between braces, `none` if the brace is a character like any other. The opening
brace was taken already. -/
def counts? (r : Rest) : Option (List Char × List Char × Rest) :=
  if (r.take? '\x7d').isSome then none
  else
    let (low, afterLow) := r.takeUpTo r.tokens.length isAsciiDigit
    let (high, afterHigh) := match afterLow.take? ',' with
      | some afterComma => afterComma.takeUpTo r.tokens.length isAsciiDigit
      | none => (low, afterLow)
    (afterHigh.take? '\x7d').map fun after ↦ (low, high, after)

/-- Reads what an opening brace starts. -/
def brace (p : Progress) (start : Nat) (rest : Rest) : Except Fault Progress :=
  match counts? rest with
  | none => .ok (p.add .other Width.one rest)
  | some (low, high, after) =>
    let least := decimalValue low
    let most := if high.isEmpty then none else some (decimalValue high)
    if countLimit ≤ least || most.any (countLimit ≤ ·) then .error ⟨.repeatTooLarge, none⟩
    else if most.any (· < least) then .error ⟨.repeatOrder, some rest.position⟩
    else p.quantify start least most after

/-! ## Sets -/

/-- One member of a set: its first token, what it stands for, and what is left. -/
def member (start : Nat) (r : Rest) : Except Fault (Token × Escape × Rest) :=
  match r.tokens with
  | [] => .error ⟨.unterminatedSet, some start⟩
  | t :: ts =>
    if t.escaped then do
      let (found, after) ← escapeInSet t.char (r.goTo ts)
      pure (t, found, after)
    else .ok (t, .literal t.char.toNat, r.goTo ts)

/-- Whether two members make up a range. -/
def isRange : Escape → Escape → Bool
  | .literal low, .literal high => low ≤ high
  | _, _ => false

/-- Reads the members of a set up to its closing bracket. A bracket that comes first is a
member. -/
def members (start : Nat) : Nat → Bool → Rest → Except Fault Rest
  | 0, _, r => r.fail .unfinished 0
  | fuel + 1, first, r => do
    match if first then none else r.take? ']' with
    | some after => pure after
    | none =>
      let (low, lowEscape, after) ← member start r
      match after.take? '-' with
      | none => members start fuel false after
      | some afterDash =>
        match afterDash.take? ']' with
        | some after => pure after
        | none =>
          let (high, highEscape, after) ← member start afterDash
          let back := low.chars.length + 1 + high.chars.length
          if isRange lowEscape highEscape then members start fuel false after
          else after.fail (.badRange (tokenText [low]) (tokenText [high])) back

/-- Reads a set whose opening bracket was taken already. -/
def set (p : Progress) (start : Nat) (r : Rest) : Except Fault Progress := do
  let r := (r.take? '^').getD r
  let after ← members start (r.tokens.length + 1) true r
  pure (p.add .other Width.one after)

/-! ## Groups -/

/-- Opens a capture group. -/
def openCapture (p : Progress) (start : Nat) (rest : Rest) : Progress :=
  let n := p.groupCount + 1
  openGroup { p with groupCount := n } start (.capture n) p.verbose rest

/-- Refuses a group name that is no identifier. The terminator behind it was taken already. -/
def checkName (name : String) (rest : Rest) : Except Fault Unit :=
  if isIdentifier name.toList then .ok () else rest.fail (.badGroupName name) (name.length + 1)

/-- Opens a capture group under a name that starts here. -/
def openNamed (p : Progress) (start : Nat) (r : Rest) : Except Fault Progress := do
  let (name, after) ← r.takeUntil '>' "group name"
  checkName name after
  match p.names.lookup name with
  | some previous =>
    after.fail (.redefinedGroup name (p.groupCount + 1) previous) (name.length + 1)
  | none =>
    pure (openCapture { p with names := (name, p.groupCount + 1) :: p.names } start after)

/-- Reads a reference to a group by the name that starts here. -/
def namedReference (p : Progress) (r : Rest) : Except Fault Progress := do
  let (name, after) ← r.takeUntil ')' "group name"
  checkName name after
  match p.names.lookup name with
  | none => after.fail (.unknownGroup name) (name.length + 1)
  | some number => p.addReference number (name.length + 1) after

/-- Opens lookbehind. -/
def openLookbehind (p : Progress) (start : Nat) (rest : Rest) : Progress :=
  openGroup { p with lookbehind := some (p.lookbehind.getD (p.groupCount + 1)) } start
    (.lookbehind p.lookbehind) p.verbose rest

/-- Opens a choice by a group whose name or number starts here. -/
def openConditional (p : Progress) (start : Nat) (r : Rest) : Except Fault Progress := do
  let (name, after) ← r.takeUntil ')' "group name"
  let back := name.length + 1
  let (number, conditions) ←
    if isIdentifier name.toList then
      match p.names.lookup name with
      | none => after.fail (.unknownGroup name) back
      | some number => pure (number, p.conditions)
    else if name.toList.all isAsciiDigit then
      let number := decimalValue name.toList
      if number == 0 then after.fail .badGroupNumber back
      else if (p.conditions.lookup number).isSome then pure (number, p.conditions)
      else pure (number, p.conditions ++ [(number, after.position - back)])
    else after.fail (.badGroupName name) back
  p.checkLookbehind number after
  pure (openGroup { p with conditions := conditions } start .conditional p.verbose after)

/-- Passes over a comment. -/
def comment (p : Progress) (start : Nat) (r : Rest) : Except Fault Progress :=
  match r.tokens.dropWhile fun t ↦ !t.is ')' with
  | [] => .error ⟨.unterminatedComment, some start⟩
  | _ :: ts => .ok { p with rest := r.goTo ts }

/-! ### Flags -/

/-- The letters of flags. -/
def isFlag (c : Char) : Bool :=
  ['i', 'L', 'm', 's', 'x', 'a', 't', 'u'].contains c

/-- The flags for the kind of text, of which only one may be on. -/
def isKindFlag (c : Char) : Bool :=
  c == 'a' || c == 'u' || c == 'L'

/-- The letter of a flag, `none` if another one should have come. -/
def flagOf (t : Token) : Option Char :=
  if t.passes isFlag then some t.char else none

/-- Refuses a token that is no flag. -/
def notFlag {α : Type} (t : Token) (missing : String) (after : Rest) : Except Fault α :=
  let isLetter (c : Char) := inCategories (Category.major 'L') c.toNat
  after.fail (if t.passes isLetter then .unknownFlag else .missing missing) t.chars.length

/-- Reads flags that are turned on, up to the token that ends them. -/
def flagsOn : Nat → List Char → Char → Rest → Except Fault (List Char × Char × Rest)
  | 0, _, _, r => r.fail .unfinished 0
  | fuel + 1, on, flag, r =>
    if flag == 'L' then r.fail .localeFlag 0
    else if isKindFlag flag && on.any (fun c ↦ isKindFlag c && c != flag) then
      r.fail .mixedFlags 0
    else
      match r.tokens with
      | [] => r.fail (.missing "-, : or )") 0
      | t :: ts =>
        let after := r.goTo ts
        if t.passes fun c ↦ c == ')' || c == '-' || c == ':' then
          .ok (flag :: on, t.char, after)
        else
          match flagOf t with
          | some next => flagsOn fuel (flag :: on) next after
          | none => notFlag t "-, : or )" after

/-- Reads flags that are turned off, up to a colon. -/
def flagsOff : Nat → List Char → Rest → Except Fault (List Char × Rest)
  | 0, _, r => r.fail .unfinished 0
  | fuel + 1, off, r =>
    match r.tokens with
    | [] => r.fail (.missing (if off.isEmpty then "flag" else ":")) 0
    | t :: ts =>
      let after := r.goTo ts
      if t.is ':' && !off.isEmpty then .ok (off, after)
      else
        match flagOf t with
        | some flag =>
          if isKindFlag flag then after.fail .flagNeverOff 0
          else flagsOff fuel (flag :: off) after
        | none => notFlag t (if off.isEmpty then "flag" else ":") after

/-- Opens a group for which flags are turned on and off. -/
def openFlagged (p : Progress) (start : Nat) (on off : List Char) (rest : Rest) :
    Except Fault Progress :=
  if off.contains 't' then rest.fail .flagNotOff 1
  else if on.any off.contains then rest.fail .flagOnAndOff 1
  else
    let verbose := (p.verbose || on.contains 'x') && !off.contains 'x'
    .ok (p.openGroup start .plain verbose rest)

/-- Reads flags from the first one on, which was taken already. -/
def flags (p : Progress) (start : Nat) (first : Char) (r : Rest) : Except Fault Progress := do
  let fuel := r.tokens.length + 1
  let (on, last, after) ← if first == '-' then pure ([], '-', r) else flagsOn fuel [] first r
  if last == ')' then
    if p.frames.isEmpty && p.branches.isEmpty && p.items.isEmpty then
      pure { p with verbose := p.verbose || on.contains 'x', rest := after }
    else .error ⟨.lateFlags, some start⟩
  else if on.contains 't' then after.fail .flagNotForGroup 1
  else if last == '-' then
    let (off, after) ← flagsOff fuel [] after
    p.openFlagged start on off after
  else p.openFlagged start on [] after

/-! ### Parentheses -/

/-- Refuses an extension by the characters behind its question mark. -/
def unknownExtension {α : Type} (first : String) (ts : List Token) (after : Rest) :
    Except Fault α :=
  let text := first ++ tokenText ts
  after.fail (.unknownExtension text) (text.length + 1)

/-- Reads what stands behind `(?P`. -/
def named (p : Progress) (start : Nat) (r : Rest) : Except Fault Progress :=
  match r.tokens with
  | [] => r.fail .unexpectedEnd 0
  | t :: ts =>
    let after := r.goTo ts
    if t.is '<' then p.openNamed start after
    else if t.is '=' then p.namedReference after
    else unknownExtension "P" [t] after

/-- Reads what stands behind `(?<`. -/
def angle (p : Progress) (start : Nat) (r : Rest) : Except Fault Progress :=
  match r.tokens with
  | [] => r.fail .unexpectedEnd 0
  | t :: ts =>
    let after := r.goTo ts
    if t.is '=' || t.is '!' then .ok (p.openLookbehind start after)
    else unknownExtension "<" [t] after

/-- Reads what stands behind `(?`. -/
def extension (p : Progress) (start : Nat) (r : Rest) : Except Fault Progress :=
  match r.tokens with
  | [] => r.fail .unexpectedEnd 0
  | t :: ts =>
    let after := r.goTo ts
    if t.escaped then unknownExtension "" [t] after
    else
      match t.char with
      | 'P' => p.named start after
      | ':' => .ok (p.openGroup start .plain p.verbose after)
      | '>' => .ok (p.openGroup start .plain p.verbose after)
      | '#' => p.comment start after
      | '=' => .ok (p.openGroup start .lookahead p.verbose after)
      | '!' => .ok (p.openGroup start .lookahead p.verbose after)
      | '<' => p.angle start after
      | '(' => p.openConditional start after
      | c => if isFlag c || c == '-' then p.flags start c after
        else unknownExtension "" [t] after

/-- Reads what an opening parenthesis opens. -/
def paren (p : Progress) (start : Nat) (r : Rest) : Except Fault Progress :=
  match r.take? '?' with
  | some after => p.extension start after
  | none => .ok (p.openCapture start r)

/-- The widths of the branches of a choice by a group: without a second one, the choice may match
nothing. -/
def conditionalWidth (p : Progress) : Width :=
  if p.branches.isEmpty then ⟨0, p.branchWidth.most⟩ else p.groupWidth

/-- Closes the innermost group. -/
def closeGroup (p : Progress) (r : Rest) : Except Fault Progress :=
  match p.frames with
  | [] => .error ⟨.unbalanced, some p.rest.position⟩
  | frame :: frames =>
    let width := p.groupWidth
    let outer := { p with
      frames := frames
      verbose := frame.verbose
      branches := frame.branches
      items := frame.items }
    match frame.kind with
    | .capture n => .ok ({ outer with closed := (n, width) :: p.closed }.add .other width r)
    | .plain => .ok (outer.add .other width r)
    | .lookahead => .ok (outer.add .other Width.none r)
    | .lookbehind limit =>
      .ok ({ outer with
        lookbehind := limit
        variableLookbehind := p.variableLookbehind || width.least != width.most }.add .other
          Width.none r)
    | .conditional => .ok (outer.add .other p.conditionalWidth r)

/-- Starts the next branch. -/
def alternative (p : Progress) (r : Rest) : Except Fault Progress :=
  let inConditional := match p.frames with
    | frame :: _ => frame.kind == .conditional
    | [] => false
  if inConditional && !p.branches.isEmpty then .error ⟨.manyBranches, some p.rest.position⟩
  else .ok { p with branches := p.branchWidth :: p.branches, items := [], rest := r }

/-! ## Steps -/

/-- Reads an escape. -/
def escaped (p : Progress) (letter : Char) (r : Rest) : Except Fault Progress := do
  let (found, after) ← escapeOutside letter r
  match found with
  | .literal _ => pure (p.add .other Width.one after)
  | .charClass => pure (p.add .other Width.one after)
  | .anchor => pure (p.add .anchor Width.none after)
  | .group n =>
    let size := (toString n).length + 1
    if n ≤ p.groupCount then p.addReference n size after
    else after.fail (.badReference n) (size - 1)

/-- White space that a verbose expression may be set out with. -/
def isFiller (c : Char) : Bool :=
  c == ' ' || (9 ≤ c.toNat && c.toNat ≤ 13)

/-- Passes over a verbose comment and the line feed that ends it. -/
def skipComment (p : Progress) (r : Rest) : Progress :=
  { p with rest := r.goTo ((r.tokens.dropWhile fun t ↦ !t.is '\n').drop 1) }

/-- Reads the item that starts with a given token. -/
def step (p : Progress) (t : Token) (r : Rest) : Except Fault Progress :=
  if t.escaped then p.escaped t.char r
  else if p.verbose && isFiller t.char then .ok { p with rest := r }
  else if p.verbose && t.char == '#' then .ok (p.skipComment r)
  else
    match t.char with
    | '|' => p.alternative r
    | ')' => p.closeGroup r
    | '(' => p.paren t.position r
    | '[' => p.set t.position r
    | '?' => p.quantify t.position 0 (some 1) r
    | '*' => p.quantify t.position 0 none r
    | '+' => p.quantify t.position 1 none r
    | '\x7b' => p.brace t.position r
    | '^' => .ok (p.add .anchor Width.none r)
    | '$' => .ok (p.add .anchor Width.none r)
    | _ => .ok (p.add .other Width.one r)

/-- What is wrong with an expression once all of it is read. -/
def finish (p : Progress) : Except Fault Unit :=
  match p.frames with
  | frame :: _ => .error ⟨.unterminatedGroup, some frame.start⟩
  | [] =>
    match p.conditions.find? fun c ↦ p.groupCount < c.1 with
    | some (number, position) => .error ⟨.badReference number, some position⟩
    | none => if p.variableLookbehind then .error ⟨.variableLookbehind, none⟩ else .ok ()

/-- Reads item after item. Each takes one token or more, so `fuel` above the number of tokens
suffices. -/
def readItems : Nat → Progress → Except Fault Unit
  | 0, p => p.rest.fail .unfinished 0
  | fuel + 1, p =>
    match p.rest.tokens with
    | [] => p.finish
    | t :: ts => do readItems fuel (← p.step t (p.rest.goTo ts))

end Progress

/-- Whether a text is an expression, and if not, why. -/
def check (s : String) : Except Fault Unit := do
  let cs := s.toList
  let ts ← tokens 0 cs
  Progress.readItems (ts.length + 1) { rest := ⟨ts, cs.length⟩ }

end LineMachine.TextFsm.Expression
