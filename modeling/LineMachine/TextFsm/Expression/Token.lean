import LineMachine.Text.CharacterName
import LineMachine.Text.Classes
import LineMachine.Text.CodePoints
import LineMachine.TextFsm.Expression.Fault

/-!
# Tokens of TextFSM expressions

An expression is cut into tokens of one character, or of two if the first one is a backslash.
`Escape` is what a token with a backslash stands for; the longer escapes take further tokens.
-/

namespace LineMachine.TextFsm.Expression

open Text

/-! ## Tokens -/

/-- A token with its position in the expression. -/
structure Token where
  position : Nat
  /-- Whether a backslash stands in front of the character. -/
  escaped : Bool
  char : Char
  deriving DecidableEq, Repr

namespace Token

/-- Whether a token is a given character without a backslash. -/
def is (t : Token) (c : Char) : Bool :=
  !t.escaped && t.char == c

/-- The characters of a token. -/
def chars (t : Token) : List Char :=
  if t.escaped then [backslash, t.char] else [t.char]

/-- Whether a token is one character that passes a test. -/
def passes (t : Token) (test : Char → Bool) : Bool :=
  !t.escaped && test t.char

end Token

/-- The tokens of an expression; a backslash at its end is refused. -/
def tokens (position : Nat) : List Char → Except Fault (List Token)
  | [] => .ok []
  | [c] =>
    if c == backslash then .error ⟨.escapeAtEnd, some position⟩
    else .ok [⟨position, false, c⟩]
  | c :: d :: rest =>
    if c == backslash then do pure (⟨position, true, d⟩ :: (← tokens (position + 2) rest))
    else do pure (⟨position, false, c⟩ :: (← tokens (position + 1) (d :: rest)))

/-- The characters of several tokens. -/
def tokenText (ts : List Token) : String :=
  String.ofList (ts.flatMap Token.chars)

/-- Where reading stands: the tokens that are left, and the length of the whole expression. -/
structure Rest where
  tokens : List Token
  length : Nat
  deriving Repr

namespace Rest

/-- The position of the next token, or the end. -/
def position (r : Rest) : Nat :=
  match r.tokens with
  | t :: _ => t.position
  | [] => r.length

/-- Goes on to other tokens. -/
def goTo (r : Rest) (ts : List Token) : Rest := { r with tokens := ts }

/-- Fails with a message about a position that lies `back` characters in front of the next
token. -/
def fail {α : Type} (r : Rest) (cause : Cause) (back : Nat) : Except Fault α :=
  .error ⟨cause, some (r.position - back)⟩

/-- Takes up to `count` tokens that are characters passing a test. -/
def takeUpTo (r : Rest) (count : Nat) (test : Char → Bool) : List Char × Rest :=
  let taken := (r.tokens.take count).takeWhile (·.passes test)
  (taken.map (·.char), r.goTo (r.tokens.drop taken.length))

/-- Takes a given character, if it comes next. -/
def take? (r : Rest) (c : Char) : Option Rest :=
  match r.tokens with
  | t :: ts => if t.is c then some (r.goTo ts) else none
  | [] => none

/-- Takes the text up to a terminator, which is taken too. -/
def takeUntil (r : Rest) (terminator : Char) (name : String) : Except Fault (String × Rest) :=
  let taken := r.tokens.takeWhile fun t ↦ !t.is terminator
  let text := tokenText taken
  match r.tokens.drop taken.length with
  | [] =>
    let after := r.goTo []
    if taken.isEmpty then after.fail (.missing name) 0
    else after.fail (.missing (String.ofList [terminator] ++ ", unterminated name")) text.length
  | _ :: ts =>
    let after := r.goTo ts
    if taken.isEmpty then after.fail (.missing name) 1 else .ok (text, after)

end Rest

/-! ## Escapes -/

/-- What an escape stands for. -/
inductive Escape where
  /-- One character, by its code number. -/
  | literal (n : Nat)
  /-- A class of characters. -/
  | charClass
  /-- A condition on a position. -/
  | anchor
  /-- What a group captured. -/
  | group (n : Nat)
  deriving DecidableEq, Repr

/-- A hexadecimal digit. -/
def isHexDigit (c : Char) : Bool :=
  (Run.hexDigit? c).isSome

/-- An octal digit. -/
def isOctalDigit (c : Char) : Bool :=
  '0' ≤ c && c ≤ '7'

/-- The number that octal digits denote. -/
def octalValue (digits : List Char) : Nat :=
  digits.foldl (fun n c ↦ n * 8 + (c.toNat - 48)) 0

/-- The number that decimal digits denote. -/
def decimalValue (digits : List Char) : Nat :=
  digits.foldl (fun n c ↦ n * 10 + (c.toNat - 48)) 0

/-- The letters that name control characters, with their code numbers. -/
def controlOf? (c : Char) : Option Nat :=
  match c with
  | 'a' => some 7
  | 'b' => some 8
  | 'f' => some 12
  | 'n' => some 10
  | 'r' => some 13
  | 't' => some 9
  | 'v' => some 11
  | _ => none

/-- The letters that name classes. -/
def isClassLetter (c : Char) : Bool :=
  ['d', 'D', 's', 'S', 'w', 'W'].contains c

/-- The letters that name conditions on a position. -/
def isAnchorLetter (c : Char) : Bool :=
  ['A', 'Z', 'b', 'B'].contains c

/-- The text of an escape: its letter and the characters behind it. -/
def escapeText (letter : Char) (more : List Char) : String :=
  String.ofList (backslash :: letter :: more)

/-- A character given by a number of hexadecimal digits. -/
def hexEscape (letter : Char) (count : Nat) (r : Rest) : Except Fault (Escape × Rest) :=
  let (digits, after) := r.takeUpTo count isHexDigit
  let text := escapeText letter digits
  if digits.length < count then after.fail (.incompleteEscape text) text.length
  else if 0x10FFFF < Run.hexValue digits then after.fail (.badEscape text) text.length
  else .ok (.literal (Run.hexValue digits), after)

/-- A character given by its name. -/
def namedEscape (r : Rest) : Except Fault (Escape × Rest) :=
  match r.take? '\x7b' with
  | none => r.fail (.missing "\x7b") 0
  | some after => do
    let (name, after) ← after.takeUntil '\x7d' "character name"
    match codePointOfName? name with
    | some n => pure (.literal n, after)
    | none => after.fail (.unknownCharacter name) (name.length + 4)

/-- The escapes that mean the same inside and outside of a set. -/
def commonEscape (letter : Char) (r : Rest) : Except Fault (Escape × Rest) :=
  match letter with
  | 'x' => hexEscape letter 2 r
  | 'u' => hexEscape letter 4 r
  | 'U' => hexEscape letter 8 r
  | 'N' => namedEscape r
  | c =>
    if isAsciiLetter c || isAsciiDigit c then r.fail (.badEscape (escapeText c [])) 2
    else .ok (.literal c.toNat, r)

/-- An escape inside of a set. -/
def escapeInSet (letter : Char) (r : Rest) : Except Fault (Escape × Rest) :=
  match controlOf? letter with
  | some n => .ok (.literal n, r)
  | none =>
    if isClassLetter letter then .ok (.charClass, r)
    else if isOctalDigit letter then
      let (more, after) := r.takeUpTo 2 isOctalDigit
      let n := octalValue (letter :: more)
      let text := escapeText letter more
      if 255 < n then after.fail (.octalTooLarge text) text.length
      else .ok (.literal n, after)
    else commonEscape letter r

/-- A character given by three octal digits, or a group given by up to two decimal digits. -/
def numberEscape (letter : Char) (r : Rest) : Except Fault (Escape × Rest) :=
  let (octals, afterOctals) := r.takeUpTo 2 isOctalDigit
  if isOctalDigit letter && octals.length == 2 then
    let text := escapeText letter octals
    if 255 < octalValue (letter :: octals) then
      afterOctals.fail (.octalTooLarge text) text.length
    else .ok (.literal (octalValue (letter :: octals)), afterOctals)
  else
    let (more, after) := r.takeUpTo 1 isAsciiDigit
    .ok (.group (decimalValue (letter :: more)), after)

/-- An escape outside of a set. -/
def escapeOutside (letter : Char) (r : Rest) : Except Fault (Escape × Rest) :=
  if isAnchorLetter letter then .ok (.anchor, r)
  else if isClassLetter letter then .ok (.charClass, r)
  else
    match controlOf? letter with
    | some n => .ok (.literal n, r)
    | none =>
      if letter == '0' then
        let (more, after) := r.takeUpTo 2 isOctalDigit
        .ok (.literal (octalValue more), after)
      else if isAsciiDigit letter then numberEscape letter r
      else commonEscape letter r

end LineMachine.TextFsm.Expression
