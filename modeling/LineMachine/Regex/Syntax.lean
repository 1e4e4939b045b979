import LineMachine.Text.Blank
import LineMachine.Text.Case
import LineMachine.Text.LaterCharacters

/-!
# Line patterns

The tree of a line pattern. A pattern is built from tests on one character, from conditions on a
position, and from sequence, choice, repetition, capture groups, back references, lookaround and
atomic groups. How a tree is matched is said in `LineMachine.Regex.Matcher`, how it is read from
text in `LineMachine.Regex.Reader`.
-/

namespace LineMachine.Regex

open Text (Category)

/-! ## Options of a pattern -/

/-- Options under which a pattern is read. -/
structure Flags where
  ignoreCase : Bool := false
  multiline : Bool := false
  dotAll : Bool := false
  unicode : Bool := false
  verbose : Bool := false
  ascii : Bool := false
  deriving DecidableEq, Repr, Inhabited

namespace Flags

/-- The options of either. -/
def or (a b : Flags) : Flags where
  ignoreCase := a.ignoreCase || b.ignoreCase
  multiline := a.multiline || b.multiline
  dotAll := a.dotAll || b.dotAll
  unicode := a.unicode || b.unicode
  verbose := a.verbose || b.verbose
  ascii := a.ascii || b.ascii

/-- The options of the first without those of the second. -/
def minus (a b : Flags) : Flags where
  ignoreCase := a.ignoreCase && !b.ignoreCase
  multiline := a.multiline && !b.multiline
  dotAll := a.dotAll && !b.dotAll
  unicode := a.unicode && !b.unicode
  verbose := a.verbose && !b.verbose
  ascii := a.ascii && !b.ascii

/-- The options as the sum of their code numbers. -/
def code (f : Flags) : Nat :=
  (if f.ignoreCase then 2 else 0) + (if f.multiline then 8 else 0) + (if f.dotAll then 16 else 0) +
    (if f.unicode then 32 else 0) + (if f.verbose then 64 else 0) + (if f.ascii then 128 else 0)

end Flags

/-! ## Tests on one character -/

/-- A named class of characters. -/
inductive CharClass where
  | any
  | digit
  | space
  | word
  | alphabetic
  | upper
  | lower
  | cased
  | asciiDigit
  | hexDigit
  | asciiHexDigit
  | punctuation
  | graphic
  | horizontalSpace
  | privateUse
  | categories (cats : List Category)
  | outside (cats : List Category)
  /-- What one of two classes holds. -/
  | either (a b : CharClass)
  /-- The ASCII characters of a class. -/
  | inAscii (a : CharClass)
  deriving DecidableEq, Repr

namespace CharClass

/-- The letters. -/
def letters : List Category := Category.major 'L'

/-- The categories of word characters. -/
def wordCategories : List Category :=
  .letterNumber :: .decimalDigit :: .connector :: (letters ++ Category.major 'M')

/-- Membership of a character. -/
def holds : CharClass → Char → Bool
  | .any, _ => true
  | .digit, c => Text.isDigit c || Text.isLaterOf [.decimalDigit] c.toNat
  | .space, c => Text.isSpace c
  | .word, c => Text.isWord c || Text.isLaterOf wordCategories c.toNat
  | .alphabetic, c =>
    Text.isAlphabetic c || Text.isLaterOf (.letterNumber :: .spacingMark :: letters) c.toNat
  | .upper, c => Text.isUpper c || Text.isLaterOf [.upperLetter] c.toNat
  | .lower, c => Text.isLower c || Text.isLaterOf [.lowerLetter] c.toNat
  | .cased, c => Text.isCased c || Text.isLaterOf [.upperLetter, .lowerLetter] c.toNat
  | .asciiDigit, c => Text.isAsciiDigit c
  | .hexDigit, c => (Text.Run.hexDigit? c).isSome || Text.inRuns fullWidthHexRuns c.toNat
  | .asciiHexDigit, c => (Text.Run.hexDigit? c).isSome
  | .punctuation, c => Text.inCategoriesNow (Category.major 'P') c.toNat ||
      ['$', '+', '<', '=', '>', '^', Char.ofNat 96, '|', '~'].contains c
  | .graphic, c => !Text.isSpace c &&
      (Text.inCategoriesNow (Category.all.filter (· != .control)) c.toNat ||
        Text.inRuns privateUseRuns c.toNat)
  | .horizontalSpace, c => c == '\t' || Category.spaceSeparator.holds c.toNat
  | .privateUse, c => Text.inRuns privateUseRuns c.toNat
  | .categories cats, c => Text.inCategoriesNow cats c.toNat
  | .outside cats, c => !Text.inCategoriesNow cats c.toNat
  | .either a b, c => a.holds c || b.holds c
  | .inAscii a, c => c.toNat < 128 && a.holds c
where
  /-- The hexadecimal digits of full width. -/
  fullWidthHexRuns : List Text.Run := Text.Run.readAll "FF10-FF19 FF21-FF26 FF41-FF46"
  /-- The code points for private use. -/
  privateUseRuns : List Text.Run := Text.Run.readAll "E000-F8FF F0000-FFFFD 100000-10FFFD"

/-- The class that stands for this one when case is ignored: a single case of letters becomes
all cased letters, and a single case of characters all cased characters. -/
def ignoringCase : CharClass → CharClass
  | .categories [.upperLetter] => .categories [.upperLetter, .lowerLetter, .titleLetter]
  | .categories [.lowerLetter] => .categories [.upperLetter, .lowerLetter, .titleLetter]
  | .categories [.titleLetter] => .categories [.upperLetter, .lowerLetter, .titleLetter]
  | .upper => .cased
  | .lower => .cased
  | .inAscii cls => .inAscii cls.ignoringCase
  | cls => cls

end CharClass

/-- A part of a set of characters. -/
inductive Member where
  | one (n : Nat)
  | span (first last : Nat)
  | cls (negated : Bool) (c : CharClass)
  deriving DecidableEq, Repr

/-- Membership of a character. -/
def Member.holds : Member → Char → Bool
  | .one n, c => c.toNat == n
  | .span first last, c => first ≤ c.toNat && c.toNat ≤ last
  | .cls negated named, c => named.holds c != negated

/-- A test on one character: whether it is in a set, or, negated, outside of it. -/
structure CharTest where
  members : List Member
  negated : Bool := false
  ignoreCase : Bool := false
  deriving DecidableEq, Repr

namespace CharTest

/-- Whether a character passes. Ignoring case, it is in the set when one of its variants is. -/
def accepts (t : CharTest) (c : Char) : Bool :=
  let hit (c : Char) := t.members.any (·.holds c)
  (hit c || (t.ignoreCase && ((Text.caseVariants c.toNat).any fun n ↦ hit (Char.ofNat n))))
    != t.negated

/-- The test that a line feed alone fails. -/
def notNewline : CharTest := { members := [.one 10], negated := true }

/-- The test that every character passes. -/
def anything : CharTest := { members := [], negated := true }

theorem accepts_notNewline (c : Char) : notNewline.accepts c = (c.toNat != 10) := by
  simp [accepts, notNewline, Member.holds, bne]

end CharTest

/-! ## Conditions on a position -/

/-- A condition on a position between characters. -/
inductive Anchor where
  | textStart
  | textEnd
  | lineStart
  | lineEnd
  | finalEnd
  | boundary
  | noBoundary
  | wordStart
  | wordEnd
  deriving DecidableEq, Repr

/-! ## Trees -/

/-- What a back reference names its group by. -/
inductive GroupRef where
  | number (n : Nat)
  | name (s : String)
  deriving DecidableEq, Repr

/-- The tree of a pattern. -/
inductive Node where
  | empty
  | char (test : CharTest)
  | anchor (a : Anchor)
  | seq (first second : Node)
  | alt (first second : Node)
  | group (number : Nat) (body : Node)
  | backref (target : GroupRef) (ignoreCase : Bool)
  /-- A choice by whether a group has captured something. -/
  | given (target : GroupRef) (yes no : Node)
  | look (ahead positive : Bool) (body : Node)
  | atomic (body : Node)
  | loop (body : Node) (least : Nat) (most : Option Nat) (greedy : Bool)
  deriving DecidableEq, Repr, Inhabited

namespace Node

/-- The nodes one after the other. -/
def sequence : List Node → Node
  | [] => .empty
  | [node] => node
  | node :: rest => .seq node (sequence rest)

/-- The nodes as alternatives, the first one first. -/
def choice : List Node → Node
  | [] => .empty
  | [node] => node
  | node :: rest => .alt node (choice rest)

end Node

end LineMachine.Regex
