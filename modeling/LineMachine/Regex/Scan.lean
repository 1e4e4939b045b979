import LineMachine.Regex.Fault
import LineMachine.Regex.Syntax
import LineMachine.Text.CharacterName

/-!
# Scanning pattern text

The small steps of reading a pattern. Each works on the characters that are still to be read, so
a position is the length of the pattern less the length of what remains; a fault found here
carries that remaining length. In verbose patterns blanks and comments between characters are
passed over.
-/

namespace LineMachine.Regex

open Text (isBlank isAsciiDigit isAsciiLetter)

/-- A cause, and how many characters were left when it was found. -/
structure Stop where
  cause : Cause
  left : Nat
  deriving DecidableEq, Repr

/-- Stops in front of the characters that are left. -/
def stopAt {α : Type} (cause : Cause) (rest : List Char) : Except Stop α :=
  .error ⟨cause, rest.length⟩

/-! ## Single characters -/

/-- Passes over blanks and comments; a comment reaches to the end of its line. -/
def skipFiller : Bool → List Char → List Char
  | _, [] => []
  | true, c :: rest => if c == '\n' then skipFiller false rest else skipFiller true rest
  | false, c :: rest =>
    if isBlank c then skipFiller false rest
    else if c == '#' then skipFiller true rest
    else c :: rest

/-- What is left once filler is passed over, if the pattern is verbose. -/
def atToken (verbose : Bool) (s : List Char) : List Char :=
  if verbose then skipFiller false s else s

/-- Takes one particular character, if it comes next. -/
def take? (verbose : Bool) (c : Char) (s : List Char) : Option (List Char) :=
  match atToken verbose s with
  | d :: rest => if d == c then some rest else none
  | [] => none

/-- Takes one particular character, which has to come next. -/
def expect (verbose : Bool) (c : Char) (s : List Char) : Except Stop (List Char) :=
  match take? verbose c s with
  | some rest => .ok rest
  | none => stopAt (.missing c) s

/-- Takes characters as long as they pass a test; filler between them is passed over. -/
def takeSome (verbose : Bool) (test : Char → Bool) (s : List Char) : List Char × List Char :=
  go s.length [] (atToken verbose s)
where
  /-- Collects up to `fuel` characters. -/
  go : Nat → List Char → List Char → List Char × List Char
    | 0, taken, s => (taken.reverse, s)
    | _ + 1, taken, [] => (taken.reverse, [])
    | fuel + 1, taken, c :: rest =>
      if test c then go fuel (c :: taken) (atToken verbose rest) else (taken.reverse, c :: rest)

/-! ## Quantifiers -/

/-- Counts from this one on are refused. -/
def countLimit : Nat := Nat.pow 2 32 - 1

/-- The number that digits denote. -/
def countValue (digits : List Char) : Nat :=
  digits.foldl (fun n c ↦ n * 10 + (c.toNat - 48)) 0

/-- Least and greatest number of repetitions. -/
abbrev Counts := Nat × Option Nat

/-- The counts between braces, `none` if the brace opens no quantifier. The text starts behind
the opening brace. -/
def bracedCounts? (verbose : Bool) (s : List Char) :
    Except Stop (Option (Counts × List Char)) := do
  let (low, afterLow) := takeSome verbose isAsciiDigit s
  let (counts, rest) ← match take? verbose ',' afterLow with
    | some afterComma =>
      let (high, rest) := takeSome verbose isAsciiDigit afterComma
      let most := if high.isEmpty then none else some (countValue high)
      pure (some (countValue low, most), rest)
    | none =>
      pure (if low.isEmpty then none else some (countValue low, some (countValue low)), afterLow)
  match counts, take? verbose '}' rest with
  | some (least, most), some rest =>
    if countLimit ≤ least || most.any (countLimit ≤ ·) then stopAt .repeatTooBig s
    else if most.any (· < least) then stopAt .repeatOrder s
    else pure (some ((least, most), rest))
  | _, _ => pure none

/-! ## Group names -/

/-- A group name, up to a closing angle bracket or parenthesis. -/
def groupName (verbose : Bool) (s : List Char) : Except Stop (String × List Char) :=
  let (name, rest) := takeSome verbose (fun c ↦ c != '>' && c != ')') s
  if name.isEmpty then stopAt .missingGroupName rest
  else if Text.isIdentifier name then .ok (String.ofList name, rest)
  else stopAt .badGroupName rest

/-- A group name or a positive group number. -/
def groupRef (verbose : Bool) (s : List Char) : Except Stop (GroupRef × List Char) :=
  let (name, rest) := takeSome verbose (fun c ↦ c != '>' && c != ')') s
  if name.isEmpty then stopAt .missingGroupName rest
  else if name.all isAsciiDigit then
    if countValue name == 0 then stopAt .badGroupName rest
    else .ok (.number (countValue name), rest)
  else if Text.isIdentifier name then .ok (.name (String.ofList name), rest)
  else stopAt .badGroupName rest

/-! ## Inline flags -/

/-- The option that a letter turns on. The letters for approximate matching and for full case
folding are known and turn on nothing; those for locales, matching in reverse, the longest match and
the word boundaries of Unicode are not known. -/
def flagOfLetter? (c : Char) : Option Flags :=
  match c with
  | 'a' => some { ascii := true }
  | 'b' => some {}
  | 'e' => some {}
  | 'f' => some {}
  | 'i' => some { ignoreCase := true }
  | 'm' => some { multiline := true }
  | 's' => some { dotAll := true }
  | 'u' => some { unicode := true }
  | 'x' => some { verbose := true }
  | _ => none

/-- A run of flags: what they turn on, and their names. -/
structure FlagSet where
  flags : Flags := {}
  names : List (List Char) := []
  deriving DecidableEq, Repr

/-- Adds a flag. -/
def FlagSet.add (set : FlagSet) (flags : Flags) (name : List Char) : FlagSet where
  flags := set.flags.or flags
  names := name :: set.names

/-- The flags that state a version. A pattern has no more than one version. -/
def versionFlags : List (List Char) := [['V', '0'], ['V', '1']]

/-- The versions that a run of flags states. -/
def FlagSet.versions (set : FlagSet) : List (List Char) :=
  set.names.filter versionFlags.contains

/-- Whether some flag holds for a whole pattern and cannot be turned off. -/
def FlagSet.hasGlobal (set : FlagSet) : Bool :=
  set.names.any (['b'] :: ['e'] :: versionFlags).contains

/-- Whether two runs have a flag in common. -/
def FlagSet.meets (a b : FlagSet) : Bool :=
  a.names.any b.names.contains

/-- Reads flags, at most `fuel` of them. A capital V and a digit state a version. -/
def readFlags (verbose : Bool) : Nat → FlagSet → List Char → FlagSet × List Char
  | 0, set, s => (set, s)
  | fuel + 1, set, s =>
    match atToken verbose s with
    | 'V' :: rest =>
      match atToken verbose rest with
      | '0' :: rest => readFlags verbose fuel (set.add {} ['V', '0']) rest
      | '1' :: rest => readFlags verbose fuel (set.add {} ['V', '1']) rest
      | _ => (set, s)
    | c :: rest =>
      match flagOfLetter? c with
      | some flags => readFlags verbose fuel (set.add flags [c]) rest
      | none => (set, s)
    | [] => (set, s)

/-- The flags that come next, and what is left behind them. -/
def flagSet (verbose : Bool) (s : List Char) : FlagSet × List Char :=
  readFlags verbose s.length {} s

/-! ## Escapes -/

/-- What an escape stands for. -/
inductive Escape where
  | char (n : Nat)
  | cls (negated : Bool) (c : CharClass)
  | node (node : Node)
  | reference (target : GroupRef)
  /-- A reference between angle brackets, with what is left behind the opening one. -/
  | bracketed (target : GroupRef) (place : List Char)
  deriving DecidableEq, Repr

/-- The classes that a letter behind a backslash stands for. -/
def classOfLetter? (c : Char) : Option (Bool × CharClass) :=
  match c with
  | 'd' => some (false, .digit)
  | 'D' => some (true, .digit)
  | 's' => some (false, .space)
  | 'S' => some (true, .space)
  | 'w' => some (false, .word)
  | 'W' => some (true, .word)
  | 'h' => some (false, .horizontalSpace)
  | _ => none

/-- The conditions on a position that a letter behind a backslash stands for. -/
def anchorOfLetter? (c : Char) : Option Node :=
  match c with
  | 'A' => some (.anchor .textStart)
  | 'Z' => some (.anchor .textEnd)
  | 'z' => some (.anchor .textEnd)
  | 'b' => some (.anchor .boundary)
  | 'B' => some (.anchor .noBoundary)
  | 'G' => some (.anchor .textStart)
  | 'K' => some .empty
  | 'm' => some (.anchor .wordStart)
  | 'M' => some (.anchor .wordEnd)
  | _ => none

/-- A look at the next character: whether it is an ASCII word character, or is none. -/
def wordLook (ahead positive : Bool) : Node :=
  .look ahead positive (.char { members := [.cls false (.inAscii .word)] })

/-- The same conditions, where only ASCII characters count as word characters. -/
def asciiAnchorOfLetter? (c : Char) : Option Node :=
  let both (before after : Bool) : Node := .seq (wordLook false before) (wordLook true after)
  match c with
  | 'b' => some (.alt (both false true) (both true false))
  | 'B' => some (.alt (both true true) (both false false))
  | 'm' => some (both false true)
  | 'M' => some (both true false)
  | c => anchorOfLetter? c

/-- The control character that a letter behind a backslash stands for. -/
def controlOfLetter? (c : Char) : Option Nat :=
  match c with
  | 'a' => some 7
  | 'b' => some 8
  | 'f' => some 12
  | 'n' => some 10
  | 'r' => some 13
  | 't' => some 9
  | 'v' => some 11
  | _ => none

/-- How many hexadecimal digits follow a letter behind a backslash. -/
def hexWidth? (c : Char) : Option Nat :=
  match c with
  | 'x' => some 2
  | 'u' => some 4
  | 'U' => some 8
  | _ => none

/-- Takes exactly `width` hexadecimal digits; `start` is what was left in front of them. -/
def hexDigits (verbose : Bool) (letter : Char) (start : List Char) :
    Nat → List Char → List Char → Except Stop (List Char × List Char)
  | 0, taken, s => .ok (taken.reverse, s)
  | width + 1, taken, s =>
    match atToken verbose s with
    | c :: rest =>
      if (Text.Run.hexDigit? c).isSome then hexDigits verbose letter start width (c :: taken) rest
      else stopAt (.incompleteEscape (String.ofList (letter :: taken.reverse))) start
    | [] => stopAt (.incompleteEscape (String.ofList (letter :: taken.reverse))) start

/-- A character given by its code point in hexadecimal. -/
def hexEscape (verbose : Bool) (letter : Char) (width : Nat) (s : List Char) :
    Except Stop (Escape × List Char) := do
  let (digits, rest) ← hexDigits verbose letter s width [] s
  let n := Text.Run.hexValue digits
  if n < 0x110000 then pure (.char n, rest)
  else stopAt (.badHexEscape (String.ofList (letter :: digits))) s

/-- An octal digit. -/
def isOctal (c : Char) : Bool := '0' ≤ c && c ≤ '7'

/-- The number that octal digits denote. -/
def octalValue (digits : List Char) : Nat :=
  digits.foldl (fun n c ↦ n * 8 + (c.toNat - 48)) 0

/-- Takes up to `count` octal digits. -/
def octalDigits (verbose : Bool) : Nat → List Char → List Char → List Char × List Char
  | 0, taken, s => (taken.reverse, s)
  | count + 1, taken, s =>
    match atToken verbose s with
    | c :: rest =>
      if isOctal c then octalDigits verbose count (c :: taken) rest else (taken.reverse, s)
    | [] => (taken.reverse, s)

/-- A character given by up to three octal digits, the first of which was taken already. -/
def octalEscape (verbose : Bool) (first : Char) (s : List Char) :
    Except Stop (Escape × List Char) :=
  let (digits, rest) := octalDigits verbose 2 [first] s
  if isOctal first then
    if digits.all isOctal then .ok (.char (octalValue digits), rest)
    else stopAt (.incompleteEscape (String.ofList digits)) rest
  else stopAt (.badEscape first) rest

/-- A back reference by number, or a character by three octal digits. -/
def numericEscape (verbose : Bool) (first : Char) (s : List Char) :
    Except Stop (Escape × List Char) :=
  match atToken verbose s with
  | second :: rest =>
    if isAsciiDigit second then
      match atToken verbose rest with
      | third :: rest' =>
        if [first, second, third].all isOctal then
          .ok (.char (octalValue [first, second, third] % 512), rest')
        else .ok (.reference (.number (countValue [first, second])), rest)
      | [] => .ok (.reference (.number (countValue [first, second])), rest)
    else .ok (.reference (.number (countValue [first])), s)
  | [] => .ok (.reference (.number (countValue [first])), s)

/-- The categories of a major class, by its name. -/
def majorLetter? (name : String) : Option Char :=
  match name with
  | "l" | "letter" => some 'L'
  | "m" | "mark" | "combiningmark" => some 'M'
  | "n" | "number" => some 'N'
  | "p" | "punctuation" | "punct" => some 'P'
  | "s" | "symbol" => some 'S'
  | "z" | "separator" => some 'Z'
  | _ => none

/-- The category of a long name. -/
def longCategory? (name : String) : Option Text.Category :=
  match name with
  | "uppercaseletter" => some .upperLetter
  | "lowercaseletter" => some .lowerLetter
  | "titlecaseletter" => some .titleLetter
  | "modifierletter" => some .modifierLetter
  | "otherletter" => some .otherLetter
  | "nonspacingmark" => some .nonspacingMark
  | "spacingmark" => some .spacingMark
  | "enclosingmark" => some .enclosingMark
  | "decimalnumber" => some .decimalDigit
  | "letternumber" => some .letterNumber
  | "othernumber" => some .otherNumber
  | "connectorpunctuation" => some .connector
  | "dashpunctuation" => some .dash
  | "openpunctuation" => some .opening
  | "closepunctuation" => some .closing
  | "initialpunctuation" => some .initialQuote
  | "finalpunctuation" => some .finalQuote
  | "otherpunctuation" => some .otherPunctuation
  | "mathsymbol" => some .mathSymbol
  | "currencysymbol" => some .currencySymbol
  | "modifiersymbol" => some .modifierSymbol
  | "othersymbol" => some .otherSymbol
  | "spaceseparator" => some .spaceSeparator
  | "lineseparator" => some .lineSeparator
  | "paragraphseparator" => some .paragraphSeparator
  | "control" | "cntrl" => some .control
  | "format" => some .format
  | _ => none

/-- The class of a general category, by its short or long name. -/
def categoryClass? (name : String) : Option CharClass :=
  match Text.Category.all.find? fun cat ↦ Text.lowered cat.abbreviation == name with
  | some cat => some (.categories [cat])
  | none =>
    match majorLetter? name, longCategory? name with
    | some letter, _ => some (.categories (Text.Category.major letter))
    | none, some cat => some (.categories [cat])
    | none, none =>
      match name with
      | "c" | "other" => some (.outside (Text.Category.all.filter fun cat ↦
          cat.abbreviation.toList.head? != some 'C'))
      | "lc" | "l&" | "casedletter" => some (.categories [.upperLetter, .lowerLetter, .titleLetter])
      | "co" | "privateuse" => some .privateUse
      | _ => none

/-- The class of a property that characters have or lack. -/
def binaryClass? (name : String) : Option CharClass :=
  match name with
  | "any" => some .any
  | "ascii" | "basiclatin" => some (.inAscii .any)
  | "alpha" | "alphabetic" => some .alphabetic
  | "alnum" => some (.either .alphabetic .digit)
  | "digit" => some .digit
  | "lower" | "lowercase" => some .lower
  | "upper" | "uppercase" => some .upper
  | "cased" => some .cased
  | "space" | "whitespace" | "wspace" => some .space
  | "word" => some .word
  | "blank" => some .horizontalSpace
  | "graph" => some .graphic
  | "print" => some (.either .graphic (.categories [.spaceSeparator]))
  | "xdigit" => some (.either .digit .hexDigit)
  | "hexdigit" | "hex" => some .hexDigit
  | "asciihexdigit" | "ahex" => some .asciiHexDigit
  | _ => none

/-- A name as names are compared: without case, spaces, hyphens and underscores. -/
def plainName (name : List Char) : String :=
  String.ofList ((name.filter fun c ↦ c != ' ' && c != '_' && c != '-').map Text.lowerChar)

/-- The class under a property name. -/
def propertyClass? (name : List Char) : Option CharClass :=
  let plain := plainName name
  (categoryClass? plain).or (binaryClass? plain)

/-- The class under a name between `[:` and `:]`, where digits and punctuation mean their ASCII
sense. -/
def posixClass? (name : List Char) : Option CharClass :=
  match plainName name with
  | "alnum" => some (.either .alphabetic .asciiDigit)
  | "digit" => some .asciiDigit
  | "xdigit" => some .asciiHexDigit
  | "punct" => some .punctuation
  | _ => propertyClass? name

/-- A class under flags: only its ASCII characters if they say so. -/
def limited (flags : Flags) (cls : CharClass) : CharClass :=
  if flags.ascii then .inAscii cls else cls

/-- A character of a property name. -/
def isPropertyChar (c : Char) : Bool :=
  isAsciiLetter c || isAsciiDigit c || c == ' ' || c == '&' || c == '_' || c == '-' || c == '.'

/-- A property behind `\p` or `\P`; without braces or a known single letter the letter stands for
itself. -/
def propertyEscape (flags : Flags) (letter : Char) (s : List Char) :
    Except Stop (Escape × List Char) :=
  let positive := letter == 'p'
  match atToken flags.verbose s with
  | '{' :: rest =>
    let (negate, rest) := match take? flags.verbose '^' rest with
      | some rest => (true, rest)
      | none => (false, rest)
    let (name, rest) := takeSome flags.verbose isPropertyChar rest
    match take? flags.verbose '}' rest with
    | some rest =>
      match propertyClass? name with
      | some cls => .ok (.cls (positive == negate) (limited flags cls), rest)
      | none => stopAt .unknownProperty rest
    | none => .ok (.char letter.toNat, s)
  | c :: rest =>
    if ['C', 'L', 'M', 'N', 'P', 'S', 'Z'].contains c then
      match propertyClass? [c] with
      | some cls => .ok (.cls (!positive) (limited flags cls), rest)
      | none => .ok (.char letter.toNat, s)
    else .ok (.char letter.toNat, s)
  | [] => .ok (.char letter.toNat, s)

/-- A line end of any kind. -/
def lineEndNode : Node :=
  .atomic (.alt (.seq (.char { members := [.one 13] }) (.char { members := [.one 10] }))
    (.char { members := [.span 10 13, .one 0x85, .one 0x2028, .one 0x2029] }))

/-- A character of a character's name. -/
def isNameChar (c : Char) : Bool :=
  isAsciiLetter c || isAsciiDigit c || c == ' ' || c == '-'

/-- A character by its name in braces, in which no filler is passed over; without a closed pair of
braces the letter stands for itself. -/
def namedEscape (verbose : Bool) (letter : Char) (s : List Char) :
    Except Stop (Escape × List Char) :=
  match take? verbose '\x7b' s with
  | none => .ok (.char letter.toNat, s)
  | some inner =>
    match inner.dropWhile isNameChar with
    | '\x7d' :: rest =>
      match Text.codePointOfName? (String.ofList (inner.takeWhile isNameChar)) with
      | some n => .ok (.char n, rest)
      | none => stopAt .unknownCharacter rest
    | _ => .ok (.char letter.toNat, s)

/-- Regional indicators, which stand in pairs for a flag. -/
def indicatorNode : Node :=
  .char { members := [.span 0x1F1E6 0x1F1FF] }

/-- A character with the marks that combine with it, or a line end. -/
def clusterNode : Node :=
  let mark : CharTest :=
    { members := [.cls false (.categories (Text.Category.major 'M')), .span 0x200C 0x200D,
        .span 0x1F3FB 0x1F3FF] }
  let marks : Node := .loop (.char mark) 0 none true
  .atomic (.alt (.seq (.char { members := [.one 13] }) (.char { members := [.one 10] }))
    (.seq (.alt (.seq indicatorNode indicatorNode) (.char CharTest.anything)) marks))

/-- A reference to a list of words. No lists are known. -/
def listEscape (verbose : Bool) (s : List Char) : Except Stop (Escape × List Char) := do
  let rest ← expect verbose '<' s
  let (_, rest) ← groupRef verbose rest
  let rest ← expect verbose '>' rest
  stopAt .unknownList rest

/-- The letter behind a backslash that a group between angle brackets follows. -/
def referenceLetter : Char := 'g'

/-- A reference to a group between angle brackets. -/
def groupEscape (verbose : Bool) (s : List Char) : Except Stop (Escape × List Char) := do
  let place ← expect verbose '<' s
  let (target, rest) ← groupRef verbose place
  let rest ← expect verbose '>' rest
  pure (.bracketed target place, rest)

/-- An escape by a letter that stands for a class or a control character. -/
def plainEscape (flags : Flags) (c : Char) (s : List Char) : Except Stop (Escape × List Char) :=
  match classOfLetter? c, controlOfLetter? c with
  | some (negated, cls), _ => .ok (.cls negated (limited flags cls), s)
  | none, some n => .ok (.char n, s)
  | none, none => stopAt (.badEscape c) s

/-- An escape by a letter that means something only outside of a set. -/
def outerEscape (flags : Flags) (c : Char) (s : List Char) : Except Stop (Escape × List Char) :=
  match c with
  | 'L' => listEscape flags.verbose s
  | 'R' => .ok (.node lineEndNode, s)
  | 'X' => .ok (.node clusterNode, s)
  | _ =>
    if c == referenceLetter then
      match groupEscape flags.verbose s with
      | .ok found => .ok found
      | .error _ => .ok (.char c.toNat, s)
    else
      match if flags.ascii then asciiAnchorOfLetter? c else anchorOfLetter? c with
      | some node => .ok (.node node, s)
      | none => plainEscape flags c s

/-- An escape by a letter. -/
def letterEscape (inSet : Bool) (flags : Flags) (c : Char) (s : List Char) :
    Except Stop (Escape × List Char) :=
  match hexWidth? c with
  | some width => hexEscape flags.verbose c width s
  | none =>
    if c == 'p' || c == 'P' then propertyEscape flags c s
    else if c == 'N' then namedEscape flags.verbose c s
    else if inSet then plainEscape flags c s
    else outerEscape flags c s

/-- What a backslash, which was taken already, and the characters behind it stand for. -/
def escape (inSet : Bool) (flags : Flags) (s : List Char) : Except Stop (Escape × List Char) :=
  match s with
  | [] => stopAt .escapeAtEnd []
  | c :: rest =>
    if isAsciiLetter c then letterEscape inSet flags c rest
    else if isAsciiDigit c then
      if inSet || c == '0' then octalEscape flags.verbose c rest
      else numericEscape flags.verbose c rest
    else .ok (.char c.toNat, rest)

/-! ## Sets -/

/-- One item of a set: a character, an escape or a class between `[:` and `:]`. -/
def setItem (flags : Flags) (s : List Char) : Except Stop (Member × List Char) :=
  match s with
  | [] => stopAt .unterminatedSet []
  | c :: rest =>
    if c == Text.backslash then do
      let (found, rest) ← escape true flags rest
      match found with
      | .cls negated cls => pure (.cls negated cls, rest)
      | .char n => pure (.one n, rest)
      | _ => stopAt (.badEscape c) rest
    else
      match c, rest with
      | '[', ':' :: inner =>
        let (negate, inner) := match inner with
          | '^' :: inner => (true, inner)
          | inner => (false, inner)
        let name := inner.takeWhile isPropertyChar
        match inner.dropWhile isPropertyChar with
        | ':' :: ']' :: after =>
          match posixClass? name with
          | some cls => .ok (.cls negate (limited flags cls), after)
          | none => stopAt .unknownProperty after
        | _ => .ok (.one c.toNat, rest)
      | _, _ => .ok (.one c.toNat, rest)

/-- One item of a set, or a range of characters. A hyphen in front of the closing bracket, or
next to a class, stands for itself. -/
def setMember (flags : Flags) (s : List Char) : Except Stop (List Member × List Char) := do
  let (first, rest) ← setItem flags s
  match first, rest with
  | .one low, '-' :: afterHyphen =>
    if afterHyphen.head? = some ']' then pure ([first, .one 45], afterHyphen)
    else
      let (last, rest) ← setItem flags afterHyphen
      match last with
      | .one high =>
        if high < low then stopAt .badRange rest else pure ([.span low high], rest)
      | _ => pure ([first, .one 45, last], rest)
  | _, _ => pure ([first], rest)

/-- The members of a set up to its closing bracket, which is taken too. The first member is read
whatever it is. -/
def setMembers (flags : Flags) :
    Nat → List Member → List Char → Except Stop (List Member × List Char)
  | 0, _, s => stopAt .unterminatedSet s
  | fuel + 1, found, s => do
    let (members, rest) ← setMember flags s
    let found := found ++ members
    match rest with
    | ']' :: after => pure (found, after)
    | _ => setMembers flags fuel found rest

/-- A set of characters; the opening bracket was taken already. No filler is passed over in it. -/
def charSet (flags : Flags) (s : List Char) : Except Stop (CharTest × List Char) := do
  let (negated, s) := match s with
    | '^' :: rest => (true, rest)
    | s => (false, s)
  let (members, rest) ← setMembers { flags with verbose := false } (s.length + 1) [] s
  let members := match members with
    | [.cls inverse cls] => [.cls inverse (if flags.ignoreCase then cls.ignoringCase else cls)]
    | members => members
  pure ({ members := members, negated := negated, ignoreCase := flags.ignoreCase }, rest)

end LineMachine.Regex
