import LineMachine.Text.CharacterName.Further
import LineMachine.Text.CharacterName.Letters
import LineMachine.Text.CharacterName.Signs

/-!
# Characters by name

Finds a character by its name, in capital or small letters. Listed are the names of the letters of
some scripts, of signs, and of control characters. The names of ideographs are made from their code
points and those of syllables from the letters that they are composed of; both are in capitals.
-/

namespace LineMachine.Text

namespace CharacterName

/-! ## Ideographs -/

/-- The code points of the unified ideographs. -/
def ideographRuns : List Run := Run.readAll
  "3400-4DBF 4E00-9FFF 20000-2A6DF 2A700-2B738 2B740-2B81D 2B820-2CEA1 2CEB0-2EBE0 30000-3134A"

/-- What is left of a text behind its first part. -/
def behind? (first : String) (s : List Char) : Option (List Char) :=
  if first.toList.isPrefixOf s then some (s.drop first.length) else none

/-- The code point of an ideograph: four or five hexadecimal digits in capitals name it. -/
def ideograph? (name : List Char) : Option Nat := do
  let digits ← behind? "CJK UNIFIED IDEOGRAPH-" name
  let n := Run.hexValue digits
  let wellFormed := (digits.length == 4 || digits.length == 5) &&
    digits.all fun c ↦ (Run.hexDigit? c).isSome && !('a' ≤ c && c ≤ 'f')
  if wellFormed && inRuns ideographRuns n then some n else none

/-! ## Syllables -/

/-- What syllables begin with. -/
def leadingParts : List String :=
  ["G", "GG", "N", "D", "DD", "R", "M", "B", "BB", "S", "SS", "", "J", "JJ", "C", "K", "T", "P",
    "H"]

/-- The vowels of syllables. -/
def vowelParts : List String :=
  ["A", "AE", "YA", "YAE", "EO", "E", "YEO", "YE", "O", "WA", "WAE", "OE", "YO", "U", "WEO", "WE",
    "WI", "YU", "EU", "YI", "I"]

/-- What syllables end with. -/
def trailingParts : List String :=
  ["", "G", "GG", "GS", "N", "NJ", "NH", "D", "L", "LG", "LM", "LB", "LS", "LT", "LP", "LH", "M",
    "B", "BS", "S", "SS", "NG", "J", "C", "K", "T", "P", "H"]

/-- The longest of some parts that a text starts with, by its place among them, and what is left
behind it. -/
def longestPart? (parts : List String) (s : List Char) : Option (Nat × List Char) :=
  let found := parts.zipIdx.filterMap fun (part, i) ↦
    (behind? part s).map fun rest ↦ (i, rest)
  found.foldl (fun best e ↦ match best with
    | some b => if e.2.length < b.2.length then some e else best
    | none => some e) none

/-- The code point of a syllable. -/
def syllable? (name : List Char) : Option Nat := do
  let s ← behind? "HANGUL SYLLABLE " name
  let (leading, s) ← longestPart? leadingParts s
  let (vowel, s) ← longestPart? vowelParts s
  let (trailing, s) ← longestPart? trailingParts s
  let place := (leading * vowelParts.length + vowel) * trailingParts.length + trailing
  if s.isEmpty then some (0xAC00 + place) else none

/-! ## All names -/

/-- The code point that a name is listed with. -/
def listed? (name : String) : Option Nat :=
  ((letterNameRows ++ signNameRows).findSome? (·.find? name)).or
    ((furtherNames.find? fun e ↦ (listedNames e.2).contains name).map Prod.fst)

end CharacterName

/-- The code point of the character with a name. -/
def codePointOfName? (name : String) : Option Nat :=
  let cs := name.toList
  ((CharacterName.ideograph? cs).or (CharacterName.syllable? cs)).or
    (CharacterName.listed? name.toUpper)

end LineMachine.Text
