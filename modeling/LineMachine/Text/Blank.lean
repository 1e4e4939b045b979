/-!
# Blank characters

Two sets of blank characters are in use. `isBlank` is the set that trimming removes and that a
text of only blanks consists of; it holds the four separator controls U+001C to U+001F.
`isSpace` is the White_Space property, which `\s` in a line pattern stands for; it leaves those
four out.
-/

namespace LineMachine.Text

/-- White_Space of the Unicode standard. -/
def isSpace (c : Char) : Bool :=
  let n := c.toNat
  if n < 128 then n == 0x20 || (0x09 ≤ n && n ≤ 0x0D)
  else
    n == 0x85 || n == 0xA0 || n == 0x1680 || (0x2000 ≤ n && n ≤ 0x200A) ||
      n == 0x2028 || n == 0x2029 || n == 0x202F || n == 0x205F || n == 0x3000

/-- White space, or one of the four separator controls. -/
def isBlank (c : Char) : Bool :=
  isSpace c || (0x1C ≤ c.toNat && c.toNat ≤ 0x1F)

/-! ## Trimming -/

/-- Drops the blanks at the end. -/
def trimRight (s : List Char) : List Char :=
  (s.reverse.dropWhile isBlank).reverse

/-- Drops the blanks at both ends. -/
def trim (s : List Char) : List Char :=
  trimRight (s.dropWhile isBlank)

/-- The text without the blanks at both ends. -/
def trimmed (s : String) : String :=
  String.ofList (trim s.toList)

/-- Holds of a text with nothing but blanks. -/
def allBlank (s : String) : Bool :=
  s.toList.all isBlank

end LineMachine.Text
