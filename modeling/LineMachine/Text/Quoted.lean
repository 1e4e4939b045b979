import LineMachine.Text.Classes

/-!
# Quoted text

A text between quotes, as messages and tables show it. Single quotes are used unless the text
holds a single quote and no double quote. The delimiter and the backslash are escaped by a
backslash, line feed, carriage return and tab have their letters, and every other character that
is not printable is shown by its code point in hexadecimal.
-/

namespace LineMachine.Text

/-! ## Hexadecimal digits -/

/-- A hexadecimal digit, in lower case. -/
def hexChar (n : Nat) : Char :=
  if n < 10 then Char.ofNat (48 + n) else Char.ofNat (87 + n)

/-- The last `width` hexadecimal digits of a number. -/
def hexPadded : Nat → Nat → List Char
  | 0, _ => []
  | width + 1, n => hexPadded width (n / 16) ++ [hexChar (n % 16)]

@[simp] theorem length_hexPadded (width n : Nat) : (hexPadded width n).length = width := by
  induction width generalizing n with
  | zero => rfl
  | succ width ih => simp [hexPadded, ih]

/-! ## Escapes -/

/-- A character that is not printable, by its code point. -/
def escapeCode (c : Char) : List Char :=
  let n := c.toNat
  if n < 0x100 then backslash :: 'x' :: hexPadded 2 n
  else if n < 0x10000 then backslash :: 'u' :: hexPadded 4 n
  else backslash :: 'U' :: hexPadded 8 n

/-- One character of a text quoted with `delimiter`. -/
def quotedChar (delimiter c : Char) : List Char :=
  if c == delimiter || c == backslash then [backslash, c]
  else if c == '\n' then [backslash, 'n']
  else if c == '\r' then [backslash, 'r']
  else if c == '\t' then [backslash, 't']
  else if isPrintable c then [c]
  else escapeCode c

/-- The quote that a text is shown between. -/
def delimiterFor (s : List Char) : Char :=
  if s.contains singleQuote && !s.contains doubleQuote then doubleQuote else singleQuote

/-- A text between quotes. -/
def quoted (s : String) : String :=
  let cs := s.toList
  let delimiter := delimiterFor cs
  String.ofList (delimiter :: cs.flatMap (quotedChar delimiter) ++ [delimiter])

end LineMachine.Text
