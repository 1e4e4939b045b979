import LineMachine.Decimal.Numeral
import LineMachine.Json.Fault
import LineMachine.Text.CodePoints
import LineMachine.Value

/-!
# Reading JSON

`Json.read?` turns a text into a value. Objects keep the order of their fields, a repeated field
has its last value in its first place, and a number is an integer unless it has a fraction or an
exponent. Beside the numbers of the format, `NaN`, `Infinity` and `-Infinity` are read.

Each reader takes the characters that are left and gives back those behind what it read; a fault
carries how many were left where it was found.
-/

namespace LineMachine.Json

open Text

/-- Why reading stops, with the number of characters that were left. -/
inductive Stop where
  | cause (cause : Cause) (left : Nat)
  | longNumeral
  deriving DecidableEq, Repr

/-- Stops in front of the characters that are left. -/
def stopAt {α : Type} (cause : Cause) (rest : List Char) : Except Stop α :=
  .error (.cause cause rest.length)

/-- White space of the format. -/
def isSpace (c : Char) : Bool :=
  c == ' ' || c == '\t' || c == '\n' || c == '\r'

/-- Passes over white space. -/
def skip (s : List Char) : List Char :=
  s.dropWhile isSpace

/-! ## Strings -/

/-- Four hexadecimal digits in front of other characters. -/
def hexFour? (s : List Char) : Option (Nat × List Char) :=
  let digits := s.take 4
  if digits.length = 4 ∧ digits.all (fun c ↦ (Run.hexDigit? c).isSome) then
    some (Run.hexValue digits, s.drop 4)
  else none

/-- The character that a code number stands for. Halves of a surrogate pair stand for none, and one
that is escaped on its own is read as the replacement character; texts that differ in such halves
alone are therefore read as the same, and as keys they fall together. -/
def charOf (n : Nat) : Char :=
  if n.isValidChar then Char.ofNat n else Char.ofNat 0xFFFD

/-- The first half of a surrogate pair. -/
def isHighHalf (n : Nat) : Bool :=
  0xD800 ≤ n && n ≤ 0xDBFF

/-- The second half of a surrogate pair. -/
def isLowHalf (n : Nat) : Bool :=
  0xDC00 ≤ n && n ≤ 0xDFFF

/-- The code point that both halves of a surrogate pair stand for. -/
def joined (high low : Nat) : Nat :=
  0x10000 + (high - 0xD800) * 0x400 + (low - 0xDC00)

/-- Reads the code number of an escape, whose letter was taken already. Something has to follow
its four digits. -/
def codeNumber (s : List Char) : Except Stop (Nat × List Char) :=
  match hexFour? s with
  | some (n, c :: rest) => .ok (n, c :: rest)
  | _ => .error (.cause .badCodePoint (s.length + 1))

/-- Reads the code point of an escape, whose letter was taken already: one code number, or two
that make up a surrogate pair. -/
def codePoint (s : List Char) : Except Stop (Char × List Char) := do
  let (n, rest) ← codeNumber s
  match rest with
  | c :: 'u' :: next =>
    if c == backslash && isHighHalf n && 4 < next.length then
      let (low, rest') ← codeNumber next
      if isLowHalf low then pure (charOf (joined n low), rest') else pure (charOf n, rest)
    else pure (charOf n, rest)
  | _ => pure (charOf n, rest)

/-- The character that a letter behind a backslash stands for. -/
def escaped? (c : Char) : Option Char :=
  match c with
  | '/' => some '/'
  | 'b' => some (Char.ofNat 8)
  | 'f' => some (Char.ofNat 12)
  | 'n' => some '\n'
  | 'r' => some '\r'
  | 't' => some '\t'
  | c => if c == doubleQuote || c == backslash then some c else none

/-- Reads a string up to its closing quote. `start` tells how many characters were left in front
of its opening quote, and `taken` what was read, last character first. -/
def stringFrom (start : Nat) : Nat → List Char → List Char → Except Stop (String × List Char)
  | 0, _, _ => .error (.cause .unterminatedString start)
  | _ + 1, _, [] => .error (.cause .unterminatedString start)
  | fuel + 1, taken, c :: rest =>
    if c == doubleQuote then .ok (String.ofList taken.reverse, rest)
    else if c.toNat < 32 then stopAt .controlCharacter (c :: rest)
    else if c != backslash then stringFrom start fuel (c :: taken) rest
    else
      match rest with
      | [] => .error (.cause .unterminatedString start)
      | 'u' :: rest => do
        let (d, rest) ← codePoint rest
        stringFrom start fuel (d :: taken) rest
      | letter :: rest =>
        match escaped? letter with
        | some d => stringFrom start fuel (d :: taken) rest
        | none => stopAt .badEscape (c :: letter :: rest)

/-- Reads a string whose opening quote was taken already. -/
def string (s : List Char) : Except Stop (String × List Char) :=
  stringFrom (s.length + 1) (s.length + 1) [] s

/-! ## Numbers -/

/-- The digits in front of other characters. -/
def digits (s : List Char) : List Char × List Char :=
  (s.takeWhile isAsciiDigit, s.dropWhile isAsciiDigit)

/-- The digits of the whole part of a number: a zero alone, or digits that start with no zero. -/
def wholePart? : List Char → Option (List Char × List Char)
  | '0' :: rest => some (['0'], rest)
  | c :: rest => if isAsciiDigit c then some (digits (c :: rest)) else none
  | [] => none

/-- The digits behind a decimal point, of which there is at least one. -/
def fraction? : List Char → Option (List Char × List Char)
  | '.' :: c :: rest => if isAsciiDigit c then some (digits (c :: rest)) else none
  | _ => none

/-- The value of an exponent, which has at least one digit. -/
def exponent? : List Char → Option (Int × List Char)
  | c :: rest =>
    if c == 'e' || c == 'E' then
      let (negative, body) := Numeral.takeSign rest
      let (ds, rest) := digits body
      if ds.isEmpty then none else some (Numeral.signedValue negative ds, rest)
    else none
  | [] => none

/-- Reads a number. -/
def number (s : List Char) : Except Stop (Value × List Char) :=
  let (negative, body) := match s with
    | '-' :: rest => (true, rest)
    | s => (false, s)
  match wholePart? body with
  | none => stopAt .expectingValue s
  | some (whole, afterWhole) =>
    let places := fraction? afterWhole
    let afterPlaces := (places.map (·.2)).getD afterWhole
    let exponent := exponent? afterPlaces
    if places.isNone && exponent.isNone then
      if Numeral.maxDigits < whole.length then .error .longNumeral
      else .ok (.int (Numeral.signedValue negative whole), afterWhole)
    else
      let decimals := (places.map (·.1)).getD []
      let decimal : Numeral.Decimal := {
        negative := negative
        coefficient := Numeral.digitsValue (whole ++ decimals)
        exponent := (exponent.map (·.1)).getD 0 - (decimals.length : Int) }
      .ok (.float decimal.toDouble, (exponent.map (·.2)).getD afterPlaces)

/-! ## Values -/

/-- The names that stand for values. -/
def constants : List (List Char × Value) :=
  [("null".toList, .null), ("true".toList, .bool true), ("false".toList, .bool false),
    ("NaN".toList, .float ⟨0x7FF8000000000000⟩), ("Infinity".toList, .float Double.infinity),
    ("-Infinity".toList, .float (Double.infinity.withSign true))]

/-- The value whose name comes next. -/
def constant? (s : List Char) : Option (Value × List Char) :=
  (constants.find? fun e ↦ e.1.isPrefixOf s).map fun e ↦ (e.2, s.drop e.1.length)

mutual

/-- Reads a value. -/
def value : Nat → List Char → Except Stop (Value × List Char)
  | 0, s => stopAt .expectingValue s
  | fuel + 1, s =>
    match s with
    | '[' :: rest =>
      match skip rest with
      | ']' :: rest => .ok (.list [], rest)
      | s => do
        let (found, rest) ← items fuel s
        pure (.list found, rest)
    | '\x7b' :: rest =>
      match skip rest with
      | '\x7d' :: rest => .ok (.object [], rest)
      | s => do
        let (found, rest) ← fields fuel s
        pure (.object (Table.ofList found), rest)
    | c :: rest =>
      if c == doubleQuote then do
        let (found, rest) ← string rest
        pure (.str found, rest)
      else
        match constant? s with
        | some found => .ok found
        | none => number s
    | [] => stopAt .expectingValue s

/-- Reads the items of a list up to its closing bracket; there is at least one. -/
def items : Nat → List Char → Except Stop (List Value × List Char)
  | 0, s => stopAt .expectingValue s
  | fuel + 1, s => do
    let (v, rest) ← value fuel s
    match skip rest with
    | ']' :: rest => pure ([v], rest)
    | ',' :: rest =>
      let (vs, rest) ← items fuel (skip rest)
      pure (v :: vs, rest)
    | rest => stopAt .expectingComma rest

/-- Reads the fields of an object up to its closing brace; there is at least one. -/
def fields : Nat → List Char → Except Stop (List (Key × Value) × List Char)
  | 0, s => stopAt .expectingName s
  | fuel + 1, s =>
    match s with
    | c :: rest =>
      if c != doubleQuote then stopAt .expectingName s
      else do
        let (name, rest) ← string rest
        match skip rest with
        | ':' :: rest =>
          let (v, rest) ← value fuel (skip rest)
          match skip rest with
          | '\x7d' :: rest => pure ([(.str name, v)], rest)
          | ',' :: rest =>
            let (vs, rest) ← fields fuel (skip rest)
            pure ((.str name, v) :: vs, rest)
          | rest => stopAt .expectingComma rest
        | rest => stopAt .expectingColon rest
    | [] => stopAt .expectingName s

end

/-- Reads a value and what stands around it. -/
def document (s : List Char) : Except Stop Value := do
  if s.head? = some (Char.ofNat 0xFEFF) then stopAt .byteOrderMark s
  else
    let (v, rest) ← value (2 * (s.length + 1)) (skip s)
    match skip rest with
    | [] => pure v
    | rest => stopAt .extraData rest

/-- Reads a JSON text. -/
def read? (s : String) : Except Fault Value :=
  let cs := s.toList
  (document cs).mapError fun
    | .cause cause left => Fault.at cause cs (cs.length - left)
    | .longNumeral => .longNumeral

end LineMachine.Json
