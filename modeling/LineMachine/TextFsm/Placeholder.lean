import LineMachine.Text.Classes

/-!
# Placeholders

A rule of a TextFSM template names Values by placeholders: a dollar sign and a name, which may
stand in braces. A name is ASCII letters, digits and underscores and does not start with a digit.
Two dollar signs stand for one.
-/

namespace LineMachine.TextFsm

open Text

/-- May start the name in a placeholder. -/
def isNameStart (c : Char) : Bool :=
  isAsciiLetter c || c == '_'

/-- May stand in the name in a placeholder. -/
def isNamePart (c : Char) : Bool :=
  isNameStart c || isAsciiDigit c

/-- The name in front of other characters, if there is one. -/
def name? (s : List Char) : Option (List Char × List Char) :=
  match s with
  | c :: _ => if isNameStart c then some (s.takeWhile isNamePart, s.dropWhile isNamePart) else none
  | [] => none

/-- The name of a placeholder whose dollar sign was taken already, and what is left. -/
def placeholder? (s : List Char) : Option (List Char × List Char) :=
  match s with
  | '\x7b' :: rest =>
    match name? rest with
    | some (name, '\x7d' :: rest) => some (name, rest)
    | _ => none
  | s => name? s

/-- Puts texts in place of placeholders, taking at most `fuel` steps of one character or one
placeholder each. -/
def substituteFrom (texts : List (String × String)) : Nat → List Char → Option (List Char)
  | 0, _ => none
  | _ + 1, [] => some []
  | fuel + 1, '$' :: '$' :: rest => (substituteFrom texts fuel rest).map ('$' :: ·)
  | fuel + 1, '$' :: rest => do
    let (name, rest) ← placeholder? rest
    let text ← texts.lookup (String.ofList name)
    let more ← substituteFrom texts fuel rest
    pure (text.toList ++ more)
  | fuel + 1, c :: rest => (substituteFrom texts fuel rest).map (c :: ·)

/-- Puts texts in place of placeholders; `none` if there is a placeholder without a text, or a
dollar sign that starts no placeholder. -/
def substitute? (texts : List (String × String)) (s : String) : Option String :=
  (substituteFrom texts (s.toList.length + 1) s.toList).map String.ofList

end LineMachine.TextFsm
