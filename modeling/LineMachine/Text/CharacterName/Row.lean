import LineMachine.Text.CodePoints
import LineMachine.Text.Pieces

/-!
# Rows of character names

The names of neighbouring characters, kept as text. Names are separated by commas, and the words of
a name by blanks or line ends. A row has one or more stems, words that stand in front of every name;
with several stems, as for capital and small letters that take turns, each name belongs to as many
neighbouring characters.
-/

namespace LineMachine.Text

/-- The names of the code points from `first` on. -/
structure NameRow where
  first : Nat
  stems : List String
  names : String
  deriving Repr

/-- The names in a text that separates them by commas. -/
def listedNames (s : String) : List String :=
  (splitAtChar ',' s.toList).map fun name ↦
    joinWith " " ((Run.words (String.ofList name)).map String.ofList)

namespace NameRow

/-- A name behind its stem. -/
def fullName (stem name : String) : String :=
  if stem.isEmpty then name else stem ++ " " ++ name

/-- The full names of a row, in the order of their code points. -/
def fullNames (r : NameRow) : List String :=
  (listedNames r.names).flatMap fun name ↦ r.stems.map (fullName · name)

/-- The code point of a name. -/
def find? (r : NameRow) (name : String) : Option Nat :=
  (r.fullNames.idxOf? name).map (r.first + ·)

end NameRow

end LineMachine.Text
