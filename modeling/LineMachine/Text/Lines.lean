import LineMachine.Text.Pieces

/-!
# Lines of a text

A line ends at a line feed, and a carriage return directly before that line feed belongs to the
terminator. What follows the last terminator is a line only if it is not empty, so a final
terminator adds no line. `universalNewlines` is the reading of text files: every kind of line
end becomes a line feed.
-/

namespace LineMachine.Text

/-- A terminated segment without the carriage return of its terminator. -/
def dropReturn (segment : List Char) : List Char :=
  if segment.getLast? = some '\r' then segment.dropLast else segment

/-- The lines of a text, from its segments between line feeds: all but the last one were
terminated. -/
def linesOfSegments : List (List Char) → List (List Char)
  | [] => []
  | [last] => if last.isEmpty then [] else [last]
  | segment :: rest => dropReturn segment :: linesOfSegments rest

/-- The lines of a text, as lists of characters. -/
def charLines (s : List Char) : List (List Char) :=
  linesOfSegments (splitAtChar '\n' s)

/-- The lines of a text. -/
def splitLines (s : String) : List String :=
  (charLines s.toList).map String.ofList

/-- The text of some lines, each ended by a line feed. -/
def terminated (lines : List String) : String :=
  String.join (lines.map (· ++ "\n"))

/-- Line feed, carriage return, and both in a row, each as one line feed. -/
def unifyNewlines : List Char → List Char
  | [] => []
  | '\r' :: '\n' :: rest => '\n' :: unifyNewlines rest
  | '\r' :: rest => '\n' :: unifyNewlines rest
  | c :: rest => c :: unifyNewlines rest

/-- A text as it is read from a text file. -/
def universalNewlines (s : String) : String :=
  String.ofList (unifyNewlines s.toList)

end LineMachine.Text
