import LineMachine.Fault
import LineMachine.Template
import LineMachine.Text.Case

/-!
# Filters on commands

A filter is a phrase such as `show version`. Its terms are what stands between blanks, hyphens and
underscores, in lower case and longer than two characters. It keeps the templates whose command
and id, taken together, contain every term.
-/

namespace LineMachine.Match

/-- Blanks and hyphens as underscores. -/
def joinWords (s : List Char) : List Char :=
  s.map fun c ↦ if c == ' ' || c == '-' then '_' else c

/-- The terms of a filter. -/
def terms (filter : String) : List (List Char) :=
  (Text.splitAtChar '_' (Text.lower (joinWords filter.toList))).filter (2 < ·.length)

/-- What the terms of a filter are looked for in. -/
def haystack (t : Template) : List Char :=
  joinWords (Text.lower ((t.command.orElse (.str "")).text ++ " " ++ t.id.text).toList)

/-- Whether a template has every term. -/
def passes (terms : List (List Char)) (t : Template) : Bool :=
  terms.all (Text.occursIn · (haystack t))

/-- The templates that a filter keeps; a filter that is not truthy keeps all. -/
def filterTemplates (templates : List Template) (filter : Value) :
    Except Fault (List Template) :=
  if filter.truthy then
    match filter with
    | .str phrase => .ok (templates.filter (passes (terms phrase)))
    | other => .error (.notPhrase other.kindName)
  else .ok templates

end LineMachine.Match
