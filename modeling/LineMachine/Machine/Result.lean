import LineMachine.Machine.Run
import LineMachine.Template.Document

/-!
# Results of a run

What a finished run is reported as: the records, some counts, and, where it was asked for, an
account of every line.
-/

namespace LineMachine

/-- The outcome of running a template over a text. -/
structure ParseResult where
  templateId : Value
  templateName : Value
  records : List (Table Value)
  linesProcessed : Nat
  matched : Nat
  /-- The state that the run came to and that does not exist. -/
  unknownState : Option Value
  /-- What happened to every line. -/
  trace : Option (List Machine.TraceEntry)
  deriving DecidableEq

namespace ParseResult

/-- The outcome of a run that was made under a template's name. -/
def ofConfig (t : Template) (o : Options) (c : Machine.Config) : ParseResult where
  templateId := t.id
  templateName := t.name
  records := c.records
  linesProcessed := c.lines
  matched := c.matched
  unknownState := if c.status = .lost then some c.state else none
  trace := if o.debug then some c.trace else none

/-- The messages that a result carries. -/
def errors (r : ParseResult) : List String :=
  match r.unknownState with
  | some state => ["UnknownStateError: Unknown state: " ++ state.text]
  | none => []

/-! ## Documents -/

/-- A line's entry as a document. -/
def traceDocument (e : Machine.TraceEntry) : Value :=
  Value.ofFields [
    ("lineNumber", .int e.lineNumber),
    ("line", .str e.line),
    ("state", e.state),
    ("matched", .bool e.matched.isSome),
    ("matchedPatternIndex", match e.matched with
      | some index => .int index
      | none => .null)]

/-- The counts of a result as a document. -/
def metaDocument (r : ParseResult) : Value :=
  Value.ofFields ([("linesProcessed", .int r.linesProcessed), ("matches", .int r.matched)] ++
    (if r.errors.isEmpty then [] else [("errors", .list (r.errors.map .str))]))

/-- A result as a document. -/
def write (r : ParseResult) : Value :=
  Value.ofFields ([
    ("templateId", r.templateId),
    ("templateName", r.templateName),
    ("records", .list (r.records.map .object)),
    ("meta", r.metaDocument)] ++
    (match r.trace with
      | some entries => [("trace", .list (entries.map traceDocument))]
      | none => []))

end ParseResult

end LineMachine
