import LineMachine.Cli.Path
import LineMachine.Cli.Setting
import LineMachine.Engine
import LineMachine.Json.Reader
import LineMachine.Match.Best
import LineMachine.Record.Grid
import LineMachine.Template.Validation
import LineMachine.TextFsm.Import

/-!
# Commands

The commands on template documents: running one over a text, validating some, making one from a
TextFSM template, and finding the one that fits a text best.
-/

namespace LineMachine.Cli

variable {m : Type → Type} [Monad m] [Host m]

namespace Command

/-! ## Parts of commands -/

/-- The JSON document in a file. -/
def readDocument (path : String) : Command m (Except Json.Fault Value) := do
  if (← liftM (Host.kindOf (m := m) path)) = some .directory then
    throw (.crashed (.directory path))
  else pure (Json.read? (← (Source.file path).read))

/-- The JSON document in a file, which has to be well formed. -/
def requireDocument (path : String) : Command m Value := do
  match ← readDocument path with
  | .ok doc => pure doc
  | .error fault => throw (.crashed (.json fault))

/-- The paths of the documents that a path stands for: those in a directory, or itself. -/
def expand (path : String) : Command m (List String) := do
  if (← liftM (Host.kindOf (m := m) path)) = some .directory then
    let names := (← liftM (Host.namesIn (m := m) path)).filter Path.isJson
    pure ((names.mergeSort fun a b ↦ a ≤ b).map (Path.inside path))
  else pure [Path.shown path]

/-- The paths of the documents that several paths stand for. Each path has to lead somewhere. -/
def expandAll (paths : List String) : Command m (List String) := do
  let kinds ← paths.mapM fun path ↦ liftM (Host.kindOf (m := m) path)
  if paths.isEmpty || kinds.contains none then throw .usage
  else pure (← paths.mapM expand).flatten

/-- The result of an operation, with its events written to the log. -/
def logged {α : Type} (settings : Log.Settings) (a : Answer α) : Command m (Except Fault α) := do
  log settings a.events
  pure a.result

/-- Shows records as a grid. -/
def sayRecords (records : List Record) : Command m Unit :=
  match Record.lines? records with
  | some lines => lines.forM say
  | none => throw (.crashed .untitledColumn)

/-! ## Running a template -/

/-- What happened to a line, as it is shown. -/
def traceLine (e : Machine.TraceEntry) : String :=
  let marker := match e.matched with
    | some index => "#" ++ toString index
    | none => "-"
  "  " ++ Text.padLeft 4 (toString e.lineNumber) ++ " [" ++ e.state.text ++ "] " ++
    Text.padLeft 4 marker ++ "  " ++ e.line

/-- Shows the result of a run. -/
def sayResult (r : ParseResult) : Command m Unit := do
  sayRecords r.records
  say ""
  say ("Lines processed: " ++ toString r.linesProcessed)
  say ("Matches: " ++ toString r.matched)
  r.errors.forM fun e ↦ say ("Error: " ++ e)
  match r.trace with
  | some (e :: rest) => do
    say "\nTrace:"
    (e :: rest).forM fun e ↦ say (traceLine e)
  | _ => pure ()

/-- What the command that runs a template is told. -/
structure ParseSettings where
  template : String
  source : Source
  options : Options
  validate : Bool
  json : Bool

/-- Refuses a document with problems. -/
def requireValid (path : String) (doc : Value) : Command m Unit := do
  let problems ← orCrash (Validation.validate doc)
  if problems.isEmpty then pure ()
  else
    complain ("Invalid template: " ++ path)
    problems.forM fun p ↦ complain ("  " ++ p.message)
    throw .failed

/-- Runs a template over a text. -/
def parse (log : Log.Settings) (s : ParseSettings) : Command m Unit := do
  let doc ← requireDocument s.template
  if s.validate then requireValid s.template doc
  let text ← s.source.read
  let t ← orFail (Template.read doc)
  let r ← orFail (← logged log (Engine.parse Cache.empty (.str text) t s.options))
  if s.json then say (Json.indented r.write) else sayResult r

/-! ## Validating documents -/

/-- The mark of a document without problems. -/
def goodMark : String := "✓ "

/-- The mark of a document with problems. -/
def badMark : String := "✗ "

/-- Validates the document in one file, and tells whether it is valid. -/
def validateFile (path : String) : Command m Bool := do
  match ← readDocument path with
  | .error .longNumeral => throw (.crashed (.json .longNumeral))
  | .error fault => do
    say (badMark ++ path ++ ": invalid JSON: " ++ fault.message)
    pure false
  | .ok doc => do
    let problems ← orCrash (Validation.validate doc)
    say ((if problems.isEmpty then goodMark else badMark) ++ path)
    problems.forM fun p ↦ say ("    " ++ p.message)
    pure problems.isEmpty

/-- Validates documents. -/
def validate (files : List String) : Command m Unit := do
  let verdicts ← files.mapM validateFile
  if verdicts.all id then pure () else throw .failed

/-! ## Making a template from TextFSM -/

/-- What the command that reads TextFSM is told. -/
structure ConvertSettings where
  source : Source
  id : Option String
  name : Option String
  vendor : String
  command : Option String
  target : Target

/-- A text, or null. -/
def textOrNull (s : Option String) : Value :=
  match s with
  | some text => .str text
  | none => .null

/-- The name that the input goes by. -/
def inputName : String := "<stdin>"

/-- The id of a template that was given none: the name of its file. A file that goes by the name of
the input is taken for it. -/
def defaultId : Source → String
  | .input => "textfsm_template"
  | .file path => if path = inputName then "textfsm_template" else Path.stem path

/-- How the template is labelled. -/
def heading (s : ConvertSettings) : TextFsm.Heading where
  id := .str ((s.id.filter (· != "")).getD (defaultId s.source))
  name := textOrNull s.name
  vendor := .str s.vendor
  command := textOrNull s.command

/-- Makes a template document from a TextFSM template. -/
def convert (settings : Log.Settings) (s : ConvertSettings) : Command m Unit := do
  let text ← s.source.read
  let d ← orFail (TextFsm.readDocument text)
  let h := heading s
  log settings (d.importEvents h.id)
  s.target.write (Json.indented (d.toTemplate h).write ++ "\n")

/-! ## Finding the best template -/

/-- What the command that compares templates is told. -/
structure MatchSettings where
  files : List String
  source : Source
  filter : Option String
  top : Int
  json : Bool
  verbose : Bool

/-- The templates in files, without the documents that are not valid. -/
def readTemplates (verbose : Bool) : List String → Command m (List Template)
  | [] => pure []
  | path :: rest => do
    let doc ← requireDocument path
    if ← orCrash (Validation.isValid doc) then
      let t ← orCrash (Template.read doc)
      pure (t :: (← readTemplates verbose rest))
    else
      if verbose then complain ("Skipping invalid template: " ++ path)
      readTemplates verbose rest

/-- A score as it is shown. -/
def scoreText (score : Float) : String :=
  (Double.ofFloat score).fixedText 2

/-- A line of the ranking. -/
def rankingLine (r : MatchResult Float) (entry : Scored Float × Nat) : String :=
  let (s, i) := entry
  "  " ++ toString (i + 1) ++ ". " ++ s.template.text ++ ": score=" ++ scoreText s.score ++
    ", records=" ++ toString s.records.length ++
    (if s.template.sameKey r.bestTemplate then " <--" else "")

/-- A line between headings. -/
def rule : String := Text.repeated '=' 60

/-- Shows the result of a comparison. -/
def sayMatch (r : MatchResult Float) (top : Int) (elapsed : Float) : Command m Unit := do
  say rule
  say "RESULTS"
  say rule
  if r.bestTemplate.truthy then
    say ("Best template: " ++ r.bestTemplate.text)
    say ("Score: " ++ scoreText r.bestScore)
    say ("Records parsed: " ++ toString r.bestRecords.length)
  else say "No matching template found"
  if !r.ranking.isEmpty && 1 < top then
    say ("\nTop " ++ toString (min top.toNat r.ranking.length) ++ " matches:")
    (r.ranking.take top.toNat).zipIdx.forM fun e ↦ say (rankingLine r e)
  say ("\nElapsed: " ++ scoreText elapsed ++ "s")

/-- A result of a comparison as a document, with the time it took. -/
def matchDocument (r : MatchResult Float) (top : Int) (elapsed : Float) : Value :=
  match r.write (some top) with
  | .object fields =>
    .object (fields ++ [(.str "elapsedSeconds", .float (Double.ofFloat elapsed))])
  | other => other

/-- Finds the template that fits a text best. -/
def findBest (log : Log.Settings) (s : MatchSettings) : Command m Unit := do
  let templates ← readTemplates s.verbose s.files
  let text ← s.source.read
  if Text.allBlank text then failWith "Error: No input provided"
  else
    let begun ← liftM (Host.seconds (m := m))
    let a := Match.findBest Cache.empty (.str text) templates (textOrNull s.filter)
    let r ← orCrash (← logged log a)
    let elapsed := (← liftM (Host.seconds (m := m))) - begun
    if s.json then say (Json.indented (matchDocument r s.top elapsed))
    else
      sayMatch r s.top elapsed
      if !r.bestRecords.isEmpty && s.verbose then
        say ""
        sayRecords r.bestRecords

end Command

end LineMachine.Cli
