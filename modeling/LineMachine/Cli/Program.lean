import LineMachine.Cli.Examples

/-!
# The program

The program takes options of its own, then the name of a command, then the options and words of
that command. This module says which options there are and how a call of each command is read; a
call that does not fit stops before the command does anything.
-/

namespace LineMachine.Cli

/-! ## Commands and their options -/

/-- The commands of the program. -/
inductive Verb where
  | parse
  | validate
  | convert
  | findBest
  | examples
  deriving DecidableEq, Repr

namespace Verb

/-- The name of a command. -/
def name : Verb → String
  | .parse => "parse"
  | .validate => "validate"
  | .convert => "convert"
  | .findBest => "match"
  | .examples => "examples"

/-- Every command. -/
def all : List Verb := [.parse, .validate, .convert, .findBest, .examples]

/-- The command of a name. -/
def ofName? (s : String) : Option Verb :=
  all.find? (·.name == s)

end Verb

/-- A flag with a long name only. -/
def flagSpec (name long : String) : OptionSpec where
  name := name
  long := long
  takesValue := false

/-- The flag that asks for help. -/
def helpFlag : OptionSpec := flagSpec "help" "help"

/-- The flag that asks for the version. -/
def versionFlag : OptionSpec := flagSpec "version" "version"

/-- The option for the text to work on. -/
def inputOption : OptionSpec := { name := "input_file", long := "input", letter := some 'i' }

/-- The flag for output as JSON. -/
def jsonFlag : OptionSpec :=
  { name := "output_json", long := "json", letter := some 'j', takesValue := false }

/-- The options of the program itself. -/
def programOptions : List OptionSpec := [
  { name := "log_level", long := "log-level" },
  { name := "log_format", long := "log-format" },
  versionFlag,
  helpFlag]

/-- The options of a command. -/
def Verb.options : Verb → List OptionSpec
  | .parse => [
    inputOption,
    flagSpec "debug" "debug",
    flagSpec "reset_on_emit" "reset-on-emit",
    flagSpec "coerce_types" "coerce-types",
    flagSpec "no_validate" "no-validate",
    jsonFlag,
    helpFlag]
  | .validate => [helpFlag]
  | .convert => [
    { name := "template_id", long := "id" },
    { name := "name", long := "name" },
    { name := "vendor", long := "vendor" },
    { name := "cli_command", long := "command" },
    { name := "output", long := "output", letter := some 'o' },
    helpFlag]
  | .findBest => [
    inputOption,
    { name := "command_filter", long := "filter", letter := some 'f' },
    { name := "top", long := "top", letter := some 't' },
    jsonFlag,
    { name := "verbose", long := "verbose", letter := some 'v', takesValue := false },
    helpFlag]
  | .examples => [
    flagSpec "table" "table",
    flagSpec "paragraph" "paragraph",
    flagSpec "multisection" "multisection",
    helpFlag]

/-! ## Reading calls -/

namespace Call

variable {m : Type → Type} [Monad m] [Host m]

/-- Takes the arguments of a call apart. -/
def read (command : Option String) (specs : List OptionSpec) (mixed : Bool)
    (args : List String) : Command m Call :=
  match Arguments.read? specs mixed args with
  | some arguments => pure ⟨command, arguments⟩
  | none => throw .usage

/-- The one word of a call. -/
def onlyWord (c : Call) : Command m String :=
  match c.arguments.words with
  | [word] => pure word
  | _ => throw .usage

/-- Refuses words. -/
def noWords (c : Call) : Command m Unit :=
  if c.arguments.words.isEmpty then pure () else throw .usage

/-- Where the text to work on comes from. -/
def input (c : Call) : Command m Source := do
  Source.ofWord ((← c.text? "input_file").getD "-")

/-- How the log is kept. -/
def logSettings (c : Call) : Command m Log.Settings := do
  let level ← c.choice "log_level" ["debug", "info", "warning", "error"] true "warning"
  let format ← c.choice "log_format" ["text", "json"] false "text"
  pure (Log.Settings.ofNames level format)

/-- A call of the command that runs a template. -/
def parseSettings (c : Call) : Command m Command.ParseSettings := do
  let template ← c.onlyWord
  if (← liftM (Host.kindOf (m := m) template)) ≠ some .file then throw .usage
  pure {
    template := template
    source := ← c.input
    options := {
      debug := ← c.flag "debug"
      resetOnEmit := ← c.flag "reset_on_emit"
      coerceTypes := ← c.flag "coerce_types" }
    validate := !(← c.flag "no_validate")
    json := ← c.flag "output_json" }

/-- A call of the command that reads TextFSM. -/
def convertSettings (c : Call) : Command m Command.ConvertSettings := do
  pure {
    source := ← Source.ofWord (← c.onlyWord)
    id := ← c.text? "template_id"
    name := ← c.text? "name"
    vendor := (← c.text? "vendor").getD "generic"
    command := ← c.text? "cli_command"
    target := Target.ofWord ((← c.text? "output").getD "-") }

/-- A call of the command that compares templates. -/
def matchSettings (c : Call) : Command m Command.MatchSettings := do
  let source ← c.input
  let top ← c.integer "top" 5
  let json ← c.flag "output_json"
  let verbose ← c.flag "verbose"
  pure {
    files := ← Command.expandAll c.arguments.words
    source := source
    filter := ← c.text? "command_filter"
    top := top
    json := json
    verbose := verbose }

/-- A call of the command that shows examples. -/
def exampleChoice (c : Call) : Command m ExampleChoice := do
  c.noWords
  pure {
    table := ← c.flag "table"
    paragraph := ← c.flag "paragraph"
    multisection := ← c.flag "multisection" }

end Call

/-! ## Running -/

namespace Program

variable {m : Type → Type} [Monad m] [Host m]

/-- The name of the program. -/
def name : String := "fsmparse"

/-- The version of the program. -/
def version : String := "1.0.0"

/-- How a command is called. -/
def usageLine (command : String) : String :=
  "Usage: " ++ name ++ " " ++ command ++ " [OPTIONS]"

/-- Shows how a command is called, if that is asked for. -/
def helpIfAsked (c : Call) (command : String) : Command m Unit := do
  if ← c.flag helpFlag.name then
    Command.say (usageLine command)
    throw .shown

/-- Shows the version, if that is asked for. -/
def versionIfAsked (c : Call) : Command m Unit := do
  if ← c.flag versionFlag.name then
    Command.say (name ++ ", version " ++ version)
    throw .shown

/-- Carries out a call of a command. -/
def runVerb (log : Log.Settings) (c : Call) : Verb → Command m Unit
  | .parse => do Command.parse log (← c.parseSettings)
  | .validate => do Command.validate (← Command.expandAll c.arguments.words)
  | .convert => do Command.convert log (← c.convertSettings)
  | .findBest => do Command.findBest log (← c.matchSettings)
  | .examples => do Command.examples log (← c.exampleChoice)

/-- Runs the program with arguments. -/
def run (args : List String) : Command m Unit := do
  let outer ← Call.read none programOptions false args
  versionIfAsked outer
  helpIfAsked outer "COMMAND"
  let log ← outer.logSettings
  match outer.arguments.words with
  | [] => throw .usage
  | word :: rest =>
    match Verb.ofName? word with
    | none => throw .usage
    | some verb =>
      let c ← Call.read (some verb.name) verb.options true rest
      helpIfAsked c verb.name
      runVerb log c verb

/-- The exit code of a run. -/
def exitCode : Except Stop Unit → Nat
  | .ok () => 0
  | .error stop => stop.code

end Program

end LineMachine.Cli
