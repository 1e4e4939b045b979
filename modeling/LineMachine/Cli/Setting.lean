import LineMachine.Cli.Arguments
import LineMachine.Cli.Host
import LineMachine.Decimal.Numeral
import LineMachine.Text.Blank
import LineMachine.Text.Case
import LineMachine.Text.Lines

/-!
# Settings of a command

What an option is set to. An option that was not given is looked for among the settings of the
host, under the name of the program, the command and the option in capitals; an empty setting
counts as none. A value of the wrong form is a wrong call.
-/

namespace LineMachine.Cli

/-- The words that turn a flag on. -/
def onWords : List String := ["1", "true", "t", "yes", "y", "on"]

/-- The words that turn a flag off. -/
def offWords : List String := ["", "0", "false", "f", "no", "n", "off"]

/-- A truth value as a word, in whatever case; blanks alone turn a flag off. -/
def readFlag? (s : String) : Option Bool :=
  let word := Text.lowered (Text.trimmed s)
  if onWords.contains word then some true
  else if offWords.contains word then some false
  else none

/-- A call of a command: its name, if it is not the program itself, and its arguments. -/
structure Call where
  command : Option String
  arguments : Arguments

namespace Call

variable {m : Type → Type} [Monad m] [Host m]

/-- The name of the program in settings. -/
def programName : String := "FSMPARSE"

/-- The name that an option is set under on the host. -/
def settingName (c : Call) (name : String) : String :=
  let parts := match c.command with
    | some command => [programName, command.toUpper, name.toUpper]
    | none => [programName, name.toUpper]
  Text.joinWith "_" parts

/-- The setting of the host for an option. -/
def hostSetting? (c : Call) (name : String) : Command m (Option String) := do
  let found ← liftM (Host.settingOf (m := m) (c.settingName name))
  pure (found.filter (· != ""))

/-- The text that an option is set to. -/
def text? (c : Call) (name : String) : Command m (Option String) :=
  match c.arguments.value? name with
  | some value => pure (some value)
  | none => c.hostSetting? name

/-- Whether a flag is set. -/
def flag (c : Call) (name : String) : Command m Bool := do
  if c.arguments.has name then pure true
  else
    match ← c.hostSetting? name with
    | none => pure false
    | some word =>
      match readFlag? word with
      | some b => pure b
      | none => throw .usage

/-- The integer that an option is set to. -/
def integer (c : Call) (name : String) (default : Int) : Command m Int := do
  match ← c.text? name with
  | none => pure default
  | some word =>
    match Numeral.anyInteger? word.toList with
    | some n => pure n
    | none => throw .usage

/-- Which of several words an option is set to, in whatever case if `anyCase` is set. -/
def choice (c : Call) (name : String) (words : List String) (anyCase : Bool)
    (default : String) : Command m String := do
  match ← c.text? name with
  | none => pure default
  | some word =>
    let given := if anyCase then Text.lowered word else word
    if words.contains given then pure given else throw .usage

end Call

/-! ## Files -/

/-- Where text is read from. -/
inductive Source where
  | input
  | file (path : String)
  deriving DecidableEq, Repr

/-- Where text is written to. -/
inductive Target where
  | output
  | file (path : String)
  deriving DecidableEq, Repr

namespace Source

variable {m : Type → Type} [Monad m] [Host m]

/-- The source that a word names: the input, or a file that has to be there. -/
def ofWord (word : String) : Command m Source := do
  if word = "-" then pure .input
  else if (← liftM (Host.kindOf (m := m) word)) = some .file then pure (.file word)
  else throw .usage

/-- The text of a source. Every kind of line end is read as a line feed. -/
def read (s : Source) : Command m String := do
  let text ← match s with
    | .input => liftM (Host.readInput (m := m))
    | .file path => liftM (Host.readFile (m := m) path)
  pure (Text.universalNewlines text)

end Source

namespace Target

variable {m : Type → Type} [Monad m] [Host m]

/-- The target that a word names. -/
def ofWord (word : String) : Target :=
  if word = "-" then .output else .file word

/-- Writes text to a target. -/
def write (t : Target) (text : String) : Command m Unit := do
  match t with
  | .output => liftM (Host.writeOutput (m := m) text)
  | .file path =>
    match ← liftM (Host.writeFile (m := m) path text) with
    | none => pure ()
    | some reason =>
      Command.failWith ("Error: Could not open file " ++ Text.quoted path ++ ": " ++ reason)

end Target

end LineMachine.Cli
