import LineMachine.Fault
import LineMachine.Json.Fault
import LineMachine.Log.Message
import LineMachine.Text.ControlSequence

/-!
# What commands run on

A command reads and writes through a `Host`: files, an input and two outputs, settings by name,
and a clock. A command that does not come to its end stops for one of the reasons in `Stop`.
-/

namespace LineMachine.Cli

/-- What a path leads to. -/
inductive FileKind where
  | file
  | directory
  deriving DecidableEq, Repr

/-- What commands run on. -/
class Host (m : Type → Type) where
  /-- What a path leads to, if to anything. -/
  kindOf : String → m (Option FileKind)
  /-- The names in a directory. -/
  namesIn : String → m (List String)
  /-- The text of a file. -/
  readFile : String → m String
  /-- Writes a file, or says why not. -/
  writeFile : String → String → m (Option String)
  /-- All of the input. -/
  readInput : m String
  writeOutput : String → m Unit
  writeError : String → m Unit
  /-- The setting of a name. -/
  settingOf : String → m (Option String)
  /-- The time, as messages show it. -/
  timestamp : m String
  /-- A clock, in seconds. -/
  seconds : m Float

/-- What no command deals with. -/
inductive Crash where
  | fault (fault : Fault)
  | json (fault : Json.Fault)
  /-- A directory is read as a file. -/
  | directory (path : String)
  /-- A column of a grid is not named by a text. -/
  | untitledColumn
  deriving DecidableEq

/-- The wording of a crash. -/
def Crash.message : Crash → String
  | .fault f => f.message
  | .json f => f.message
  | .directory path => "Is a directory: '" ++ path ++ "'"
  | .untitledColumn => "a column has no title"

/-- Why a command stops. -/
inductive Stop where
  /-- It was called in a wrong way. -/
  | usage
  /-- It has shown what it was asked to show. -/
  | shown
  /-- It has failed and said so. -/
  | failed
  /-- It came upon something it does not deal with. -/
  | crashed (crash : Crash)
  deriving DecidableEq

/-- The exit code of a command that stopped. -/
def Stop.code : Stop → Nat
  | .usage => 2
  | .shown => 0
  | .failed => 1
  | .crashed _ => 1

/-- A command. -/
abbrev Command (m : Type → Type) (α : Type) := ExceptT Stop m α

namespace Command

variable {m : Type → Type} [Monad m] [Host m] {α : Type}

/-- A line as it is written. The outputs are no terminals, so it loses its control sequences. -/
def written (line : String) : String :=
  Text.withoutControlSequences (line ++ "\n")

/-- Writes a line to the output. -/
def say (line : String) : Command m Unit :=
  liftM (Host.writeOutput (m := m) (written line))

/-- Writes a line to the output for errors. -/
def complain (line : String) : Command m Unit :=
  liftM (Host.writeError (m := m) (written line))

/-- Stops with a complaint. -/
def failWith (message : String) : Command m α := do
  complain message
  throw .failed

/-- The result of something that may fail: a defect of a template is told, any other fault is not
dealt with. -/
def orFail (x : Except Fault α) : Command m α :=
  match x with
  | .ok a => pure a
  | .error fault =>
    if fault.isTemplateFault then failWith ("Error: " ++ fault.message)
    else throw (.crashed (.fault fault))

/-- The result of something whose faults are not dealt with. -/
def orCrash (x : Except Fault α) : Command m α :=
  match x with
  | .ok a => pure a
  | .error fault => throw (.crashed (.fault fault))

/-- Writes events to the log. -/
def log (settings : Log.Settings) (events : List Event) : Command m Unit := do
  let time ← liftM (Host.timestamp (m := m))
  liftM (Host.writeError (m := m)
    (Log.render settings time (events.map Log.Message.ofEvent)))

end Command

end LineMachine.Cli
