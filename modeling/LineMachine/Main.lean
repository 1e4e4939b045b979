import LineMachine.Cli.Program
import Std.Time.DateTime

/-!
# The command line

The program on the machine it runs on: real files, the standard streams, the environment and the
clock.
-/

namespace LineMachine.Cli.LocalHost

/-- A number with at least `width` digits. -/
def padded (width : Nat) (n : Int) : String :=
  let digits := toString n
  Text.repeated '0' (width - digits.length) ++ digits

/-- A date and a time of Coordinated Universal Time, to the microsecond. A whole second is written
without a fraction. -/
def timeText (t : Std.Time.PlainDateTime) : String :=
  let micros := t.nanosecond.val / 1000
  padded 4 t.year ++ "-" ++ padded 2 t.month.val ++ "-" ++ padded 2 t.day.val ++ "T" ++
    padded 2 t.hour.val ++ ":" ++ padded 2 t.minute.val ++ ":" ++ padded 2 t.second.val ++
    (if micros = 0 then "" else "." ++ padded 6 micros) ++ "+00:00"

/-- The time now. -/
def now : IO String := do
  let nanos := (← Std.Time.Timestamp.now).toNanosecondsSinceUnixEpoch
  pure (timeText (.ofWallTime (.ofNanoseconds nanos)))

/-- What a path leads to. -/
def kindOf (path : String) : IO (Option FileKind) := do
  match ← (IO.FS.realPath path).toBaseIO with
  | .error _ => pure none
  | .ok real => pure (some (if ← real.isDir then .directory else .file))

/-- The names in a directory. -/
def namesIn (path : String) : IO (List String) := do
  pure ((← (← IO.FS.realPath path).readDir).toList.map (·.fileName))

/-- Why something could not be done. -/
def reason : IO.Error → String
  | .noFileOrDirectory _ _ details => details
  | .permissionDenied _ _ details => details
  | .inappropriateType _ _ details => details
  | e => toString e

/-- Writes a file, or says why not. -/
def writeFile (path text : String) : IO (Option String) := do
  match ← (IO.FS.writeFile path text).toBaseIO with
  | .ok () => pure none
  | .error e => pure (some (reason e))

/-- What is left of a stream, behind the text read so far. -/
partial def readAll (stream : IO.FS.Stream) (soFar : String) : IO String := do
  let line ← stream.getLine
  if line.isEmpty then pure soFar else readAll stream (soFar ++ line)

instance : Host IO where
  kindOf := kindOf
  namesIn := namesIn
  readFile path := IO.FS.readFile path
  writeFile := writeFile
  readInput := do readAll (← IO.getStdin) ""
  writeOutput text := do (← IO.getStdout).putStr text
  writeError text := do (← IO.getStderr).putStr text
  settingOf name := IO.getEnv name
  timestamp := now
  seconds := do pure ((← IO.monoNanosNow).toFloat / 1000000000)

/-- What is told about a run that did not end as it should. -/
def complaint : Stop → Option String
  | .usage => some (Program.usageLine "COMMAND")
  | .crashed crash => some crash.message
  | .failed => none
  | .shown => none

/-- Runs the program, and gives its exit code. -/
def run (args : List String) : IO UInt32 := do
  let outcome ← (Program.run (m := IO) args).run
  match outcome with
  | .error stop =>
    match complaint stop with
    | some text => IO.eprintln text
    | none => pure ()
  | .ok () => pure ()
  pure (Program.exitCode outcome).toUInt32

end LineMachine.Cli.LocalHost

/-- Runs the program on the machine at hand. -/
def main (args : List String) : IO UInt32 :=
  LineMachine.Cli.LocalHost.run args
