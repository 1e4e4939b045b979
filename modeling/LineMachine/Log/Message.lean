import LineMachine.Event
import LineMachine.Json.Writer
import LineMachine.Text.Case

/-!
# Log messages

How messages are written to a log: one line each, either as a JSON object or set in columns. Only
messages of the library's own loggers are written, and of those only the ones that matter as much
as the log asks for.

Some fields are special. A call stack and an exception are texts of several lines, and stand below
a line of columns. Fields that ask for them to be collected are never shown. A message may also
report the exception under way; there is none, and a line says so.
-/

namespace LineMachine.Log

/-- A message of a logger. A null event is none. -/
structure Message where
  logger : String
  level : Level
  event : Value
  fields : List (String × Value)
  reportsException : Bool := false
  deriving DecidableEq

/-- An event as a message. -/
def Message.ofEvent (e : Event) : Message where
  logger := e.source
  level := e.level
  event := .str e.name
  fields := e.fields

/-! ## Settings -/

/-- How a line is laid out. -/
inductive Format where
  | json
  | text
  deriving DecidableEq, Repr

/-- What a log shows, and how. -/
structure Settings where
  level : Level
  format : Format
  deriving DecidableEq, Repr

/-- The level of a name, in whatever case; warnings and worse for a name that is not known. -/
def levelOfName (name : String) : Level :=
  match Text.lowered name with
  | "debug" => .debug
  | "info" => .info
  | "error" => .error
  | _ => .warning

/-- The format of a name. -/
def formatOfName (name : String) : Format :=
  if name = "json" then .json else .text

/-- The settings that go by a level's name and a format's name. -/
def Settings.ofNames (level format : String) : Settings where
  level := levelOfName level
  format := formatOfName format

/-- What is above every logger of the library. -/
def rootLogger : String := "fsmparse"

/-- Whether a logger is one of the library. -/
def isOwnLogger (name : String) : Bool :=
  name == rootLogger || (rootLogger ++ ".").toList.isPrefixOf name.toList

/-- The level from which on messages of a logger are worked on; all loggers but the library's keep
to warnings. -/
def Settings.threshold (s : Settings) (logger : String) : Level :=
  if isOwnLogger logger then s.level else .warning

/-- Whether a message matters enough to be worked on. -/
def Settings.admits (s : Settings) (m : Message) : Bool :=
  (s.threshold m.logger).rank ≤ m.level.rank

/-- Whether a message is shown. -/
def Settings.shows (s : Settings) (m : Message) : Bool :=
  isOwnLogger m.logger && s.admits m

/-! ## Special fields -/

/-- Fields that ask for an exception or a call stack to be collected. -/
def requestNames : List String := ["exc_info", "stack_info"]

/-- The field of a call stack. -/
def stackName : String := "stack"

/-- The field of an exception. -/
def exceptionName : String := "exception"

/-- Names that no field may have, as the parts of a call go by them. -/
def reservedNames : List String := ["self", "method_name", "event"]

/-- A message that cannot be written. -/
inductive Fault where
  | reservedField (name : String)
  | notText (name : String)
  deriving DecidableEq, Repr

/-- The fault of a field that has to be text, if it is there. -/
def textFault? (fields : List (String × Value)) (name : String) : Option Fault :=
  match fields.lookup name with
  | none | some .null | some (.str _) => none
  | some _ => some (.notText name)

/-- What is wrong with a message, if anything. Only columns need the texts below a line. -/
def Settings.fault? (s : Settings) (m : Message) : Option Fault :=
  match m.fields.find? fun e ↦ reservedNames.contains e.1 with
  | some e => some (.reservedField e.1)
  | none =>
    if s.format == .text && s.admits m then
      (textFault? m.fields stackName).or (textFault? m.fields exceptionName)
    else none

/-! ## Lines -/

/-- A value that is not null. -/
def present? : Value → Option Value
  | .null => none
  | v => some v

/-- All that a line is about: the fields of a message, and its event, logger, level and time. -/
def parts (m : Message) (time : String) : Table Value :=
  let shown := m.fields.filter fun e ↦ !requestNames.contains e.1
  let fields : Table Value := Table.ofList (shown.map fun e ↦ (.str e.1, e.2))
  let event := (present? m.event).toList.map fun v ↦ ("event", v)
  let rest : List (String × Value) :=
    [("logger", .str m.logger), ("level", .str m.level.name), ("timestamp", .str time)]
  (event ++ rest).foldl (fun t e ↦ Table.put t (.str e.1) e.2) fields

/-- Characters that make a text be shown between quotes. -/
def needsQuotes (c : Char) : Bool :=
  c == ' ' || c == '\t' || c == '=' || c == '\r' || c == '\n' || c == Text.singleQuote ||
    c == Text.doubleQuote

/-- The value of a field in columns. -/
def fieldText (v : Value) : String :=
  match v with
  | .str s => if s.toList.any needsQuotes then v.display else s
  | v => v.display

/-- Drops the blanks at the end of a line. -/
def dropBlanks (s : String) : String :=
  String.ofList (s.toList.reverse.dropWhile (· == ' ')).reverse

/-- The field of a second logger, which has a column when it is there. -/
def secondLoggerName : String := "logger_name"

/-- The parts that have a place of their own. -/
def placedNames : List String :=
  ["timestamp", "level", "event", "logger", secondLoggerName, stackName, exceptionName]

/-- The fields that have no place of their own, in the order of their names. -/
def otherFields (t : Table Value) : List (String × Value) :=
  let named := t.map fun e ↦ (e.1.text, e.2)
  (named.filter fun e ↦ !placedNames.contains e.1).mergeSort fun a b ↦ a.1 ≤ b.1

/-- A line set in columns. -/
def columnLine (m : Message) (time : String) : String :=
  let fields := (otherFields (parts m time)).map fun e ↦ e.1 ++ "=" ++ fieldText e.2
  let event := (present? m.event).toList.map fun v ↦ Text.padRight 30 v.text
  let second := (m.fields.lookup secondLoggerName).toList.map fun v ↦ "[" ++ v.text ++ "]"
  dropBlanks (Text.joinWith " " ([time, "[" ++ Text.padRight 9 m.level.name ++ "]"] ++ event ++
    ["[" ++ m.logger ++ "]"] ++ second ++ fields))

/-- What stands below a line of columns: the call stack, and the exception; a rule of 79 signs
parts the two. -/
def below (m : Message) : String :=
  let part (name : String) : Option String :=
    ((m.fields.lookup name).bind present?).map Value.text
  match part stackName, part exceptionName with
  | none, none => ""
  | some stack, none => "\n" ++ stack
  | none, some cause => "\n" ++ cause
  | some stack, some cause =>
    "\n" ++ stack ++ "\n\n" ++ String.ofList (List.replicate 79 '=') ++ "\n\n" ++ cause

/-- The line that stands for the exception under way when there is none. -/
def noException : String := "NoneType: None"

/-- Adds the exception under way to what is written for a message, on a line of its own. -/
def withException (written : String) : String :=
  if written.endsWith "\n" then written ++ noException else written ++ "\n" ++ noException

/-- What is written for a message. -/
def line (format : Format) (m : Message) (time : String) : String :=
  let written := match format with
    | .json => Json.compact (.object (parts m time))
    | .text => columnLine m time ++ below m
  if m.reportsException then withException written else written

/-- What is written for messages. -/
def render (s : Settings) (time : String) (messages : List Message) : String :=
  String.join ((messages.filter s.shows).map fun m ↦ line s.format m time ++ "\n")

end LineMachine.Log
