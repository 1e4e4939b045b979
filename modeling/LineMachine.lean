import LineMachine.Cache
import LineMachine.Cli.Arguments
import LineMachine.Cli.Commands
import LineMachine.Cli.Examples
import LineMachine.Cli.Host
import LineMachine.Cli.Memory
import LineMachine.Cli.Path
import LineMachine.Cli.Program
import LineMachine.Cli.Samples
import LineMachine.Cli.Setting
import LineMachine.Coercion
import LineMachine.Decimal.Double
import LineMachine.Decimal.Numeral
import LineMachine.Decimal.Shortest
import LineMachine.Engine
import LineMachine.Event
import LineMachine.Fault
import LineMachine.Json.Fault
import LineMachine.Json.Reader
import LineMachine.Json.Writer
import LineMachine.Log.Message
import LineMachine.Machine
import LineMachine.Machine.Result
import LineMachine.Machine.Run
import LineMachine.Main
import LineMachine.Match.Best
import LineMachine.Match.Filter
import LineMachine.Match.Score
import LineMachine.Record
import LineMachine.Record.Grid
import LineMachine.Regex.Fault
import LineMachine.Regex.Matcher
import LineMachine.Regex.Reader
import LineMachine.Regex.Scan
import LineMachine.Regex.Syntax
import LineMachine.Session
import LineMachine.Table
import LineMachine.Template
import LineMachine.Template.Document
import LineMachine.Template.Pattern
import LineMachine.Template.Starter
import LineMachine.Template.Validation
import LineMachine.Text.Blank
import LineMachine.Text.Case
import LineMachine.Text.Category
import LineMachine.Text.CharacterName
import LineMachine.Text.CharacterName.Further
import LineMachine.Text.CharacterName.Letters
import LineMachine.Text.CharacterName.Row
import LineMachine.Text.CharacterName.Signs
import LineMachine.Text.Classes
import LineMachine.Text.CodePoints
import LineMachine.Text.ControlSequence
import LineMachine.Text.LaterCharacters
import LineMachine.Text.Lines
import LineMachine.Text.Pieces
import LineMachine.Text.Quoted
import LineMachine.TextFsm.Document
import LineMachine.TextFsm.Expression
import LineMachine.TextFsm.Expression.Fault
import LineMachine.TextFsm.Expression.Token
import LineMachine.TextFsm.Fault
import LineMachine.TextFsm.Import
import LineMachine.TextFsm.Placeholder
import LineMachine.TextFsm.Reader
import LineMachine.TextFsm.ValueName
import LineMachine.Value
import LineMachine.Value.Text
import LineMachine.Proofs.Except
import LineMachine.Proofs.Lines
import LineMachine.Proofs.Run.Change
import LineMachine.Proofs.Run.Step
import LineMachine.Proofs.Engine
import LineMachine.Proofs.Run.Prefix
import LineMachine.Proofs.Run.History
import LineMachine.Proofs.Regex.WholeLine
import LineMachine.Proofs.Regex.Lawful
import LineMachine.Proofs.Machine
import LineMachine.Proofs.Run.Replay
import LineMachine.Proofs.Run.Trace
import LineMachine.Proofs.Run.Safe
import LineMachine.Proofs.Template.Sound
import LineMachine.Proofs.Template.Safety
import LineMachine.Proofs.Run.Course
import LineMachine.Proofs.Run.Blind
import LineMachine.Proofs.Run.Reset
import LineMachine.Proofs.Coercion
import LineMachine.Proofs.Run.Coerced
import LineMachine.Proofs.Cache.Past
import LineMachine.Proofs.Cache.Stamp
import LineMachine.Proofs.Match.Tried
import LineMachine.Proofs.Session.Caching
import LineMachine.Proofs.Match.Ranking
import LineMachine.Proofs.Match.Points
import LineMachine.Proofs.Match.Comparison
import LineMachine.Proofs.Run.Told
import LineMachine.Proofs.TextFsm.Reader
import LineMachine.Proofs.TextFsm.Worded
import LineMachine.Proofs.TextFsm.Lawful
import LineMachine.Proofs.TextFsm.Imported
import LineMachine.Proofs.TextFsm.States
import LineMachine.Proofs.TextFsm.Start
import LineMachine.Proofs.TextFsm.Carried
import LineMachine.Proofs.TextFsm.Filldown
import LineMachine.Proofs.Template.Described
import LineMachine.Proofs.Match.Broken
import LineMachine.Proofs.Template.RoundTrip
import LineMachine.Proofs.Template.Revalidation
import LineMachine.Proofs.Template.WellFormed
import LineMachine.Proofs.Template.Reordered
import LineMachine.Proofs.Simulation
import LineMachine.Proofs.Run.Reachable
import LineMachine.Proofs.Template.Renamed
import LineMachine.Proofs.Run.Renamed
import LineMachine.Proofs.Cache.Edit
import LineMachine.Proofs.Session.Upkeep
import LineMachine.Proofs.Json.Strings
import LineMachine.Proofs.Json.RoundTrip
import LineMachine.Proofs.Cli.Files
import LineMachine.Proofs.TextFsm.Converted
import LineMachine.Proofs.Lines.Terminators
import LineMachine.Proofs.Template.Accepted
import LineMachine.Proofs.TextFsm.Importable
import LineMachine.Proofs.Run.Refusal
import LineMachine.Proofs.Decimal.Format
import LineMachine.Proofs.Decimal.Rounding
import LineMachine.Proofs.Decimal.Numeral
import LineMachine.Proofs.Decimal.Recognition
import LineMachine.Proofs.Coercion.Commas
import LineMachine.Proofs.Machine.Outcome
import LineMachine.Proofs.Template.Faults
import LineMachine.Proofs.Template.Misuse
import LineMachine.Proofs.Cli.Reports
import LineMachine.Proofs.Case
import LineMachine.Proofs.Pieces
import LineMachine.Proofs.Record.Columns
import LineMachine.Proofs.Record.Recast
import LineMachine.Proofs.Match.Counted
import LineMachine.Proofs.Match.Scale
import LineMachine.Proofs.Match.Terms
import LineMachine.Proofs.Template.Starter
import LineMachine.Proofs.Run.Final
import LineMachine.Proofs.Engine.Events
import LineMachine.Proofs.Session.Events
import LineMachine.Proofs.ControlSequence
import LineMachine.Proofs.Record.Grid
import LineMachine.Proofs.Cli.Grid
