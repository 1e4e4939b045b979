import LineMachine.Value.Text

/-!
# Events

What the library reports about its own work while it compiles, runs and compares templates. Every
event belongs to one part of the library, has a level and carries named fields.
-/

namespace LineMachine

/-- How much an event or a message matters. -/
inductive Level where
  | debug
  | info
  | warning
  | error
  | critical
  deriving DecidableEq, Repr

namespace Level

/-- The name of a level. -/
def name : Level → String
  | .debug => "debug"
  | .info => "info"
  | .warning => "warning"
  | .error => "error"
  | .critical => "critical"

/-- Levels in their order. -/
def rank : Level → Nat
  | .debug => 10
  | .info => 20
  | .warning => 30
  | .error => 40
  | .critical => 50

end Level

/-- Something that happened. -/
inductive Event where
  /-- A template was compiled. -/
  | templateCompiled (id : Value) (states patterns : Nat)
  /-- A compiled template was found in a cache. -/
  | cacheHit (id : Value)
  /-- A compiled template was not found in a cache. -/
  | cacheMiss (id : Value)
  /-- A run came to a state that does not exist. -/
  | unknownState (id state : Value) (line : Nat)
  /-- A run was finished. -/
  | parseCompleted (id : Value) (records lines matched : Nat) (finalState : Value)
  /-- The comparison of templates starts. -/
  | matchStarted (candidates : Nat) (filter : Value)
  /-- A template was left out of a comparison. -/
  | templateSkipped (id : Value) (reason : String)
  /-- A TextFSM Value has options that are not supported. -/
  | unsupportedOptions (id : Value) (name : String) (options : List String)
  /-- A TextFSM rule has a line operation that is not supported. -/
  | unsupportedOperation (id : Value) (state rule operation : String)
  deriving DecidableEq

namespace Event

/-- The name that an event is reported under. -/
def name : Event → String
  | .templateCompiled .. => "template_compiled"
  | .cacheHit .. => "compiled_cache_hit"
  | .cacheMiss .. => "compiled_cache_miss"
  | .unknownState .. => "unknown_state"
  | .parseCompleted .. => "parse_completed"
  | .matchStarted .. => "match_started"
  | .templateSkipped .. => "match_template_failed"
  | .unsupportedOptions .. => "textfsm_feature_unsupported"
  | .unsupportedOperation .. => "textfsm_feature_unsupported"

/-- The level of an event. -/
def level : Event → Level
  | .unknownState .. => .warning
  | .templateSkipped .. => .info
  | .unsupportedOptions .. => .warning
  | .unsupportedOperation .. => .warning
  | _ => .debug

/-- The name of the part of the library that an event comes from. -/
def source : Event → String
  | .templateCompiled .. => "fsmparse.compiler"
  | .cacheHit .. => "fsmparse.cache"
  | .cacheMiss .. => "fsmparse.cache"
  | .unknownState .. => "fsmparse.engine"
  | .parseCompleted .. => "fsmparse.engine"
  | .matchStarted .. => "fsmparse.matcher"
  | .templateSkipped .. => "fsmparse.matcher"
  | .unsupportedOptions .. => "fsmparse.textfsm_import"
  | .unsupportedOperation .. => "fsmparse.textfsm_import"

/-- A count as a value. -/
def count (n : Nat) : Value := .int n

/-- The fields of an event, in the order in which they are reported. -/
def fields : Event → List (String × Value)
  | .templateCompiled id states patterns =>
    [("template_id", id), ("states", count states), ("patterns", count patterns)]
  | .cacheHit id => [("template_id", id)]
  | .cacheMiss id => [("template_id", id)]
  | .unknownState id state line =>
    [("template_id", id), ("state", state), ("line_number", count line)]
  | .parseCompleted id records lines matched finalState =>
    [("template_id", id), ("records", count records), ("lines_processed", count lines),
      ("matches", count matched), ("final_state", finalState)]
  | .matchStarted candidates filter => [("candidates", count candidates), ("filter", filter)]
  | .templateSkipped id reason => [("template_id", id), ("error", .str reason)]
  | .unsupportedOptions id name options =>
    [("template_id", id), ("value", .str name), ("options", .list (options.map .str))]
  | .unsupportedOperation id state rule operation =>
    [("template_id", id), ("state", .str state), ("rule", .str rule),
      ("line_op", .str operation)]

end Event

end LineMachine
