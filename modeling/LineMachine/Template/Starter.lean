import LineMachine.Decimal.Double
import LineMachine.Template

/-!
# Starter templates

A template to start authoring from: one state with one rule, which takes every line as a whole.
-/

namespace LineMachine

/-- What a starter template is made from. -/
structure Starter where
  id : Value := .null
  name : Value := .null
  vendor : Value := .str "generic"
  command : Value := .null
  deviceOs : Value := .null
  deriving DecidableEq

namespace Starter

/-- Reads the settings of a starter template by their names; an unknown name is refused. -/
def ofFields? (fields : List (String × Value)) : Option Starter :=
  fields.foldlM (fun s field ↦
    match field.1 with
    | "template_id" => some { s with id := field.2 }
    | "name" => some { s with name := field.2 }
    | "vendor" => some { s with vendor := field.2 }
    | "command" => some { s with command := field.2 }
    | "device_os" => some { s with deviceOs := field.2 }
    | _ => none) {}

/-- The rule that takes a line as a whole. -/
def lineRule : Rule where
  pattern := .str "^(?<line>.*)$"
  flags := none
  rename := none
  actions := [.set (.str "line") ⟨some (.str "line"), .null⟩]
  transition := some ⟨.str selfTarget, .str "match"⟩

/-- A time in whole milliseconds. Clocks count in seconds, and both they and the product are
doubles. -/
def milliseconds (clock : Double) : Int :=
  (clock.times 1000).truncate

/-- The starter template, made when the clock shows a given time. Without an id it is identified by
its name, and without a name by that time. -/
def template (s : Starter) (clock : Double) : Template :=
  let id := (s.id.orElse s.name).orElse (.str ("tpl_" ++ toString (milliseconds clock)))
  { id := id
    name := s.name.orElse id
    states := [⟨.str "start", [lineRule]⟩]
    vendor := s.vendor.orElse (.str "generic")
    deviceOs := s.deviceOs
    command := s.command
    description := .str ""
    declared := []
    metadata := [] }

end Starter

end LineMachine
