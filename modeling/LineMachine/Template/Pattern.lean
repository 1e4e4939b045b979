import LineMachine.Fault
import LineMachine.Regex.Reader

/-!
# Patterns of a template

A rule gives its pattern and the letters of its flags as they stand in the document.
`Regex.Pattern.ofValues` reads both, the flags first. Flags that are not truthy are no flags.
-/

namespace LineMachine

/-- The options that one flag letter turns on; two letters are accepted and turn on nothing. -/
def Regex.Flags.ofLetter? (letter : String) : Option Regex.Flags :=
  match letter with
  | "i" => some { ignoreCase := true }
  | "m" => some { multiline := true }
  | "s" => some { dotAll := true }
  | "x" => some { verbose := true }
  | "u" => some { unicode := true }
  | "g" => some {}
  | "y" => some {}
  | _ => none

namespace Regex.Flags

/-- The options that one flag of a document turns on. -/
def ofFlag (flag : Value) : Except PatternFault Flags :=
  match flag with
  | .list _ => .error (.flagNotScalar flag.kindName)
  | .object _ => .error (.flagNotScalar flag.kindName)
  | .str letter => match ofLetter? letter with
    | some options => .ok options
    | none => .error (.unknownFlag flag)
  | _ => .error (.unknownFlag flag)

/-- The options that the flags of a document turn on together. -/
def ofFlags (flags : List Value) : Except PatternFault Flags :=
  flags.foldlM (fun options flag ↦ options.or <$> ofFlag flag) {}

/-- The options that a field of flags turns on. -/
def ofValue (flags : Value) : Except PatternFault Flags :=
  if flags.truthy then
    match flags.elements? with
    | some letters => ofFlags letters
    | none => .error (.flagsNotIterable flags.kindName)
  else .ok {}

@[simp] theorem ofValue_null : ofValue .null = .ok {} := rfl

end Regex.Flags

namespace Regex.Pattern

/-- Reads the field of a pattern with given options. -/
def ofValue (source : Value) (options : Flags) : Except PatternFault Pattern :=
  match source with
  | .str text => match read? text options with
    | .ok pattern => .ok pattern
    | .error fault => .error (.malformed text fault)
  | .list _ => .error (.notScalar source.kindName)
  | .object _ => .error (.notScalar source.kindName)
  | _ => .error .notText

/-- Reads a pattern with its flags. -/
def ofValues (source flags : Value) : Except PatternFault Pattern := do
  ofValue source (← Flags.ofValue flags)

end Regex.Pattern

end LineMachine
