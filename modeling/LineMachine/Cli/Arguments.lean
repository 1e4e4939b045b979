import LineMachine.Text.Pieces

/-!
# Arguments of a command

How a list of arguments is taken apart. An option has a long name behind two hyphens and possibly
a letter behind one hyphen; it is a flag, or it takes a value. A value stands behind an equals
sign, directly behind the letter, or in the next argument. Letters of flags may be run together.
Two hyphens alone end the options, and one hyphen alone is a word.
-/

namespace LineMachine.Cli

/-- An option that a command knows. -/
structure OptionSpec where
  /-- The name of what is set. -/
  name : String
  /-- The long name, without its hyphens. -/
  long : String
  letter : Option Char := none
  takesValue : Bool := true
  deriving DecidableEq, Repr

/-- An option that was given, with its value if it takes one. -/
abbrev Given := String × Option String

/-- Arguments taken apart: the options in their order, and the words. -/
structure Arguments where
  options : List Given := []
  words : List String := []
  deriving DecidableEq, Repr

namespace Arguments

/-- What one argument gives, and the name of an option whose value is still to come. -/
abbrev Part := List Given × Option String

/-- The part that one option makes up, given the value that stands with it. -/
def partOf? (spec : OptionSpec) (value : Option String) : Option Part :=
  match spec.takesValue, value with
  | true, some v => some ([(spec.name, some v)], none)
  | true, none => some ([], some spec.name)
  | false, some _ => none
  | false, none => some ([(spec.name, none)], none)

/-- Takes a long option apart, from behind its hyphens. -/
def long? (specs : List OptionSpec) (s : List Char) : Option Part :=
  let name := s.takeWhile (· != '=')
  match specs.find? (·.long == String.ofList name), s.drop name.length with
  | some spec, [] => partOf? spec none
  | some spec, _ :: value => partOf? spec (some (String.ofList value))
  | none, _ => none

/-- Takes letters apart. -/
def letters? (specs : List OptionSpec) : List Char → Option Part
  | [] => some ([], none)
  | c :: rest => do
    let spec ← specs.find? (·.letter == some c)
    if spec.takesValue then
      if rest.isEmpty then some ([], some spec.name)
      else some ([(spec.name, some (String.ofList rest))], none)
    else
      let (given, pending) ← letters? specs rest
      some ((spec.name, none) :: given, pending)

/-- Takes an argument with options apart. -/
def part? (specs : List OptionSpec) (s : List Char) : Option Part :=
  match s with
  | '-' :: '-' :: rest => long? specs rest
  | _ :: rest => letters? specs rest
  | [] => none

/-- Whether an argument is a word rather than options. -/
def isWord (s : List Char) : Bool :=
  s.head? != some '-' || s.length < 2

/-- More options in front. -/
def withOptions (given : List Given) (a : Arguments) : Arguments :=
  { a with options := given ++ a.options }

/-- Takes arguments apart. Unless words and options may be mixed, the first word ends the
options. -/
def read? (specs : List OptionSpec) (mixed : Bool) : List String → Option Arguments
  | [] => some {}
  | arg :: rest =>
    if arg = "--" then some { words := rest }
    else if isWord arg.toList then
      if mixed then (read? specs mixed rest).map fun a ↦ { a with words := arg :: a.words }
      else some { words := arg :: rest }
    else
      match part? specs arg.toList with
      | none => none
      | some (given, none) => (read? specs mixed rest).map (withOptions given)
      | some (given, some name) =>
        match rest with
        | [] => none
        | value :: rest =>
          (read? specs mixed rest).map (withOptions (given ++ [(name, some value)]))

/-- Whether an option was given. -/
def has (a : Arguments) (name : String) : Bool :=
  a.options.any (·.1 == name)

/-- The value of an option; the last one counts. -/
def value? (a : Arguments) (name : String) : Option String :=
  ((a.options.reverse.find? (·.1 == name)).map (·.2)).join

end Arguments

end LineMachine.Cli
