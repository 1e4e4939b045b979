import LineMachine.Cli.Host
import LineMachine.Cli.Path

/-!
# A host in memory

A host that is nothing but a value: files by the names that lead to them, an input, settings, a
clock that stands still, and all that was written. A directory is there as long as a file lies
below it. Paths start in the one directory at the top; an absolute path, or one that leaves that
directory, leads nowhere.
-/

namespace LineMachine.Cli

/-- Where a file lies: the names of the directories down to it, and its own name. -/
abbrev Location := List String

/-- Files with their texts. -/
abbrev FileTree := List (Location × String)

namespace FileTree

/-- The reason why a path leads nowhere. -/
def missing : String := "No such file or directory"

/-- Whether a file lies there. -/
def hasFile (t : FileTree) (l : Location) : Bool :=
  t.any (·.1 == l)

/-- Whether a directory lies there. -/
def hasDirectory (t : FileTree) (l : Location) : Bool :=
  l.isEmpty || t.any fun f ↦ l.isPrefixOf f.1 && l.length < f.1.length

/-- How many bytes a name may have. -/
def nameLimit : Nat := 255

/-- One step along a path; it has to start in a directory. -/
def step (t : FileTree) (l : Location) (part : String) : Except String Location :=
  if t.hasFile l then .error "Not a directory"
  else if !t.hasDirectory l then .error missing
  else if nameLimit < part.utf8ByteSize then .error "File name too long"
  else
    match part with
    | "" => .ok l
    | "." => .ok l
    | ".." => if l.isEmpty then .error missing else .ok l.dropLast
    | name => .ok (l ++ [name])

/-- Where a path leads, or why it leads nowhere. There need not be anything at its end. -/
def locate (t : FileTree) (path : String) : Except String Location :=
  match path.toList with
  | [] => .error missing
  | '/' :: _ => .error missing
  | cs => ((Text.splitAtChar '/' cs).map String.ofList).foldlM t.step []

/-- What lies at the end of a path. -/
def kindOf (t : FileTree) (path : String) : Option FileKind :=
  match t.locate path with
  | .error _ => none
  | .ok l =>
    if t.hasFile l then some .file else if t.hasDirectory l then some .directory else none

/-- The name under a directory that leads to a file. -/
def nameBelow? (directory l : Location) : Option String :=
  if directory.isPrefixOf l then (l.drop directory.length).head? else none

/-- The names in a directory. -/
def namesIn (t : FileTree) (path : String) : List String :=
  match t.locate path with
  | .error _ => []
  | .ok l => (t.filterMap fun f ↦ nameBelow? l f.1).eraseDups

/-- The text of a file. -/
def read? (t : FileTree) (path : String) : Option String :=
  match t.locate path with
  | .error _ => none
  | .ok l => t.lookup l

/-- Puts a text in place of the file that lies there, if one does. -/
def put (t : FileTree) (l : Location) (text : String) : FileTree :=
  t.filter (·.1 != l) ++ [(l, text)]

/-- The files at some paths. The directories on the way are there with them. -/
def ofPaths (files : List (String × String)) : FileTree :=
  files.foldl (fun t f ↦ t.put (Path.parts f.1) f.2) []

/-- Writes a file, or says why not. -/
def write (t : FileTree) (path text : String) : Except String FileTree := do
  let l ← t.locate path
  if t.hasDirectory l then .error "Is a directory" else .ok (t.put l text)

end FileTree

/-- A host in memory. -/
structure Memory where
  files : FileTree := []
  input : String := ""
  settings : List (String × String) := []
  /-- The time at which the clock stands still. -/
  time : String := ""
  /-- What was written to the output. -/
  output : String := ""
  /-- What was written to the output for errors. -/
  errors : String := ""

namespace Memory

/-- Writes a file, or says why not. -/
def writeFile (path text : String) (m : Memory) : Option String × Memory :=
  match m.files.write path text with
  | .ok files => (none, { m with files := files })
  | .error reason => (some reason, m)

instance : Host (StateM Memory) where
  kindOf path := do pure ((← get).files.kindOf path)
  namesIn path := do pure ((← get).files.namesIn path)
  readFile path := do pure (((← get).files.read? path).getD "")
  writeFile path text := modifyGet (writeFile path text)
  readInput := do pure (← get).input
  writeOutput text := modify fun m ↦ { m with output := m.output ++ text }
  writeError text := modify fun m ↦ { m with errors := m.errors ++ text }
  settingOf name := do pure ((← get).settings.lookup name)
  timestamp := do pure (← get).time
  seconds := pure 0

end Memory

end LineMachine.Cli
