import LineMachine.Text.Pieces

/-!
# Paths

Paths as they are shown: without empty parts, without parts that are a single point, and without a
slash at the end.
-/

namespace LineMachine.Cli.Path

/-- The parts of a path that lead somewhere. -/
def parts (path : String) : List String :=
  ((Text.splitAtChar '/' path.toList).map String.ofList).filter fun p ↦ p != "" && p != "."

/-- The slashes at the start of a path: one, or two if there are exactly two. -/
def root (path : String) : String :=
  match (path.toList.takeWhile (· == '/')).length with
  | 0 => ""
  | 2 => "//"
  | _ => "/"

/-- A path as it is shown. -/
def shown (path : String) : String :=
  let s := root path ++ Text.joinWith "/" (parts path)
  if s = "" then "." else s

/-- The path of a name in a directory. -/
def inside (directory name : String) : String :=
  let d := shown directory
  if d = "." then name
  else if d = "/" || d = "//" then d ++ name
  else d ++ "/" ++ name

/-- The last part of a path without what is behind its last point. A point at the start or at the
end counts as part of the name. -/
def stem (path : String) : String :=
  match (parts path).getLast? with
  | none => ""
  | some name =>
    let ending := name.toList.reverse.takeWhile (· != '.')
    let front := name.toList.take (name.length - ending.length - 1)
    if ending.isEmpty || front.isEmpty then name else String.ofList front

/-- Whether a name is one of a JSON document. -/
def isJson (name : String) : Bool :=
  ".json".toList.isSuffixOf name.toList

end LineMachine.Cli.Path
