import SchemaPress.Text.Cut

set_option autoImplicit false

/-! # Paths of files

Paths as texts with slashes. -/

namespace SchemaPress.Path

/-- The pieces of a path between its slashes. -/
def pieces (path : String) : List String :=
  (Text.splitAll '/' path.toList).map String.ofList

/-- Whether a path starts at the root. -/
def isAbsolute (path : String) : Bool :=
  path.toList.head? == some '/'

/-- The names along a path; empty pieces and single dots name nothing. -/
def names (path : String) : List String :=
  (pieces path).filter fun piece => piece != "" && piece != "."

/-- A path below a directory. An absolute path stands for itself. -/
def join (directory path : String) : String :=
  if isAbsolute path || directory.isEmpty then path
  else if directory.endsWith "/" then directory ++ path
  else directory ++ "/" ++ path

/-- The name of the file at the end of a path. -/
def fileName? (path : String) : Option String :=
  match (names path).getLast? with
  | some ".." | none => none
  | some name => some name

/-- The directory that a path lies in; the empty text is the working directory. -/
def parent? (path : String) : Option String :=
  if (names path).isEmpty then none
  else some ((if isAbsolute path then "/" else "") ++ "/".intercalate (names path).dropLast)

/-- What stands behind the last dot of a file's name; a dot at the start does not count. -/
def extension? (path : String) : Option String :=
  match fileName? path with
  | none => none
  | some name =>
    let back := name.toList.reverse.takeWhile (· != '.')
    if back.length + 1 < name.length then some (String.ofList back.reverse) else none

end SchemaPress.Path
