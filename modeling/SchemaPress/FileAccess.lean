import SchemaPress.Failure
import SchemaPress.Path

set_option autoImplicit false

/-! # Files

What the program asks of the files around it. The questions can be answered by the operating
system or by a tree of files in memory. -/

namespace SchemaPress

/-- Access to files by their paths. -/
structure FileAccess (m : Type → Type) where
  /-- Whether there is a file. -/
  isFile : String → m Bool
  /-- The text of a file. -/
  read : String → m (Except FileFault String)
  /-- Makes a directory, and those on the way to it. -/
  makeDirectories : String → m (Except FileFault Unit)
  /-- Writes a file anew. -/
  write : String → String → m (Except FileFault Unit)

/-! ## Limits on names -/

/-- The number of bytes that a name may have. -/
def Path.maxName : Nat := 255

/-- The number of bytes that a path may have. -/
def Path.maxLength : Nat := 4095

/-- Fails on a path that leads nowhere, whatever files there are. -/
def Path.check (path : String) : Except FileFault Unit :=
  if path.toList.contains '\x00' then throw .nullInName
  else if path.isEmpty then throw .missing
  else if Path.maxLength < path.utf8ByteSize then throw .nameTooLong
  else return ()

/-! ## Files in memory -/

/-- What can be found at a path. -/
inductive FileNode
  | text (content : String)
  /-- A file that does not hold text. -/
  | bytes
  | directory
  deriving DecidableEq, Repr

/-- Files and directories by the names along their paths, below a working directory or, behind the
    name `/`, below the root. -/
structure FileTree where
  nodes : List (List String × FileNode) := []
  deriving DecidableEq, Repr, Inhabited

namespace FileTree

/-- Whether some names lead to a directory that is always there: the root, the working directory
    or one that it lies in. -/
def isGiven (names : List String) : Bool :=
  names == ["/"] || names.all (· == "..")

/-- What is found along some names. -/
def node? (tree : FileTree) (names : List String) : Option FileNode :=
  if isGiven names then some .directory else tree.nodes.lookup names

/-- Puts something at the end of some names. -/
def put (tree : FileTree) (names : List String) (node : FileNode) : FileTree :=
  ⟨(names, node) :: tree.nodes.filter (·.1 != names)⟩

/-- Takes away what is at the end of some names. -/
def drop (tree : FileTree) (names : List String) : FileTree :=
  ⟨tree.nodes.filter (·.1 != names)⟩

/-- The place where a path starts. -/
def origin (path : String) : List String :=
  if Path.isAbsolute path then ["/"] else []

/-- The place that one piece of a path leads to from a place. -/
def step (place : List String) (piece : String) : List String :=
  if piece = "" ∨ piece = "." then place
  else if piece = ".." then
    if place = ["/"] then place
    else if isGiven place then place ++ [".."]
    else place.dropLast
  else place ++ [piece]

/-- Walks along the pieces of a path from a place; every step needs a directory. -/
def walk (tree : FileTree) : List String → List String → Except FileFault (List String)
  | place, [] => return place
  | place, piece :: rest =>
    match tree.node? place with
    | some .directory =>
      if Path.maxName < piece.utf8ByteSize then throw .nameTooLong
      else tree.walk (step place piece) rest
    | some _ => throw .notADirectory
    | none => throw .missing

/-- The place that a path leads to, whether there is something or not. -/
def locate (tree : FileTree) (path : String) : Except FileFault (List String) := do
  Path.check path
  tree.walk (origin path) (Path.pieces path)

/-- What a path leads to. -/
def find (tree : FileTree) (path : String) : Except FileFault FileNode := do
  let place ← tree.locate path
  match tree.node? place with
  | some node => return node
  | none => throw .missing

/-- Whether a path leads to a file. -/
def isFile (tree : FileTree) (path : String) : Bool :=
  match tree.find path with
  | .ok .directory | .error _ => false
  | .ok _ => true

/-- The text of a file. -/
def read (tree : FileTree) (path : String) : Except FileFault String := do
  match ← tree.find path with
  | .text content => return content
  | .bytes => throw .notText
  | .directory => throw .isADirectory

/-- Makes directories along the pieces of a path from a place. -/
def makeAlong (tree : FileTree) : List String → List String → Except FileFault FileTree
  | _, [] => return tree
  | place, piece :: rest =>
    let here := step place piece
    match tree.node? here with
    | some .directory => tree.makeAlong here rest
    | some _ => throw (if rest.isEmpty then .alreadyThere else .notADirectory)
    | none =>
      if Path.maxName < piece.utf8ByteSize then throw .nameTooLong
      else (tree.put here .directory).makeAlong here rest

/-- Makes a directory, and those on the way to it; the working directory is there already. -/
def makeDirectories (tree : FileTree) (path : String) : Except FileFault FileTree := do
  if path.isEmpty then return tree
  Path.check path
  tree.makeAlong (origin path) (Path.names path)

/-- Puts a file at a path, in a directory that is there. -/
def place (tree : FileTree) (path : String) (node : FileNode) : Except FileFault FileTree := do
  let names ← tree.locate path
  if tree.node? names = some .directory then throw .isADirectory
  else if tree.node? names.dropLast = some .directory then return tree.put names node
  else throw .missing

/-- Puts a file at a path and makes the directories on the way to it. -/
def install (tree : FileTree) (path : String) (node : FileNode) : FileTree :=
  match tree.makeDirectories ((Path.parent? path).getD "") with
  | .ok made => made.put (origin path ++ Path.names path) node
  | .error _ => tree

/-- Runs an operation that may change the tree. -/
def update (operation : FileTree → Except FileFault FileTree) :
    StateM FileTree (Except FileFault Unit) := do
  match operation (← get) with
  | .ok changed =>
    set changed
    return .ok ()
  | .error fault => return .error fault

/-- Access to the files of a tree. -/
def access : FileAccess (StateM FileTree) where
  isFile path := return (← get).isFile path
  read path := return (← get).read path
  makeDirectories path := update (·.makeDirectories path)
  write path content := update (·.place path (.text content))

end FileTree

end SchemaPress
