import SchemaPress.FileAccess
import SchemaPress.Instant
import SchemaPress.Options
import SchemaPress.Text.Character

set_option autoImplicit false

/-! # File headers

The comment at the top of a generated file, and how a file is put together from it and a module. -/

namespace SchemaPress

/-- The comment at the top of a generated file. -/
structure Header where
  /-- A text that takes the place of everything else. -/
  custom : Option String
  /-- The name of the document that the module was generated from. -/
  filename : String
  timestamp : Option Instant
  version : Option String
  deriving DecidableEq, Repr

namespace Header

/-- The version of the generator. -/
def generatorVersion : String := "0.1.0"

/-- The header that options ask for, at a moment. -/
def ofOptions (options : Options) (filename : String) (now : Option Instant) : Header where
  custom := options.customFileHeader
  filename := filename
  timestamp := if options.disableTimestamp then none else now
  version := if options.enableVersionHeader then some generatorVersion else none

/-- The text of the header, without a newline at its end. -/
def render (header : Header) : String :=
  match header.custom with
  | some text => String.ofList (text.toList.reverse.dropWhile (· == '\n')).reverse
  | none =>
    "\n".intercalate
      (["# generated by modelsmith:", "#   filename:  " ++ header.filename] ++
        (header.timestamp.map fun instant => "#   timestamp: " ++ instant.write).toList ++
        (header.version.map fun version => "#   version:   " ++ version).toList)

/-- The text of a file: the header, then the module without blanks at its end. -/
def withModule (header : Header) (body : String) : String :=
  let trimmed := Text.trimEnd body.toList
  header.render ++ "\n" ++
    (if trimmed.isEmpty then "" else "\n" ++ String.ofList trimmed ++ "\n")

variable {m : Type → Type} [Monad m]

/-- Writes a module to a file. -/
def writeFile (header : Header) (files : FileAccess m) (path body : String) :
    m (Except Failure Unit) := do
  match ← files.write path (header.withModule body) with
  | .ok () => return .ok ()
  | .error fault => return .error (.unwritable fault)

/-- Writes modules to files until one cannot be written, and counts them. -/
def writeFiles (header : Header) (files : FileAccess m) :
    List (String × String) → m (Except Failure Nat)
  | [] => return .ok 0
  | (path, body) :: rest => do
    match ← header.writeFile files path body with
    | .error failure => return .error failure
    | .ok () =>
      match ← header.writeFiles files rest with
      | .ok count => return .ok (count + 1)
      | .error failure => return .error failure

end Header

end SchemaPress
