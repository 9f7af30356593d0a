import SchemaPress.Command
import Std.Time.DateTime.Timestamp

set_option autoImplicit false

/-! # The program

The command line, over the files of the operating system. -/

namespace SchemaPress

/-- The fault behind an error of the operating system. -/
def FileFault.ofError : IO.Error → FileFault
  | .alreadyExists .. => .alreadyThere
  | .inappropriateType .. => .notADirectory
  | .noFileOrDirectory .. | .noSuchThing .. => .missing
  | .invalidArgument .. => .nameTooLong
  | .userError _ => .notText
  | _ => .isADirectory

/-- Runs an action on the file at a path. -/
def attempt {α : Type} (path : String) (action : String → IO α) : IO (Except FileFault α) := do
  match Path.check path with
  | .error fault => return .error fault
  | .ok () =>
    try return .ok (← action path)
    catch error => return .error (.ofError error)

/-- Access to the files of the operating system. -/
def systemFiles : FileAccess IO where
  isFile path := do
    match ← attempt path (IO.FS.readBinFile ·) with
    | .ok _ => return true
    | .error _ => return false
  read path := attempt path (IO.FS.readFile ·)
  makeDirectories path :=
    if path.isEmpty then return .ok () else attempt path (IO.FS.createDirAll ·)
  write path content := attempt path (IO.FS.writeFile · content)

/-- The current moment. -/
def currentInstant : IO Instant := do
  return ⟨(← Std.Time.Timestamp.now).toSecondsSinceUnixEpoch.val⟩

end SchemaPress

open SchemaPress in
/-- Runs the program. -/
def main (words : List String) : IO UInt32 := do
  let environment ← IO.getEnv "MODELSMITH_CONFIG"
  let outcome ← Command.run systemFiles (some (← currentInstant)) environment words
  (← IO.getStdout).putStr outcome.output
  (← IO.getStderr).putStr outcome.errors
  return outcome.exitCode.toUInt32
