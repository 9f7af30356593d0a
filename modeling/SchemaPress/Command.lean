import SchemaPress.Generator
import SchemaPress.Settings

set_option autoImplicit false

/-! # The command

What the program does for a command line: it reads a document, generates a module and writes it
to a file or to standard output. -/

namespace SchemaPress

/-- What the program leaves behind: its exit code and what it prints. -/
structure Outcome where
  exitCode : Nat
  output : String := ""
  errors : String := ""
  deriving DecidableEq, Repr

namespace Outcome

/-- The outcome of a run that failed. -/
def ofFailure (failure : Failure) : Outcome where
  exitCode := if failure.kind = .defect then 101 else 1
  errors := failure.message ++ "\n"

end Outcome

namespace Command

variable {m : Type → Type} [Monad m]

/-- How the program is used. -/
def usage : String :=
  "Python data model generator\n\n" ++
  "Usage: modelsmith [-v] generate [OPTIONS]\n\n" ++
  "Options:\n" ++
  String.join (Arguments.settings.map fun setting => "  --" ++ setting.name ++ " <VALUE>\n") ++
  String.join (Arguments.switches.map fun switch => "  --" ++ switch.name ++ "\n")

/-- Generates a module with the given settings and puts it where they say; the text that is left
    for standard output. -/
def generate (files : FileAccess m) (now : Option Instant) (settings : Settings) :
    ExceptT Failure m String := do
  match ← (files.read settings.input : m (Except FileFault String)) with
  | .error fault => throw (.unreadableInput settings.input fault)
  | .ok text =>
    let generator : Generator :=
      { options := settings.options, extras := settings.extras, registry := settings.registry }
    let run := generator.generate files settings.format text
    match (← (run.run.run generator.resolver : m (Except Failure Generated × Resolver))).1 with
    | .error failure => throw failure
    | .ok generated =>
      let filename := (Path.fileName? settings.input).getD settings.input
      let header := Header.ofOptions settings.options filename now
      match settings.output with
      | none => return header.withModule generated.code
      | some output =>
        if let some directory := Path.parent? output then
          if let .error fault ← (files.makeDirectories directory : m (Except FileFault Unit)) then
            throw (.noOutputDirectory fault)
        ExceptT.mk (header.writeFile files output generated.code)
        return ""

/-- Resolves the settings of a run and generates a module. -/
def runGenerate (files : FileAccess m) (now : Option Instant) (arguments : Arguments) :
    ExceptT Failure m String := do
  generate files now (← Settings.resolve files arguments)

/-- Runs the program on the words of a command line, with the file of settings that the
    environment names. -/
def run (files : FileAccess m) (now : Option Instant) (environment : Option String)
    (words : List String) : m Outcome := do
  match Request.parse? words environment with
  | none => return { exitCode := 2, errors := usage }
  | some .help => return { exitCode := 0, output := usage }
  | some .version =>
    return { exitCode := 0, output := "modelsmith " ++ Header.generatorVersion ++ "\n" }
  | some (.generate arguments) =>
    match ← (runGenerate files now arguments).run with
    | .ok output => return { exitCode := 0, output }
    | .error failure => return .ofFailure failure

end Command

end SchemaPress
