import SchemaPress.Arguments
import SchemaPress.Extras
import SchemaPress.FileAccess
import SchemaPress.Json.Reader
import SchemaPress.Yaml.Source

set_option autoImplicit false

/-! # Settings of a run

Where the settings of a run come from: a file of settings, and the command line, which wins. -/

namespace SchemaPress

/-! ## Files of settings -/

/-- What a file of settings says. -/
structure SettingsFile where
  input : Option String := none
  format : Option String := none
  output : Option String := none
  /-- A file of extras. -/
  extras : Option String := none
  customTypes : List String := []
  options : Options := {}
  deriving Repr, Inhabited

namespace SettingsFile

variable {ν : Type} [Source ν]

open Decode (Slot slot) in
open Source in
/-- The slots of a file of settings in a document: its own, and those of the options. -/
def slots : List (Slot ν SettingsFile) :=
  [ slot "input" (optional? text?) fun f v => { f with input := v },
    slot "input_file_type" (optional? text?) fun f v => { f with format := v },
    slot "output" (optional? text?) fun f v => { f with output := v },
    slot "extra_template_data" (optional? text?) fun f v => { f with extras := v },
    slot "custom_types" (list? text?) fun f v => { f with customTypes := v } ] ++
  (Options.slots .held).map fun target => ⟨target.name, fun file node => do
    return { file with options := ← target.store file.options (← held? node) }⟩

/-- Reads a file of settings from a document; no slot may be filled twice. -/
def read? (node : ν) : Option SettingsFile := do
  let slots : List (Decode.Slot ν SettingsFile) := slots
  let entries ← Source.entries? node
  guard !(Decode.repeatsSlot slots (Entries.names entries))
  guard (entries.all fun entry => Decode.hasSlot slots entry.1 || (Source.held? entry.2).isSome)
  Decode.fromEntries? slots {} entries

end SettingsFile

/-! ## Reading files -/

/-- How a record is read from the text of a file, JSON or YAML. -/
structure FileReader (α : Type) where
  ofJson? : Value → Option α
  ofYaml? : Yaml.Node → Option α

namespace FileReader

variable {α : Type}

/-- Reads a record from the text of a file: JSON if the name of the file ends so, else YAML, of
    which an empty text is an empty record. -/
def read (reader : FileReader α) (path text : String) : Except Failure α :=
  if (Path.extension? path).any (·.toLower == "json") then
    match (Json.read? text).bind reader.ofJson? with
    | some record => return record
    | none => throw .invalidJson
  else
    let root := (Yaml.Node.parse? text).map (·.getD (.scalar none .plain ""))
    match root.bind reader.ofYaml? with
    | some record => return record
    | none => throw .invalidYaml

/-- The reader of files of settings. -/
def settings : FileReader SettingsFile where
  ofJson? := SettingsFile.read?
  ofYaml? := SettingsFile.read?

/-- The reader of files of extras. -/
def extras : FileReader Extras where
  ofJson? := Extras.read?
  ofYaml? := Extras.read?

variable {m : Type → Type} [Monad m]

/-- Reads a record from a file. -/
def load (reader : FileReader α) (files : FileAccess m) (path : String) : ExceptT Failure m α := do
  match ← (files.read path : m (Except FileFault String)) with
  | .error fault => throw (.unreadableFile path fault)
  | .ok text =>
    match reader.read path text with
    | .ok record => return record
    | .error failure => throw failure

/-- Reads a record from a file, if one is named. -/
def loadOr (reader : FileReader α) (files : FileAccess m) (default : α) :
    Option String → ExceptT Failure m α
  | none => return default
  | some path => reader.load files path

end FileReader

/-! ## Both together -/

/-- Everything that a run needs to know. -/
structure Settings where
  input : String
  format : InputFormat
  output : Option String
  extras : Extras
  registry : TypeRegistry
  options : Options
  deriving Repr

namespace Settings

/-- Declares the custom types of a run; each text has to declare one. -/
def declareTypes (texts : List String) : Except Failure TypeRegistry :=
  texts.foldlM
    (fun registry text =>
      match registry.registerText? text with
      | some registry => return registry
      | none => throw (.invalidCustomType text))
    {}

/-- The kind of the document: the command line says it, or else the file of settings. -/
def chooseFormat (arguments : Option InputFormat) (file : Option String) :
    Except Failure InputFormat :=
  match arguments, file with
  | some format, _ => return format
  | none, some label => InputFormat.ofLabel label
  | none, none => return .jsonSchema

variable {m : Type → Type} [Monad m]

/-- The settings of a run. -/
def resolve (files : FileAccess m) (arguments : Arguments) : ExceptT Failure m Settings := do
  let file ← FileReader.settings.loadOr files {} arguments.config
  match arguments.input <|> file.input with
  | none => throw .noInput
  | some input =>
    let format ← liftExcept (chooseFormat arguments.format file.format)
    let extras ← FileReader.extras.loadOr files {} (arguments.extras <|> file.extras)
    let registry ← liftExcept (declareTypes (file.customTypes ++ arguments.customTypes))
    return {
      input
      format
      output := arguments.output <|> file.output
      extras
      registry
      options := arguments.applyTo file.options }
where
  /-- A result as part of a computation. -/
  liftExcept {α : Type} (result : Except Failure α) : ExceptT Failure m α :=
    match result with
    | .ok value => return value
    | .error failure => throw failure

end Settings

end SchemaPress
