import SchemaPress.Document
import SchemaPress.Options

set_option autoImplicit false

/-! # Command lines

The words of a command line and what they ask for. An option is given by its long name with a
value behind an equals sign or in the next word, or by a letter with a value directly behind it
or in the next word; letters may be joined. An option that cannot be repeated is given once at
most, and a value in a word of its own does not begin with a dash. -/

namespace SchemaPress

/-- What a command line says about a run. -/
structure Arguments where
  /-- The document to read. -/
  input : Option String := none
  format : Option InputFormat := none
  /-- The file to write. -/
  output : Option String := none
  flavor : Option Flavor := none
  target : Option Python.Version := none
  /-- A file of settings. -/
  config : Option String := none
  /-- A file of extras. -/
  extras : Option String := none
  customTemplateDir : Option String := none
  customTypes : List String := []
  customBaseClass : Option String := none
  className : Option String := none
  customFileHeader : Option String := none
  /-- The long names of the options that were given. -/
  given : List String := []
  deriving Repr, Inhabited

/-- What a command line asks for. -/
inductive Request
  | help
  | version
  | generate (arguments : Arguments)
  deriving Repr

/-! ## Options of the command line -/

/-- An option without a value, which turns on a switch of the run. -/
structure Switch where
  name : String
  turnOn : Options → Options

/-- An option with a value. -/
structure Setting where
  name : String
  letter : Option Char := none
  repeatable : Bool := false
  store : Arguments → String → Option Arguments

namespace Arguments

/-- The options that turn on switches. -/
def switches : List Switch :=
  [ ⟨"use-annotated", fun o => { o with useAnnotated := true }⟩,
    ⟨"use-standard-collections", fun o => { o with useStandardCollections := true }⟩,
    ⟨"use-generic-container-types", fun o => { o with useGenericContainers := true }⟩,
    ⟨"use-union-operator", fun o => { o with useUnionOperator := true }⟩,
    ⟨"strict-nullable", fun o => { o with strictNullable := true }⟩,
    ⟨"allow-population-by-field-name", fun o => { o with allowPopulationByFieldName := true }⟩,
    ⟨"allow-extra-fields", fun o => { o with allowExtraFields := true }⟩,
    ⟨"enable-faux-immutability", fun o => { o with fauxImmutability := true }⟩,
    ⟨"disable-appending-item-suffix", fun o => { o with plainItemNames := true }⟩,
    ⟨"keep-model-order", fun o => { o with keepModelOrder := true }⟩,
    ⟨"collapse-root-models", fun o => { o with collapseRootModels := true }⟩,
    ⟨"use-default-kwarg", fun o => { o with useDefaultKeyword := true }⟩,
    ⟨"use-one-literal-as-default", fun o => { o with useOneLiteralAsDefault := true }⟩,
    ⟨"strip-default-none", fun o => { o with stripDefaultNone := true }⟩,
    ⟨"use-field-description", fun o => { o with useFieldDescription := true }⟩,
    ⟨"use-schema-description", fun o => { o with useSchemaDescription := true }⟩,
    ⟨"disable-timestamp", fun o => { o with disableTimestamp := true }⟩,
    ⟨"enable-version-header", fun o => { o with enableVersionHeader := true }⟩ ]

/-- A path, which must not be empty. -/
def path? (text : String) : Option String :=
  if text.isEmpty then none else some text

/-- The options with values. -/
def settings : List Setting :=
  let path (set : Arguments → String → Arguments) (a : Arguments) (text : String) :=
    (path? text).map (set a)
  [ { name := "input", letter := some 'i', store := path fun a v => { a with input := v } },
    { name := "input-file-type"
      store := fun a text => (InputFormat.ofLabel text).toOption.map fun v =>
        { a with format := v } },
    { name := "output", letter := some 'o', store := path fun a v => { a with output := v } },
    { name := "output-model-type"
      store := fun a text => (Flavor.ofLabel? text).map fun v => { a with flavor := v } },
    { name := "target-python-version"
      store := fun a text => (Python.Version.ofLabel? text).map fun v => { a with target := v } },
    { name := "config", store := path fun a v => { a with config := v } },
    { name := "extra-template-data", store := path fun a v => { a with extras := v } },
    { name := "custom-template-dir", store := path fun a v => { a with customTemplateDir := v } },
    { name := "custom-type", repeatable := true
      store := fun a v => some { a with customTypes := a.customTypes ++ [v] } },
    { name := "custom-base-class", store := fun a v => some { a with customBaseClass := v } },
    { name := "class-name", store := fun a v => some { a with className := v } },
    { name := "custom-file-header", store := fun a v => some { a with customFileHeader := v } } ]

/-- Notes that an option was given. -/
def give? (arguments : Arguments) (name : String) (repeatable : Bool) : Option Arguments :=
  if !repeatable && arguments.given.contains name then none
  else some { arguments with given := name :: arguments.given }

/-- The options of a run with what the command line says about them. -/
def applyTo (arguments : Arguments) (options : Options) : Options :=
  let options := { options with
    flavor := arguments.flavor.getD options.flavor
    target := arguments.target.getD options.target
    customTemplateDir := arguments.customTemplateDir <|> options.customTemplateDir
    customBaseClass := arguments.customBaseClass <|> options.customBaseClass
    className := arguments.className <|> options.className
    customFileHeader := arguments.customFileHeader <|> options.customFileHeader }
  switches.foldl
    (fun options switch =>
      if arguments.given.contains switch.name then switch.turnOn options else options)
    options

end Arguments

/-! ## Reading words -/

/-- What an option is. -/
inductive OptionKind
  | help
  | version
  | plain (name : String)
  | valued (setting : Setting)

/-- The options that are known at some place of a command line. -/
structure OptionTable where
  long? : String → Option OptionKind
  short? : Char → Option OptionKind

namespace OptionTable

/-- The options before the name of the command. -/
def leading : OptionTable where
  long?
    | "verbose" => some (.plain "verbose")
    | "help" => some .help
    | "version" => some .version
    | _ => none
  short?
    | 'v' => some (.plain "verbose")
    | 'h' => some .help
    | 'V' => some .version
    | _ => none

/-- The options behind the name of the command. -/
def generating : OptionTable where
  long?
    | "verbose" => some (.plain "verbose")
    | "help" => some .help
    | name =>
      if Arguments.switches.any (·.name == name) then some (.plain name)
      else (Arguments.settings.find? (·.name == name)).map .valued
  short?
    | 'v' => some (.plain "verbose")
    | 'h' => some .help
    | letter => (Arguments.settings.find? (·.letter == some letter)).map .valued

end OptionTable

/-- What a word with options leads to: an answer at once, or further arguments, for which the next
    word may have been used up. -/
inductive WordEffect
  | answer (request : Request)
  | proceed (arguments : Arguments) (usesNext : Bool)

namespace WordEffect

/-- Whether a word can be the value of an option before it. -/
def isValue (word : String) : Bool :=
  word == "-" || !word.startsWith "-"

/-- Stores the value of an option: the one that is joined to it, or else the next word. -/
def store? (arguments : Arguments) (setting : Setting) (joined next : Option String) :
    Option WordEffect := do
  let arguments ← arguments.give? setting.name setting.repeatable
  match joined with
  | some value => return .proceed (← setting.store arguments value) false
  | none =>
    let value ← next
    guard (isValue value)
    return .proceed (← setting.store arguments value) true

/-- An option by its long name. -/
def ofLong? (table : OptionTable) (arguments : Arguments) (text : List Char)
    (next : Option String) : Option WordEffect :=
  let name := text.takeWhile (· != '=')
  let joined := (text.drop name.length).tail?.map String.ofList
  match table.long? (String.ofList name), joined with
  | some .help, none => some (.answer .help)
  | some .version, none => some (.answer .version)
  | some (.plain name), none => do return .proceed (← arguments.give? name false) false
  | some (.valued setting), joined => store? arguments setting joined next
  | _, _ => none

/-- Options by their letters. -/
def ofLetters? (table : OptionTable) (next : Option String) :
    Arguments → List Char → Option WordEffect
  | arguments, [] => some (.proceed arguments false)
  | arguments, letter :: rest =>
    match table.short? letter with
    | some .help => some (.answer .help)
    | some .version => some (.answer .version)
    | some (.plain name) => do ofLetters? table next (← arguments.give? name false) rest
    | some (.valued setting) =>
      let joined := match rest with
        | [] => none
        | '=' :: value => some (String.ofList value)
        | value => some (String.ofList value)
      store? arguments setting joined next
    | none => none

/-- The effect of a word; a word that is no option is refused. -/
def of? (table : OptionTable) (arguments : Arguments) (word : String) (next : Option String) :
    Option WordEffect :=
  match word.toList with
  | '-' :: '-' :: text => ofLong? table arguments text next
  | '-' :: letter :: letters => ofLetters? table next arguments (letter :: letters)
  | _ => none

end WordEffect

namespace Request

/-- Reads the words behind the name of the command. A double dash ends the options, and nothing
    may follow it. -/
def ofOptions? : List String → Arguments → Option Request
  | [], arguments => some (.generate arguments)
  | word :: rest, arguments =>
    if word == "--" && rest.isEmpty then some (.generate arguments)
    else match WordEffect.of? .generating arguments word rest.head? with
      | none => none
      | some (.answer request) => some request
      | some (.proceed arguments false) => ofOptions? rest arguments
      | some (.proceed arguments true) =>
        match rest with
        | [] => none
        | _ :: rest => ofOptions? rest arguments

/-- Reads a command line. Options of the program may stand before the name of the command. -/
def ofWords? : List String → Arguments → Option Request
  | [], _ => none
  | word :: rest, arguments =>
    match word with
    | "generate" => ofOptions? rest {}
    | "help" => if rest == [] || rest == ["generate"] || rest == ["help"] then some .help else none
    | _ =>
      match WordEffect.of? .leading arguments word rest.head? with
      | none => none
      | some (.answer request) => some request
      | some (.proceed arguments _) => ofWords? rest arguments

/-- Reads a command line. Without a file of settings on it, the one that the environment names is
    taken; nothing is returned for a command line that cannot be understood. -/
def parse? (words : List String) (environment : Option String) : Option Request := do
  match ← ofWords? words {} with
  | .generate arguments =>
    match arguments.config, environment with
    | none, some path => return .generate { arguments with config := ← Arguments.path? path }
    | _, _ => return .generate arguments
  | request => return request

end Request

end SchemaPress
