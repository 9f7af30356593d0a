import SchemaPress.Flavor
import SchemaPress.Held
import SchemaPress.Python.Version

set_option autoImplicit false

/-! # Generation options

Every switch of a run, with the defaults of a run that names none, and how options are read from
a document. -/

namespace SchemaPress

/-- How type hints are spelled. -/
structure Spelling where
  standardCollections : Bool := false
  genericContainers : Bool := false
  unionOperator : Bool := false
  target : Python.Version := .v312
  deriving DecidableEq, Repr, Inhabited

/-- The switches of a run. -/
structure Options where
  /-- The kind of class that models become. -/
  flavor : Flavor := .pydantic2
  /-- The release that the module is written for. -/
  target : Python.Version := .v312
  /-- Field descriptions stand in `Annotated[...]`. -/
  useAnnotated : Bool := false
  /-- Containers are `list`, `set` and `dict`. -/
  useStandardCollections : Bool := false
  /-- Containers are `Sequence`, `FrozenSet` and `Mapping`. -/
  useGenericContainers : Bool := false
  /-- Alternatives are joined by `|`. -/
  useUnionOperator : Bool := false
  /-- A field that may be missing is not therefore optional. -/
  strictNullable : Bool := false
  /-- Every model accepts the names of its fields beside their aliases. -/
  allowPopulationByFieldName : Bool := false
  /-- Every model accepts unknown fields. -/
  allowExtraFields : Bool := false
  /-- Every model is immutable. -/
  fauxImmutability : Bool := false
  /-- Models of array items are named like the array. -/
  plainItemNames : Bool := false
  /-- Models are written in the order of the document. -/
  keepModelOrder : Bool := false
  /-- Models that wrap a simple type are inlined. -/
  collapseRootModels : Bool := false
  /-- Defaults are written `default=...`. -/
  useDefaultKeyword : Bool := false
  /-- A required field with a single literal gets it as its default. -/
  useOneLiteralAsDefault : Bool := false
  /-- Defaults of `None` are not written. -/
  stripDefaultNone : Bool := false
  /-- Field descriptions become docstrings. -/
  useFieldDescription : Bool := false
  /-- Schema descriptions become docstrings. -/
  useSchemaDescription : Bool := false
  /-- The base class of models with named fields. -/
  customBaseClass : Option String := none
  /-- The class name of the root of a schema. -/
  className : Option String := none
  /-- The directory whose templates take the place of the built-in ones. -/
  customTemplateDir : Option String := none
  /-- The header names no time. -/
  disableTimestamp : Bool := false
  /-- The header names the version of the generator. -/
  enableVersionHeader : Bool := false
  /-- The text of the header. -/
  customFileHeader : Option String := none
  deriving DecidableEq, Repr, Inhabited

/-- How the slots of options are read from the values `ν` of a document. -/
structure OptionReader (ν : Type) where
  /-- Reads a switch. -/
  truth? : ν → Option Bool
  /-- Reads a text that may be missing. -/
  word? : ν → Option (Option String)
  /-- Reads one of several named choices. -/
  choice? : {α : Type} → List (String × α) → ν → Option α

namespace OptionReader

/-- Options that are a document of their own. -/
def document : OptionReader Value where
  truth? := Decode.truth?
  word? := Decode.optional? Decode.text?
  choice? := Decode.choice?

/-- Options among the entries of another document. -/
def held : OptionReader Held where
  truth? := Held.truth?
  word? := Held.word?
  choice? := Held.choice?

end OptionReader

namespace Options

/-- Whether a field that may be missing is optional when nothing else is known. -/
def fallBackToNullable (options : Options) : Bool :=
  !options.strictNullable

/-- The spelling of type hints. Built-in containers need a release in which they take type
    arguments. -/
def spelling (options : Options) : Spelling where
  standardCollections := options.useStandardCollections && options.target.hasNativeCollections
  genericContainers := options.useGenericContainers
  unionOperator := options.useUnionOperator
  target := options.target

open Decode in
/-- The slots of options in a document, in their order. -/
def slots {ν : Type} (reader : OptionReader ν) : List (Slot ν Options) :=
  let flag (name : String) (set : Options → Bool → Options) := slot name reader.truth? set
  let word (name : String) (set : Options → Option String → Options) :=
    slot name reader.word? set
  [ slot "output_model_type" (reader.choice? Flavor.choices) fun o v => { o with flavor := v },
    slot "target_python_version" (reader.choice? Python.Version.choices) fun o v =>
      { o with target := v },
    flag "use_annotated" fun o v => { o with useAnnotated := v },
    flag "use_standard_collections" fun o v => { o with useStandardCollections := v },
    flag "use_generic_container_types" fun o v => { o with useGenericContainers := v },
    flag "use_union_operator" fun o v => { o with useUnionOperator := v },
    flag "strict_nullable" fun o v => { o with strictNullable := v },
    flag "allow_population_by_field_name" fun o v =>
      { o with allowPopulationByFieldName := v },
    flag "allow_extra_fields" fun o v => { o with allowExtraFields := v },
    flag "enable_faux_immutability" fun o v => { o with fauxImmutability := v },
    flag "disable_appending_item_suffix" fun o v => { o with plainItemNames := v },
    flag "keep_model_order" fun o v => { o with keepModelOrder := v },
    flag "collapse_root_models" fun o v => { o with collapseRootModels := v },
    flag "use_default_kwarg" fun o v => { o with useDefaultKeyword := v },
    flag "use_one_literal_as_default" fun o v => { o with useOneLiteralAsDefault := v },
    flag "strip_default_none" fun o v => { o with stripDefaultNone := v },
    flag "use_field_description" fun o v => { o with useFieldDescription := v },
    flag "use_schema_description" fun o v => { o with useSchemaDescription := v },
    word "custom_base_class" fun o v => { o with customBaseClass := v },
    word "class_name" fun o v => { o with className := v },
    word "custom_template_dir" fun o v => { o with customTemplateDir := v },
    flag "disable_timestamp" fun o v => { o with disableTimestamp := v },
    flag "enable_version_header" fun o v => { o with enableVersionHeader := v },
    word "custom_file_header" fun o v => { o with customFileHeader := v } ]

/-- Reads options from a document. -/
def read? : Value → Option Options :=
  Decode.record? (slots .document) {}

end Options

end SchemaPress
