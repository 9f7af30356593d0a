import SchemaPress.Collapse
import SchemaPress.Json.Reader
import SchemaPress.ModelsDocument
import SchemaPress.SchemaDocument
import SchemaPress.Yaml.Value

set_option autoImplicit false

/-! # Documents

The two kinds of documents that models come from, how they are read from text, and the graph of
models that they give. -/

namespace SchemaPress

/-- The kinds of documents. -/
inductive InputFormat
  | jsonSchema | models
  deriving DecidableEq, Repr, Inhabited

namespace InputFormat

/-- The name of a kind. -/
def label : InputFormat → String
  | jsonSchema => "jsonschema"
  | models => "models"

/-- The kind with the given name. -/
def ofLabel (label : String) : Except Failure InputFormat :=
  match label with
  | "jsonschema" => return .jsonSchema
  | "models" => return .models
  | other => throw (.unknownFormat other)

end InputFormat

/-- A document that models come from. -/
inductive Document
  | ofSchema (schema : Schema)
  | ofModels (document : ModelsDocument)

namespace Document

/-- The value that a text denotes: a text that begins with a brace or a bracket is JSON, any other
    is YAML. -/
def parseText (text : String) : Except Failure Value :=
  match Text.trimStart text.toList with
  | '\x7b' :: _ | '[' :: _ =>
    match Json.parse? text with
    | some value => return value
    | none => throw .invalidJson
  | _ =>
    match Yaml.parse? text with
    | some value => return value
    | none => throw .invalidYaml

/-- Reads a document from a text. -/
def read (format : InputFormat) (text : String) : Except Failure Document := do
  let value ← parseText text
  match format with
  | .jsonSchema =>
    match Schema.read? value with
    | some schema => return .ofSchema schema
    | none => throw .invalidSchema
  | .models =>
    match ModelsDocument.read? value with
    | some document => return .ofModels document
    | none => throw .invalidModels

/-- What a document says about its models, with their references allocated in a graph. -/
def lower (document : Document) (registry : TypeRegistry) (graph : Graph) :
    Except Failure (List ModelSpec × Graph) :=
  match document with
  | .ofSchema schema => schema.lower registry graph
  | .ofModels document => document.lower registry graph

end Document

namespace Graph

/-- Adds models in order, after inlining root models if the options ask for it. -/
def build (graph : Graph) (specs : List ModelSpec) : Except Failure Unit × Graph :=
  graph.addAll (if graph.options.collapseRootModels then collapseRootModels specs else specs)

/-- The graph of the models of a document. -/
def ofDocument (options : Options) (extras : Extras) (registry : TypeRegistry)
    (document : Document) : Except Failure Graph := do
  let (specs, graph) ← document.lower registry (.empty options extras)
  match graph.build specs with
  | (.ok (), built) => return built
  | (.error failure, _) => throw failure

end Graph

end SchemaPress
