import SchemaPress.Failure
import SchemaPress.Model

set_option autoImplicit false

/-! # Graphs of models

All references of a run and the models built for them. A model is added once its reference is
allocated, and may mention references whose models come later. -/

namespace SchemaPress

/-- Something that was noticed and put right. -/
inductive Diagnostic
  /-- A later field with a name that the model has already was left out. -/
  | duplicateField (model field : String)
  deriving DecidableEq, Repr

namespace Diagnostic

/-- The diagnostic in words. -/
def message : Diagnostic → String
  | duplicateField model field => "Field name `" ++ field ++ "` is duplicated on " ++ model

end Diagnostic

/-- The references and models of a run. -/
structure Graph where
  options : Options
  extras : Extras
  arena : Arena := {}
  models : List Model := []
  diagnostics : List Diagnostic := []
  deriving Inhabited

namespace Graph

/-- The graph without models; the switches of the options hold for every model. -/
def empty (options : Options) (extras : Extras) : Graph where
  options := options
  extras := extras.applyToggles options

/-- Finds or allocates a reference. -/
def allocate (graph : Graph) (path name : String) : RefId × Graph :=
  let (id, arena) := graph.arena.allocate path name
  (id, { graph with arena := arena })

/-- The model in a place. -/
def model? (graph : Graph) (id : ModelId) : Option Model :=
  graph.models[id.index]?

/-- The place of the model that a reference stands for. -/
def sourceOf? (graph : Graph) (reference : RefId) : Option ModelId :=
  (graph.arena.get? reference).bind (·.source)

/-- Whether the model that a reference stands for admits `None`. -/
def isNullable (graph : Graph) (reference : RefId) : Bool :=
  match (graph.sourceOf? reference).bind graph.model? with
  | some model => model.nullable
  | none => false

/-- The scope in which types are written. -/
def scope (graph : Graph) : Scope where
  className := graph.arena.shortName
  nullable := graph.isNullable
  spelling := graph.options.spelling

/-- The name of the class of a model. -/
def className (graph : Graph) (model : Model) : String :=
  graph.arena.shortName model.reference

/-- Gives the class of a model another name. -/
def rename (graph : Graph) (id : ModelId) (className : String) : Graph :=
  match graph.model? id with
  | some model => { graph with arena := graph.arena.rename model.reference className }
  | none => graph

/-! ## Adding a model -/

/-- The import of the base class of a model that names none. -/
def defaultBase? (options : Options) (kind : ModelKind) : Option Import :=
  match options.customBaseClass with
  | some path =>
    if options.flavor.acceptsCustomBase kind then some (Import.ofPath path)
    else options.flavor.defaultBaseClass kind
  | none => options.flavor.defaultBaseClass kind

/-- Whether every model that a tree mentions is either not bound or already built. -/
def isFinished (graph : Graph) (tree : TypeTree) : Bool :=
  tree.targets.all fun target =>
    match graph.sourceOf? target with
    | some id => id.index < graph.models.length
    | none => true

/-- Whether the fields of a model can be put in order: in a dataclass with several fields all
    models that they mention must be finished. -/
def canOrder (graph : Graph) (fields : List Field) : Bool :=
  graph.options.flavor ≠ .dataclass || fields.length < 2 ||
    fields.all fun field => graph.isFinished field.type

/-- The fields of a model, before they are put in order. -/
def buildFields (options : Options) (owner : Owner) (specs : List FieldSpec) : List Field :=
  specs.map fun spec => { Field.build options spec with owner := some owner }

/-- The place of the model that is added next. -/
def nextId (graph : Graph) : ModelId :=
  ⟨graph.models.length⟩

/-- The graph in which a reference stands for the model that is added next. -/
def bindNext (graph : Graph) (reference : RefId) : Graph :=
  { graph with arena := graph.arena.fill reference graph.nextId }

/-- The template of a model: its own, or that of the flavor. -/
def templateOf (graph : Graph) (spec : ModelSpec) : String :=
  spec.template.getD (graph.options.flavor.templateId spec.kind)

/-- The import of the default base class, of a model that names none only. -/
def baseImport? (graph : Graph) (spec : ModelSpec) : Option Import :=
  if spec.bases.isEmpty then defaultBase? graph.options spec.kind else none

/-- The base classes of a model. -/
def basesOf (graph : Graph) (spec : ModelSpec) : List TypeTree :=
  if spec.bases.isEmpty then (graph.baseImport? spec).toList.map TypeTree.imported
  else spec.bases.map (TypeTree.model {})

/-- The fields of the model that is added next, before they are put in order. -/
def nextFields (graph : Graph) (reference : RefId) (spec : ModelSpec) : List Field :=
  buildFields graph.options ⟨graph.nextId, reference⟩ (keepFirstNames [] spec.fields).1

/-- The model that is added next, once its fields are in order. -/
def modelOf (graph : Graph) (reference : RefId) (spec : ModelSpec) (fields : List Field) : Model :=
  let flavor := graph.options.flavor
  let extras := graph.extras.forModel (graph.arena.displayName reference)
  let config := Config.derive? flavor
    { kind := spec.kind, extras := extras, fields := fields, bases := graph.basesOf spec }
  { id := graph.nextId
    reference := reference
    kind := spec.kind
    template := graph.templateOf spec
    fields := fields
    bases := graph.basesOf spec
    decorators := flavor.decorators spec.kind ++ spec.decorators
    methods := spec.methods
    description := spec.description <|> extras.description
    extras := extras
    config := config
    nullable := spec.nullable
    ownImports :=
      (graph.baseImport? spec).toList ++ flavor.defaultImports spec.kind ++
        (if spec.kind = .root ∧ fields.isEmpty then [.any] else []) ++
        ((config.map (·.imports)).getD []) }

/-- The model that is added next. -/
def nextModel (graph : Graph) (reference : RefId) (spec : ModelSpec) : Model :=
  graph.modelOf reference spec
    (orderFields graph.options.flavor (graph.bindNext reference).scope
      (graph.nextFields reference spec))

/-- The graph with one model more, which its base classes know. -/
def grow (graph : Graph) (reference : RefId) (spec : ModelSpec) : Graph :=
  { graph with
    arena := spec.bases.foldl (fun arena base => arena.addChild base graph.nextId)
      (graph.arena.fill reference graph.nextId)
    models := graph.models ++ [graph.nextModel reference spec]
    diagnostics := graph.diagnostics ++ (keepFirstNames [] spec.fields).2.map
      (.duplicateField (graph.arena.displayName reference)) }

/-- Adds a model for its reference. -/
def add (graph : Graph) (spec : ModelSpec) : Except Failure (ModelId × Graph) :=
  match spec.reference with
  | none => throw .unboundModel
  | some reference =>
    if (graph.templateOf spec).isEmpty then
      throw (.noTemplate (graph.arena.displayName reference))
    else
      match graph.arena.bind reference graph.nextId with
      | .error failure => throw failure
      | .ok arena =>
        if { graph with arena := arena }.canOrder (graph.nextFields reference spec) then
          return (graph.nextId, graph.grow reference spec)
        else throw .unfinishedModel

/-- Adds models in order until one cannot be added; those before it stay. -/
def addAll (graph : Graph) : List ModelSpec → Except Failure Unit × Graph
  | [] => (.ok (), graph)
  | spec :: rest =>
    match graph.add spec with
    | .ok (_, grown) => grown.addAll rest
    | .error failure => (.error failure, graph)

end Graph

end SchemaPress
