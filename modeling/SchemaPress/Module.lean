import SchemaPress.Digraph
import SchemaPress.Graph
import SchemaPress.ImportBlock
import SchemaPress.Template.Resolver

set_option autoImplicit false

/-! # Modules

The text of a module: its imports, its classes in order, and the calls that resolve forward
references in the classes that reach themselves. Models are written after the models that they
mention, unless the order of the document is asked for. -/

namespace SchemaPress.Graph

/-! ## The order of models -/

/-- The dependencies among the models: each points to the models that it mentions. -/
def digraph (graph : Graph) : Digraph :=
  ⟨graph.models.map fun model =>
    model.dependencies.filterMap fun reference => (graph.sourceOf? reference).map (·.index)⟩

/-- The order in which models are written, found from the components of the dependencies. -/
def orderBy (graph : Graph) (components : List (List Nat)) : List ModelId :=
  if graph.options.keepModelOrder then graph.models.map (·.id)
  else (graph.digraph.orderBy components).map ModelId.mk

/-- The order in which models are written. -/
def order (graph : Graph) : List ModelId :=
  graph.orderBy graph.digraph.components

/-- The models on cycles, found from the components of the dependencies. -/
def cyclicBy (graph : Graph) (components : List (List Nat)) : List ModelId :=
  (graph.digraph.cyclicBy components).map ModelId.mk

/-- The models on cycles, in ascending order. -/
def cyclic (graph : Graph) : List ModelId :=
  graph.cyclicBy graph.digraph.components

/-! ## The text of a module -/

variable {m : Type → Type} [Monad m]

/-- A configuration as templates see it. -/
def configValue : Option Config → Value
  | none => .null
  | some config => .arr (config.parameters.map fun (name, expression) =>
      .obj [("key", .str name), ("value", .str expression)])

/-- The values that the template of a class sees. The extras of the model come first, so they
    cannot hide what the class itself says. -/
def templateValues (graph : Graph) (model : Model) (className : String) : Entries Value :=
  Entries.overlay model.extras.templateValues
    [("class_name", .str className),
      ("fields", .arr (model.fields.map fun field => (field.view graph.scope).toValue)),
      ("decorators", .arr (model.decorators.map .str)),
      ("base_class", .str (model.baseHint graph.scope)),
      ("methods", .arr (model.methods.map .str)),
      ("description", FieldView.textOrNull model.description),
      ("config", configValue model.config)]

/-- The text of a class, perhaps under another name. -/
def renderModel (graph : Graph) (files : FileAccess m) (model : Model)
    (className : Option String) : Rendering m String :=
  Resolver.render files model.template
    (graph.templateValues model (className.getD (graph.className model)))

/-- The models in the order in which they are written. -/
def orderedModels (graph : Graph) : List Model :=
  graph.order.filterMap graph.model?

/-- The imports of all classes. -/
def importBlock (graph : Graph) : ImportBlock :=
  graph.orderedModels.foldl (fun block model => block.extend (model.imports graph.scope))
    { future := graph.options.flavor.futureAnnotations }

/-- The calls that resolve forward references, in the order of the classes. -/
def rebuildCalls (graph : Graph) : List String :=
  let cyclic := graph.cyclic
  (graph.orderedModels.filter fun model => cyclic.contains model.id).filterMap fun model =>
    graph.options.flavor.rebuildCall (graph.className model)

/-- Puts a module together from its imports, the texts of its classes and its last calls. -/
def assemble (imports : String) (classes calls : List String) : String :=
  (if imports.isEmpty then "" else imports ++ "\n\n\n") ++
    "\n\n\n".intercalate classes ++
    (if calls.isEmpty then "" else "\n\n\n" ++ "\n".intercalate calls) ++ "\n"

/-- The text of the module; without models there is none. -/
def renderModule (graph : Graph) (files : FileAccess m) : Rendering m String := do
  if graph.models.isEmpty then return ""
  let classes ← graph.orderedModels.mapM fun model => graph.renderModel files model none
  return assemble graph.importBlock.render classes graph.rebuildCalls

end SchemaPress.Graph
