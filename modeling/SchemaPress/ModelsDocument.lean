import SchemaPress.Graph
import SchemaPress.TypeExpr

set_option autoImplicit false

/-! # Documents that define models

A document of this kind lists models with their fields, whose types are type expressions. -/

namespace SchemaPress

/-- The definition of a field. -/
structure FieldDef where
  name : Option String := none
  /-- The type expression. -/
  type : String := ""
  required : Bool := false
  nullable : Option Bool := none
  default : Option Value := none
  wireName : Option String := none
  constraints : Entries Value := []
  extras : Entries Value := []
  deriving Repr, Inhabited

/-- The definition of a model. -/
structure ModelDef where
  path : Option String := none
  name : String := ""
  kind : ModelKind := .base
  fields : List FieldDef := []
  bases : List String := []
  decorators : List String := []
  methods : List String := []
  description : Option String := none
  nullable : Bool := false
  template : Option String := none
  deriving Repr, Inhabited

/-- A document that defines models. -/
structure ModelsDocument where
  models : List ModelDef := []
  deriving Repr, Inhabited

/-! ## Reading -/

open Decode in
/-- The slots of the definition of a field, in their order. -/
def FieldDef.slots : List (Slot Value FieldDef) :=
  [ slot "name" (optional? text?) fun d v => { d with name := v },
    slot "type" text? fun d v => { d with type := v },
    slot "required" truth? fun d v => { d with required := v },
    slot "nullable" (optional? truth?) fun d v => { d with nullable := v },
    slot "default" some fun d v => { d with default := some v },
    slot "alias" (optional? text?) fun d v => { d with wireName := v },
    slot "constraints" entries? fun d v => { d with constraints := v },
    slot "extras" entries? fun d v => { d with extras := v } ]

open Decode in
/-- The slots of the definition of a model, in their order. -/
def ModelDef.slots : List (Slot Value ModelDef) :=
  [ slot "path" (optional? text?) fun d v => { d with path := v },
    slot "name" text? fun d v => { d with name := v },
    slot "kind" ModelKind.read? fun d v => { d with kind := v },
    slot "fields" (list? (record? FieldDef.slots {})) fun d v => { d with fields := v },
    slot "base_classes" (list? text?) fun d v => { d with bases := v },
    slot "decorators" (list? text?) fun d v => { d with decorators := v },
    slot "methods" (list? text?) fun d v => { d with methods := v },
    slot "description" (optional? text?) fun d v => { d with description := v },
    slot "nullable" truth? fun d v => { d with nullable := v },
    slot "template" (optional? text?) fun d v => { d with template := v } ]

namespace ModelsDocument

open Decode in
/-- The slots of a document. -/
def slots : List (Slot Value ModelsDocument) :=
  [ slot "models" (list? (record? ModelDef.slots {})) fun d v => { d with models := v } ]

/-- Reads a document. -/
def read? : Value → Option ModelsDocument :=
  Decode.record? slots {}

end ModelsDocument

/-! ## Lowering -/

namespace ModelDef

/-- The path of the model, which by default is its name below the root. -/
def pathOrName (definition : ModelDef) : String :=
  definition.path.getD ("#/" ++ definition.name)

end ModelDef

namespace ModelsDocument

/-- Allocates the references of all models, in order. A model is found by its path, and by its
    name unless something else has it. -/
def allocateAll (graph : Graph) (known : Entries RefId) :
    List ModelDef → Except Failure (Entries RefId × Graph)
  | [] => return (known, graph)
  | definition :: rest =>
    if definition.name.isEmpty then throw .namelessModel
    else
      let (id, graph) := graph.allocate definition.pathOrName definition.name
      let known := Entries.put known definition.pathOrName id
      allocateAll graph (Entries.putNew known definition.name id) rest

/-- The references of base classes. -/
def resolveBases (known : Entries RefId) (model : String) :
    List String → Except Failure (List RefId)
  | [] => return []
  | base :: rest =>
    match Entries.get? known base with
    | some id => do return id :: (← resolveBases known model rest)
    | none => throw (.unknownBase base model)

/-- What a definition says about a field. -/
def lowerField (names : TypeExpr.Names) (itemsAsLength : Bool) (definition : FieldDef) :
    Except Failure FieldSpec := do
  let type ← TypeExpr.readType names definition.type
  return {
    name := definition.name
    default := definition.default
    required := definition.required
    wireName := definition.wireName
    nullable := definition.nullable
    type := type
    constraints :=
      if definition.constraints.isEmpty then none
      else some (ConstraintSet.ofKeywords itemsAsLength definition.constraints)
    extras := definition.extras }

/-- What a definition says about a model. -/
def lowerModel (names : TypeExpr.Names) (itemsAsLength : Bool) (definition : ModelDef) :
    Except Failure ModelSpec := do
  let bases ← resolveBases names.models definition.name definition.bases
  let fields ← definition.fields.mapM (lowerField names itemsAsLength)
  return {
    reference := Entries.get? names.models definition.pathOrName
    kind := definition.kind
    fields := fields
    bases := bases
    decorators := definition.decorators
    methods := definition.methods
    description := definition.description
    nullable := definition.nullable
    template := definition.template }

/-- What a document says about its models, with their references allocated in a graph. -/
def lower (document : ModelsDocument) (registry : TypeRegistry) (graph : Graph) :
    Except Failure (List ModelSpec × Graph) := do
  let (known, graph) ← allocateAll graph [] document.models
  let names : TypeExpr.Names := { models := known, registry := registry }
  let specs ← document.models.mapM (lowerModel names graph.options.flavor.itemBoundsAsLength)
  return (specs, graph)

end ModelsDocument

end SchemaPress
