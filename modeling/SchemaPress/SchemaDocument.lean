import SchemaPress.Graph
import SchemaPress.Python.Name
import SchemaPress.Schema
import SchemaPress.TypeRegistry

set_option autoImplicit false

/-! # Documents that are JSON Schemas

The root of the document and its definitions become models, and so do objects inside them. -/

namespace SchemaPress.Schema

/-- What is the same for all schemas of a document. -/
structure Setting where
  options : Options
  registry : TypeRegistry
  /-- The definitions of the document by their pointers. -/
  known : Entries RefId

/-- The references, extras and models found so far. -/
structure Draft where
  arena : Arena
  extras : Extras
  specs : List ModelSpec := []

/-- A computation on a draft that may fail. -/
abbrev Drafting := StateT Draft (Except Failure)

/-- How a schema at a path becomes a type, where a class that it needs gets the given name. -/
abbrev Lowering := Schema → String → String → Drafting TypeTree

namespace Setting

/-- The definition that a pointer leads to. -/
def follow (setting : Setting) (pointer : String) : Except Failure RefId :=
  match Entries.get? setting.known pointer with
  | some id => return id
  | none => throw (.unresolvedPointer pointer)

/-- The constraints of a schema, if it has some. -/
def constraints? (setting : Setting) (schema : Schema) : Option ConstraintSet :=
  let set := ConstraintSet.ofKeywords setting.options.flavor.itemBoundsAsLength schema.keywords
  if set.isConstraining then some set else none

/-- The description of a schema, if descriptions are asked for. -/
def description? (setting : Setting) (schema : Schema) : Option String :=
  if setting.options.useSchemaDescription then schema.description else none

/-! ## Simple types -/

/-- The type that the user has chosen for a schema. -/
def chosenType? (setting : Setting) (schema : Schema) : Option TypeTree :=
  match Entries.get? schema.keywords "x-python-type" with
  | some (.str name) =>
    match setting.registry.type? name with
    | some type => some type
    | none =>
      if name.toList.contains '.' then some (TypeTree.imported (Import.ofPath name)).custom
      else none
  | _ => none

/-- The type of texts in a format. -/
def formattedType (pydantic : Bool) (format : String) : TypeTree :=
  match format with
  | "date-time" => .imported (.of "datetime" "datetime")
  | "date" => .imported (.of "datetime" "date")
  | "time" => .imported (.of "datetime" "time")
  | "duration" => .imported (.of "datetime" "timedelta")
  | "uuid" | "uuid1" | "uuid3" | "uuid4" | "uuid5" => .imported (.of "uuid" "UUID")
  | "ipv4" => .imported (.of "ipaddress" "IPv4Address")
  | "ipv6" => .imported (.of "ipaddress" "IPv6Address")
  | "decimal" => .imported (.of "decimal" "Decimal")
  | "email" => if pydantic then .imported (.of "pydantic" "EmailStr") else .builtin "str"
  | "uri" => if pydantic then .imported (.of "pydantic" "AnyUrl") else .builtin "str"
  | "binary" => .builtin "bytes"
  | _ => .builtin "str"

/-- The type of texts. -/
def textType (setting : Setting) (schema : Schema) : TypeTree :=
  match schema.format with
  | none => .builtin "str"
  | some format =>
    match setting.registry.type? format with
    | some type => type
    | none => formattedType (setting.options.flavor ≠ .dataclass) format

/-- The type of numbers. -/
def numberType (schema : Schema) : TypeTree :=
  if schema.format = some "decimal" then .imported (.of "decimal" "Decimal")
  else .builtin "float"

/-- The type of a constant. -/
def constantType : Value → TypeTree
  | .null => .noneType
  | .bool _ => .builtin "bool"
  | .int _ => .builtin "int"
  | .float _ => .builtin "float"
  | .str _ => .builtin "str"
  | .arr _ => .list {} .any
  | .obj _ => .dict {} .any

/-- One of several values; null among them makes the type optional. -/
def choiceType (values : List Value) : TypeTree :=
  .literal { optional := values.any Value.isNull } (values.filter fun value => !value.isNull)

/-! ## Lowering one level -/

/-- The name for what is in an array. -/
def itemName (setting : Setting) (suggested : String) : String :=
  if setting.options.plainItemNames then suggested else suggested ++ "Item"

/-- The type that a name stands for in a schema. -/
def lowerNamed (setting : Setting) (lower : Lowering) (schema : Schema) (path suggested : String)
    (name : String) : Drafting TypeTree :=
  match name with
  | "object" =>
    match schema.additional with
    | some (.values values) => do
      return .dict {} (← lower values (path ++ "/additionalProperties") suggested)
    | _ => return .dict {} .any
  | "array" =>
    match schema.items with
    | some (.each item) => do
      return .list {} (← lower item (path ++ "/items") (setting.itemName suggested))
    | some (.positional items) => do
      let members ← items.zipIdx.mapM fun (item, i) =>
        lower item (path ++ "/items/" ++ toString i) (setting.itemName suggested)
      return .list {} (.union {} members)
    | none => return .list {} .any
  | "string" => return setting.textType schema
  | "integer" => return .builtin "int"
  | "number" => return numberType schema
  | "boolean" => return .builtin "bool"
  | "null" => return .noneType
  | other => throw (.unsupportedType other path)

/-- The parts of an object: the schema itself and the schemas in it that it is put together from,
    apart from those that only point to base classes. -/
def parts (schema : Schema) : List Schema :=
  schema :: schema.allOf.filter fun member => member.pointer.isNone || !member.properties.isEmpty

/-- The pointers to base classes. -/
def basePointers (schema : Schema) : List String :=
  schema.allOf.filterMap fun member =>
    if member.properties.isEmpty then member.pointer else none

/-- The keywords that fields keep. -/
def keptKeywords : List String := ["examples", "example", "deprecated"]

/-- What a property says beside its type. -/
def propertyExtras (schema : Schema) : Entries Value :=
  (schema.description.map fun text => ("description", Value.str text)).toList ++
    keptKeywords.filterMap (fun name =>
      (Entries.get? schema.keywords name).map fun value => (name, value)) ++
    (schema.constant.map fun value => ("const", value)).toList

/-- The field of a property of the given type. -/
def propertyField (setting : Setting) (required : List String) (name : String) (schema : Schema)
    (type : TypeTree) : FieldSpec :=
  let attributeName := Python.attributeName name
  let declared := if attributeName = name then none else some name
  { name := some attributeName
    declaredName := declared
    default := schema.default
    required := required.contains name
    wireName := declared
    nullable := if schema.isNullable then some true else none
    type := type
    constraints := setting.constraints? schema
    extras := propertyExtras schema }

/-- The field of a root model around the given type. -/
def rootField (setting : Setting) (schema : Schema) (type : TypeTree) : FieldSpec :=
  { default := schema.default
    required := schema.default.isNone
    type := if schema.isNullable then type.optional else type
    constraints := setting.constraints? schema }

/-- The field of a property. -/
def lowerProperty (setting : Setting) (lower : Lowering) (owner path : String)
    (required : List String) (name : String) (schema : Schema) : Drafting FieldSpec := do
  let type ← lower schema (path ++ "/properties/" ++ name) (owner ++ Python.className name)
  return setting.propertyField required name schema type

/-- Notes whether a model admits further fields, unless the extras say so already. -/
def noteFurther (name : String) (allowed : Bool) (draft : Draft) : Draft :=
  { draft with
    extras := draft.extras.modify name fun extras =>
      { extras with additionalProperties := extras.additionalProperties <|> some allowed } }

/-- Adds the model of an object. -/
def lowerObject (setting : Setting) (lower : Lowering) (reference : RefId) (path : String)
    (schema : Schema) : Drafting Unit := do
  let owner := (← get).arena.shortName reference
  let displayName := (← get).arena.displayName reference
  let bases ← (basePointers schema).mapM fun pointer => liftM (setting.follow pointer)
  let required := (parts schema).flatMap Schema.required
  let fields ← ((parts schema).flatMap Schema.properties).mapM fun (name, property) =>
    setting.lowerProperty lower owner path required name property
  if let some allowed := schema.admitsFurther? then
    modify (noteFurther displayName allowed)
  modify fun draft =>
    { draft with
      specs := draft.specs ++
        [{ reference := some reference
           fields := fields
           bases := bases
           description := setting.description? schema }] }

/-- The type that the listed types of a schema make. -/
def lowerTypes (setting : Setting) (lower : Lowering) (schema : Schema) (path suggested : String) :
    Drafting TypeTree := do
  let members ← (schema.typeNames.filter (· != "null")).mapM
    (setting.lowerNamed lower schema path suggested)
  match members with
  | [] =>
    if schema.typeNames = ["null"] then return .noneType
    else return (schema.constant.map constantType).getD .any
  | [single] => return single
  | several => return .union {} several

/-- The type of a schema, given how the schemas inside it become types. -/
def lowerStep (setting : Setting) (lower : Lowering) : Lowering := fun schema path suggested => do
  if let some pointer := schema.pointer then
    return .model {} (← setting.follow pointer)
  if let some type := setting.chosenType? schema then
    return type
  if let some values := schema.choices then
    return choiceType values
  let (keyword, alternatives) := schema.alternatives
  if !alternatives.isEmpty then
    let members ← alternatives.zipIdx.mapM fun (member, i) =>
      lower member (path ++ "/" ++ keyword ++ "/" ++ toString i) suggested
    return .union {} members
  if schema.isObjectModel then
    match schema.allOf, schema.properties with
    | [single], [] => lower single (path ++ "/allOf/0") suggested
    | _, _ =>
      let (reference, arena) := (← get).arena.allocate path suggested
      modify fun draft => { draft with arena := arena }
      setting.lowerObject lower reference path schema
      return .model {} reference
  else setting.lowerTypes lower schema path suggested

/-! ## Lowering a document -/

/-- The type of a schema that is nested at most as deep as `fuel` says. -/
def lowerType (setting : Setting) : Nat → Lowering
  | 0 => fun _ _ _ => throw .invalidSchema
  | fuel + 1 => setting.lowerStep (setting.lowerType fuel)

/-- Adds the model of a definition. -/
def lowerDefinition (setting : Setting) (reference : RefId) (path : String) (schema : Schema) :
    Drafting Unit := do
  let lower := setting.lowerType schema.height
  if schema.isObjectModel then setting.lowerObject lower reference path schema
  else
    let type ← lower schema path ((← get).arena.shortName reference)
    modify fun draft =>
      { draft with
        specs := draft.specs ++
          [{ reference := some reference
             kind := .root
             fields := [setting.rootField schema type]
             nullable := schema.isNullable
             description := setting.description? schema }] }

end Setting

/-- A schema that becomes a model: its path, the name it asks for and the schema. -/
structure Entry where
  path : String
  name : String
  schema : Schema

/-- The name of the class of the root. -/
def rootName (options : Options) (schema : Schema) : String :=
  options.className.getD ((schema.title.map Python.className).getD "Model")

/-- The schemas of a document that become models under a path: its root, unless it only carries
    definitions, and its definitions. -/
def entries (options : Options) (schema : Schema) : List Entry :=
  (if schema.isContainerOnly then [] else [⟨"#", rootName options schema, schema⟩]) ++
    schema.defs.map (fun (key, s) => ⟨"#/$defs/" ++ key, Python.className key, s⟩) ++
    schema.definitions.map (fun (key, s) => ⟨"#/definitions/" ++ key, Python.className key, s⟩)

/-- Allocates the references of entries, in order. -/
def allocateEntries (arena : Arena) (known : Entries RefId) :
    List Entry → Entries RefId × Arena
  | [] => (known, arena)
  | entry :: rest =>
    let (id, arena) := arena.allocate entry.path entry.name
    allocateEntries arena (Entries.put known entry.path id) rest

/-- What a document says about its models, with their references allocated in a graph. -/
def lower (schema : Schema) (registry : TypeRegistry) (graph : Graph) :
    Except Failure (List ModelSpec × Graph) := do
  let entries := schema.entries graph.options
  let (known, arena) := allocateEntries graph.arena [] entries
  let setting : Setting := { options := graph.options, registry := registry, known := known }
  let lowerAll : Drafting Unit := entries.forM fun entry => do
    setting.lowerDefinition (← setting.follow entry.path) entry.path entry.schema
  let ((), draft) ← lowerAll.run { arena := arena, extras := graph.extras }
  return (draft.specs, { graph with arena := draft.arena, extras := draft.extras })

end SchemaPress.Schema
