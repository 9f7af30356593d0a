import SchemaPress.Field
import SchemaPress.Sorted
import SchemaPress.TypeTree.Hint

set_option autoImplicit false

/-! # Field calls

The call that describes a field: `Field(...)` in the pydantic flavors, `field(...)` in
dataclasses. The two releases of pydantic agree on the shape of the call and differ in a few
points, which a dialect lists. -/

namespace SchemaPress

/-- Where the releases of pydantic differ. -/
structure CallDialect where
  /-- The extras that never become arguments. -/
  excluded : List String
  /-- The arguments that the call knows; without a list it takes any. -/
  known : Option (List String)
  /-- The argument that carries a pattern. -/
  patternArgument : String
  /-- Bounds on the number of items are bounds on the length. -/
  itemsAsLength : Bool
  /-- There is an argument for uniqueness. -/
  uniqueItems : Bool
  /-- Constants are marked. -/
  constMarker : Bool
  /-- A single example becomes a list of examples. -/
  exampleList : Bool
  /-- Inside `Annotated[...]` the call still carries the default. -/
  defaultInAnnotation : Bool
  /-- The method that makes a model from a dictionary. -/
  parseMethod : String
  deriving Repr

namespace CallDialect

/-- The dialect of pydantic 2. -/
def pydantic2 : CallDialect where
  excluded := ["alias", "default", "const", "gt", "ge", "lt", "le", "multiple_of", "min_length",
    "max_length", "pattern"]
  known := some ["default", "default_factory", "alias", "alias_priority", "validation_alias",
    "serialization_alias", "title", "description", "examples", "exclude", "discriminator",
    "json_schema_extra", "frozen", "validate_default", "repr", "init_var", "kw_only", "pattern",
    "strict", "gt", "ge", "lt", "le", "multiple_of", "allow_inf_nan", "max_digits",
    "decimal_places", "min_length", "max_length", "union_mode"]
  patternArgument := "pattern"
  itemsAsLength := true
  uniqueItems := false
  constMarker := false
  exampleList := true
  defaultInAnnotation := true
  parseMethod := "model_validate"

/-- The dialect of pydantic 1. -/
def pydantic1 : CallDialect where
  excluded := ["alias", "default", "const", "gt", "ge", "lt", "le", "multiple_of", "min_items",
    "max_items", "min_length", "max_length", "regex"]
  known := none
  patternArgument := "regex"
  itemsAsLength := false
  uniqueItems := true
  constMarker := true
  exampleList := false
  defaultInAnnotation := false
  parseMethod := "parse_obj"

/-! ## Arguments -/

/-- The extras that the call may use: those that are not excluded and not null, a single example
    as a list, and no description that becomes a docstring. -/
def usableExtras (dialect : CallDialect) (field : Field) : Entries Value :=
  let present := field.extras.filter fun (name, value) =>
    !dialect.excluded.contains name && !value.isNull
  let listed :=
    if dialect.exampleList && !Entries.has present "examples" then
      match Entries.get? present "example" with
      | some sample => Entries.put (Entries.drop present "example") "examples" (.arr [sample])
      | none => present
    else present
  if field.useFieldDescription then Entries.drop listed "description" else listed

/-- Whether the call takes an argument of this name. -/
def knows (dialect : CallDialect) (name : String) : Bool :=
  match dialect.known with
  | some names => names.contains name
  | none => true

/-- The arguments that come from extras. What the call does not know goes into one dictionary. -/
def extraArguments (dialect : CallDialect) (extras : Entries Value) : Entries String :=
  let direct := extras.filter fun entry => dialect.knows entry.1
  let further := extras.filter fun entry => !dialect.knows entry.1
  let arguments := Entries.mapValues Python.literal direct
  if further.isEmpty then arguments
  else Entries.put arguments "json_schema_extra" (Python.literal (.obj further))

/-- The argument that carries a kind of constraint, if there is one. -/
def constraintArgument? (dialect : CallDialect) : ConstraintKind → Option String
  | .pattern => some dialect.patternArgument
  | .uniqueItems => if dialect.uniqueItems then some "unique_items" else none
  | .minItems => some (if dialect.itemsAsLength then "min_length" else "min_items")
  | .maxItems => some (if dialect.itemsAsLength then "max_length" else "max_items")
  | kind => some kind.argument

/-- The constraints that are written: none beside a strict type, beside `Any` or beside the model
    that the field belongs to. -/
def writtenConstraints (field : Field) : List (ConstraintKind × Bound) :=
  match field.constraints with
  | none => []
  | some constraints =>
    if field.selfReferring || field.type.marks.strict || field.type.nodes.any TypeTree.isAny then []
    else constraints.toList

/-- The arguments that come from constraints. Bounds that are compared with the value are numbers
    of the kind that the field holds. -/
def constraintArguments (dialect : CallDialect) (field : Field) : Entries String :=
  let asReal := field.type.nodes.any fun node => node.name? == some "float"
  (writtenConstraints field).filterMap fun (kind, bound) =>
    (dialect.constraintArgument? kind).map fun name =>
      (name, (if kind.isComparison then bound.coerced asReal else bound).literal)

/-- The arguments of the call apart from the default. -/
def arguments (dialect : CallDialect) (field : Field) : Entries String :=
  let extras := Entries.drop (dialect.usableExtras field) "default_factory"
  let fromExtras := dialect.extraArguments extras
  let withAlias :=
    match field.wireName with
    | some name => Entries.put fromExtras "alias" (Python.quoted name)
    | none => fromExtras
  let constrained := Entries.overlay withAlias (dialect.constraintArguments field)
  if dialect.constMarker && field.frozen then Entries.put constrained "const" "True"
  else constrained

/-! ## Defaults -/

/-- The expression that makes a model from a value. -/
def parseModel (dialect : CallDialect) (scope : Scope) (target : RefId) (value : Value) : String :=
  scope.className target ++ "." ++ dialect.parseMethod ++ "(" ++ Python.literal value ++ ")"

/-- The function that makes the default of a field that holds a model, or a container of models,
    from the value in the document. -/
def modelFactory? (dialect : CallDialect) (scope : Scope) (field : Field) : Option String :=
  match field.default with
  | some (.obj fields) =>
    field.type.directTarget?.map fun target =>
      "lambda: " ++ dialect.parseModel scope target (.obj fields)
  | some (.arr items) =>
    if items.isEmpty || !items.all Value.isObject then none
    else
      (field.type.item?.bind TypeTree.directTarget?).map fun target =>
        "lambda: [" ++ ", ".intercalate (items.map (dialect.parseModel scope target)) ++ "]"
  | _ => none

/-- The expression that an explicit factory is: a text is an expression as it stands. -/
def factoryExpression : Value → String
  | .str text => text
  | other => Python.literal other

/-- The function that makes the default; a required field has none. -/
def factory? (dialect : CallDialect) (scope : Scope) (field : Field) : Option String :=
  if field.required then none
  else
    match Entries.get? (dialect.usableExtras field) "default_factory" with
    | some given => some (factoryExpression given)
    | none => dialect.modelFactory? scope field

/-- The default as an argument. -/
def defaultArgument (field : Field) : String :=
  if field.useDefaultKeyword then "default=" ++ field.defaultLiteral else field.defaultLiteral

/-- The first argument: `...` for a required field, else where the default comes from. Inside
    `Annotated[...]` it is written only if the dialect wants it there. -/
def leading? (dialect : CallDialect) (field : Field) (factory : Option String) : Option String :=
  if field.useAnnotated && field.flavor.supportsAnnotated then
    if dialect.defaultInAnnotation then
      match factory with
      | some expression => some ("default_factory=" ++ expression)
      | none => if !field.required || field.frozen then some (defaultArgument field) else none
    else none
  else if field.required then some "..."
  else
    match factory with
    | some expression => some ("default_factory=" ++ expression)
    | none => some (defaultArgument field)

/-- The call that describes a field, if there is anything to say. -/
def call? (dialect : CallDialect) (scope : Scope) (field : Field) : Option String :=
  let factory := dialect.factory? scope field
  let arguments :=
    Text.sorted ((dialect.arguments field).map fun (name, value) => name ++ "=" ++ value)
  if arguments.isEmpty && factory.isNone then
    if field.nullable = some true ∧ field.required then some "Field(...)" else none
  else
    let all := (dialect.leading? field factory).toList ++ arguments
    some ("Field(" ++ ", ".intercalate all ++ ")")

end CallDialect

namespace Field

/-- The call of a dataclass, which is needed for factories and for defaults that can change. -/
def dataclassCall? (field : Field) : Option String :=
  if field.required then none
  else
    let factory :=
      match Entries.get? field.extras "default_factory", field.default with
      | some given, _ => some (CallDialect.factoryExpression given)
      | none, some (.arr items) => some ("lambda: " ++ Python.literal (.arr items))
      | none, some (.obj fields) => some ("lambda: " ++ Python.literal (.obj fields))
      | none, _ => none
    factory.map fun expression => "field(default_factory=" ++ expression ++ ")"

/-- The call that describes a field in its flavor, if there is anything to say. -/
def call? (scope : Scope) (field : Field) : Option String :=
  match field.flavor with
  | .pydantic2 => CallDialect.pydantic2.call? scope field
  | .pydantic1 => CallDialect.pydantic1.call? scope field
  | .dataclass => field.dataclassCall?

end Field

end SchemaPress
