import SchemaPress.Field.Call
import SchemaPress.Json.Writer
import SchemaPress.Text.Cut

set_option autoImplicit false

/-! # Views of fields

Everything that a template writes about a field: its hint, its call, its default and its
docstring, with the imports that they need. -/

namespace SchemaPress

namespace Field

/-- Whether the hint of the type is wrapped once more to admit `None`. A type that is optional
    already is not, nor is one with a factory; otherwise the field says so itself, or it need not
    be given. -/
def wrapsOptional (scope : Scope) (field : Field) : Bool :=
  if field.hasDefaultFactory ||
      (field.type.rendersOptional scope && !field.type.rendersAny scope) then false
  else
    match field.nullable with
    | some nullable => nullable
    | none => !field.required && field.fallBackToNullable

/-- The hint of the field. -/
def hint (scope : Scope) (field : Field) : String :=
  let inner := field.type.hint scope
  if inner.isEmpty then "None"
  else if field.wrapsOptional scope then optionalHint scope.spelling.unionOperator inner
  else inner

/-- The hint together with the call, where both stand in the annotation. -/
def annotated? (scope : Scope) (field : Field) : Option String :=
  if field.useAnnotated && field.flavor.supportsAnnotated then
    (field.call? scope).map fun call => "Annotated[" ++ field.hint scope ++ ", " ++ call ++ "]"
  else none

/-- The imports that the field needs, each once. `Union` is imported only if the hint shows it. -/
def imports (scope : Scope) (field : Field) : List Import :=
  let showsUnion := !scope.spelling.unionOperator &&
    Text.occursIn "Union[".toList (field.hint scope).toList
  let ofType := (field.type.allImports scope).filter fun item => showsUnion || item ≠ .union
  let ofWrapping :=
    if field.wrapsOptional scope && !scope.spelling.unionOperator then [Import.optional] else []
  let ofAnnotation :=
    if (field.annotated? scope).isSome then
      [if scope.spelling.target.hasAnnotated then Import.annotated else .annotatedBackport]
    else []
  let ofCall := if (field.call? scope).isSome then [field.flavor.fieldImport] else []
  Import.unique (ofType ++ ofWrapping ++ ofAnnotation ++ ofCall)

/-- The description as a docstring, if descriptions become docstrings. A description that is no
    text is written as a document. -/
def docstring? (field : Field) : Option String :=
  if field.useFieldDescription then
    match Entries.get? field.extras "description" with
    | none | some .null => none
    | some (.str text) => some text
    | some other => some (Json.write other)
  else none

end Field

/-- What a template sees of a field. -/
structure FieldView where
  name : String
  wireName : Option String
  hint : String
  call : Option String
  annotated : Option String
  required : Bool
  nullable : Option Bool
  optional : Bool
  defaultLiteral : String
  /-- Whether the default is written behind the hint. -/
  rendersDefault : Bool
  stripDefaultNone : Bool
  docstring : Option String
  deriving DecidableEq, Repr, Inhabited

namespace FieldView

/-- Whether the attribute is given a value. -/
def assigns (view : FieldView) : Bool :=
  view.rendersDefault || (view.annotated.isNone && view.call.isSome)

/-- An optional text as a document value. -/
def textOrNull : Option String → Value
  | some text => .str text
  | none => .null

/-- The variables of a view. -/
def toValue (view : FieldView) : Value :=
  .obj [
    ("name", .str view.name),
    ("alias", textOrNull view.wireName),
    ("type_hint", .str view.hint),
    ("field", textOrNull view.call),
    ("annotated", textOrNull view.annotated),
    ("required", .bool view.required),
    ("nullable", match view.nullable with | some b => .bool b | none => .null),
    ("is_optional", .bool view.optional),
    ("represented_default", .str view.defaultLiteral),
    ("renders_default", .bool view.rendersDefault),
    ("strip_default_none", .bool view.stripDefaultNone),
    ("docstring", textOrNull view.docstring)]

end FieldView

namespace Field

/-- Whether the default is written behind the hint: the field wants one, no call stands there, the
    annotation does not hold it, and it is not a `None` that is left out. -/
def rendersDefault (scope : Scope) (field : Field) : Bool :=
  (!field.required || field.type.rendersOptional scope || field.nullable = some true) &&
    !((field.annotated? scope).isNone && (field.call? scope).isSome) &&
    !((field.annotated? scope).isSome && field.flavor.defaultInAnnotation) &&
    !(field.stripDefaultNone && field.defaultLiteral == "None")

/-- The view of a field. -/
def view (scope : Scope) (field : Field) : FieldView where
  name := field.name.getD ""
  wireName := field.wireName
  hint := field.hint scope
  call := field.call? scope
  annotated := field.annotated? scope
  required := field.required
  nullable := field.nullable
  optional := field.type.rendersOptional scope
  defaultLiteral := field.defaultLiteral
  rendersDefault := field.rendersDefault scope
  stripDefaultNone := field.stripDefaultNone
  docstring := field.docstring?

/-- Whether the attribute is given a value. -/
def assigns (scope : Scope) (field : Field) : Bool :=
  (field.view scope).assigns

end Field

end SchemaPress
