import SchemaPress.Constraint
import SchemaPress.Options
import SchemaPress.TypeTree

set_option autoImplicit false

/-! # Fields

One attribute of a class: what a document says about it, and the field that is built from that. -/

namespace SchemaPress

/-- What a document says about a field. -/
structure FieldSpec where
  /-- The name of the attribute; the field of a root model has none. -/
  name : Option String := none
  /-- The name in the document, where it differs. -/
  declaredName : Option String := none
  /-- The default, which may be an explicit null. -/
  default : Option Value := none
  required : Bool := false
  /-- The name in serialized data, where it differs. -/
  wireName : Option String := none
  /-- Whether the field admits `None`, if that is said. -/
  nullable : Option Bool := none
  type : TypeTree := .empty {}
  constraints : Option ConstraintSet := none
  /-- Everything else, such as `description`, `const` or `examples`. -/
  extras : Entries Value := []
  deriving Inhabited

/-- The model that a field belongs to. -/
structure Owner where
  model : ModelId
  reference : RefId
  deriving DecidableEq, Repr

/-- A field as it is written. -/
structure Field extends FieldSpec where
  /-- The value of the field is a constant. -/
  frozen : Bool := false
  useAnnotated : Bool
  useDefaultKeyword : Bool
  stripDefaultNone : Bool
  useFieldDescription : Bool
  fallBackToNullable : Bool
  flavor : Flavor
  owner : Option Owner := none
  deriving Inhabited

/-- Whether a value is one of those that count as false. -/
def Value.isFalsy : Value → Bool
  | .null => true
  | .bool b => !b
  | .int n => n == 0
  | .float x => x.isZero
  | .str s => s.isEmpty
  | .arr items => items.isEmpty
  | .obj fields => fields.isEmpty

namespace Field

/-- The constant of the field, if its extras name one. -/
def constant? (field : Field) : Option Value :=
  Entries.get? field.extras "const"

/-- Fixes a field to its constant. In pydantic 2 its type becomes a literal, and the constant is
    the default unless there is one; elsewhere the constant is the default and the field need not
    be given. -/
def freeze (field : Field) : Field :=
  match field.constant? with
  | none => field
  | some value =>
    match field.flavor with
    | .pydantic2 =>
      { field with
        frozen := true
        nullable := some false
        default := match field.default with
          | some given => if given.isFalsy then some value else some given
          | none => some value
        type := .literal {} [value] }
    | _ =>
      { field with
        frozen := true
        nullable := some false
        default := some value
        required := false }

/-- Gives a required field with a single literal that literal as its default. -/
def defaultToLiteral (field : Field) : Field :=
  match field.type.values?, field.required with
  | some [value], true =>
    { field with
      default := some value
      required := false
      nullable := if field.nullable = some true then field.nullable else some false }
  | _, _ => field

/-- Builds a field. -/
def build (options : Options) (spec : FieldSpec) : Field :=
  let field : Field :=
    { toFieldSpec := spec
      useAnnotated := options.useAnnotated
      useDefaultKeyword := options.useDefaultKeyword
      stripDefaultNone := options.stripDefaultNone
      useFieldDescription := options.useFieldDescription
      fallBackToNullable := options.fallBackToNullable
      flavor := options.flavor }
  if options.useOneLiteralAsDefault then field.freeze.defaultToLiteral else field.freeze

/-- Whether the extras name a function that makes the default. -/
def hasDefaultFactory (field : Field) : Bool :=
  Entries.has field.extras "default_factory"

/-- Whether the type mentions the model that the field belongs to. -/
def selfReferring (field : Field) : Bool :=
  match field.owner with
  | some owner => field.type.targets.contains owner.reference
  | none => false

/-- The pattern of the field: from its constraints, or from the arguments of its type. -/
def pattern? (field : Field) : Option String :=
  (field.constraints.bind ConstraintSet.pattern?).orElse fun _ =>
    field.type.arguments?.bind fun arguments => Entries.get? arguments "pattern"

/-- The literal of the default, `None` where there is none. -/
def defaultLiteral (field : Field) : String :=
  Python.literal (field.default.getD .null)

end Field

end SchemaPress
