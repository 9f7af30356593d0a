import SchemaPress.Config
import SchemaPress.Field.View

set_option autoImplicit false

/-! # Models

One class of the generated module: what a document says about it, and the model that is built. -/

namespace SchemaPress

/-- What a document says about a model. -/
structure ModelSpec where
  /-- The reference that the model is built for. -/
  reference : Option RefId := none
  kind : ModelKind := .base
  fields : List FieldSpec := []
  /-- The base classes; without any, the flavor has a default. -/
  bases : List RefId := []
  /-- Decorators behind those of the flavor. -/
  decorators : List String := []
  methods : List String := []
  description : Option String := none
  /-- Whether the model admits `None` wherever it is mentioned. -/
  nullable : Bool := false
  /-- The template, where it is not the one of the flavor. -/
  template : Option String := none
  deriving Inhabited

/-- A class of the module. -/
structure Model where
  id : ModelId
  reference : RefId
  kind : ModelKind
  template : String
  fields : List Field
  bases : List TypeTree
  decorators : List String
  methods : List String
  description : Option String
  extras : ModelExtras
  config : Option Config
  nullable : Bool
  /-- The imports that do not come from the fields. -/
  ownImports : List Import
  deriving Inhabited

namespace Model

/-- The imports of the class, each once: those of its fields, then its own. -/
def imports (scope : Scope) (model : Model) : List Import :=
  Import.unique (model.fields.flatMap (·.imports scope) ++ model.ownImports)

/-- The base classes as they are written. -/
def baseHint (scope : Scope) (model : Model) : String :=
  ", ".intercalate (model.bases.map (·.hint scope))

/-- The references that the class mentions, in its fields and then as base classes. -/
def dependencies (model : Model) : List RefId :=
  model.fields.flatMap (·.type.targets) ++ model.bases.filterMap TypeTree.target?

end Model

/-! ## Fields of a model -/

/-- Splits fields into those that are kept and the names of those that are not: a name that has
    been seen is not kept again, and a field without a name always is. -/
def keepFirstNames (seen : List String) : List FieldSpec → List FieldSpec × List String
  | [] => ([], [])
  | spec :: rest =>
    match spec.name with
    | none =>
      let (kept, dropped) := keepFirstNames seen rest
      (spec :: kept, dropped)
    | some name =>
      if seen.contains name then
        let (kept, dropped) := keepFirstNames seen rest
        (kept, name :: dropped)
      else
        let (kept, dropped) := keepFirstNames (name :: seen) rest
        (spec :: kept, dropped)

/-- Puts fields in the order of their flavor: a dataclass has the attributes without values first.
    Otherwise the order stays. -/
def orderFields (flavor : Flavor) (scope : Scope) (fields : List Field) : List Field :=
  match flavor with
  | .dataclass => fields.filter (!·.assigns scope) ++ fields.filter (·.assigns scope)
  | _ => fields

end SchemaPress
