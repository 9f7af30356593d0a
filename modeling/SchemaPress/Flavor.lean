import SchemaPress.Decode
import SchemaPress.Import

set_option autoImplicit false

/-! # Flavors of generated classes

The three kinds of classes that a module can be made of, and the fixed facts about each: names,
template identifiers, base classes, decorators and imports. -/

namespace SchemaPress

/-- Whether a model has named fields or wraps a single type. -/
inductive ModelKind
  | base | root
  deriving DecidableEq, Repr, Inhabited

namespace ModelKind

/-- The name of the kind in documents. -/
def label : ModelKind → String
  | base => "base"
  | root => "root"

/-- Reads a kind from a document. -/
def read? : Value → Option ModelKind :=
  Decode.choice? [("base", base), ("root", root)]

end ModelKind

/-- The kind of class that models become. -/
inductive Flavor
  | pydantic2 | pydantic1 | dataclass
  deriving DecidableEq, Repr, Inhabited

namespace Flavor

/-- Every flavor. -/
def all : List Flavor := [pydantic2, pydantic1, dataclass]

/-- The name of the flavor in documents and on the command line. -/
def label : Flavor → String
  | pydantic2 => "pydantic_v2.BaseModel"
  | pydantic1 => "pydantic.BaseModel"
  | dataclass => "dataclasses.dataclass"

/-- The flavor with the given name. -/
def ofLabel? (label : String) : Option Flavor :=
  all.find? (·.label == label)

/-- The flavors by their names. -/
def choices : List (String × Flavor) :=
  all.map fun flavor => (flavor.label, flavor)

/-! ## Models -/

/-- The template that models of a kind are rendered with. -/
def templateId : Flavor → ModelKind → String
  | pydantic2, .base => "pydantic_v2/BaseModel.jinja2"
  | pydantic2, .root => "pydantic_v2/RootModel.jinja2"
  | pydantic1, .base => "pydantic/BaseModel.jinja2"
  | pydantic1, .root => "pydantic/BaseModel_root.jinja2"
  | dataclass, .base => "dataclass.jinja2"
  | dataclass, .root => "dataclass_root.jinja2"

/-- The base class of models that name none. -/
def defaultBaseClass : Flavor → ModelKind → Option Import
  | pydantic2, .base => some .baseModel
  | pydantic2, .root => some .rootModel
  | pydantic1, _ => some .baseModel
  | dataclass, _ => none

/-- Whether a base class chosen by the user takes the place of the default. -/
def acceptsCustomBase (_ : Flavor) (kind : ModelKind) : Bool :=
  kind = .base

/-- The decorators of every class. -/
def decorators : Flavor → ModelKind → List String
  | dataclass, .base => ["@dataclass"]
  | _, _ => []

/-- The imports of every class. -/
def defaultImports : Flavor → ModelKind → List Import
  | dataclass, .base => [.dataclass]
  | _, _ => []

/-- Whether the module evaluates annotations late. -/
def futureAnnotations (_ : Flavor) : Bool := true

/-- The statement that resolves the forward references of a class. -/
def rebuildCall : Flavor → String → Option String
  | pydantic2, name => some (name ++ ".model_rebuild()")
  | pydantic1, name => some (name ++ ".update_forward_refs()")
  | dataclass, _ => none

/-! ## Fields -/

/-- Whether bounds on the number of items are bounds on the length. -/
def itemBoundsAsLength : Flavor → Bool
  | pydantic2 => true
  | _ => false

/-- The import of the function that describes a field. -/
def fieldImport : Flavor → Import
  | dataclass => .dataclassField
  | _ => .field

/-- Whether the description of a field may move into its annotation. -/
def supportsAnnotated : Flavor → Bool
  | dataclass => false
  | _ => true

/-- Whether the default of an annotated field stands inside its description. -/
def defaultInAnnotation : Flavor → Bool
  | pydantic2 => true
  | _ => false

end Flavor

end SchemaPress
