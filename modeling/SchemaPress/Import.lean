import SchemaPress.Text.Cut

set_option autoImplicit false

/-! # Imports

A symbol that generated code needs: `from module import name`, or `import name`. -/

namespace SchemaPress

/-- An imported symbol; without a module it is a module itself. -/
structure Import where
  module : Option String
  name : String
  deriving DecidableEq, Repr

namespace Import

/-- A symbol of a module. -/
def of (module name : String) : Import :=
  ⟨some module, name⟩

/-- The symbol behind a dotted path: the last segment, imported from what stands before it. -/
def ofPath (path : String) : Import :=
  match Text.cutLastDot path with
  | some (front, back) => ⟨some front, back⟩
  | none => ⟨none, path⟩

/-! ## Symbols of the standard library and of pydantic -/

def optional : Import := of "typing" "Optional"
def union : Import := of "typing" "Union"
def any : Import := of "typing" "Any"
def list : Import := of "typing" "List"
def dict : Import := of "typing" "Dict"
def set : Import := of "typing" "Set"
def sequence : Import := of "typing" "Sequence"
def mapping : Import := of "typing" "Mapping"
def frozenSet : Import := of "typing" "FrozenSet"
def abstractSequence : Import := of "collections.abc" "Sequence"
def abstractMapping : Import := of "collections.abc" "Mapping"
def literal : Import := of "typing" "Literal"
def literalBackport : Import := of "typing_extensions" "Literal"
def annotated : Import := of "typing" "Annotated"
def annotatedBackport : Import := of "typing_extensions" "Annotated"
def field : Import := of "pydantic" "Field"
def configDict : Import := of "pydantic" "ConfigDict"
def extra : Import := of "pydantic" "Extra"
def baseModel : Import := of "pydantic" "BaseModel"
def rootModel : Import := of "pydantic" "RootModel"
def dataclass : Import := of "dataclasses" "dataclass"
def dataclassField : Import := of "dataclasses" "field"

/-! ## Collections of imports -/

/-- Appends the imports that are not yet present, in order. -/
def addNew (seen : List Import) : List Import → List Import
  | [] => seen
  | item :: rest => addNew (if seen.contains item then seen else seen ++ [item]) rest

/-- Each import once, in the order of first appearance. -/
def unique (imports : List Import) : List Import :=
  addNew [] imports

end Import

end SchemaPress
