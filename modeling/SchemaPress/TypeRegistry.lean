import SchemaPress.Text.Character
import SchemaPress.Text.Cut
import SchemaPress.TypeTree

set_option autoImplicit false

/-! # Custom types

The types that the user declares: names for which a symbol of some module stands. -/

namespace SchemaPress

/-- The declared types: from each name to the dotted path of its symbol. -/
structure TypeRegistry where
  paths : Entries String := []
  deriving DecidableEq, Repr, Inhabited

namespace TypeRegistry

/-- Declares a type, or declares it anew. -/
def register (registry : TypeRegistry) (name path : String) : TypeRegistry :=
  ⟨Entries.put registry.paths name path⟩

/-- Declares a type by a text such as `Name=module.Symbol`; neither side may be blank. -/
def registerText? (registry : TypeRegistry) (text : String) : Option TypeRegistry :=
  match Text.cutFirst '=' text.toList with
  | none => none
  | some (front, back) =>
    let name := Text.trim front
    let path := Text.trim back
    if name.isEmpty || path.isEmpty then none
    else some (registry.register (String.ofList name) (String.ofList path))

/-- Declares types by texts, and skips the texts that declare none. -/
def ofTexts (texts : List String) : TypeRegistry :=
  texts.foldl (fun registry text => (registry.registerText? text).getD registry) {}

/-- The path of a declared type. -/
def path? (registry : TypeRegistry) (name : String) : Option String :=
  Entries.get? registry.paths name

/-- Whether no type is declared. -/
def isEmpty (registry : TypeRegistry) : Bool :=
  registry.paths.isEmpty

/-- The declared type with the given name, marked custom. -/
def type? (registry : TypeRegistry) (name : String) : Option TypeTree :=
  (registry.path? name).map fun path => (TypeTree.imported (Import.ofPath path)).custom

end TypeRegistry

end SchemaPress
