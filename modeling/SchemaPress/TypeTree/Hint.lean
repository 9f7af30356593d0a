import SchemaPress.Options
import SchemaPress.Python.Literal
import SchemaPress.TypeTree

set_option autoImplicit false

/-! # Type hints

The text of a type, and the imports that the text needs. The text of a tree and whether it is
optional are found together: alternatives that are `None` are not written, they make the whole
optional. -/

namespace SchemaPress

/-- What the models of a tree look like from outside, and how types are spelled. -/
structure Scope where
  /-- The name of the class behind a reference. -/
  className : RefId → String
  /-- Whether the model behind a reference admits `None`. -/
  nullable : RefId → Bool
  spelling : Spelling

/-- The scope in which references have names and nothing is known about their models. -/
def Arena.scope (arena : Arena) (spelling : Spelling) : Scope where
  className := arena.shortName
  nullable := fun _ => false
  spelling := spelling

/-- The three shapes of containers. -/
inductive ContainerShape
  | list | set | dict
  deriving DecidableEq, Repr

namespace ContainerShape

/-- The name of the container. -/
def name (spelling : Spelling) : ContainerShape → String
  | list => if spelling.genericContainers then "Sequence"
    else if spelling.standardCollections then "list" else "List"
  | set => if spelling.genericContainers then "FrozenSet"
    else if spelling.standardCollections then "set" else "Set"
  | dict => if spelling.genericContainers then "Mapping"
    else if spelling.standardCollections then "dict" else "Dict"

/-- The import that the name needs. -/
def origin? (spelling : Spelling) : ContainerShape → Option Import
  | list =>
    if spelling.genericContainers then
      some (if spelling.standardCollections then .abstractSequence else .sequence)
    else if spelling.standardCollections then none else some .list
  | set =>
    if spelling.genericContainers then some .frozenSet
    else if spelling.standardCollections then none else some .set
  | dict =>
    if spelling.genericContainers then
      some (if spelling.standardCollections then .abstractMapping else .mapping)
    else if spelling.standardCollections then none else some .dict

/-- A list or set with the hint of what it holds; an empty hint is left out. -/
def apply (spelling : Spelling) (shape : ContainerShape) (item : String) : String :=
  if item.isEmpty then shape.name spelling else shape.name spelling ++ "[" ++ item ++ "]"

/-- A map from keys to values; a value without a hint may be anything. -/
def applyKeyed (spelling : Spelling) (key value : String) : String :=
  dict.name spelling ++ "[" ++ key ++ ", " ++ (if value.isEmpty then "Any" else value) ++ "]"

end ContainerShape

/-- The hint that also admits `None`. -/
def optionalHint (unionOperator : Bool) (hint : String) : String :=
  if hint.isEmpty || hint == "None" then "None"
  else if unionOperator then hint ++ " | None"
  else "Optional[" ++ hint ++ "]"

/-- A hint whose optionality stands beside it. -/
structure BareHint where
  text : String
  optional : Bool
  deriving DecidableEq, Repr, Inhabited

namespace BareHint

/-- The hint with its optionality written out; `Any` admits `None` as it is. -/
def close (spelling : Spelling) (bare : BareHint) : String :=
  if bare.optional && bare.text != "Any" then optionalHint spelling.unionOperator bare.text
  else bare.text

/-- Takes one alternative into the texts seen so far. -/
def addAlternative (seen : List String) (bare : BareHint) : List String :=
  if bare.text == "None" || seen.contains bare.text then seen else seen ++ [bare.text]

/-- The different alternatives that are not `None`, in order. -/
def alternatives (members : List BareHint) : List String :=
  members.foldl addAlternative []

/-- The text of several alternatives. -/
def join (spelling : Spelling) : List String → String
  | [] => ""
  | [single] => single
  | several =>
    if spelling.unionOperator then " | ".intercalate several
    else "Union[" ++ ", ".intercalate several ++ "]"

end BareHint

namespace NamedType

/-- The text of a named type. -/
def hint (type : NamedType) : String :=
  match type.call with
  | some arguments =>
    type.name ++ "(" ++ ", ".intercalate (arguments.map fun (k, v) => k ++ "=" ++ v) ++ ")"
  | none => type.name

end NamedType

namespace TypeTree

mutual

/-- The hint of a tree, with its optionality beside it. -/
def bare (scope : Scope) : TypeTree → BareHint
  | empty m => ⟨"", m.optional⟩
  | named m type => ⟨type.hint, m.optional⟩
  | model m target => ⟨scope.className target, m.optional || scope.nullable target⟩
  | literal m values =>
    ⟨"Literal[" ++ ", ".intercalate (values.map Python.literal) ++ "]", m.optional⟩
  | list m item =>
    ⟨ContainerShape.list.apply scope.spelling ((item.bare scope).close scope.spelling),
      m.optional⟩
  | set m item =>
    ⟨ContainerShape.set.apply scope.spelling ((item.bare scope).close scope.spelling),
      m.optional⟩
  | dict m value =>
    ⟨ContainerShape.applyKeyed scope.spelling "str" ((value.bare scope).close scope.spelling),
      m.optional⟩
  | keyedDict m key value =>
    ⟨ContainerShape.applyKeyed scope.spelling ((key.bare scope).close scope.spelling)
      ((value.bare scope).close scope.spelling), m.optional⟩
  | union m members =>
    let bares := bareAll scope members
    ⟨BareHint.join scope.spelling (BareHint.alternatives bares),
      m.optional || bares.any fun bare => bare.text == "None" || bare.optional⟩

/-- The hints of several trees. -/
def bareAll (scope : Scope) : List TypeTree → List BareHint
  | [] => []
  | tree :: rest => tree.bare scope :: bareAll scope rest

end

/-- The hint of a tree. -/
def hint (scope : Scope) (tree : TypeTree) : String :=
  (tree.bare scope).close scope.spelling

/-- Whether the hint is optional. -/
def rendersOptional (scope : Scope) (tree : TypeTree) : Bool :=
  (tree.bare scope).optional

/-- Whether the hint is `Any`, whatever its optionality. -/
def rendersAny (scope : Scope) (tree : TypeTree) : Bool :=
  (tree.bare scope).text == "Any"

/-! ## Imports -/

/-- The import of a named type. -/
def ownImport : TypeTree → List Import
  | named _ type => type.origin.toList
  | _ => []

/-- The import of the shape of a node. -/
def shapeImports (scope : Scope) : TypeTree → List Import
  | union _ members =>
    if 1 < members.length && !scope.spelling.unionOperator then [.union] else []
  | literal _ values =>
    if values.isEmpty then []
    else [if scope.spelling.target.hasLiteral then .literal else .literalBackport]
  | list _ _ => (ContainerShape.list.origin? scope.spelling).toList
  | set _ _ => (ContainerShape.set.origin? scope.spelling).toList
  | dict _ value | keyedDict _ _ value =>
    (ContainerShape.dict.origin? scope.spelling).toList ++
      if value.isEmpty then [.any] else []
  | _ => []

/-- The imports of the root alone. -/
def imports (scope : Scope) (tree : TypeTree) : List Import :=
  tree.ownImport ++
    (if tree.rendersOptional scope && !scope.spelling.unionOperator then [.optional] else []) ++
    tree.shapeImports scope

mutual

/-- The imports of every node, children before parents. -/
def collectImports (scope : Scope) : TypeTree → List Import
  | list m item => item.collectImports scope ++ (list m item).imports scope
  | set m item => item.collectImports scope ++ (set m item).imports scope
  | dict m value => value.collectImports scope ++ (dict m value).imports scope
  | keyedDict m key value =>
    key.collectImports scope ++ value.collectImports scope ++
      (keyedDict m key value).imports scope
  | union m members => collectAllImports scope members ++ (union m members).imports scope
  | leaf => leaf.imports scope

/-- The imports of every node of several trees. -/
def collectAllImports (scope : Scope) : List TypeTree → List Import
  | [] => []
  | tree :: rest => tree.collectImports scope ++ collectAllImports scope rest

end

/-- The imports of every node, each once. -/
def allImports (scope : Scope) (tree : TypeTree) : List Import :=
  Import.unique (tree.collectImports scope)

end TypeTree

end SchemaPress
