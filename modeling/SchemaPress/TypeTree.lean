import SchemaPress.Import
import SchemaPress.Reference
import SchemaPress.Value

set_option autoImplicit false

/-! # Type trees

The types of fields. Models occur in a tree only through their references, so a tree is finite
even when models mention each other. -/

namespace SchemaPress

/-- A type with a name, which may be imported and may be a call such as `constr(max_length=3)`. -/
structure NamedType where
  name : String
  origin : Option Import := none
  /-- The arguments of a call, each with the expression it is given. -/
  call : Option (Entries String) := none
  deriving DecidableEq, Repr, Inhabited

/-- Marks on a node. -/
structure Marks where
  /-- The type admits `None`. -/
  optional : Bool := false
  /-- The type is one that validators do not know. -/
  custom : Bool := false
  /-- The type is strict, so constraints are not written beside it. -/
  strict : Bool := false
  deriving DecidableEq, Repr, Inhabited

/-- A type. -/
inductive TypeTree
  /-- No type at all. -/
  | empty (marks : Marks)
  /-- A type with a name. -/
  | named (marks : Marks) (type : NamedType)
  /-- A model. -/
  | model (marks : Marks) (target : RefId)
  /-- One of several values. -/
  | literal (marks : Marks) (values : List Value)
  /-- A list of items. -/
  | list (marks : Marks) (item : TypeTree)
  /-- A set of items. -/
  | set (marks : Marks) (item : TypeTree)
  /-- A map from texts to values. -/
  | dict (marks : Marks) (value : TypeTree)
  /-- A map from keys to values. -/
  | keyedDict (marks : Marks) (key value : TypeTree)
  /-- One of several types. -/
  | union (marks : Marks) (members : List TypeTree)
  deriving Repr

namespace TypeTree

instance : Inhabited TypeTree := ⟨empty {}⟩

/-! ## Building trees -/

/-- A built-in type. -/
def builtin (name : String) : TypeTree :=
  named {} { name := name }

/-- An imported type. -/
def imported (origin : Import) : TypeTree :=
  named {} { name := origin.name, origin := some origin }

/-- A call of an imported type. -/
def called (origin : Import) (arguments : Entries String) : TypeTree :=
  named {} { name := origin.name, origin := some origin, call := some arguments }

/-- Any value. -/
def any : TypeTree := imported .any

/-- `None` only. -/
def noneType : TypeTree := builtin "None"

/-! ## Marks -/

/-- The marks of the root. -/
def marks : TypeTree → Marks
  | empty m | named m _ | model m _ | literal m _ | list m _ | set m _ | dict m _
  | keyedDict m _ _ | union m _ => m

/-- The tree with other marks on its root. -/
def withMarks (m : Marks) : TypeTree → TypeTree
  | empty _ => empty m
  | named _ type => named m type
  | model _ target => model m target
  | literal _ values => literal m values
  | list _ item => list m item
  | set _ item => set m item
  | dict _ value => dict m value
  | keyedDict _ key value => keyedDict m key value
  | union _ members => union m members

/-- The tree with its root marked optional. -/
def optional (tree : TypeTree) : TypeTree :=
  tree.withMarks { tree.marks with optional := true }

/-- The tree with its root marked custom. -/
def custom (tree : TypeTree) : TypeTree :=
  tree.withMarks { tree.marks with custom := true }

/-- The tree with its root marked strict. -/
def strict (tree : TypeTree) : TypeTree :=
  tree.withMarks { tree.marks with strict := true }

/-! ## Looking at the root -/

/-- Whether there is no type at all. -/
def isEmpty : TypeTree → Bool
  | empty _ => true
  | _ => false

/-- The name, of a named type only. -/
def name? : TypeTree → Option String
  | named _ type => some type.name
  | _ => none

/-- The model, of a model only. -/
def target? : TypeTree → Option RefId
  | model _ target => some target
  | _ => none

/-- The values, of a literal only. -/
def values? : TypeTree → Option (List Value)
  | literal _ values => some values
  | _ => none

/-- The arguments, of a call that has some only. -/
def arguments? : TypeTree → Option (Entries String)
  | named _ { call := some (first :: rest), .. } => some (first :: rest)
  | _ => none

/-- Whether the root is `Any`. -/
def isAny (tree : TypeTree) : Bool :=
  tree.name? == some "Any"

/-- The model that a value of the type is made with: the type itself, or the first model among
    alternatives. -/
def directTarget? : TypeTree → Option RefId
  | model _ target => some target
  | union _ members => members.findSome? target?
  | _ => none

/-- The type of the items or values of a container. -/
def item? : TypeTree → Option TypeTree
  | list _ item | set _ item => some item
  | dict _ value | keyedDict _ _ value => some value
  | _ => none

/-! ## Walking a tree -/

/-- The nodes right below the root, from left to right. -/
def children : TypeTree → List TypeTree
  | list _ item | set _ item => [item]
  | dict _ value => [value]
  | keyedDict _ key value => [key, value]
  | union _ members => members
  | _ => []

mutual

/-- The number of nodes. -/
def size : TypeTree → Nat
  | list _ item | set _ item => item.size + 1
  | dict _ value => value.size + 1
  | keyedDict _ key value => key.size + value.size + 1
  | union _ members => sizeAll members + 1
  | _ => 1

/-- The number of nodes of several trees. -/
def sizeAll : List TypeTree → Nat
  | [] => 0
  | tree :: rest => tree.size + sizeAll rest

end

/-- A walk that is under way: the trees that are still to be visited, the next one last. -/
structure Walk where
  pending : Array TypeTree

namespace Walk

/-- Lists the next tree. Its children take its place, the first of them to be visited next. The
    walk ends when no tree is pending. -/
def next? (walk : Walk) : Option (TypeTree × Walk) :=
  walk.pending.back?.map fun tree => (tree, ⟨walk.pending.pop ++ tree.children.reverse⟩)

/-- The trees that a walk lists in at most `steps` steps. -/
def take (walk : Walk) : (steps : Nat) → List TypeTree
  | 0 => []
  | steps + 1 =>
    match walk.next? with
    | none => []
    | some (tree, rest) => tree :: rest.take steps

end Walk

/-- The walk that visits a tree. -/
def walk (tree : TypeTree) : Walk :=
  ⟨#[tree]⟩

/-- Every node, parents before children and left before right. -/
def nodes (tree : TypeTree) : List TypeTree :=
  tree.walk.take tree.size

/-- Every model that occurs in the tree, with repeats, in the order of the nodes. -/
def targets (tree : TypeTree) : List RefId :=
  tree.nodes.filterMap target?

end TypeTree

end SchemaPress
