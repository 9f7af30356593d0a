import SchemaPress.Entries
import SchemaPress.Failure
import SchemaPress.Text.Cut

set_option autoImplicit false

/-! # References

A reference is a named slot for a model, found by its path. It is allocated before its model is
built, so that models can mention models that come later. The arena gives every reference a
display name that no other one has, and looks paths up in an index of its own. -/

namespace SchemaPress

/-- The place of a reference in its arena. -/
structure RefId where
  index : Nat
  deriving DecidableEq, Repr, Inhabited

/-- The place of a model in its graph. -/
structure ModelId where
  index : Nat
  deriving DecidableEq, Repr, Inhabited

/-- A named slot for a model. -/
structure Reference where
  /-- The path by which the reference is found. -/
  path : String
  /-- The name that was asked for. -/
  declaredName : String
  /-- The display name. -/
  name : String
  /-- The name that was asked for, when another reference had it already. -/
  duplicateName : Option String
  /-- The model in the slot. -/
  source : Option ModelId
  /-- The models that have this one as a base class. -/
  children : List ModelId
  deriving DecidableEq, Repr, Inhabited

namespace Reference

/-- The name of the class: the last segment of the display name. -/
def shortName (reference : Reference) : String :=
  Text.lastSegment reference.name

end Reference

/-! ## Fresh names -/

/-- The candidates for a display name: the name itself, then the name with 1, 2, … behind it, up
    to the given number. -/
def nameCandidates (name : String) (count : Nat) : List String :=
  name :: (List.range count).map fun i => name ++ toString (i + 1)

/-- The first candidate that is not taken. Among one more candidate than there are taken names
    there always is one. -/
def freshName (taken : List String) (name : String) : String :=
  ((nameCandidates name taken.length).find? fun candidate => !taken.contains candidate).getD name

/-! ## The arena -/

/-- All references of a run. -/
structure Arena where
  /-- The references in the order of allocation. -/
  refs : List Reference := []
  /-- The place of the reference with each path. -/
  byPath : Entries RefId := []
  /-- The display names in use. -/
  taken : List String := []
  deriving DecidableEq, Repr, Inhabited

namespace Arena

/-- The reference in a place. -/
def get? (arena : Arena) (id : RefId) : Option Reference :=
  arena.refs[id.index]?

/-- The place of the reference with the given path. -/
def find? (arena : Arena) (path : String) : Option RefId :=
  arena.byPath.get? path

/-- The name of the class that a reference stands for. -/
def shortName (arena : Arena) (id : RefId) : String :=
  ((arena.get? id).map Reference.shortName).getD ""

/-- The display name of a reference. -/
def displayName (arena : Arena) (id : RefId) : String :=
  ((arena.get? id).map Reference.name).getD ""

/-- Changes one reference. -/
def modify (arena : Arena) (id : RefId) (f : Reference → Reference) : Arena :=
  { arena with refs := arena.refs.modify id.index f }

/-- Finds the reference with the given path, or allocates one with a fresh display name. -/
def allocate (arena : Arena) (path name : String) : RefId × Arena :=
  match arena.find? path with
  | some id => (id, arena)
  | none =>
    let unique := freshName arena.taken name
    (⟨arena.refs.length⟩,
      { refs := arena.refs ++
          [{ path := path
             declaredName := name
             name := unique
             duplicateName := if unique = name then none else some name
             source := none
             children := [] }]
        byPath := arena.byPath.put path ⟨arena.refs.length⟩
        taken := unique :: arena.taken })

/-- Puts a model into the slot of a reference, whatever was there before. -/
def fill (arena : Arena) (id : RefId) (model : ModelId) : Arena :=
  arena.modify id fun reference => { reference with source := some model }

/-- Puts a model into the slot of a reference, which must be free. -/
def bind (arena : Arena) (id : RefId) (model : ModelId) : Except Failure Arena :=
  match (arena.get? id).bind (·.source) with
  | some bound =>
    throw (.alreadyBound (((arena.get? id).map (·.path)).getD "") bound.index)
  | none => return arena.fill id model

/-- Notes that a model has the one behind a reference as a base class. -/
def addChild (arena : Arena) (id : RefId) (child : ModelId) : Arena :=
  arena.modify id fun reference =>
    if reference.children.contains child then reference
    else { reference with children := reference.children ++ [child] }

/-- Replaces the last segment of the display name of a reference. -/
def rename (arena : Arena) (id : RefId) (className : String) : Arena :=
  match arena.get? id with
  | none => arena
  | some reference =>
    let renamed := Text.withLastSegment reference.name className
    { arena with
      refs := arena.refs.modify id.index fun reference => { reference with name := renamed }
      taken := renamed :: arena.taken.filter (· != reference.name) }

end Arena

end SchemaPress
