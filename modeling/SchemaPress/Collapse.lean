import SchemaPress.Model

set_option autoImplicit false

/-! # Inlining root models

A root model that wraps a type without models can be written in the place of its reference. -/

namespace SchemaPress

/-- What takes the place of a reference: a type and the constraints that belong to it. -/
structure Inlining where
  type : TypeTree
  constraints : Option ConstraintSet

namespace Inlining

/-- What a model can be replaced by: a root model that does not admit `None` and wraps a type in
    which no model occurs. -/
def ofSpec? (spec : ModelSpec) : Option (RefId × Inlining) :=
  match spec.reference, spec.kind, spec.fields with
  | some reference, .root, [field] =>
    if spec.nullable || !field.type.targets.isEmpty then none
    else some (reference, ⟨field.type, field.constraints⟩)
  | _, _, _ => none

/-- What takes the place of each reference, if anything does; of several, the last. -/
def find? (specs : List ModelSpec) (target : RefId) : Option Inlining :=
  (specs.filterMap ofSpec?).reverse.lookup target

end Inlining

mutual

/-- Replaces models in a type; a replaced model that was optional stays optional. -/
def TypeTree.inline (replacement : RefId → Option Inlining) : TypeTree → TypeTree
  | .model marks target =>
    match replacement target with
    | some inlining =>
      inlining.type.withMarks
        { inlining.type.marks with optional := inlining.type.marks.optional || marks.optional }
    | none => .model marks target
  | .list marks item => .list marks (item.inline replacement)
  | .set marks item => .set marks (item.inline replacement)
  | .dict marks value => .dict marks (value.inline replacement)
  | .keyedDict marks key value =>
    .keyedDict marks (key.inline replacement) (value.inline replacement)
  | .union marks members => .union marks (TypeTree.inlineAll replacement members)
  | leaf => leaf

/-- Replaces models in several types. -/
def TypeTree.inlineAll (replacement : RefId → Option Inlining) : List TypeTree → List TypeTree
  | [] => []
  | tree :: rest => tree.inline replacement :: TypeTree.inlineAll replacement rest

end

/-- Replaces models in the type of a field. A field that was such a model takes over its
    constraints where it has none of its own. -/
def FieldSpec.inline (replacement : RefId → Option Inlining) (spec : FieldSpec) : FieldSpec :=
  { spec with
    type := spec.type.inline replacement
    constraints :=
      match spec.type.target?.bind replacement with
      | some inlining => ConstraintSet.merge inlining.constraints spec.constraints
      | none => spec.constraints }

/-- Whether a model is replaced wherever it is mentioned. -/
def ModelSpec.isInlined (replacement : RefId → Option Inlining) (spec : ModelSpec) : Bool :=
  (spec.reference.bind replacement).isSome

/-- Writes root models in the place of their references and leaves the models themselves out. -/
def collapseRootModels (specs : List ModelSpec) : List ModelSpec :=
  let replacement := Inlining.find? specs
  (specs.filter (!·.isInlined replacement)).map fun spec =>
    { spec with fields := spec.fields.map (·.inline replacement) }

end SchemaPress
