import SchemaPress.Proofs.Entries
import SchemaPress.Proofs.Schema.Models
import SchemaPress.Proofs.Schema.Overlooked

set_option autoImplicit false

/-! # Where null is kept

A property hands its null on to its field, unless it is a constant, and a definition that is no
object hands it on to its model (`KeepsNull`). These are the schemas that `forgetNested` leaves as
they are, so every schema of a document either keeps its null or is overlooked
(`null_kept_or_overlooked`). -/

namespace SchemaPress

/-- A built field admits `None` by its own mark if its specification says so and it is no
    constant. -/
theorem Field.nullable_build (options : Options) (spec : FieldSpec) :
    (Field.build options spec).nullable = some true ↔
      spec.nullable = some true ∧ Entries.get? spec.extras "const" = none := by
  have hfreeze : ∀ field : Field, field.freeze.nullable = some true ↔
      field.nullable = some true ∧ Entries.get? field.extras "const" = none := by
    intro field
    unfold Field.freeze Field.constant?
    cases Entries.get? field.extras "const" with
    | none => simp
    | some value => cases field.flavor <;> simp
  have hliteral : ∀ field : Field,
      field.defaultToLiteral.nullable = some true ↔ field.nullable = some true := by
    intro field
    unfold Field.defaultToLiteral
    split
    · by_cases hnullable : field.nullable = some true <;> simp [hnullable]
    · rfl
  unfold Field.build
  simp only
  split
  · rw [hliteral, hfreeze]
  · rw [hfreeze]

theorem TypeTree.rendersOptional_optional (tree : TypeTree) (scope : Scope) :
    tree.optional.rendersOptional scope = true := by
  cases tree <;>
    simp [TypeTree.optional, TypeTree.withMarks, TypeTree.marks, TypeTree.rendersOptional,
      TypeTree.bare]

namespace Schema

/-- The constant of a property is the only one among its extras. -/
theorem get?_propertyExtras (schema : Schema) :
    Entries.get? (Setting.propertyExtras schema) "const" = schema.constant := by
  have hdescription : ∀ entry ∈
      (schema.description.map fun text => ("description", Value.str text)).toList,
      entry.1 ≠ "const" := by
    intro entry hentry
    obtain ⟨text, -, rfl⟩ := Option.map_eq_some_iff.1 (Option.mem_toList.1 hentry)
    exact (by decide : "description" ≠ "const")
  have hkept : ∀ entry ∈ Setting.keptKeywords.filterMap (fun name =>
      (Entries.get? schema.keywords name).map fun value => (name, value)),
      entry.1 ≠ "const" := by
    intro entry hentry
    obtain ⟨name, hname, hentry⟩ := List.mem_filterMap.1 hentry
    obtain ⟨value, -, rfl⟩ := Option.map_eq_some_iff.1 hentry
    rintro rfl
    exact absurd hname (by decide)
  rw [Setting.propertyExtras, List.append_assoc, Entries.get?_append_of_ne hdescription,
    Entries.get?_append_of_ne hkept]
  cases schema.constant with
  | none => rfl
  | some value => exact (Entries.get?_cons _ _ _ _).trans (if_pos rfl)

/-- What the model of a schema keeps of null. The fields of an object admit `None` where their
    properties admit null, unless these are constant; the object itself does not. The model of
    anything else admits `None` if the schema admits null, and then its type is optional. -/
def KeepsNull (options : Options) (schema : Schema) (spec : ModelSpec) : Prop :=
  if schema.isObjectModel then
    spec.nullable = false ∧
      List.Forall₂ (fun x field => (Field.build options field).nullable = some true ↔
          x.2.isNullable = true ∧ x.2.constant = none)
        ((Setting.parts schema).flatMap properties) spec.fields
  else
    spec.nullable = schema.isNullable ∧
      ∃ field, spec.fields = [field] ∧
        (schema.isNullable = true → ∀ scope, field.type.rendersOptional scope = true)

theorem Setting.Represents.keepsNull {setting : Setting} {schema : Schema} {spec : ModelSpec}
    (h : setting.Represents schema spec) (options : Options) : KeepsNull options schema spec := by
  unfold Represents at h
  unfold KeepsNull
  split
  · rename_i hobject
    rw [if_pos hobject] at h
    obtain ⟨-, hnullable, hfields⟩ := h
    refine ⟨hnullable, hfields.imp ?_⟩
    rintro x field ⟨type, rfl⟩
    rw [Field.nullable_build, propertyField, get?_propertyExtras]
    cases x.2.isNullable <;> simp
  · rename_i hobject
    rw [if_neg hobject] at h
    obtain ⟨-, hnullable, type, hfields⟩ := h
    refine ⟨hnullable, _, hfields, fun hnull scope => ?_⟩
    rw [rootField, if_pos hnull]
    exact TypeTree.rendersOptional_optional type scope

/-- Null is kept by properties that are not constant and by entries that are no objects. All other
    schemas of a document may as well not admit it: without their null the document becomes the
    same models, and fails with the same failure. -/
theorem null_kept_or_overlooked (schema : Schema) (registry : TypeRegistry) (graph : Graph) :
    (∀ specs lowered, schema.lower registry graph = .ok (specs, lowered) →
      List.Forall₂ (KeepsNull graph.options) (schema.modelNodes registry) specs) ∧
    schema.forgetNested.lower registry graph = schema.lower registry graph ∧
    ∀ node : Schema, node.IsNestedIn schema.forgetNested → node.isNullable = false := by
  refine ⟨fun specs lowered h => ?_, lower_forgetNested schema registry graph,
    fun node => isNullable_of_isNestedIn⟩
  exact (represents_of_lower h).imp fun _ _ hmodel => hmodel.keepsNull graph.options

/-- A post with tags and a note that admit null, as does each of the tags, and a definition of
    names that admit null. -/
def taggedPost : Schema where
  properties :=
    [("tags", { types := some ["array"], nullable := true
                items := some (.each { types := some ["string", "null"] }) }),
      ("note", { types := some ["null", "string"] })]
  defs := [("Name", { types := some ["string", "null"] })]

/-- The properties and the definition keep their null, but the hint of the tags shows none. -/
theorem null_kept_or_overlooked_taggedPost :
    ∃ specs lowered, taggedPost.lower {} (.empty {} {}) = .ok (specs, lowered) ∧
      (specs.map fun spec => (spec.nullable, spec.fields.map fun field =>
        (field.nullable, field.type.hint ⟨fun _ => "", fun _ => false, {}⟩))) =
        [(false, [(some true, "List[str]"), (some true, "str")]),
          (true, [(none, "Optional[str]")])] ∧
      List.Forall₂ (KeepsNull {}) (taggedPost.modelNodes {}) specs ∧
      taggedPost.forgetNested.lower {} (.empty {} {}) = .ok (specs, lowered) := by
  have hhints : (taggedPost.lower {} (.empty {} {})).toOption.map (fun result =>
      result.1.map fun spec => (spec.nullable, spec.fields.map fun field =>
        (field.nullable, field.type.hint ⟨fun _ => "", fun _ => false, {}⟩))) =
      some [(false, [(some true, "List[str]"), (some true, "str")]),
        (true, [(none, "Optional[str]")])] := by decide +kernel
  obtain ⟨hkept, hforget, -⟩ := null_kept_or_overlooked taggedPost {} (.empty {} {})
  cases hlower : taggedPost.lower {} (.empty {} {}) with
  | error failure =>
    rw [hlower] at hhints
    cases hhints
  | ok result =>
    rw [hlower] at hhints
    exact ⟨result.1, result.2, rfl, Option.some.inj hhints, hkept _ _ hlower,
      hforget.trans hlower⟩

end Schema

end SchemaPress
