import SchemaPress.Graph
import SchemaPress.Proofs.Arena

set_option autoImplicit false

/-! # Adding a model

What a model needs to be added (`add_eq_ok_iff`), and what the graph looks like afterwards. Adding
only extends: models stay in their places, names stay, and a reference that is bound stays bound to
the same model (`Extends`). -/

namespace SchemaPress

/-- All references that a specification uses. -/
def ModelSpec.references (spec : ModelSpec) : List RefId :=
  spec.reference.toList ++ spec.bases ++ spec.fields.flatMap (·.type.targets)

/-- What neither a constant nor a single literal changes about a field is as its specification and
    the options say. -/
theorem Field.view_build {β : Type} (view : Field → β)
    (hfreeze : ∀ field : Field, view field.freeze = view field)
    (hliteral : ∀ field : Field, view field.defaultToLiteral = view field) (options : Options)
    (spec : FieldSpec) :
    ∃ field : Field, field.toFieldSpec = spec ∧ field.flavor = options.flavor ∧
      view (Field.build options spec) = view field := by
  let field : Field :=
    { toFieldSpec := spec
      useAnnotated := options.useAnnotated
      useDefaultKeyword := options.useDefaultKeyword
      stripDefaultNone := options.stripDefaultNone
      useFieldDescription := options.useFieldDescription
      fallBackToNullable := options.fallBackToNullable
      flavor := options.flavor }
  refine ⟨field, rfl, rfl, ?_⟩
  change view (if options.useOneLiteralAsDefault then field.freeze.defaultToLiteral
    else field.freeze) = view field
  split
  · rw [hliteral, hfreeze]
  · rw [hfreeze]

namespace Graph

/-! ## Adding a model -/

section

variable {graph : Graph} {spec : ModelSpec} {reference : RefId}

/-- A model whose reference is bound is refused. -/
theorem add_of_bound (hgiven : spec.reference = some reference)
    (htemplate : (graph.templateOf spec).isEmpty = false) {bound : ModelId}
    (hbound : graph.sourceOf? reference = some bound) :
    graph.add spec = .error (.alreadyBound
      (((graph.arena.get? reference).map (·.path)).getD "") bound.index) := by
  unfold add
  simp only [hgiven, htemplate, Arena.bind_of_bound hbound]
  rfl

/-- A model whose reference is free is added, if its fields can be put in order. -/
theorem add_of_free (hgiven : spec.reference = some reference)
    (htemplate : (graph.templateOf spec).isEmpty = false)
    (hfree : graph.sourceOf? reference = none) :
    graph.add spec =
      if (graph.bindNext reference).canOrder (graph.nextFields reference spec) then
        .ok (graph.nextId, graph.grow reference spec)
      else .error .unfinishedModel := by
  unfold add
  simp only [hgiven, htemplate, Arena.bind_of_free hfree]
  rfl

/-- A model is added exactly if it has a reference that is free, a template, and fields that can
    be put in order. -/
theorem add_eq_ok_iff {grown : Graph} {id : ModelId} :
    graph.add spec = .ok (id, grown) ↔
      ∃ reference, spec.reference = some reference ∧ (graph.templateOf spec).isEmpty = false ∧
        graph.sourceOf? reference = none ∧
        (graph.bindNext reference).canOrder (graph.nextFields reference spec) = true ∧
        id = graph.nextId ∧ grown = graph.grow reference spec := by
  cases hgiven : spec.reference with
  | none => simp [add, hgiven, throw, throwThe, MonadExceptOf.throw]
  | some reference =>
    cases htemplate : (graph.templateOf spec).isEmpty with
    | true => simp [add, hgiven, htemplate, throw, throwThe, MonadExceptOf.throw]
    | false =>
      cases hsource : graph.sourceOf? reference with
      | some bound => simp [add_of_bound hgiven htemplate hsource, hsource]
      | none =>
        rw [add_of_free hgiven htemplate hsource]
        by_cases horder : (graph.bindNext reference).canOrder (graph.nextFields reference spec)
        · simp only [hsource, horder, if_true, Except.ok.injEq, Prod.mk.injEq, Option.some.injEq,
            exists_eq_left', true_and]
          exact ⟨fun h => ⟨h.1.symm, h.2.symm⟩, fun h => ⟨h.1.symm, h.2.symm⟩⟩
        · simp [hsource, horder]

end

@[simp]
theorem options_grow (graph : Graph) (reference : RefId) (spec : ModelSpec) :
    (graph.grow reference spec).options = graph.options :=
  rfl

@[simp]
theorem models_grow (graph : Graph) (reference : RefId) (spec : ModelSpec) :
    (graph.grow reference spec).models = graph.models ++ [graph.nextModel reference spec] :=
  rfl

theorem sourceOf?_eq_join (graph : Graph) (place : RefId) :
    graph.sourceOf? place = ((graph.arena.get? place).map (·.source)).join := by
  unfold sourceOf?
  cases graph.arena.get? place <;> rfl

/-- Allocation binds nothing. -/
@[simp]
theorem sourceOf?_allocate (graph : Graph) (path name : String) (place : RefId) :
    (graph.allocate path name).2.sourceOf? place = graph.sourceOf? place :=
  graph.arena.source_allocate path name place

/-- The reference of a new model is bound to it, and all others stay as they are. -/
theorem sourceOf?_grow (graph : Graph) {reference : RefId} (spec : ModelSpec)
    (hallocated : reference.index < graph.arena.refs.length) (place : RefId) :
    (graph.grow reference spec).sourceOf? place =
      if place = reference then some graph.nextId else graph.sourceOf? place := by
  have hchildren := Arena.map_get?_addChildren (fun r => r.source) (fun _ _ => rfl)
    (graph.arena.fill reference graph.nextId) spec.bases graph.nextId place
  rw [sourceOf?_eq_join, sourceOf?_eq_join, grow, hchildren, Arena.get?_fill]
  split
  · rename_i hplace
    subst hplace
    simp [Arena.get?, List.getElem?_eq_getElem hallocated]
  · rfl

/-- A new model changes no name. -/
theorem name_grow (graph : Graph) (reference : RefId) (spec : ModelSpec) (place : RefId) :
    ((graph.grow reference spec).arena.get? place).map (·.name) =
      (graph.arena.get? place).map (·.name) := by
  have hchildren := Arena.map_get?_addChildren (fun r => r.name) (fun _ _ => rfl)
    (graph.arena.fill reference graph.nextId) spec.bases graph.nextId place
  simp only [grow]
  rw [hchildren, Arena.get?_fill]
  split
  · rw [Option.map_map]
    rfl
  · rfl

/-! ## The fields of a new model -/

/-- Ordering keeps the fields. -/
theorem mem_orderFields {flavor : Flavor} {scope : Scope} {fields : List Field} {field : Field} :
    field ∈ orderFields flavor scope fields ↔ field ∈ fields := by
  unfold orderFields
  split
  · cases hassigns : field.assigns scope <;> simp [hassigns]
  · rfl

/-- Every field has the flavor of its graph. -/
theorem flavor_build (options : Options) (spec : FieldSpec) :
    (Field.build options spec).flavor = options.flavor := by
  have hfreeze : ∀ field : Field, field.freeze.flavor = field.flavor := by
    intro field
    unfold Field.freeze
    split
    · rfl
    · split <;> rfl
  have hliteral : ∀ field : Field, field.defaultToLiteral.flavor = field.flavor := by
    intro field
    unfold Field.defaultToLiteral
    split <;> rfl
  obtain ⟨field, -, hflavor, hbuild⟩ := Field.view_build Field.flavor hfreeze hliteral options spec
  exact hbuild.trans hflavor

/-- Every field of a new model has the flavor of the graph. -/
theorem flavor_of_mem_nextModel {graph : Graph} {reference : RefId} {spec : ModelSpec}
    {field : Field} (h : field ∈ (graph.nextModel reference spec).fields) :
    field.flavor = graph.options.flavor := by
  obtain ⟨fieldSpec, _, rfl⟩ := List.mem_map.1 (mem_orderFields.1 h)
  exact flavor_build graph.options fieldSpec

/-! ## What building keeps -/

/-- A later state of a graph: what was there before is still there. -/
structure Extends (earlier later : Graph) : Prop where
  options : later.options = earlier.options
  models : earlier.models <+: later.models
  allocated : earlier.arena.refs.length ≤ later.arena.refs.length
  names : ∀ place : RefId, place.index < earlier.arena.refs.length →
    (later.arena.get? place).map (·.name) = (earlier.arena.get? place).map (·.name)
  /-- What is bound to an earlier model was bound to it already. -/
  sources : ∀ (place : RefId) (id : ModelId), id.index < earlier.models.length →
    (later.sourceOf? place = some id ↔ earlier.sourceOf? place = some id)

theorem Extends.refl (graph : Graph) : graph.Extends graph where
  options := rfl
  models := List.prefix_rfl
  allocated := Nat.le_refl _
  names := fun _ _ => rfl
  sources := fun _ _ _ => Iff.rfl

theorem Extends.trans {a b c : Graph} (h : a.Extends b) (h' : b.Extends c) : a.Extends c where
  options := h'.options.trans h.options
  models := h.models.trans h'.models
  allocated := Nat.le_trans h.allocated h'.allocated
  names := fun place hplace =>
    (h'.names place (Nat.lt_of_lt_of_le hplace h.allocated)).trans (h.names place hplace)
  sources := fun place id hid =>
    (h'.sources place id (Nat.lt_of_lt_of_le hid h.models.length_le)).trans
      (h.sources place id hid)

theorem extends_allocate (graph : Graph) (path name : String) :
    graph.Extends (graph.allocate path name).2 where
  options := rfl
  models := List.prefix_rfl
  allocated := graph.arena.length_refs_le_allocate path name
  names := fun _ hplace => congrArg (Option.map (·.name))
    (graph.arena.get?_allocate path name hplace)
  sources := fun place id _ => by rw [sourceOf?_allocate]

/-- Adding a model extends a graph. -/
theorem extends_grow (graph : Graph) {reference : RefId} (spec : ModelSpec)
    (hallocated : reference.index < graph.arena.refs.length)
    (hfree : graph.sourceOf? reference = none) :
    graph.Extends (graph.grow reference spec) where
  options := rfl
  models := List.prefix_append _ _
  allocated := by simp [grow]
  names := fun place _ => graph.name_grow reference spec place
  sources := fun place id hid => by
    rw [graph.sourceOf?_grow spec hallocated]
    split
    · rename_i hplace
      subst hplace
      rw [hfree]
      -- the new model has a place behind all earlier ones
      refine ⟨fun h => ?_, fun h => by cases h⟩
      cases h
      exact absurd hid (Nat.lt_irrefl _)
    · rfl

end Graph

end SchemaPress
