import SchemaPress.Proofs.Graph.Batch
import SchemaPress.Proofs.Schema.Models

set_option autoImplicit false

/-! # Models that are bound once

The reference of a model is found by its path, and paths lead to different references, so the
models of a document have different references exactly if they have different paths. In that case
no model is refused because its reference is bound already; otherwise the graph cannot be built,
unless the models with a path in common are inlined. -/

namespace SchemaPress

/-- Inlining root models leaves models out and gives none another reference. -/
theorem sublist_collapseRootModels (specs : List ModelSpec) :
    ((collapseRootModels specs).map (·.reference)).Sublist (specs.map (·.reference)) := by
  unfold collapseRootModels
  rw [List.map_map]
  exact List.filter_sublist.map _

namespace Schema

/-- Paths that lead somewhere are as different as the references that they lead to. -/
theorem nodup_map_find?_iff {arena : Arena} (hindexed : arena.Indexed) {paths : List String}
    (h : ∀ path ∈ paths, (arena.find? path).isSome) :
    (paths.map arena.find?).Nodup ↔ paths.Nodup := by
  refine ⟨List.Nodup.of_map _, fun hnodup => hnodup.map_on fun a ha b _ hsame => ?_⟩
  obtain ⟨id, hid⟩ := Option.isSome_iff_exists.1 (h a ha)
  exact hindexed.find?_injective hid (hsame ▸ hid)

/-- The models of a document stand for its root, unless it only carries definitions, for its
    definitions and for the objects inside them: one model for each of them, in order, with the
    reference that the path leads to. Their references are distinct exactly if their paths are,
    as in every document with clear names. Then no model is refused because its reference is bound
    already. Otherwise not all models can be added. -/
theorem bound_once_iff {schema : Schema} {registry : TypeRegistry} {graph lowered : Graph}
    {specs : List ModelSpec} (hindexed : graph.arena.Indexed)
    (hfree : ∀ reference, graph.sourceOf? reference = none)
    (h : schema.lower registry graph = .ok (specs, lowered)) :
    specs.map (·.reference) = (schema.modelPaths registry).map lowered.arena.find? ∧
      (∀ path ∈ schema.modelPaths registry, (lowered.arena.find? path).isSome) ∧
      ((specs.map (·.reference)).Nodup ↔ (schema.modelPaths registry).Nodup) ∧
      (schema.Unambiguous → (schema.modelPaths registry).Nodup) ∧
      ((schema.modelPaths registry).Nodup → ∀ path model,
        (lowered.build specs).1 ≠ .error (.alreadyBound path model)) ∧
      (graph.options.collapseRootModels = false → (lowered.build specs).1 = .ok () →
        (schema.modelPaths registry).Nodup) := by
  obtain ⟨hgrown, hfound, hreferences, -⟩ := models_of_lower h
  have hlowered := hgrown.indexed hindexed
  have hiff := nodup_map_find?_iff hlowered hfound
  have hallocated : ∀ reference, some reference ∈ specs.map (·.reference) →
      reference.index < lowered.arena.refs.length := by
    intro reference hreference
    rw [hreferences] at hreference
    obtain ⟨path, -, hpath⟩ := List.mem_map.1 hreference
    exact hlowered.lt_of_find? hpath
  have hunbound : ∀ reference, lowered.sourceOf? reference = none := fun reference =>
    (hgrown.source reference).trans (hfree reference)
  have hoptions : lowered.options = graph.options := by
    obtain ⟨_, _, _, -, rfl⟩ := lowered_of_lower h
    rfl
  refine ⟨hreferences, hfound, hreferences ▸ hiff, fun hclear => nodup_modelPaths hclear registry,
    fun hnodup path model => ?_, fun hkept hbuilt => ?_⟩
  · have hspecs : (specs.map (·.reference)).Nodup := hreferences ▸ hiff.2 hnodup
    unfold Graph.build
    split
    · have hsub := sublist_collapseRootModels specs
      exact Graph.addAll_ne_alreadyBound (hspecs.sublist hsub)
        (fun reference hmem => hallocated reference (hsub.subset hmem))
        (fun reference _ => hunbound reference) path model
    · exact Graph.addAll_ne_alreadyBound hspecs hallocated (fun reference _ => hunbound reference)
        path model
  · unfold Graph.build at hbuilt
    rw [hoptions, hkept, if_neg (by simp)] at hbuilt
    rw [← hiff, ← hreferences]
    exact (Graph.nodup_of_addAll hallocated hbuilt).1

/-- A shelf with a list of books, each an object, and a definition of authors. -/
def shelf : Schema where
  properties :=
    [("books", { types := some ["array"], items := some (.each { properties := [("name", {})] }) })]
  defs := [("Author", { properties := [("name", {})] })]

theorem unambiguous_shelf : shelf.Unambiguous := by
  have hname : Everywhere HasClearNames {} :=
    .intro ⟨by decide, by unfold NoSlash; decide, by decide⟩ (by
      simp [children, itemSchemas, valueSchemas])
  have hnamed : Everywhere HasClearNames { properties := [("name", {})] } :=
    .intro ⟨by decide, by unfold NoSlash; decide, by decide⟩ (by
      simpa [children, itemSchemas, valueSchemas] using hname)
  have hbooks : Everywhere HasClearNames
      { types := some ["array"], items := some (.each { properties := [("name", {})] }) } :=
    .intro ⟨by decide, by unfold NoSlash; decide, by decide⟩ (by
      simpa [children, itemSchemas, valueSchemas] using hnamed)
  exact {
    defs := by decide
    definitions := by decide
    keys := by unfold NoSlash; decide
    root := .intro ⟨by decide, by unfold NoSlash; decide, by decide⟩ (by
      simpa [shelf, children, itemSchemas, valueSchemas] using hbooks)
    entries := by simpa [shelf] using hnamed }

/-- Someone with a home of their own and another one from a part. -/
def doubledHome : Schema where
  properties := [("home", { properties := [("street", {})] })]
  allOf := [{ properties := [("home", { properties := [("town", {})] })] }]

/-- The models of the shelf have different references; those of the two homes share one. -/
theorem bound_once_iff_shelf_doubledHome :
    (∃ specs lowered, shelf.lower {} (.empty {} {}) = .ok (specs, lowered) ∧
      (specs.map (·.reference)).Nodup ∧
      ∀ path model, (lowered.build specs).1 ≠ .error (.alreadyBound path model)) ∧
    ∃ specs lowered, doubledHome.lower {} (.empty {} {}) = .ok (specs, lowered) ∧
      ¬ (specs.map (·.reference)).Nodup ∧ (lowered.build specs).1 ≠ .ok () := by
  have hfree : ∀ reference, (Graph.empty {} {}).sourceOf? reference = none := by
    simp [Graph.sourceOf?, Graph.empty, Arena.get?]
  constructor
  · cases hlower : shelf.lower {} (.empty {} {}) with
    | error failure =>
      have hok : (shelf.lower {} (.empty {} {})).isOk = true := by decide +kernel
      rw [hlower] at hok
      cases hok
    | ok result =>
      obtain ⟨-, -, hiff, hclear, hbuild, -⟩ := bound_once_iff Arena.indexed_empty hfree hlower
      have hnodup := hclear unambiguous_shelf
      exact ⟨result.1, result.2, rfl, hiff.2 hnodup, hbuild hnodup⟩
  · have hreferences : (doubledHome.lower {} (.empty {} {})).toOption.map (fun result =>
        result.1.map (·.reference)) = some [some ⟨1⟩, some ⟨1⟩, some ⟨0⟩] := by decide +kernel
    cases hlower : doubledHome.lower {} (.empty {} {}) with
    | error failure =>
      rw [hlower] at hreferences
      cases hreferences
    | ok result =>
      rw [hlower] at hreferences
      have hreferences : result.1.map (·.reference) = [some ⟨1⟩, some ⟨1⟩, some ⟨0⟩] :=
        Option.some.inj hreferences
      have hshared : ¬ (result.1.map (·.reference)).Nodup := by
        rw [hreferences]
        decide
      obtain ⟨-, -, hiff, -, -, hdistinct⟩ := bound_once_iff Arena.indexed_empty hfree hlower
      exact ⟨result.1, result.2, rfl, hshared, fun hbuilt =>
        hshared (hiff.2 (hdistinct rfl hbuilt))⟩

end Schema

end SchemaPress
