import SchemaPress.Module
import SchemaPress.Proofs.Digraph.Order
import SchemaPress.Proofs.Graph.Calls
import SchemaPress.Proofs.TypeTree.Nodes

set_option autoImplicit false

/-! # The order of the models of a graph

Which model depends on which is said on the models themselves: a reference at any node of a field
type, or a base class, that is bound to the other model. The graph of arrows that the order is
computed from is this relation (`arrow_digraph_iff`), so what holds of the order of a directed graph
holds of the order of the models, whatever components it is found from, as long as they are the
classes of models that depend on each other. -/

namespace SchemaPress

/-- A class mentions a reference: some node of a field type stands for it, or a base class does. -/
def Model.Mentions (model : Model) (reference : RefId) : Prop :=
  (∃ field ∈ model.fields, ∃ node ∈ field.type.preorder, node.target? = some reference) ∨
    ∃ base ∈ model.bases, base.target? = some reference

theorem Model.mem_dependencies {model : Model} {reference : RefId} :
    reference ∈ model.dependencies ↔ model.Mentions reference := by
  simp only [dependencies, List.mem_append, List.mem_flatMap, List.mem_filterMap,
    TypeTree.mem_targets, Mentions]

namespace Graph

open Relation Turn

/-- A model depends on another one: it mentions a reference that is bound to the other one. -/
def DependsOn (graph : Graph) (a b : ModelId) : Prop :=
  ∃ model reference, graph.model? a = some model ∧ model.Mentions reference ∧
    graph.sourceOf? reference = some b

theorem size_digraph (graph : Graph) : graph.digraph.size = graph.models.length := by
  simp [digraph, Digraph.size]

/-- The arrows among the models are their dependencies. -/
theorem arrow_digraph_iff (graph : Graph) (a b : ModelId) :
    graph.digraph.Arrow a.index b.index ↔ graph.DependsOn a b := by
  unfold Digraph.Arrow Digraph.next digraph DependsOn model?
  rw [List.getElem?_map]
  cases graph.models[a.index]? with
  | none => simp
  | some model =>
    simp only [Option.map_some, Option.getD_some, List.mem_filterMap, Option.map_eq_some_iff,
      Model.mem_dependencies, Option.some.injEq]
    constructor
    · rintro ⟨reference, hmentions, id, hsource, hid⟩
      have : id = b := by
        cases id
        cases b
        exact congrArg ModelId.mk hid
      exact ⟨model, reference, rfl, hmentions, this ▸ hsource⟩
    · rintro ⟨model', reference, rfl, hmentions, hsource⟩
      exact ⟨reference, hmentions, b, hsource, rfl⟩

/-- The model in one place depends on the model in another one. -/
def DependsAt (graph : Graph) (a b : Nat) : Prop :=
  graph.DependsOn ⟨a⟩ ⟨b⟩

theorem arrow_digraph (graph : Graph) : graph.digraph.Arrow = graph.DependsAt := by
  funext a b
  exact propext (graph.arrow_digraph_iff ⟨a⟩ ⟨b⟩)

/-- Chains of dependencies are ways along the arrows. -/
theorem transGen_arrow_iff (graph : Graph) (a b : ModelId) :
    TransGen graph.digraph.Arrow a.index b.index ↔ TransGen graph.DependsOn a b := by
  constructor
  · intro h
    exact h.lift ModelId.mk fun i j hij => (graph.arrow_digraph_iff ⟨i⟩ ⟨j⟩).1 hij
  · intro h
    exact h.lift ModelId.index fun i j hij => (graph.arrow_digraph_iff i j).2 hij

section

variable {graph : Graph} {built : List ModelSpec} {components : List (List Nat)}

theorem areComponents_digraph_iff :
    AreComponents graph.DependsAt graph.models.length components ↔
      AreComponents graph.digraph.Arrow graph.digraph.size components := by
  rw [arrow_digraph, size_digraph]

/-- After any calls all arrows stay among the models. -/
theorem Coherent.arrow_lt (h : graph.Coherent built) :
    ∀ a b, graph.digraph.Arrow a b → b < graph.digraph.size := by
  intro a b harrow
  rw [size_digraph]
  obtain ⟨model, reference, -, -, hsource⟩ := (graph.arrow_digraph_iff ⟨a⟩ ⟨b⟩).1 harrow
  exact h.source_lt hsource

/-- The identifiers of the models are their places. -/
theorem Coherent.map_id (h : graph.Coherent built) :
    graph.models.map (·.id) = (List.range graph.models.length).map ModelId.mk := by
  apply List.ext_getElem?
  intro place
  rw [List.getElem?_map, List.getElem?_map]
  cases hmodel : graph.models[place]? with
  | none =>
    rw [List.getElem?_eq_none (by simpa using hmodel)]
    rfl
  | some model =>
    obtain ⟨hlt, -⟩ := List.getElem?_eq_some_iff.1 hmodel
    rw [List.getElem?_range hlt, Option.map_some, Option.map_some, h.id_eq hmodel]

theorem order_of_not_keepModelOrder (h : graph.options.keepModelOrder = false) :
    graph.order = graph.digraph.order.map ModelId.mk := by
  simp [order, orderBy, Digraph.order, h]

/-- The order does not depend on the numbering of the components. -/
theorem Coherent.orderBy_eq_order (h : graph.Coherent built)
    (hcomponents : AreComponents graph.DependsAt graph.models.length components) :
    graph.orderBy components = graph.order := by
  unfold order orderBy
  rw [Digraph.orderBy_eq_order h.arrow_lt (areComponents_digraph_iff.1 hcomponents),
    Digraph.order]

/-- Whichever order is asked for, it lists the identifiers of all models. -/
theorem Coherent.order_perm (h : graph.Coherent built) :
    graph.order.Perm (graph.models.map (·.id)) := by
  cases hkeep : graph.options.keepModelOrder with
  | true => simp [order, orderBy, hkeep]
  | false =>
    rw [order_of_not_keepModelOrder hkeep, h.map_id, ← size_digraph]
    exact (Digraph.order_perm_range h.arrow_lt).map ModelId.mk

theorem Coherent.order_nodup (h : graph.Coherent built) : graph.order.Nodup := by
  rw [h.order_perm.nodup_iff, h.map_id]
  exact List.nodup_range.map fun i j hij => ModelId.mk.inj hij

/-- Without the order of the document, a model comes after each model that it depends on and that
    does not lead back to it. -/
theorem Coherent.precedes_of_dependsOn (h : graph.Coherent built)
    (hkeep : graph.options.keepModelOrder = false) {a b : ModelId} (hdepends : graph.DependsOn a b)
    (hback : ¬ TransGen graph.DependsOn b a) : Precedes graph.order b a := by
  have harrow := (graph.arrow_digraph_iff a b).2 hdepends
  rw [order_of_not_keepModelOrder hkeep]
  refine (Digraph.order_precedes h.arrow_lt harrow fun hreach => hback ?_).map ModelId.mk
  rcases reflTransGen_iff_eq_or_transGen.1 hreach with heq | hchain
  · -- `b` is `a` itself, so the dependency leads back already
    rw [← heq] at harrow
    exact (graph.transGen_arrow_iff b a).1 (heq ▸ TransGen.single harrow)
  · exact (graph.transGen_arrow_iff b a).1 hchain

end

/-- Unless the order of the document is kept, the order lists the identifier of every model
    exactly once, and a model comes after each model that it depends on and that does not in turn
    depend on it. The loop that finds the order gives the same one from every list of the classes of
    models that depend on each other, and when it ends its queue is empty. -/
theorem order_dependencies_first {graph : Graph} {built : List ModelSpec} (h : Reached graph built)
    (hkeep : graph.options.keepModelOrder = false) {components : List (List Nat)}
    (hcomponents : AreComponents graph.DependsAt graph.models.length components) :
    graph.orderBy components = graph.order ∧
      (graph.digraph.sortedBy components components.length).ready = [] ∧
      (graph.orderBy components).Nodup ∧
      (graph.orderBy components).Perm (graph.models.map (·.id)) ∧
      ∀ a b, graph.DependsOn a b → ¬ TransGen graph.DependsOn b a →
        Precedes (graph.orderBy components) b a := by
  have hcoherent := h.coherent
  have hsame := hcoherent.orderBy_eq_order hcomponents
  have hempty := (Digraph.orderBy_inTurn hcoherent.arrow_lt
    (areComponents_digraph_iff.1 hcomponents)).1
  rw [hsame]
  exact ⟨rfl, hempty, hcoherent.order_nodup, hcoherent.order_perm, fun a b hdepends hback =>
    hcoherent.precedes_of_dependsOn hkeep hdepends hback⟩

/-- An owner, which mentions pets. -/
def ownerSpec : ModelSpec where
  reference := some ⟨0⟩
  fields := [{ name := some "pets", type := .list {} (.model {} ⟨1⟩) }]

/-- A pet, which mentions pets as well. -/
def petSpec : ModelSpec where
  reference := some ⟨1⟩
  fields := [{ name := some "mate", type := .model {} ⟨1⟩ }]

/-- The owner and then the pet. -/
def ownerThenPet : Graph :=
  ((((Graph.empty {} {}).allocate "#/Owner" "Owner").2.allocate "#/Pet" "Pet").2.grow ⟨0⟩
    ownerSpec).grow ⟨1⟩ petSpec

theorem reached_ownerThenPet : Reached ownerThenPet [ownerSpec, petSpec] :=
  .call (.add petSpec)
    (.call (.add ownerSpec)
      (.call (.reference "#/Pet" "Pet")
        (.call (.reference "#/Owner" "Owner") (.empty {} {}) trivial) trivial)
      ⟨by decide, nofun⟩)
    ⟨by decide, nofun⟩

/-- Lists of nodes are the components of a graph if they hold all nodes and each is the group of one
    of them, in any order. -/
theorem areComponents_of_perm {graph : Graph} {components : List (List Nat)}
    (hgroups : ∀ members ∈ components, ∃ node < graph.digraph.size,
      members.Perm (graph.digraph.group graph.digraph.reaches node))
    (hpartition : components.flatten.Perm (List.range graph.models.length)) :
    AreComponents graph.DependsAt graph.models.length components := by
  refine ⟨fun members hmem => ?_, hpartition⟩
  obtain ⟨node, hnode, hperm⟩ := hgroups members hmem
  rw [← arrow_digraph, ← size_digraph]
  exact (graph.digraph.isGroup_group hnode).of_mem_iff fun b => hperm.mem_iff

/-- The pet comes before its owner, though it was added later and mentions itself, and though its
    component comes last. -/
theorem order_dependencies_first_owner :
    ownerThenPet.options.keepModelOrder = false ∧ ownerThenPet.DependsOn ⟨0⟩ ⟨1⟩ ∧
      ¬ TransGen ownerThenPet.DependsOn ⟨1⟩ ⟨0⟩ ∧
      Precedes (ownerThenPet.orderBy [[0], [1]]) ⟨1⟩ ⟨0⟩ ∧
      ownerThenPet.orderBy [[0], [1]] = ownerThenPet.order := by
  have hdepends : ownerThenPet.DependsOn ⟨0⟩ ⟨1⟩ :=
    (arrow_digraph_iff _ ⟨0⟩ ⟨1⟩).1 (by unfold Digraph.Arrow; decide)
  have hback : ¬ TransGen ownerThenPet.DependsOn ⟨1⟩ ⟨0⟩ := by
    rw [← transGen_arrow_iff, ← Digraph.mem_reach_iff]
    decide
  have hcomponents : AreComponents ownerThenPet.DependsAt ownerThenPet.models.length [[0], [1]] :=
    areComponents_of_perm (by decide) (by decide)
  obtain ⟨hsame, -, -, -, hfirst⟩ :=
    order_dependencies_first reached_ownerThenPet rfl hcomponents
  exact ⟨rfl, hdepends, hback, hfirst ⟨0⟩ ⟨1⟩ hdepends hback, hsame⟩

end Graph

end SchemaPress
