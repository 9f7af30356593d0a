import SchemaPress.Proofs.Graph.Calls

set_option autoImplicit false

/-! # Graphs that can be built

Some calls only build on what is there: references are allocated, extras are changed, and models are
added whose references are all allocated. Graphs that such calls lead to are reached by calls
(`Built.reached`), so what holds after any calls holds of them. No class is renamed, and all
references of a model are allocated before it is added; so a call extends the graph
(`Call.Builds.extends`), and every model is what its specification made of the graph as it was when
the model was added (`Built.history`). -/

namespace SchemaPress.Graph

/-- A call that returns and builds on what is there: it renames no class, and it adds a model only
    if all references that the model mentions are allocated. -/
def Call.Builds (graph : Graph) : Call → Prop
  | .add spec =>
    (∀ reference ∈ spec.references, reference.index < graph.arena.refs.length) ∧
      graph.add spec ≠ .error .unfinishedModel
  | .rename _ _ => False
  | _ => True

theorem Call.Builds.returns {graph : Graph} {call : Call} (h : call.Builds graph) :
    call.Returns graph := by
  cases call with
  | add spec =>
    refine ⟨fun reference hreference => ?_, h.2⟩
    exact h.1 reference (List.mem_append_left _ hreference)
  | rename id className => exact h.elim
  | reference path name => trivial
  | amend extras => trivial

/-- Such a call extends the graph. -/
theorem Call.Builds.extends {graph : Graph} {call : Call} (h : call.Builds graph) :
    graph.Extends (graph.perform call) := by
  cases call with
  | add spec =>
    rcases graph.perform_add spec with ⟨hsame, -⟩ | ⟨target, hgiven, hfree, -, hgrown, -⟩
    · rw [hsame]
      exact Extends.refl graph
    · have hallocated := h.1 target (by simp [ModelSpec.references, hgiven])
      rw [hgrown]
      exact graph.extends_grow spec hallocated hfree
  | rename id className => exact h.elim
  | reference path name => exact graph.extends_allocate path name
  | amend extras => exact { Extends.refl graph with }

/-- The graphs that can be built. -/
inductive Built : Graph → Prop
  | empty (options : Options) (extras : Extras) : Built (.empty options extras)
  | call {graph : Graph} (call : Call) :
      Built graph → call.Builds graph → Built (graph.perform call)

/-- Building is calling. -/
theorem Built.reached {graph : Graph} (h : graph.Built) : ∃ built, Reached graph built := by
  induction h with
  | empty options extras => exact ⟨[], .empty options extras⟩
  | call call _ hbuilds ih =>
    obtain ⟨built, hreached⟩ := ih
    exact ⟨_, .call call hreached hbuilds.returns⟩

/-- How a model came into a graph: the graph before it, and the specification it was made of. -/
structure Origin (graph : Graph) (model : Model) (earlier : Graph) (reference : RefId)
    (spec : ModelSpec) : Prop where
  allocated : ∀ place ∈ spec.references, place.index < earlier.arena.refs.length
  ordered : (earlier.bindNext reference).canOrder (earlier.nextFields reference spec) = true
  model : model = earlier.nextModel reference spec
  extended : (earlier.grow reference spec).Extends graph

/-- Every model of a built graph was added to an earlier graph, and has stayed as it was. -/
theorem Built.history {graph : Graph} (h : graph.Built) {model : Model}
    (hmodel : model ∈ graph.models) :
    ∃ earlier reference spec, graph.Origin model earlier reference spec := by
  induction h with
  | empty options extras => cases hmodel
  | @call graph call _ hbuilds ih =>
    have hold : model ∈ graph.models →
        ∃ earlier reference spec, (graph.perform call).Origin model earlier reference spec := by
      intro hmem
      obtain ⟨earlier, reference, spec, horigin⟩ := ih hmem
      exact ⟨earlier, reference, spec, { horigin with
        extended := horigin.extended.trans hbuilds.extends }⟩
    cases call with
    | reference path name => exact hold hmodel
    | amend extras => exact hold hmodel
    | rename id className => exact hbuilds.elim
    | add spec =>
      rcases graph.perform_add spec with ⟨hsame, -⟩ | ⟨target, -, -, horder, hgrown, -⟩
      · exact hold (hsame ▸ hmodel)
      · rw [hgrown, models_grow] at hmodel
        rcases List.mem_append.1 hmodel with hmem | hnew
        · exact hold hmem
        · -- the model that was just added
          rw [hgrown]
          exact ⟨graph, target, spec,
            { allocated := hbuilds.1
              ordered := horder
              model := List.mem_singleton.1 hnew
              extended := Extends.refl _ }⟩

end SchemaPress.Graph
