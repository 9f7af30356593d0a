import SchemaPress.Proofs.Graph.Order

set_option autoImplicit false

/-! # The models in turn

The order of the models is decided by which model depends on which and by the places of the models,
and by nothing else: it is the one list of whole groups in which each group has its turn. -/

namespace SchemaPress.Graph

open Turn

/-- Without the order of the document, the order lists groups of models that depend on each other,
    each group as a whole and in ascending order, and always next is the group with the earliest
    model among those whose other dependencies are all listed. No other list of groups obeys this
    rule. The loop finds the order from the groups in any numbering; after any number of steps its
    queue holds exactly the groups that are ready, each with its earliest model. Graphs with as many
    models and the same dependencies have the same order, and models that stand in such an order
    stay in it. -/
theorem order_in_turn {graph : Graph} {built : List ModelSpec} (h : Reached graph built)
    (hkeep : graph.options.keepModelOrder = false) :
    (∃ groups, InTurn graph.DependsAt graph.models.length [] groups ∧
      graph.order = groups.flatten.map ModelId.mk) ∧
    (∀ groups, InTurn graph.DependsAt graph.models.length [] groups →
      graph.order = groups.flatten.map ModelId.mk) ∧
    (∀ components, AreComponents graph.DependsAt graph.models.length components →
      graph.orderBy components = graph.order ∧
      ∀ steps first number,
        (first, number) ∈ (graph.digraph.sortedBy components steps).ready ↔
          ∃ members, components[number]? = some members ∧
            IsReady graph.DependsAt graph.models.length
              (graph.digraph.sortedBy components steps).listed members ∧
            first ∈ members ∧ ∀ node ∈ members, first ≤ node) ∧
    (∀ other specs, Reached other specs → other.options.keepModelOrder = false →
      other.models.length = graph.models.length →
      (∀ a b, other.DependsOn a b ↔ graph.DependsOn a b) → other.order = graph.order) ∧
    (∀ groups, InTurn graph.DependsAt graph.models.length [] groups →
      groups.flatten = List.range graph.models.length →
      graph.order = graph.models.map (·.id)) := by
  have hexists : ∀ {graph : Graph} {built : List ModelSpec}, Reached graph built →
      graph.options.keepModelOrder = false →
      ∃ groups, InTurn graph.DependsAt graph.models.length [] groups ∧
        graph.order = groups.flatten.map ModelId.mk := by
    intro graph built h hkeep
    obtain ⟨groups, hgroups, horder⟩ := Digraph.order_inTurn h.coherent.arrow_lt
    rw [arrow_digraph, size_digraph] at hgroups
    exact ⟨groups, hgroups, by rw [order_of_not_keepModelOrder hkeep, horder]⟩
  obtain ⟨groups, hgroups, horder⟩ := hexists h hkeep
  have hunique : ∀ groups, InTurn graph.DependsAt graph.models.length [] groups →
      graph.order = groups.flatten.map ModelId.mk := by
    intro groups' hgroups'
    rw [horder, hgroups.unique hgroups']
  refine ⟨⟨groups, hgroups, horder⟩, hunique, fun components hcomponents => ?_, ?_, ?_⟩
  · refine ⟨h.coherent.orderBy_eq_order hcomponents, fun steps first number => ?_⟩
    rw [Digraph.mem_ready_sortedBy_iff h.coherent.arrow_lt
      (areComponents_digraph_iff.1 hcomponents), arrow_digraph, size_digraph]
  · intro other specs hother hkeep' hlength hdepends
    obtain ⟨groups', hgroups', horder'⟩ := hexists hother hkeep'
    have hsame : other.DependsAt = graph.DependsAt := by
      funext a b
      exact propext (hdepends ⟨a⟩ ⟨b⟩)
    rw [hsame, hlength] at hgroups'
    rw [horder', hunique groups' hgroups']
  · intro groups' hgroups' hrange
    rw [hunique groups' hgroups', hrange, h.coherent.map_id]

/-- An author, who mentions books. -/
def authorSpec : ModelSpec where
  reference := some ⟨0⟩
  fields := [{ name := some "books", type := .list {} (.model {} ⟨2⟩) }]

/-- A shop, which mentions no model. -/
def shopSpec : ModelSpec where
  reference := some ⟨1⟩
  fields := [{ name := some "town", type := .builtin "str" }]

/-- A book, which mentions its author. -/
def bookSpec : ModelSpec where
  reference := some ⟨2⟩
  fields := [{ name := some "author", type := .model {} ⟨0⟩ }]

/-- The author, the shop and the book, in this order. -/
def bookshop : Graph :=
  [authorSpec, shopSpec, bookSpec].foldl (fun graph spec => graph.perform (.add spec))
    (((((Graph.empty {} {}).perform (.reference "#/Author" "Author")).perform
      (.reference "#/Shop" "Shop")).perform (.reference "#/Book" "Book")))

theorem reached_bookshop : Reached bookshop [authorSpec, shopSpec, bookSpec] :=
  .call (.add bookSpec)
    (.call (.add shopSpec)
      (.call (.add authorSpec)
        (.call (.reference "#/Book" "Book")
          (.call (.reference "#/Shop" "Shop")
            (.call (.reference "#/Author" "Author") (.empty {} {}) trivial) trivial) trivial)
        ⟨by decide, nofun⟩)
      ⟨by decide, nofun⟩)
    ⟨by decide, nofun⟩

/-- The author and the book stay together although the shop stands between them, also if the groups
    are numbered the other way round. At first both groups are ready, and the one of the author is
    in front. -/
theorem order_in_turn_bookshop :
    bookshop.options.keepModelOrder = false ∧ bookshop.order = [⟨0⟩, ⟨2⟩, ⟨1⟩] ∧
      bookshop.orderBy [[1], [2, 0]] = bookshop.order ∧
      (bookshop.digraph.sortedBy [[1], [2, 0]] 0).ready = [(0, 1), (1, 0)] ∧
      IsReady bookshop.DependsAt 3 [] [2, 0] ∧
      ∃ groups, InTurn bookshop.DependsAt 3 [] groups ∧
        groups.flatten.map ModelId.mk = bookshop.order := by
  obtain ⟨⟨groups, hgroups, horder⟩, -, hnumbering, -⟩ := order_in_turn reached_bookshop (by decide)
  have hcomponents : AreComponents bookshop.DependsAt bookshop.models.length [[1], [2, 0]] :=
    areComponents_of_perm (by decide) (by decide)
  obtain ⟨hsame, hqueue⟩ := hnumbering _ hcomponents
  have hready : (bookshop.digraph.sortedBy [[1], [2, 0]] 0).ready = [(0, 1), (1, 0)] := by decide
  obtain ⟨members, hmembers, hturn, -⟩ := (hqueue 0 0 1).1 (by rw [hready]; simp)
  cases hmembers
  exact ⟨by decide, by decide, hsame, hready, hturn, groups, hgroups, horder.symm⟩

end SchemaPress.Graph
