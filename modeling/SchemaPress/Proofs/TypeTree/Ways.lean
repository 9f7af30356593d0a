import SchemaPress.Proofs.TypeTree.Nodes

set_option autoImplicit false

/-! # The places of the nodes of a type tree

Equal types may stand at several places of a tree, so a node is told by the way to it: the numbers
of the children to go down to, from the root on. `ways` has a way for each place where there is a
node (`mem_ways`), and the ways ascend like the words of a dictionary: a way comes before those
that go on from it, and ways to the left come before ways to the right (`ways_ascending`).

A walk lists what stands at these places, in this order, and then it ends
(`walk_lists_every_node_once`). -/

namespace SchemaPress.TypeTree

/-- The node that a way leads to. -/
def nodeAt? (tree : TypeTree) : (way : List Nat) → Option TypeTree
  | [] => some tree
  | number :: below => tree.children[number]?.bind fun child => child.nodeAt? below

mutual

/-- The ways to the nodes of a tree. -/
def ways : TypeTree → List (List Nat)
  | list _ item | set _ item => [] :: item.ways.map (0 :: ·)
  | dict _ value => [] :: value.ways.map (0 :: ·)
  | keyedDict _ key value => [] :: (key.ways.map (0 :: ·) ++ value.ways.map (1 :: ·))
  | union _ members => [] :: waysFrom 0 members
  | _ => [[]]

/-- The ways into children that are numbered from `first` on. -/
def waysFrom (first : Nat) : List TypeTree → List (List Nat)
  | [] => []
  | tree :: rest => tree.ways.map (first :: ·) ++ waysFrom (first + 1) rest

end

theorem ways_eq (tree : TypeTree) : tree.ways = [] :: waysFrom 0 tree.children := by
  cases tree <;> simp [ways, waysFrom, children]

/-! ## The ways lead to all nodes -/

/-- A way into one of several children has the number of the child and goes on inside it. -/
theorem mem_waysFrom {way : List Nat} {first : Nat} {trees : List TypeTree} :
    way ∈ waysFrom first trees ↔ ∃ number below tree,
      way = (first + number) :: below ∧ trees[number]? = some tree ∧ below ∈ tree.ways := by
  induction trees generalizing first with
  | nil => simp [waysFrom]
  | cons tree rest ih =>
    -- the number of a child among the rest is one less than its number here
    have hshift : ∀ number, first + 1 + number = first + (number + 1) := by
      intro number
      omega
    simp only [waysFrom, List.mem_append, List.mem_map, ih, hshift]
    constructor
    · rintro (⟨below, hbelow, rfl⟩ | ⟨number, below, child, rfl, hchild, hbelow⟩)
      · exact ⟨0, below, tree, rfl, rfl, hbelow⟩
      · exact ⟨number + 1, below, child, rfl, hchild, hbelow⟩
    · rintro ⟨number, below, child, rfl, hchild, hbelow⟩
      cases number with
      | zero =>
        obtain rfl : tree = child := Option.some.inj hchild
        exact .inl ⟨below, hbelow, rfl⟩
      | succ number => exact .inr ⟨number, below, child, rfl, hchild, hbelow⟩

/-- A way that goes down leads into the child with its first number. -/
theorem cons_mem_ways {tree : TypeTree} {number : Nat} {below : List Nat} :
    number :: below ∈ tree.ways ↔
      ∃ child, tree.children[number]? = some child ∧ below ∈ child.ways := by
  rw [ways_eq, List.mem_cons, or_iff_right (List.cons_ne_nil _ _), mem_waysFrom]
  constructor
  · rintro ⟨number', below', child, hway, hchild, hbelow⟩
    rw [Nat.zero_add] at hway
    obtain ⟨rfl, rfl⟩ := List.cons.inj hway
    exact ⟨child, hchild, hbelow⟩
  · rintro ⟨child, hchild, hbelow⟩
    exact ⟨number, below, child, by rw [Nat.zero_add], hchild, hbelow⟩

theorem mem_ways {tree : TypeTree} {way : List Nat} :
    way ∈ tree.ways ↔ (tree.nodeAt? way).isSome := by
  induction way generalizing tree with
  | nil => simp [ways_eq, nodeAt?]
  | cons number below ih =>
    rw [cons_mem_ways, nodeAt?]
    cases tree.children[number]? with
    | none => simp
    | some child => simp [ih]

/-! ## The order of the ways -/

theorem pairwise_waysFrom {trees : List TypeTree}
    (h : ∀ tree ∈ trees, tree.ways.Pairwise (List.Lex (· < ·))) (first : Nat) :
    (waysFrom first trees).Pairwise (List.Lex (· < ·)) := by
  induction trees generalizing first with
  | nil => exact List.Pairwise.nil
  | cons tree rest ih =>
    rw [List.forall_mem_cons] at h
    rw [waysFrom, List.pairwise_append]
    refine ⟨?_, ih h.2 (first + 1), ?_⟩
    · rw [List.pairwise_map]
      exact h.1.imp List.Lex.cons
    · -- a child to the right has a greater number, whatever follows
      intro left hleft right hright
      obtain ⟨below, -, rfl⟩ := List.mem_map.1 hleft
      obtain ⟨number, below', child, rfl, -, -⟩ := mem_waysFrom.1 hright
      exact .rel (by omega)

theorem ways_ascending (tree : TypeTree) : tree.ways.Pairwise (List.Lex (· < ·)) := by
  induction tree using induct_children with
  | node tree ih =>
    rw [ways_eq, List.pairwise_cons]
    refine ⟨?_, pairwise_waysFrom ih 0⟩
    intro way hway
    obtain ⟨number, below, child, rfl, -, -⟩ := mem_waysFrom.1 hway
    exact .nil

/-! ## What stands at the ways -/

/-- If the ways into children lead to their nodes in turn, so they do from the parent. The children
    before them are only counted. -/
theorem map_nodeAt?_waysFrom {parent : TypeTree} (front : List TypeTree) {trees : List TypeTree}
    (hchildren : parent.children = front ++ trees)
    (h : ∀ tree ∈ trees, tree.ways.map tree.nodeAt? = tree.preorder.map some) :
    (waysFrom front.length trees).map parent.nodeAt? = (preorderAll trees).map some := by
  induction trees generalizing front with
  | nil => rfl
  | cons tree rest ih =>
    rw [List.forall_mem_cons] at h
    have hfirst : parent.nodeAt? ∘ (front.length :: ·) = tree.nodeAt? := by
      funext below
      simp [nodeAt?, hchildren]
    have hrest : (waysFrom (front.length + 1) rest).map parent.nodeAt? =
        (preorderAll rest).map some := by
      have hlength : (front ++ [tree]).length = front.length + 1 := List.length_append
      rw [← hlength]
      exact ih (front ++ [tree]) (by rw [hchildren, List.append_cons]) h.2
    rw [waysFrom, List.map_append, List.map_map, hfirst, h.1, hrest, preorderAll, List.map_append]

/-- The nodes of the recursive listing stand at the ways, in turn. -/
theorem map_nodeAt?_ways (tree : TypeTree) :
    tree.ways.map tree.nodeAt? = tree.preorder.map some := by
  induction tree using induct_children with
  | node tree ih =>
    have hbelow : (waysFrom 0 tree.children).map tree.nodeAt? =
        (preorderAll tree.children).map some :=
      map_nodeAt?_waysFrom [] rfl ih
    rw [ways_eq, List.map_cons, hbelow, preorder_eq, List.map_cons]
    rfl

theorem targets_eq_filterMap_ways (tree : TypeTree) :
    tree.targets = tree.ways.filterMap fun way => (tree.nodeAt? way).bind target? := by
  calc tree.targets
      = (tree.preorder.map some).filterMap (·.bind target?) := by
        rw [targets, nodes_eq, List.filterMap_map]
        rfl
    _ = tree.ways.filterMap fun way => (tree.nodeAt? way).bind target? := by
        rw [← map_nodeAt?_ways, List.filterMap_map]
        rfl

/-- A walk over a tree lists the nodes as the recursive listing does, and then it ends. So the
    nodes are what stands at the places of the tree, each place once, in ascending order, and the
    models are those that stand at these places, with repeats, in the same order. -/
theorem walk_lists_every_node_once (tree : TypeTree) :
    (∀ listed, tree.walk.Lists listed ↔ listed = tree.preorder) ∧
    tree.nodes = tree.preorder ∧
    tree.ways.Pairwise (List.Lex (· < ·)) ∧
    (∀ way, way ∈ tree.ways ↔ (tree.nodeAt? way).isSome) ∧
    tree.nodes.map some = tree.ways.map tree.nodeAt? ∧
    tree.targets = tree.ways.filterMap fun way => (tree.nodeAt? way).bind target? := by
  refine ⟨fun listed => ⟨fun h => h.unique tree.lists_walk, fun h => h ▸ tree.lists_walk⟩,
    tree.nodes_eq, tree.ways_ascending, fun _ => mem_ways, ?_, tree.targets_eq_filterMap_ways⟩
  rw [nodes_eq, map_nodeAt?_ways]

-- a model as the key of a map and again below its values
example : (keyedDict {} (model {} ⟨2⟩) (union {} [model {} ⟨0⟩, list {} (model {} ⟨2⟩)])).targets =
    [⟨2⟩, ⟨0⟩, ⟨2⟩] := by
  decide

end SchemaPress.TypeTree
