import SchemaPress.TypeTree

set_option autoImplicit false

/-! # The nodes of a type tree

A walk over a tree keeps a stack of the trees that are still to be visited. Here it is compared with
the plain recursive listing `preorder`: until it ends, a walk lists the nodes of the pending trees,
one tree after another (`Walk.lists_preorderAll`). The steps that `nodes` allows are as many as
there are nodes, so nothing is cut off (`nodes_eq`). -/

namespace SchemaPress.TypeTree

/-! ## Induction -/

/-- Induction over trees: alternatives are assumed one by one. -/
@[induction_eliminator]
theorem induct {motive : TypeTree → Prop}
    (empty : ∀ m, motive (.empty m))
    (named : ∀ m type, motive (.named m type))
    (model : ∀ m target, motive (.model m target))
    (literal : ∀ m values, motive (.literal m values))
    (list : ∀ m item, motive item → motive (.list m item))
    (set : ∀ m item, motive item → motive (.set m item))
    (dict : ∀ m value, motive value → motive (.dict m value))
    (keyedDict : ∀ m key value, motive key → motive value → motive (.keyedDict m key value))
    (union : ∀ m members, (∀ member ∈ members, motive member) → motive (.union m members))
    (tree : TypeTree) : motive tree :=
  @TypeTree.rec motive (fun trees => ∀ tree ∈ trees, motive tree)
    empty named model literal list set dict keyedDict union
    (fun _ h => absurd h List.not_mem_nil)
    (fun _ _ hfirst hrest tree h => by
      rcases List.mem_cons.1 h with rfl | h
      · exact hfirst
      · exact hrest tree h)
    tree

/-- Induction over trees that treats all kinds of nodes alike. -/
theorem induct_children {motive : TypeTree → Prop}
    (node : ∀ tree : TypeTree, (∀ child ∈ tree.children, motive child) → motive tree)
    (tree : TypeTree) : motive tree := by
  induction tree with
  | empty | named | model | literal => exact node _ (by simp [children])
  | list m item ih | set m item ih | dict m item ih => exact node _ (by simpa [children] using ih)
  | keyedDict m key value ihkey ihvalue =>
    exact node _ (by simpa [children] using ⟨ihkey, ihvalue⟩)
  | union m members ih => exact node _ ih

/-! ## The recursive listing -/

mutual

/-- The nodes of a tree: the root, then the nodes below it from left to right. -/
def preorder : TypeTree → List TypeTree
  | list m item => list m item :: item.preorder
  | set m item => set m item :: item.preorder
  | dict m value => dict m value :: value.preorder
  | keyedDict m key value => keyedDict m key value :: (key.preorder ++ value.preorder)
  | union m members => union m members :: preorderAll members
  | leaf => [leaf]

/-- The nodes of several trees, one tree after another. -/
def preorderAll : List TypeTree → List TypeTree
  | [] => []
  | tree :: rest => tree.preorder ++ preorderAll rest

end

theorem preorder_eq (tree : TypeTree) : tree.preorder = tree :: preorderAll tree.children := by
  cases tree <;> simp [preorder, preorderAll, children]

theorem preorderAll_append (front back : List TypeTree) :
    preorderAll (front ++ back) = preorderAll front ++ preorderAll back := by
  induction front with
  | nil => rfl
  | cons tree rest ih => simp only [List.cons_append, preorderAll, ih, List.append_assoc]

theorem mem_preorderAll {node : TypeTree} {trees : List TypeTree} :
    node ∈ preorderAll trees ↔ ∃ tree ∈ trees, node ∈ tree.preorder := by
  induction trees with
  | nil => simp [preorderAll]
  | cons tree rest ih => simp [preorderAll, ih]

theorem self_mem_preorder (tree : TypeTree) : tree ∈ tree.preorder := by
  rw [preorder_eq]
  exact List.mem_cons_self

/-- The nodes below a child are nodes of the tree. -/
theorem mem_preorder_of_child {node child tree : TypeTree} (hchild : child ∈ tree.children)
    (hnode : node ∈ child.preorder) : node ∈ tree.preorder := by
  rw [preorder_eq]
  exact List.mem_cons_of_mem _ (mem_preorderAll.2 ⟨child, hchild, hnode⟩)

/-! ## Pending trees -/

theorem size_eq (tree : TypeTree) : tree.size = sizeAll tree.children + 1 := by
  cases tree <;> simp [size, sizeAll, children]

theorem sizeAll_append (front back : List TypeTree) :
    sizeAll (front ++ back) = sizeAll front + sizeAll back := by
  induction front with
  | nil => simp [sizeAll]
  | cons tree rest ih => simp only [List.cons_append, sizeAll, ih, Nat.add_assoc]

/-- A tree has one node more than its children. -/
theorem sizeAll_cons (tree : TypeTree) (rest : List TypeTree) :
    sizeAll (tree :: rest) = sizeAll (tree.children ++ rest) + 1 := by
  rw [sizeAll, size_eq, sizeAll_append]
  omega

/-- The root of the first tree comes first, and its children take the place of the tree. -/
theorem preorderAll_cons (tree : TypeTree) (rest : List TypeTree) :
    preorderAll (tree :: rest) = tree :: preorderAll (tree.children ++ rest) := by
  rw [preorderAll, preorder_eq, preorderAll_append, List.cons_append]

/-- Induction over stacks of trees: what holds once the children of the first tree have taken its
    place holds before. -/
theorem induct_pending {motive : List TypeTree → Prop} (nil : motive [])
    (cons : ∀ tree rest, motive (tree.children ++ rest) → motive (tree :: rest))
    (trees : List TypeTree) : motive trees := by
  -- the children may be many, but together with the rest they have a node less
  induction hsize : sizeAll trees generalizing trees with
  | zero =>
    cases trees with
    | nil => exact nil
    | cons tree rest =>
      rw [sizeAll_cons] at hsize
      omega
  | succ size ih =>
    cases trees with
    | nil => exact nil
    | cons tree rest =>
      rw [sizeAll_cons] at hsize
      exact cons tree rest (ih _ (by omega))

theorem length_preorderAll (trees : List TypeTree) :
    (preorderAll trees).length = sizeAll trees := by
  induction trees using induct_pending with
  | nil => rfl
  | cons tree rest ih => rw [preorderAll_cons, sizeAll_cons, List.length_cons, ih]

/-! ## The walk -/

namespace Walk

/-- The trees that are still to be visited, the next one first. -/
def upcoming (walk : Walk) : List TypeTree :=
  walk.pending.toList.reverse

theorem next?_of_upcoming_nil {walk : Walk} (h : walk.upcoming = []) : walk.next? = none := by
  have hpending : walk.pending = #[] := by
    simpa [upcoming] using h
  unfold next?
  rw [hpending]
  rfl

/-- A step lists the first upcoming tree, and the children of this tree come up in its place. -/
theorem next?_of_upcoming_cons {walk : Walk} {tree : TypeTree} {rest : List TypeTree}
    (h : walk.upcoming = tree :: rest) :
    ∃ after, walk.next? = some (tree, after) ∧ after.upcoming = tree.children ++ rest := by
  have hpending : walk.pending.toList = rest.reverse ++ [tree] := by
    rw [← List.reverse_cons, ← h, upcoming, List.reverse_reverse]
  have hlast : walk.pending.back? = some tree := by
    rw [← Array.getLast?_toList, hpending, List.getLast?_concat]
  refine ⟨⟨walk.pending.pop ++ tree.children.reverse⟩, ?_, ?_⟩
  · rw [next?, hlast]
    rfl
  · -- the children are pushed from right to left, so the leftmost one is on top
    rw [upcoming, Array.toList_appendList, Array.toList_pop, hpending, List.dropLast_concat,
      List.reverse_append, List.reverse_reverse, List.reverse_reverse]

/-- What a walk lists until it ends. -/
inductive Lists : Walk → List TypeTree → Prop
  | ended {walk : Walk} : walk.next? = none → Lists walk []
  | step {walk after : Walk} {tree : TypeTree} {listed : List TypeTree} :
      walk.next? = some (tree, after) → Lists after listed → Lists walk (tree :: listed)

/-- There is one list only that a walk lists until it ends. -/
theorem Lists.unique {walk : Walk} {first second : List TypeTree} (hfirst : walk.Lists first)
    (hsecond : walk.Lists second) : first = second := by
  induction hfirst generalizing second with
  | ended hend =>
    cases hsecond with
    | ended => rfl
    | step hnext =>
      rw [hend] at hnext
      cases hnext
  | step hnext _ ih =>
    cases hsecond with
    | ended hend =>
      rw [hend] at hnext
      cases hnext
    | step hnext' hafter =>
      rw [hnext] at hnext'
      cases hnext'
      rw [ih hafter]

/-- In some steps a walk lists the beginning of what it lists until it ends. -/
theorem Lists.take_eq {walk : Walk} {listed : List TypeTree} (h : walk.Lists listed) (steps : Nat) :
    walk.take steps = listed.take steps := by
  induction h generalizing steps with
  | ended hend =>
    cases steps with
    | zero => rfl
    | succ steps => rw [take, hend, List.take_nil]
  | step hnext _ ih =>
    cases steps with
    | zero => rfl
    | succ steps => simp only [take, hnext, ih, List.take_succ_cons]

/-- A walk lists the nodes of all upcoming trees, and then it ends. -/
theorem lists_preorderAll (walk : Walk) : walk.Lists (preorderAll walk.upcoming) := by
  induction htrees : walk.upcoming using induct_pending generalizing walk with
  | nil => exact .ended (next?_of_upcoming_nil htrees)
  | cons tree rest ih =>
    obtain ⟨after, hnext, hafter⟩ := next?_of_upcoming_cons htrees
    rw [preorderAll_cons]
    exact .step hnext (ih after hafter)

end Walk

theorem lists_walk (tree : TypeTree) : tree.walk.Lists tree.preorder := by
  have hlists := tree.walk.lists_preorderAll
  have hupcoming : tree.walk.upcoming = [tree] := rfl
  rwa [hupcoming, preorderAll, preorderAll, List.append_nil] at hlists

theorem nodes_eq (tree : TypeTree) : tree.nodes = tree.preorder := by
  have hlength : tree.preorder.length = tree.size := by
    rw [preorder_eq, List.length_cons, length_preorderAll, size_eq]
  rw [nodes, tree.lists_walk.take_eq, ← hlength, List.take_length]

/-- The models of a tree are those that stand at its nodes. -/
theorem mem_targets {tree : TypeTree} {target : RefId} :
    target ∈ tree.targets ↔ ∃ node ∈ tree.preorder, node.target? = some target := by
  unfold targets
  rw [nodes_eq, List.mem_filterMap]

/-- The models of a tree: the one at its root, then those below it from left to right. -/
theorem targets_eq (tree : TypeTree) :
    tree.targets = tree.target?.toList ++ tree.children.flatMap targets := by
  have hbelow : ∀ trees, (preorderAll trees).filterMap target? = trees.flatMap targets := by
    intro trees
    induction trees with
    | nil => rfl
    | cons first rest ih =>
      rw [preorderAll, List.filterMap_append, ih, List.flatMap_cons, targets, nodes_eq]
  unfold targets
  rw [nodes_eq, preorder_eq, List.filterMap_cons, hbelow]
  cases tree.target? <;> rfl

@[simp]
theorem targets_empty (m : Marks) : (empty m).targets = [] :=
  rfl

@[simp]
theorem targets_named (m : Marks) (type : NamedType) : (named m type).targets = [] :=
  rfl

@[simp]
theorem targets_model (m : Marks) (target : RefId) : (model m target).targets = [target] :=
  rfl

@[simp]
theorem targets_literal (m : Marks) (values : List Value) : (literal m values).targets = [] :=
  rfl

@[simp]
theorem targets_list (m : Marks) (item : TypeTree) : (list m item).targets = item.targets := by
  simp [targets_eq (list m item), target?, children]

@[simp]
theorem targets_set (m : Marks) (item : TypeTree) : (set m item).targets = item.targets := by
  simp [targets_eq (set m item), target?, children]

@[simp]
theorem targets_dict (m : Marks) (value : TypeTree) : (dict m value).targets = value.targets := by
  simp [targets_eq (dict m value), target?, children]

@[simp]
theorem targets_keyedDict (m : Marks) (key value : TypeTree) :
    (keyedDict m key value).targets = key.targets ++ value.targets := by
  simp [targets_eq (keyedDict m key value), target?, children]

@[simp]
theorem targets_union (m : Marks) (members : List TypeTree) :
    (union m members).targets = members.flatMap targets :=
  targets_eq (union m members)

/-- Marks say nothing about models. -/
theorem targets_withMarks (m : Marks) (tree : TypeTree) :
    (tree.withMarks m).targets = tree.targets := by
  cases tree <;> simp [withMarks]

end SchemaPress.TypeTree
