import SchemaPress.Proofs.TypeTree.Written

set_option autoImplicit false

/-! # The imports of a type hint

Each symbol in a hint is written for one node of the tree (`writes_of_mem_hintPieces`), and a node
asks for the imports of what is written for it, as long as a literal has values and the value of a
map has a hint (`Writes.mem_imports`). The imports of all nodes are collected
(`mem_collectImports`), so every symbol of the hint is among them. -/

namespace SchemaPress

namespace Import

theorem mem_addNew {seen imports : List Import} {origin : Import} :
    origin ∈ addNew seen imports ↔ origin ∈ seen ∨ origin ∈ imports := by
  induction imports generalizing seen with
  | nil => simp [addNew]
  | cons item rest ih =>
    rw [addNew, ih, List.mem_cons]
    split
    · rename_i hitem
      constructor
      · rintro (h | h)
        · exact Or.inl h
        · exact Or.inr (Or.inr h)
      · rintro (h | rfl | h)
        · exact Or.inl h
        · exact Or.inl (List.contains_iff_mem.1 hitem)
        · exact Or.inr h
    · rw [List.mem_append, List.mem_singleton, or_assoc]

/-- Listing each import once loses none. -/
@[simp]
theorem mem_unique {imports : List Import} {origin : Import} :
    origin ∈ unique imports ↔ origin ∈ imports := by
  simp [unique, mem_addNew]

end Import

namespace TypeTree

open Piece (textOf)

/-! ## Where the symbols come from -/

/-- A symbol that is written for a node itself. -/
inductive Writes (scope : Scope) : TypeTree → Piece → Prop
  | name {m : Marks} {type : NamedType} {origin : Import} :
      type.origin = some origin → Writes scope (named m type) (.primitive type.name origin)
  | optional {node : TypeTree} :
      node.rendersOptional scope = true → scope.spelling.unionOperator = false →
      Writes scope node (.generic .optional)
  | literal {m : Marks} {values : List Value} :
      Writes scope (literal m values) (.generic (literalImport scope.spelling.target))
  | list {m : Marks} {item : TypeTree} :
      Writes scope (list m item) (ContainerShape.list.namePiece scope.spelling)
  | set {m : Marks} {item : TypeTree} :
      Writes scope (set m item) (ContainerShape.set.namePiece scope.spelling)
  | dict {m : Marks} {value : TypeTree} :
      Writes scope (dict m value) (ContainerShape.dict.namePiece scope.spelling)
  | keyedDict {m : Marks} {key value : TypeTree} :
      Writes scope (keyedDict m key value) (ContainerShape.dict.namePiece scope.spelling)
  | anyValue {m : Marks} {value : TypeTree} :
      value.hint scope = "" → Writes scope (dict m value) (.library .any)
  | anyKeyedValue {m : Marks} {key value : TypeTree} :
      value.hint scope = "" → Writes scope (keyedDict m key value) (.library .any)
  | union {m : Marks} {members : List TypeTree} :
      1 < members.length → scope.spelling.unionOperator = false →
      Writes scope (union m members) (.generic .union)

/-- The symbols of a hint that also admits `None` are those of the hint, and perhaps
    `Optional`. -/
theorem mem_optionalPieces {unionOperator : Bool} {hint : List Piece} {piece : Piece}
    (h : piece ∈ optionalPieces unionOperator hint) (hsymbol : piece.origin? ≠ none) :
    piece ∈ hint ∨ (piece = .generic .optional ∧ unionOperator = false) := by
  unfold optionalPieces at h
  split at h
  · exact absurd h (Piece.not_mem_plain hsymbol _)
  · split at h
    · rcases List.mem_append.1 h with h | h
      · exact Or.inl h
      · exact absurd h (Piece.not_mem_plain hsymbol _)
    · rename_i hoperator
      rcases List.mem_append.1 h with h | h
      · rcases List.mem_cons.1 h with h | h
        · exact Or.inr ⟨h, by simpa using hoperator⟩
        · exact Or.inl h
      · exact absurd h (Piece.not_mem_plain hsymbol _)

theorem mem_closePieces {spelling : Spelling} {optional : Bool} {hint : List Piece}
    {piece : Piece} (h : piece ∈ closePieces spelling optional hint)
    (hsymbol : piece.origin? ≠ none) :
    piece ∈ hint ∨
      (piece = .generic .optional ∧ optional = true ∧ spelling.unionOperator = false) := by
  unfold closePieces at h
  split at h
  · rename_i hoptional
    rcases mem_optionalPieces h hsymbol with h | ⟨h, hoperator⟩
    · exact Or.inl h
    · exact Or.inr ⟨h, (Bool.and_eq_true_iff.1 hoptional).1, hoperator⟩
  · exact Or.inl h

theorem mem_applyPieces {spelling : Spelling} {shape : ContainerShape} {item : List Piece}
    {piece : Piece} (h : piece ∈ shape.applyPieces spelling item)
    (hsymbol : piece.origin? ≠ none) : piece = shape.namePiece spelling ∨ piece ∈ item := by
  unfold ContainerShape.applyPieces at h
  split at h
  · exact Or.inl (List.mem_singleton.1 h)
  · simp only [List.cons_append, List.mem_cons, List.mem_append, List.not_mem_nil,
      or_false] at h
    rcases h with h | rfl | h | rfl
    · exact Or.inl h
    · exact absurd rfl hsymbol
    · exact Or.inr h
    · exact absurd rfl hsymbol

theorem mem_keyedPieces {spelling : Spelling} {key value : List Piece} {piece : Piece}
    (h : piece ∈ ContainerShape.keyedPieces spelling key value)
    (hsymbol : piece.origin? ≠ none) :
    piece = ContainerShape.dict.namePiece spelling ∨ piece ∈ key ∨ piece ∈ value ∨
      (piece = .library .any ∧ textOf value = "") := by
  unfold ContainerShape.keyedPieces at h
  simp only [List.cons_append, List.mem_cons, List.mem_append, List.not_mem_nil, or_false] at h
  rcases h with h | rfl | (h | rfl | h) | rfl
  · exact Or.inl h
  · exact absurd rfl hsymbol
  · exact Or.inr (Or.inl h)
  · exact absurd rfl hsymbol
  · split at h
    · rename_i hempty
      exact Or.inr (Or.inr (Or.inr ⟨List.mem_singleton.1 h, by simpa using hempty⟩))
    · exact Or.inr (Or.inr (Or.inl h))
  · exact absurd rfl hsymbol

/-- What is kept of the alternatives is some of them. -/
theorem keptAlternatives_sublist (passages : List (List Piece)) (kept : List (List Piece)) :
    List.Sublist (passages.foldl keepAlternative kept) (kept ++ passages) := by
  induction passages generalizing kept with
  | nil => simp
  | cons passage rest ih =>
    rw [List.foldl_cons]
    refine (ih _).trans ?_
    unfold keepAlternative
    split
    · exact List.Sublist.append_left (List.sublist_cons_self _ _) kept
    · rw [List.append_assoc]
      exact List.Sublist.refl _

theorem mem_unionPieces {spelling : Spelling} {passages : List (List Piece)} {piece : Piece}
    (h : piece ∈ unionPieces spelling passages) (hsymbol : piece.origin? ≠ none) :
    (∃ passage ∈ passages, piece ∈ passage) ∨
      (piece = .generic .union ∧ 1 < passages.length ∧ spelling.unionOperator = false) := by
  match passages with
  | [] => simp [unionPieces] at h
  | [single] => exact Or.inl ⟨single, List.mem_singleton.2 rfl, h⟩
  | first :: second :: rest =>
    simp only [unionPieces] at h
    split at h
    · exact Or.inl (Piece.mem_join h hsymbol)
    · rename_i hoperator
      rcases List.mem_append.1 h with h | h
      · rcases List.mem_cons.1 h with h | h
        · exact Or.inr ⟨h, by simp, by simpa using hoperator⟩
        · exact Or.inl (Piece.mem_join h hsymbol)
      · exact absurd h (Piece.not_mem_plain hsymbol _)

theorem barePiecesAll_eq_map (scope : Scope) (trees : List TypeTree) :
    barePiecesAll scope trees = trees.map (barePieces scope) := by
  induction trees with
  | nil => rfl
  | cons tree rest ih => rw [barePiecesAll, ih, List.map_cons]

/-- Every symbol in a hint without its optionality is written for some node. -/
theorem writes_of_mem_barePieces {scope : Scope} {tree : TypeTree} {piece : Piece}
    (h : piece ∈ tree.barePieces scope) (hsymbol : piece.origin? ≠ none) :
    ∃ node ∈ tree.preorder, Writes scope node piece := by
  have hclose : ∀ {tree child : TypeTree}, child ∈ tree.children →
      (piece ∈ child.barePieces scope → ∃ node ∈ child.preorder, Writes scope node piece) →
      piece ∈ closePieces scope.spelling (child.rendersOptional scope) (child.barePieces scope) →
      ∃ node ∈ tree.preorder, Writes scope node piece := by
    intro tree child hchild ih h
    rcases mem_closePieces h hsymbol with h | ⟨rfl, hoptional, hoperator⟩
    · obtain ⟨node, hnode, hwrites⟩ := ih h
      exact ⟨node, mem_preorder_of_child hchild hnode, hwrites⟩
    · exact ⟨child, mem_preorder_of_child hchild child.self_mem_preorder,
        .optional hoptional hoperator⟩
  induction tree with
  | empty m => simp [barePieces] at h
  | named m type =>
    refine ⟨_, self_mem_preorder _, ?_⟩
    simp only [barePieces, NamedType.pieces] at h
    rcases List.mem_cons.1 h with rfl | h
    · cases horigin : type.origin with
      | none => simp [horigin, Piece.origin?] at hsymbol
      | some origin => exact .name horigin
    · split at h
      · exact absurd h (Piece.not_mem_plain hsymbol _)
      · exact absurd h List.not_mem_nil
  | model m target =>
    rw [barePieces] at h
    exact absurd h (Piece.not_mem_plain hsymbol _)
  | literal m values =>
    simp only [barePieces, List.mem_cons, List.not_mem_nil, or_false] at h
    rcases h with rfl | rfl
    · exact ⟨_, self_mem_preorder _, .literal⟩
    · exact absurd rfl hsymbol
  | list m item ih =>
    rcases mem_applyPieces h hsymbol with rfl | h
    · exact ⟨_, self_mem_preorder _, .list⟩
    · exact hclose (by simp [children]) ih h
  | set m item ih =>
    rcases mem_applyPieces h hsymbol with rfl | h
    · exact ⟨_, self_mem_preorder _, .set⟩
    · exact hclose (by simp [children]) ih h
  | dict m value ih =>
    rcases mem_keyedPieces h hsymbol with rfl | h | h | ⟨rfl, hempty⟩
    · exact ⟨_, self_mem_preorder _, .dict⟩
    · exact absurd h (Piece.not_mem_plain hsymbol _)
    · exact hclose (by simp [children]) ih h
    · exact ⟨_, self_mem_preorder _, .anyValue (textOf_hintPieces scope value ▸ hempty)⟩
  | keyedDict m key value ihkey ihvalue =>
    rcases mem_keyedPieces h hsymbol with rfl | h | h | ⟨rfl, hempty⟩
    · exact ⟨_, self_mem_preorder _, .keyedDict⟩
    · exact hclose (by simp [children]) ihkey h
    · exact hclose (by simp [children]) ihvalue h
    · exact ⟨_, self_mem_preorder _, .anyKeyedValue (textOf_hintPieces scope value ▸ hempty)⟩
  | union m members ih =>
    have hkept := keptAlternatives_sublist (barePiecesAll scope members) []
    rw [List.nil_append, barePiecesAll_eq_map] at hkept
    rw [barePieces, barePiecesAll_eq_map] at h
    rcases mem_unionPieces h hsymbol with ⟨passage, hpassage, h⟩ | ⟨rfl, hlength, hoperator⟩
    · obtain ⟨member, hmember, rfl⟩ := List.mem_map.1 (hkept.subset hpassage)
      obtain ⟨node, hnode, hwrites⟩ := ih member hmember h
      exact ⟨node, mem_preorder_of_child hmember hnode, hwrites⟩
    · refine ⟨_, self_mem_preorder _, .union ?_ hoperator⟩
      have := hkept.length_le
      rw [List.length_map] at this
      omega

/-- Every symbol in a hint is written for some node. -/
theorem writes_of_mem_hintPieces {scope : Scope} {tree : TypeTree} {piece : Piece}
    (h : piece ∈ tree.hintPieces scope) (hsymbol : piece.origin? ≠ none) :
    ∃ node ∈ tree.preorder, Writes scope node piece := by
  rcases mem_closePieces h hsymbol with h | ⟨rfl, hoptional, hoperator⟩
  · exact writes_of_mem_barePieces h hsymbol
  · exact ⟨tree, tree.self_mem_preorder, .optional hoptional hoperator⟩

/-! ## The imports of a node -/

/-- A node whose text is whole: a literal has values, and the value of a map has a hint unless it
    is no type at all. -/
def IsFilled (scope : Scope) : TypeTree → Prop
  | literal _ values => values ≠ []
  | dict _ value | keyedDict _ _ value => value.isEmpty = true ∨ value.hint scope ≠ ""
  | _ => True

theorem origin?_namePiece {spelling : Spelling} {shape : ContainerShape} {origin : Import}
    (h : (shape.namePiece spelling).origin? = some origin) :
    shape.origin? spelling = some origin := by
  obtain ⟨standard, generic, operator, target⟩ := spelling
  cases shape <;> cases standard <;> cases generic <;> exact h

/-- A node asks for the imports of what is written for it. -/
theorem Writes.mem_imports {scope : Scope} {node : TypeTree} {piece : Piece} {origin : Import}
    (h : Writes scope node piece) (hfilled : node.IsFilled scope)
    (horigin : piece.origin? = some origin) : origin ∈ node.imports scope := by
  unfold imports
  cases h with
  | name htype =>
    cases horigin
    simp [ownImport, htype]
  | optional hoptional hoperator =>
    cases horigin
    simp [hoptional, hoperator]
  | @literal m values =>
    cases horigin
    have hvalues : values ≠ [] := hfilled
    simp [shapeImports, hvalues, literalImport]
  | list | set | dict | keyedDict =>
    have := origin?_namePiece horigin
    simp [shapeImports, this]
  | anyValue hempty | anyKeyedValue hempty =>
    cases horigin
    have hvalue := hfilled.resolve_right (fun hne => hne hempty)
    simp [shapeImports, hvalue]
  | union hlength hoperator =>
    cases horigin
    simp [shapeImports, hlength, hoperator]

/-- What needs the import of `Union` is the mark of alternatives, or a type with that import. -/
theorem Writes.of_union {scope : Scope} {node : TypeTree} {piece : Piece}
    (h : Writes scope node piece) (horigin : piece.origin? = some .union) :
    (piece = .generic .union ∧ scope.spelling.unionOperator = false) ∨
      ∃ name, piece = .primitive name .union := by
  have hcontainer : ∀ shape : ContainerShape,
      (shape.namePiece scope.spelling).origin? ≠ some .union := by
    intro shape h
    have := origin?_namePiece h
    unfold ContainerShape.origin? at this
    cases shape <;> grind [Import.union, Import.of, Import.sequence, Import.abstractSequence,
      Import.mapping, Import.abstractMapping, Import.frozenSet, Import.list, Import.set,
      Import.dict]
  cases h with
  | name htype =>
    cases horigin
    exact Or.inr ⟨_, rfl⟩
  | optional => exact absurd horigin (by decide)
  | literal =>
    unfold literalImport at horigin
    split at horigin <;> exact absurd horigin (by decide)
  | list | set | dict | keyedDict => exact absurd horigin (hcontainer _)
  | anyValue | anyKeyedValue => exact absurd horigin (by decide)
  | union _ hoperator => exact Or.inl ⟨rfl, hoperator⟩

theorem mem_collectAllImports {scope : Scope} {trees : List TypeTree} {origin : Import} :
    origin ∈ collectAllImports scope trees ↔
      ∃ tree ∈ trees, origin ∈ tree.collectImports scope := by
  induction trees with
  | nil => simp [collectAllImports]
  | cons tree rest ih => simp [collectAllImports, ih]

theorem collectImports_eq (scope : Scope) (tree : TypeTree) :
    tree.collectImports scope =
      collectAllImports scope tree.children ++ tree.imports scope := by
  cases tree <;> simp [collectImports, collectAllImports, children]

/-- The imports of a tree are those of its nodes. -/
theorem mem_collectImports {scope : Scope} {tree : TypeTree} {origin : Import} :
    origin ∈ tree.collectImports scope ↔
      ∃ node ∈ tree.preorder, origin ∈ node.imports scope := by
  have step : ∀ tree : TypeTree,
      (∀ child ∈ tree.children, origin ∈ child.collectImports scope ↔
        ∃ node ∈ child.preorder, origin ∈ node.imports scope) →
      (origin ∈ tree.collectImports scope ↔
        ∃ node ∈ tree.preorder, origin ∈ node.imports scope) := by
    intro tree ih
    rw [collectImports_eq, preorder_eq, List.mem_append, mem_collectAllImports]
    constructor
    · rintro (⟨child, hchild, h⟩ | h)
      · obtain ⟨node, hnode, h⟩ := (ih child hchild).1 h
        exact ⟨node, List.mem_cons_of_mem _ (mem_preorderAll.2 ⟨child, hchild, hnode⟩), h⟩
      · exact ⟨tree, List.mem_cons_self, h⟩
    · rintro ⟨node, hnode, h⟩
      rcases List.mem_cons.1 hnode with rfl | hnode
      · exact Or.inr h
      · obtain ⟨child, hchild, hnode⟩ := mem_preorderAll.1 hnode
        exact Or.inl ⟨child, hchild, (ih child hchild).2 ⟨node, hnode, h⟩⟩
  induction tree with
  | empty | named | model | literal => exact step _ (by simp [children])
  | list m item ih | set m item ih | dict m item ih => exact step _ (by simpa [children] using ih)
  | keyedDict m key value ihkey ihvalue =>
    exact step _ (by simpa [children] using ⟨ihkey, ihvalue⟩)
  | union m members ih => exact step _ ih

end TypeTree

end SchemaPress
