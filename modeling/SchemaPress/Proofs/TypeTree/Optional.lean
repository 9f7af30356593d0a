import SchemaPress.Proofs.TypeTree.Nodes
import SchemaPress.TypeTree.Hint

set_option autoImplicit false

/-! # When a hint is optional

Only two kinds of nodes depend on what surrounds the tree: a model, which admits `None` if the scope
says so, and alternatives, which look at their members. So the optionality of a tree is that of
the tree in a scope that knows nothing about models, or it comes from a model that can be reached
through alternatives alone (`rendersOptional_eq`). Neither part depends on how types are
spelled. -/

namespace SchemaPress

/-- The scope in which no model admits `None`. -/
def Scope.withoutModels (scope : Scope) : Scope :=
  { scope with nullable := fun _ => false }

namespace TypeTree

/-! ## Hints that are `None` -/

/-- Whether the hint of a tree is `None`, before its optionality is written. -/
def writesNone (scope : Scope) : TypeTree → Bool
  | named _ type => type.hint == "None"
  | model _ target => scope.className target == "None"
  | _ => false

/-- The hints that are told by their text. -/
def knownHints : List String := ["None", "Any"]

/-- A text with a bracket or a bar in it is none of them. -/
theorem ne_knownHint_of_mem {word text : String} (hword : word ∈ knownHints) {c : Char}
    (h : c ∈ text.toList) (hc : c ∈ ['[', '|']) : text ≠ word := by
  have hplain : (knownHints.all fun word => ['[', '|'].all fun c => !word.toList.contains c) =
      true := by
    decide
  rintro rfl
  have hnot := List.all_eq_true.1 (List.all_eq_true.1 hplain text hword) c hc
  simp [h] at hnot

theorem apply_ne_knownHint {word : String} (hword : word ∈ knownHints) (spelling : Spelling)
    (shape : ContainerShape) (item : String) : shape.apply spelling item ≠ word := by
  unfold ContainerShape.apply
  split
  · have hnames : shape.name spelling ∉ knownHints := by
      unfold ContainerShape.name
      cases shape <;> cases spelling.genericContainers <;> cases spelling.standardCollections <;>
        decide
    rintro rfl
    exact hnames hword
  · exact ne_knownHint_of_mem hword (c := '[') (by simp) (by simp)

theorem applyKeyed_ne_knownHint {word : String} (hword : word ∈ knownHints) (spelling : Spelling)
    (key value : String) : ContainerShape.applyKeyed spelling key value ≠ word :=
  ne_knownHint_of_mem hword (c := '[') (by simp [ContainerShape.applyKeyed]) (by simp)

theorem literal_ne_knownHint {word : String} (hword : word ∈ knownHints) (values : String) :
    "Literal[" ++ values ++ "]" ≠ word :=
  ne_knownHint_of_mem hword (c := '[') (by simp) (by simp)

/-- Alternatives are written as such a hint only if it is the single one. -/
theorem join_eq_knownHint_iff {word : String} (hword : word ∈ knownHints) {spelling : Spelling}
    {texts : List String} : BareHint.join spelling texts = word ↔ texts = [word] := by
  match texts with
  | [] =>
    have hempty : "" ∉ knownHints := by decide
    refine iff_of_false ?_ (by simp)
    rintro rfl
    exact hempty hword
  | [single] => simp [BareHint.join]
  | first :: second :: rest =>
    refine iff_of_false ?_ (by simp)
    simp only [BareHint.join]
    split
    · refine ne_knownHint_of_mem hword (c := '|') ?_ (by simp)
      rw [String.intercalate_cons_cons]
      simp
    · exact ne_knownHint_of_mem hword (c := '[') (by simp) (by simp)

theorem none_not_mem_alternatives (bares : List BareHint) :
    "None" ∉ BareHint.alternatives bares := by
  have hkept : ∀ seen : List String, "None" ∉ seen →
      "None" ∉ bares.foldl BareHint.addAlternative seen := by
    induction bares with
    | nil => exact fun _ h => h
    | cons bare rest ih =>
      intro seen hseen
      refine ih _ ?_
      unfold BareHint.addAlternative
      split
      · exact hseen
      · rename_i hne
        simp only [Bool.or_eq_true, beq_iff_eq, not_or] at hne
        simp [hseen, Ne.symm hne.1]
  exact hkept [] List.not_mem_nil

/-- Only a type or a class of that name is written `None`. -/
theorem text_bare_eq_none (scope : Scope) (tree : TypeTree) :
    ((tree.bare scope).text == "None") = tree.writesNone scope := by
  have hnone : "None" ∈ knownHints := by decide
  cases tree with
  | empty m => rfl
  | named m type => rfl
  | model m target => rfl
  | literal m values => exact beq_false_of_ne (literal_ne_knownHint hnone _)
  | list m item | set m item => exact beq_false_of_ne (apply_ne_knownHint hnone _ _ _)
  | dict m value | keyedDict m key value =>
    exact beq_false_of_ne (applyKeyed_ne_knownHint hnone _ _ _)
  | union m members =>
    refine beq_false_of_ne fun hjoin => none_not_mem_alternatives (bareAll scope members) ?_
    rw [(join_eq_knownHint_iff hnone).1 hjoin]
    exact List.mem_singleton_self _

/-! ## Optionality -/

theorem bareAll_eq_map (scope : Scope) (members : List TypeTree) :
    bareAll scope members = members.map (·.bare scope) := by
  induction members with
  | nil => rfl
  | cons member rest ih => rw [bareAll, ih, List.map_cons]

theorem rendersOptional_union (scope : Scope) (m : Marks) (members : List TypeTree) :
    (union m members).rendersOptional scope = (m.optional || members.any fun member =>
      member.writesNone scope || member.rendersOptional scope) := by
  have hmember : ∀ member : TypeTree,
      ((member.bare scope).text == "None" || (member.bare scope).optional) =
        (member.writesNone scope || member.rendersOptional scope) := by
    intro member
    rw [text_bare_eq_none, rendersOptional]
  rw [rendersOptional, bare, bareAll_eq_map]
  simp only [List.any_map, Function.comp_def, hmember]

mutual

/-- The models that can be reached through alternatives alone. -/
def exposedTargets : TypeTree → List RefId
  | model _ target => [target]
  | union _ members => exposedTargetsAll members
  | _ => []

/-- The models that can be reached through alternatives from several trees. -/
def exposedTargetsAll : List TypeTree → List RefId
  | [] => []
  | tree :: rest => tree.exposedTargets ++ exposedTargetsAll rest

end

theorem mem_exposedTargetsAll {trees : List TypeTree} {target : RefId} :
    target ∈ exposedTargetsAll trees ↔ ∃ tree ∈ trees, target ∈ tree.exposedTargets := by
  induction trees with
  | nil => simp [exposedTargetsAll]
  | cons tree rest ih => simp [exposedTargetsAll, ih]

/-- What is exposed is mentioned. -/
theorem exposedTargets_subset (tree : TypeTree) : tree.exposedTargets ⊆ tree.targets := by
  intro target h
  rw [mem_targets]
  induction tree with
  | empty | named | literal | list | set | dict | keyedDict => exact absurd h List.not_mem_nil
  | model m other =>
    exact ⟨_, self_mem_preorder _, congrArg some (List.mem_singleton.1 h).symm⟩
  | union m members ih =>
    obtain ⟨member, hmember, h⟩ := mem_exposedTargetsAll.1 h
    obtain ⟨node, hnode, htarget⟩ := ih member hmember h
    exact ⟨node, mem_preorder_of_child hmember hnode, htarget⟩

/-- A tree is optional by itself, or because of a model that it exposes. -/
theorem rendersOptional_eq (scope : Scope) (tree : TypeTree) :
    tree.rendersOptional scope =
      (tree.rendersOptional scope.withoutModels || tree.exposedTargets.any scope.nullable) := by
  induction tree with
  | empty | named | literal | list | set | dict | keyedDict => exact (Bool.or_false _).symm
  | model m target => simp [rendersOptional, bare, exposedTargets, Scope.withoutModels]
  | union m members ih =>
    -- what is written does not depend on which models admit `None`
    have hnone : ∀ member : TypeTree,
        member.writesNone scope.withoutModels = member.writesNone scope := fun _ => rfl
    rw [rendersOptional_union, rendersOptional_union, Bool.or_assoc, exposedTargets]
    congr 1
    rw [Bool.eq_iff_iff]
    simp only [List.any_eq_true, Bool.or_eq_true, mem_exposedTargetsAll, hnone]
    constructor
    · rintro ⟨member, hmember, h | h⟩
      · exact Or.inl ⟨member, hmember, Or.inl h⟩
      · rw [ih member hmember, Bool.or_eq_true, List.any_eq_true] at h
        rcases h with h | ⟨target, htarget, h⟩
        · exact Or.inl ⟨member, hmember, Or.inr h⟩
        · exact Or.inr ⟨target, ⟨member, hmember, htarget⟩, h⟩
    · rintro (⟨member, hmember, h | h⟩ | ⟨target, ⟨member, hmember, htarget⟩, h⟩)
      · exact ⟨member, hmember, Or.inl h⟩
      · exact ⟨member, hmember, Or.inr (by rw [ih member hmember, h, Bool.true_or])⟩
      · refine ⟨member, hmember, Or.inr ?_⟩
        rw [ih member hmember, List.any_eq_true.2 ⟨target, htarget, h⟩, Bool.or_true]

/-- Without models, optionality depends on the names of the exposed models only. -/
theorem rendersOptional_withoutModels {scope other : Scope} {tree : TypeTree}
    (h : ∀ target ∈ tree.exposedTargets, scope.className target = other.className target) :
    tree.rendersOptional scope.withoutModels = tree.rendersOptional other.withoutModels := by
  induction tree with
  | empty | named | literal | list | set | dict | keyedDict => rfl
  | model m target => rfl
  | union m members ih =>
    rw [rendersOptional_union, rendersOptional_union]
    congr 1
    rw [Bool.eq_iff_iff, List.any_eq_true, List.any_eq_true]
    refine exists_congr fun member => and_congr_right fun hmember => ?_
    have hexposed : ∀ target ∈ member.exposedTargets,
        scope.className target = other.className target := fun target htarget =>
      h target (mem_exposedTargetsAll.2 ⟨member, hmember, htarget⟩)
    have hnone : member.writesNone scope.withoutModels = member.writesNone other.withoutModels := by
      cases member with
      | model m target =>
        exact congrArg (· == "None") (hexposed target (List.mem_singleton.2 rfl))
      | _ => rfl
    rw [hnone, ih member hmember hexposed]

end TypeTree

end SchemaPress
