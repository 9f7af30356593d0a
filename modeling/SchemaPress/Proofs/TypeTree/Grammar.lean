import SchemaPress.Field.View
import SchemaPress.Proofs.Python.Punctuation
import SchemaPress.Proofs.TypeTree.Optional

set_option autoImplicit false

/-! # The grammar of hints

`IsHint` says which texts are hints. The hint of a tree is one unless some node of the tree is
hollow: a literal without values, a map whose keys have no hint, or alternatives of which one has no
text and stays beside another one. A hollow node leaves a place for an argument empty, and no hint
has such a place, however deep it lies (`Field.isHint_iff`). -/

namespace SchemaPress

open Python (IsWord Whole Broken)

/-! ## Hints -/

/-- The names that arguments in brackets may follow. -/
def containerNames : List String :=
  ["List", "Set", "Dict", "list", "set", "dict", "Sequence", "FrozenSet", "Mapping"]

/-- The texts that are hints. -/
inductive IsHint : String → Prop
  /-- A name, which may be dotted. -/
  | name {text : String} : IsWord text.toList → IsHint text
  /-- A call. -/
  | call {name : String} {arguments : List String} : IsWord name.toList →
      (∀ argument ∈ arguments, IsWord argument.toList) →
      IsHint (name ++ "(" ++ ", ".intercalate arguments ++ ")")
  /-- One of several values, of which there is at least one. -/
  | literal {values : List Value} : values ≠ [] →
      IsHint ("Literal[" ++ ", ".intercalate (values.map Python.literal) ++ "]")
  /-- A container of what is in the brackets. -/
  | container {name : String} {hints : List String} : name ∈ containerNames → hints ≠ [] →
      (∀ hint ∈ hints, IsHint hint) → IsHint (name ++ "[" ++ ", ".intercalate hints ++ "]")
  /-- Two or more alternatives. -/
  | union {hints : List String} : 2 ≤ hints.length → (∀ hint ∈ hints, IsHint hint) →
      IsHint ("Union[" ++ ", ".intercalate hints ++ "]")
  /-- A hint that also admits `None`. -/
  | optional {hint : String} : IsHint hint → IsHint ("Optional[" ++ hint ++ "]")
  /-- Two or more alternatives with bars between them. -/
  | alternatives {hints : List String} : 2 ≤ hints.length → (∀ hint ∈ hints, IsHint hint) →
      IsHint (" | ".intercalate hints)

theorem isHint_none : IsHint "None" :=
  .name (by decide)

theorem isHint_any : IsHint "Any" :=
  .name (by decide)

/-! ## Hints have no empty places -/

theorem toList_bracketed (name body : String) :
    (name ++ "[" ++ body ++ "]").toList = name.toList ++ '[' :: (body.toList ++ [']']) := by
  simp

theorem literal_bracket : "Literal[" = "Literal" ++ "[" := by decide

theorem union_bracket : "Union[" = "Union" ++ "[" := by decide

theorem optional_bracket : "Optional[" = "Optional" ++ "[" := by decide

/-- The separator of arguments. -/
theorem separates_commaText : Python.Separates ", ".toList := by
  simpa using Python.separates_comma

/-- The separator of alternatives. -/
theorem separates_barText : Python.Separates " | ".toList := by
  simpa using Python.separates_bar

section

variable {mark : String} {texts : List String}

theorem whole_intercalate (hmark : Python.Separates mark.toList) (hne : texts ≠ [])
    (h : ∀ text ∈ texts, Whole text.toList) : Whole (mark.intercalate texts).toList := by
  rw [String.toList_intercalate]
  refine hmark.whole (by simpa using hne) fun piece hpiece => ?_
  obtain ⟨text, htext, rfl⟩ := List.mem_map.1 hpiece
  exact h text htext

theorem broken_intercalate (hmark : Python.Separates mark.toList)
    (h : ∀ text ∈ texts, Whole text.toList ∨ Broken text.toList)
    (hbroken : ∃ text ∈ texts, Broken text.toList) : Broken (mark.intercalate texts).toList := by
  rw [String.toList_intercalate]
  refine hmark.broken (fun piece hpiece => ?_) ?_
  · obtain ⟨text, htext, rfl⟩ := List.mem_map.1 hpiece
    exact h text htext
  · obtain ⟨text, htext, hbroken⟩ := hbroken
    exact ⟨text.toList, List.mem_map_of_mem htext, hbroken⟩

/-- A name with whole arguments in brackets. -/
theorem whole_bracketed {name body : String} (hname : IsWord name.toList)
    (h : Whole body.toList) : Whole (name ++ "[" ++ body ++ "]").toList := by
  rw [toList_bracketed]
  exact h.bracketed hname

theorem broken_bracketed {name body : String} (hname : IsWord name.toList)
    (h : Broken body.toList) : Broken (name ++ "[" ++ body ++ "]").toList := by
  rw [toList_bracketed]
  exact h.bracketed hname

end

theorem isWord_of_mem_containerNames {name : String} (h : name ∈ containerNames) :
    IsWord name.toList := by
  revert name
  decide

/-- In a hint no operand is missing. -/
theorem IsHint.whole {text : String} (h : IsHint text) : Whole text.toList := by
  induction h with
  | name hword => exact hword.whole
  | @call name arguments hname harguments =>
    have hopen : Python.Place.word.next '(' = some .opened := by decide
    have hpieces : ∀ piece ∈ arguments.map String.toList, Whole piece := by
      intro piece hpiece
      obtain ⟨argument, hargument, rfl⟩ := List.mem_map.1 hpiece
      exact (harguments argument hargument).whole
    have htext : (name ++ "(" ++ ", ".intercalate arguments ++ ")").toList =
        name.toList ++ '(' :: (Python.joined (arguments.map String.toList) ++ [')']) := by
      simp [String.toList_intercalate, Python.joined]
    refine ⟨.behind, ?_, Or.inr rfl⟩
    rw [htext, Python.Place.scan_append, hname.scan, Option.bind_some,
      Python.Place.scan_cons hopen]
    exact Python.scan_display (by decide) hpieces
  | @literal values hne =>
    have hvalues : ∀ text ∈ values.map Python.literal, Whole text.toList := by
      intro text htext
      obtain ⟨value, -, rfl⟩ := List.mem_map.1 htext
      exact Python.whole_literal value
    have hword : IsWord "Literal".toList := by decide
    rw [literal_bracket]
    exact whole_bracketed hword (whole_intercalate separates_commaText (by simpa using hne) hvalues)
  | container hname hne _ ih =>
    exact whole_bracketed (isWord_of_mem_containerNames hname)
      (whole_intercalate separates_commaText hne ih)
  | union hlength _ ih =>
    have hword : IsWord "Union".toList := by decide
    rw [union_bracket]
    exact whole_bracketed hword
      (whole_intercalate separates_commaText (List.ne_nil_of_length_pos (by omega)) ih)
  | optional _ ih =>
    have hword : IsWord "Optional".toList := by decide
    rw [optional_bracket]
    exact whole_bracketed hword ih
  | alternatives hlength _ ih =>
    exact whole_intercalate separates_barText (List.ne_nil_of_length_pos (by omega)) ih

/-! ## Putting hints together -/

/-- A text that is a hint or nothing at all. -/
def IsHintOrEmpty (text : String) : Prop :=
  text = "" ∨ IsHint text

/-- A text in which an operand is missing. -/
def IsBroken (text : String) : Prop :=
  text ≠ "" ∧ Broken text.toList

theorem IsHint.not_isBroken {text : String} (h : IsHint text) : ¬ IsBroken text :=
  fun hbroken => h.whole.not_broken hbroken.2

theorem IsHintOrEmpty.whole_or_broken {text : String} (h : IsHintOrEmpty text) :
    Whole text.toList ∨ Broken text.toList := by
  rcases h with rfl | h
  · exact Or.inr Python.broken_nil
  · exact Or.inl h.whole

theorem IsHint.ne_empty {text : String} (h : IsHint text) : text ≠ "" := by
  rintro rfl
  exact h.whole.not_broken Python.broken_nil

theorem IsBroken.ne_none {text : String} (h : IsBroken text) : text ≠ "None" := by
  rintro rfl
  exact isHint_none.not_isBroken h

/-- Brackets behind a name keep what is broken broken. -/
theorem isBroken_bracketed {name body : String} (hname : IsWord name.toList)
    (h : Broken body.toList) : IsBroken (name ++ "[" ++ body ++ "]") :=
  ⟨fun hempty => by simpa using congrArg String.toList hempty, broken_bracketed hname h⟩

theorem append_none (text : String) : text ++ " | None" = " | ".intercalate [text, "None"] := by
  apply String.toList_inj.1
  simp

section

variable {operator : Bool} {spelling : Spelling} {text : String} {texts : List String}

theorem isHint_optionalHint (h : IsHintOrEmpty text) : IsHint (optionalHint operator text) := by
  unfold optionalHint
  split
  · exact isHint_none
  · rename_i hne
    simp only [Bool.or_eq_true, String.isEmpty_iff, beq_iff_eq, not_or] at hne
    have htext : IsHint text := h.resolve_left hne.1
    split
    · rw [append_none]
      exact .alternatives (by simp) (by simp [htext, isHint_none])
    · exact .optional htext

theorem optionalHint_ne_empty (operator : Bool) (text : String) :
    optionalHint operator text ≠ "" := by
  unfold optionalHint
  split
  · decide
  · split
    · exact fun hempty => by simpa using congrArg String.toList hempty
    · exact fun hempty => by simpa using congrArg String.toList hempty

theorem isBroken_optionalHint (h : IsBroken text) : IsBroken (optionalHint operator text) := by
  refine ⟨optionalHint_ne_empty operator text, ?_⟩
  unfold optionalHint
  rw [if_neg (by simp [h.1, h.ne_none])]
  split
  · have hpieces : ∀ piece ∈ [text, "None"], Whole piece.toList ∨ Broken piece.toList :=
      List.forall_mem_cons.2 ⟨Or.inr h.2, List.forall_mem_singleton.2 (Or.inl isHint_none.whole)⟩
    rw [append_none]
    exact broken_intercalate separates_barText hpieces ⟨text, List.mem_cons_self, h.2⟩
  · rw [optional_bracket]
    exact broken_bracketed (by decide) h.2

theorem isHint_close {bare : BareHint} (h : IsHintOrEmpty bare.text) :
    IsHintOrEmpty (bare.close spelling) := by
  unfold BareHint.close
  split
  · exact Or.inr (isHint_optionalHint h)
  · exact h

theorem isBroken_close {bare : BareHint} (h : IsBroken bare.text) :
    IsBroken (bare.close spelling) := by
  unfold BareHint.close
  split
  · exact isBroken_optionalHint h
  · exact h

theorem name_mem_containerNames (spelling : Spelling) (shape : ContainerShape) :
    shape.name spelling ∈ containerNames := by
  unfold ContainerShape.name
  cases shape <;> cases spelling.genericContainers <;> cases spelling.standardCollections <;>
    decide

theorem apply_ne_empty (spelling : Spelling) (shape : ContainerShape) (text : String) :
    shape.apply spelling text ≠ "" := by
  intro hempty
  unfold ContainerShape.apply at hempty
  split at hempty
  · have hname := name_mem_containerNames spelling shape
    rw [hempty] at hname
    exact absurd hname (by decide)
  · simpa using congrArg String.toList hempty

theorem applyKeyed_ne_empty (spelling : Spelling) (key value : String) :
    ContainerShape.applyKeyed spelling key value ≠ "" := by
  intro hempty
  simpa [ContainerShape.applyKeyed] using congrArg String.toList hempty

theorem isHint_apply (shape : ContainerShape) (h : IsHintOrEmpty text) :
    IsHint (shape.apply spelling text) := by
  have hname := name_mem_containerNames spelling shape
  unfold ContainerShape.apply
  rcases h with rfl | h
  · exact .name (isWord_of_mem_containerNames hname)
  · rw [if_neg (by simpa using h.ne_empty)]
    simpa using IsHint.container hname (List.cons_ne_nil text []) (by simpa using h)

theorem isBroken_apply (shape : ContainerShape) (h : IsBroken text) :
    IsBroken (shape.apply spelling text) := by
  have hname := name_mem_containerNames spelling shape
  unfold ContainerShape.apply
  rw [if_neg (by simpa using h.1)]
  exact isBroken_bracketed (isWord_of_mem_containerNames hname) h.2

theorem applyKeyed_eq (spelling : Spelling) (key value : String) :
    ContainerShape.applyKeyed spelling key value = ContainerShape.dict.name spelling ++ "[" ++
      ", ".intercalate [key, if value.isEmpty then "Any" else value] ++ "]" := by
  apply String.toList_inj.1
  simp [ContainerShape.applyKeyed]

/-- What stands for the hint of the values of a map. -/
theorem isHint_valueHint (h : IsHintOrEmpty text) :
    IsHint (if text.isEmpty then "Any" else text) := by
  rcases h with rfl | h
  · exact isHint_any
  · rwa [if_neg (by simpa using h.ne_empty)]

theorem isHint_applyKeyed {key value : String} (hkey : IsHint key) (hvalue : IsHintOrEmpty value) :
    IsHint (ContainerShape.applyKeyed spelling key value) := by
  rw [applyKeyed_eq]
  exact .container (name_mem_containerNames spelling .dict) (by simp)
    (List.forall_mem_cons.2 ⟨hkey, List.forall_mem_singleton.2 (isHint_valueHint hvalue)⟩)

/-- A map is broken where its keys or its values are; a missing hint of the keys breaks it too. -/
theorem isBroken_applyKeyed {key value : String}
    (hkey : Whole key.toList ∨ Broken key.toList) (hvalue : IsHintOrEmpty value ∨ IsBroken value)
    (h : Broken key.toList ∨ IsBroken value) :
    IsBroken (ContainerShape.applyKeyed spelling key value) := by
  have hpiece : Whole (if value.isEmpty then "Any" else value).toList ∨
      Broken (if value.isEmpty then "Any" else value).toList := by
    rcases hvalue with hvalue | hvalue
    · exact Or.inl (isHint_valueHint hvalue).whole
    · rw [if_neg (by simpa using hvalue.1)]
      exact Or.inr hvalue.2
  rw [applyKeyed_eq]
  refine isBroken_bracketed (isWord_of_mem_containerNames (name_mem_containerNames spelling .dict))
    (broken_intercalate separates_commaText
      (List.forall_mem_cons.2 ⟨hkey, List.forall_mem_singleton.2 hpiece⟩) ?_)
  rcases h with h | h
  · exact ⟨key, List.mem_cons_self, h⟩
  · refine ⟨value, ?_, h.2⟩
    rw [if_neg (by simpa using h.1)]
    simp

theorem isHint_join (h : ∀ text ∈ texts, IsHint text) :
    IsHintOrEmpty (BareHint.join spelling texts) := by
  match texts with
  | [] => exact Or.inl rfl
  | [single] => exact Or.inr (h single List.mem_cons_self)
  | first :: second :: rest =>
    right
    simp only [BareHint.join]
    split
    · exact .alternatives (by simp) h
    · exact .union (by simp) h

theorem join_ne_empty (spelling : Spelling) (first second : String) (rest : List String) :
    BareHint.join spelling (first :: second :: rest) ≠ "" := by
  intro hempty
  have htext := congrArg String.toList hempty
  simp only [BareHint.join] at htext
  split at htext
  · rw [String.intercalate_cons_cons] at htext
    simp at htext
  · simp at htext

theorem eq_empty_of_join_eq_empty (h : BareHint.join spelling texts = "") (htext : text ∈ texts) :
    text = "" := by
  match texts with
  | [] => exact absurd htext List.not_mem_nil
  | [single] => exact (List.mem_singleton.1 htext).trans h
  | first :: second :: rest => exact absurd h (join_ne_empty spelling first second rest)

/-- Alternatives are broken where one of them is; a missing text is only taken alone. -/
theorem isBroken_join (h : ∀ text ∈ texts, Whole text.toList ∨ Broken text.toList)
    (hbroken : ∃ text ∈ texts, Broken text.toList) (hne : texts ≠ [""]) :
    IsBroken (BareHint.join spelling texts) := by
  match texts with
  | [] => simp at hbroken
  | [single] =>
    obtain ⟨text, htext, hbroken⟩ := hbroken
    obtain rfl := List.mem_singleton.1 htext
    exact ⟨fun hempty => hne (hempty ▸ rfl), hbroken⟩
  | first :: second :: rest =>
    refine ⟨join_ne_empty spelling first second rest, ?_⟩
    simp only [BareHint.join]
    split
    · exact broken_intercalate separates_barText h hbroken
    · rw [union_bracket]
      exact broken_bracketed (by decide) (broken_intercalate separates_commaText h hbroken)

end

/-! ## The alternatives of a union -/

theorem BareHint.mem_alternatives {bares : List BareHint} {text : String} :
    text ∈ BareHint.alternatives bares ↔ text ≠ "None" ∧ ∃ bare ∈ bares, bare.text = text := by
  have hfold : ∀ seen : List String, text ∈ bares.foldl BareHint.addAlternative seen ↔
      text ∈ seen ∨ (text ≠ "None" ∧ ∃ bare ∈ bares, bare.text = text) := by
    induction bares with
    | nil => simp
    | cons bare rest ih =>
      intro seen
      rw [List.foldl_cons, ih]
      unfold BareHint.addAlternative
      by_cases hskipped : bare.text = "None" ∨ bare.text ∈ seen
      · rw [if_pos (by simpa using hskipped)]
        grind
      · rw [if_neg (by simpa using hskipped)]
        grind
  simpa [BareHint.alternatives] using hfold []

/-- A list without repeats whose members are all the same has one member. -/
theorem eq_singleton_of_nodup {α : Type} {l : List α} {a : α} (hl : l.Nodup) (ha : a ∈ l)
    (hall : ∀ b ∈ l, b = a) : l = [a] := by
  match l with
  | [] => exact absurd ha List.not_mem_nil
  | [b] => rw [hall b List.mem_cons_self]
  | b :: c :: rest =>
    have hbc : b = c := (hall b (by simp)).trans (hall c (by simp)).symm
    rw [hbc] at hl
    exact absurd List.mem_cons_self (List.nodup_cons.1 hl).1

theorem BareHint.nodup_alternatives (bares : List BareHint) :
    (BareHint.alternatives bares).Nodup := by
  have hfold : ∀ seen : List String, seen.Nodup →
      (bares.foldl BareHint.addAlternative seen).Nodup := by
    induction bares with
    | nil => exact fun _ h => h
    | cons bare rest ih =>
      intro seen hseen
      refine ih _ ?_
      unfold BareHint.addAlternative
      split
      · exact hseen
      · rename_i hnew
        simp only [Bool.or_eq_true, List.contains_iff_mem, not_or] at hnew
        exact List.nodup_append.2 ⟨hseen, by simp, by grind⟩
  exact hfold [] List.nodup_nil

namespace TypeTree

/-! ## Names and empty places -/

/-- A property of all nodes of a tree. -/
def Everywhere (holds : TypeTree → Prop) (tree : TypeTree) : Prop :=
  ∀ node ∈ tree.preorder, holds node

instance (holds : TypeTree → Prop) [DecidablePred holds] (tree : TypeTree) :
    Decidable (tree.Everywhere holds) :=
  inferInstanceAs (Decidable (∀ node ∈ tree.preorder, holds node))

theorem Everywhere.root {holds : TypeTree → Prop} {tree : TypeTree} (h : tree.Everywhere holds) :
    holds tree :=
  h tree tree.self_mem_preorder

theorem Everywhere.child {holds : TypeTree → Prop} {tree child : TypeTree}
    (h : tree.Everywhere holds) (hchild : child ∈ tree.children) : child.Everywhere holds :=
  fun node hnode => h node (mem_preorder_of_child hchild hnode)

/-- A property of the root and of all nodes below it. -/
theorem everywhere_of_children {holds : TypeTree → Prop} {tree : TypeTree} (hroot : holds tree)
    (h : ∀ child ∈ tree.children, child.Everywhere holds) : tree.Everywhere holds := by
  intro node hnode
  rw [preorder_eq] at hnode
  rcases List.mem_cons.1 hnode with rfl | hnode
  · exact hroot
  · obtain ⟨child, hchild, hnode⟩ := mem_preorderAll.1 hnode
    exact h child hchild node hnode

theorem everywhere_leaf {holds : TypeTree → Prop} {tree : TypeTree} (hleaf : tree.children = [])
    (hroot : holds tree) : tree.Everywhere holds :=
  everywhere_of_children hroot (by simp [hleaf])

theorem Everywhere.below {holds : TypeTree → Prop} {tree below : TypeTree}
    (h : tree.Everywhere holds) (hbelow : below ∈ tree.preorder) : below.Everywhere holds := by
  induction tree using induct_children with
  | node tree ih =>
    rw [preorder_eq] at hbelow
    rcases List.mem_cons.1 hbelow with rfl | hbelow
    · exact h
    · obtain ⟨child, hchild, hbelow⟩ := mem_preorderAll.1 hbelow
      exact ih child hchild (h.child hchild) hbelow

/-- The names at a node are words. -/
def Worded (scope : Scope) : TypeTree → Prop
  | named _ type => IsWord type.name.toList ∧
      ∀ argument ∈ type.call.getD [], IsWord (argument.1 ++ "=" ++ argument.2).toList
  | model _ target => IsWord (scope.className target).toList
  | _ => True

instance (scope : Scope) : (tree : TypeTree) → Decidable (tree.Worded scope)
  | named _ type => inferInstanceAs (Decidable (IsWord type.name.toList ∧
      ∀ argument ∈ type.call.getD [], IsWord (argument.1 ++ "=" ++ argument.2).toList))
  | model _ target => inferInstanceAs (Decidable (IsWord (scope.className target).toList))
  | empty _ | literal _ _ | list _ _ | set _ _ | dict _ _ | keyedDict _ _ _ | union _ _ =>
    inferInstanceAs (Decidable True)

/-- A node that leaves a place for an argument empty: a literal without values, a map whose keys
    have no hint, or alternatives of which one has no text while another one is written. -/
def Hollow (scope : Scope) : TypeTree → Prop
  | literal _ values => values.isEmpty = true
  | keyedDict _ key _ => key.hint scope = ""
  | union _ members => (∃ member ∈ members, (member.bare scope).text = "") ∧
      ∃ member ∈ members, (member.bare scope).text ≠ "" ∧ (member.bare scope).text ≠ "None"
  | _ => False

instance (scope : Scope) : (tree : TypeTree) → Decidable (tree.Hollow scope)
  | literal _ values => inferInstanceAs (Decidable (values.isEmpty = true))
  | keyedDict _ key _ => inferInstanceAs (Decidable (key.hint scope = ""))
  | union _ members => inferInstanceAs (Decidable ((∃ member ∈ members,
      (member.bare scope).text = "") ∧ ∃ member ∈ members,
        (member.bare scope).text ≠ "" ∧ (member.bare scope).text ≠ "None"))
  | empty _ | named _ _ | model _ _ | list _ _ | set _ _ | dict _ _ =>
    inferInstanceAs (Decidable False)

section

variable {scope : Scope}

theorem isHint_named {type : NamedType} {m : Marks} (h : (named m type).Worded scope) :
    IsHint type.hint := by
  obtain ⟨hname, harguments⟩ := h
  unfold NamedType.hint
  cases hcall : type.call with
  | none => exact .name hname
  | some arguments =>
    rw [hcall] at harguments
    refine .call hname fun text htext => ?_
    obtain ⟨argument, hargument, rfl⟩ := List.mem_map.1 htext
    exact harguments argument hargument

theorem mem_alternatives {members : List TypeTree} {text : String} :
    text ∈ BareHint.alternatives (bareAll scope members) ↔
      text ≠ "None" ∧ ∃ member ∈ members, (member.bare scope).text = text := by
  rw [BareHint.mem_alternatives, bareAll_eq_map]
  refine and_congr_right fun _ => ⟨?_, ?_⟩
  · rintro ⟨bare, hbare, htext⟩
    obtain ⟨member, hmember, rfl⟩ := List.mem_map.1 hbare
    exact ⟨member, hmember, htext⟩
  · rintro ⟨member, hmember, htext⟩
    exact ⟨member.bare scope, List.mem_map_of_mem hmember, htext⟩

/-- Alternatives are hollow if one of them is empty and does not stand alone. -/
theorem hollow_union_iff {m : Marks} {members : List TypeTree} :
    (union m members).Hollow scope ↔ "" ∈ BareHint.alternatives (bareAll scope members) ∧
      BareHint.alternatives (bareAll scope members) ≠ [""] := by
  have hempty : "" ∈ BareHint.alternatives (bareAll scope members) ↔
      ∃ member ∈ members, (member.bare scope).text = "" := by
    rw [mem_alternatives]
    exact and_iff_right (by decide)
  rw [Hollow, hempty]
  refine and_congr_right fun hmember => ?_
  constructor
  · rintro ⟨member, hmember, hne, hnone⟩ hsingle
    have htext := mem_alternatives.2 ⟨hnone, member, hmember, rfl⟩
    rw [hsingle] at htext
    exact hne (List.mem_singleton.1 htext)
  · intro hne
    refine Decidable.byContradiction fun hnot => hne ?_
    -- all alternatives are empty, and no text is listed twice
    have hall : ∀ text ∈ BareHint.alternatives (bareAll scope members), text = "" := by
      intro text htext
      obtain ⟨hnone, member, hmember, rfl⟩ := mem_alternatives.1 htext
      exact Decidable.byContradiction fun hne => hnot ⟨member, hmember, hne, hnone⟩
    exact eq_singleton_of_nodup (BareHint.nodup_alternatives _) (hempty.2 hmember) hall

/-- Without hollow nodes the text of a tree is a hint, if there is one. -/
theorem isHint_bare {tree : TypeTree} (hworded : tree.Everywhere (·.Worded scope))
    (hfilled : tree.Everywhere (¬ ·.Hollow scope)) : IsHintOrEmpty (tree.bare scope).text := by
  induction tree with
  | empty m => exact Or.inl rfl
  | named m type => exact Or.inr (isHint_named hworded.root)
  | model m target => exact Or.inr (.name hworded.root)
  | literal m values =>
    have hne : values ≠ [] := by
      simpa [Hollow] using hfilled.root
    exact Or.inr (.literal hne)
  | list m item ih | set m item ih =>
    have hitem := ih (hworded.child (by simp [children])) (hfilled.child (by simp [children]))
    exact Or.inr (isHint_apply _ (isHint_close hitem))
  | dict m value ih =>
    have hvalue := ih (hworded.child (by simp [children])) (hfilled.child (by simp [children]))
    exact Or.inr (isHint_applyKeyed (.name (by decide)) (isHint_close hvalue))
  | keyedDict m key value ihkey ihvalue =>
    have hkey : IsHintOrEmpty (key.hint scope) := isHint_close
      (ihkey (hworded.child (by simp [children])) (hfilled.child (by simp [children])))
    have hvalue := ihvalue (hworded.child (by simp [children])) (hfilled.child (by simp [children]))
    exact Or.inr (isHint_applyKeyed (hkey.resolve_left hfilled.root) (isHint_close hvalue))
  | union m members ih =>
    have htexts : ∀ text ∈ BareHint.alternatives (bareAll scope members), IsHintOrEmpty text := by
      intro text htext
      obtain ⟨-, member, hmember, rfl⟩ := mem_alternatives.1 htext
      exact ih member hmember (hworded.child hmember) (hfilled.child hmember)
    by_cases hempty : "" ∈ BareHint.alternatives (bareAll scope members)
    · -- an empty alternative stands alone
      have hsingle : BareHint.alternatives (bareAll scope members) = [""] :=
        Decidable.byContradiction fun hne =>
          hfilled.root (hollow_union_iff.2 ⟨hempty, hne⟩)
      exact Or.inl (by rw [bare, hsingle]; rfl)
    · refine isHint_join fun text htext => (htexts text htext).resolve_left ?_
      rintro rfl
      exact hempty htext

/-- The text of a tree is a hint, or nothing, or broken, if hollow nodes break it. -/
theorem isHint_or_isBroken {tree : TypeTree} (hworded : tree.Everywhere (·.Worded scope))
    (h : (∃ node ∈ tree.preorder, node.Hollow scope) → IsBroken (tree.bare scope).text) :
    IsHintOrEmpty (tree.bare scope).text ∨ IsBroken (tree.bare scope).text := by
  by_cases hhollow : ∃ node ∈ tree.preorder, node.Hollow scope
  · exact Or.inr (h hhollow)
  · exact Or.inl (isHint_bare hworded fun node hnode hnot => hhollow ⟨node, hnode, hnot⟩)

/-- Alternatives are broken if they are hollow themselves or if one of them is broken. -/
theorem isBroken_union {m : Marks} {members : List TypeTree}
    (hmembers : ∀ member ∈ members,
      Whole (member.bare scope).text.toList ∨ Broken (member.bare scope).text.toList)
    (h : (union m members).Hollow scope ∨
      ∃ member ∈ members, IsBroken (member.bare scope).text) :
    IsBroken ((union m members).bare scope).text := by
  have htexts : ∀ text ∈ BareHint.alternatives (bareAll scope members),
      Whole text.toList ∨ Broken text.toList := by
    intro text htext
    obtain ⟨-, member, hmember, rfl⟩ := mem_alternatives.1 htext
    exact hmembers member hmember
  rcases h with hhollow | ⟨member, hmember, hbroken⟩
  · obtain ⟨hempty, hne⟩ := hollow_union_iff.1 hhollow
    exact isBroken_join htexts ⟨"", hempty, Python.broken_nil⟩ hne
  · -- a broken text is not empty, so it is not the one that is taken alone
    have hmem := mem_alternatives.2 ⟨hbroken.ne_none, member, hmember, rfl⟩
    refine isBroken_join htexts ⟨_, hmem, hbroken.2⟩ fun hsingle => ?_
    rw [hsingle] at hmem
    exact hbroken.1 (List.mem_singleton.1 hmem)

/-- The text of a tree is broken by a hollow node, wherever it lies. -/
theorem isBroken_bare {tree : TypeTree} (hworded : tree.Everywhere (·.Worded scope))
    (hhollow : ∃ node ∈ tree.preorder, node.Hollow scope) : IsBroken (tree.bare scope).text := by
  induction tree with
  | empty m | named m type | model m target =>
    obtain ⟨node, hnode, hhollow⟩ := hhollow
    obtain rfl := List.mem_singleton.1 hnode
    exact hhollow.elim
  | literal m values =>
    obtain ⟨node, hnode, hhollow⟩ := hhollow
    obtain rfl := List.mem_singleton.1 hnode
    obtain rfl := List.isEmpty_iff.1 hhollow
    have htext : IsBroken ("Literal" ++ "[" ++ "" ++ "]") :=
      isBroken_bracketed (by decide) Python.broken_nil
    exact htext
  | list m item ih | set m item ih =>
    obtain ⟨node, hnode, hhollow⟩ := hhollow
    rcases List.mem_cons.1 hnode with rfl | hnode
    · exact hhollow.elim
    · have hitem := ih (hworded.child (by simp [children])) ⟨node, hnode, hhollow⟩
      exact isBroken_apply _ (isBroken_close hitem)
  | dict m value ih =>
    obtain ⟨node, hnode, hhollow⟩ := hhollow
    rcases List.mem_cons.1 hnode with rfl | hnode
    · exact hhollow.elim
    · have hvalue : IsBroken (value.hint scope) :=
        isBroken_close (ih (hworded.child (by simp [children])) ⟨node, hnode, hhollow⟩)
      exact isBroken_applyKeyed (Or.inl (IsHint.name (by decide)).whole) (Or.inr hvalue)
        (Or.inr hvalue)
  | keyedDict m key value ihkey ihvalue =>
    have hkeyWorded := hworded.child (List.mem_cons_self : key ∈ [key, value])
    have hvalueWorded :=
      hworded.child (List.mem_cons_of_mem key List.mem_cons_self : value ∈ [key, value])
    have hkey : Whole (key.hint scope).toList ∨ Broken (key.hint scope).toList := by
      rcases isHint_or_isBroken hkeyWorded (ihkey hkeyWorded) with h | h
      · exact (isHint_close h).whole_or_broken
      · exact Or.inr (isBroken_close h).2
    have hvalue : IsHintOrEmpty (value.hint scope) ∨ IsBroken (value.hint scope) := by
      rcases isHint_or_isBroken hvalueWorded (ihvalue hvalueWorded) with h | h
      · exact Or.inl (isHint_close h)
      · exact Or.inr (isBroken_close h)
    refine isBroken_applyKeyed hkey hvalue ?_
    obtain ⟨node, hnode, hhollow⟩ := hhollow
    rcases List.mem_cons.1 hnode with rfl | hnode
    · -- the map itself is hollow, so the place of the keys is empty
      have hempty : (key.bare scope).close scope.spelling = "" := hhollow
      rw [hempty]
      exact Or.inl Python.broken_nil
    · rcases List.mem_append.1 hnode with hnode | hnode
      · exact Or.inl (isBroken_close (ihkey hkeyWorded ⟨node, hnode, hhollow⟩)).2
      · exact Or.inr (isBroken_close (ihvalue hvalueWorded ⟨node, hnode, hhollow⟩))
  | union m members ih =>
    have hmembers : ∀ member ∈ members,
        Whole (member.bare scope).text.toList ∨ Broken (member.bare scope).text.toList := by
      intro member hmember
      have hmemberWorded := hworded.child hmember
      rcases isHint_or_isBroken hmemberWorded (ih member hmember hmemberWorded) with h | h
      · exact h.whole_or_broken
      · exact Or.inr h.2
    refine isBroken_union hmembers ?_
    obtain ⟨node, hnode, hhollow⟩ := hhollow
    rcases List.mem_cons.1 hnode with rfl | hnode
    · exact Or.inl hhollow
    · obtain ⟨member, hmember, hnode⟩ := mem_preorderAll.1 hnode
      exact Or.inr ⟨member, hmember,
        ih member hmember (hworded.child hmember) ⟨node, hnode, hhollow⟩⟩

end

end TypeTree

/-- The hint of a field whose names are words is a hint exactly if no node of its type is hollow. -/
theorem Field.isHint_iff {scope : Scope} {field : Field}
    (hworded : field.type.Everywhere (·.Worded scope)) :
    IsHint (field.hint scope) ↔ field.type.Everywhere (¬ ·.Hollow scope) := by
  unfold Field.hint
  constructor
  · intro h node hnode hhollow
    -- a hollow node breaks the hint of the type, and wrapping does not mend it
    have hbroken : IsBroken (field.type.hint scope) :=
      isBroken_close (TypeTree.isBroken_bare hworded ⟨node, hnode, hhollow⟩)
    dsimp only at h
    rw [if_neg (by simpa using hbroken.1)] at h
    split at h
    · exact h.not_isBroken (isBroken_optionalHint hbroken)
    · exact h.not_isBroken hbroken
  · intro hfilled
    have hhint : IsHintOrEmpty (field.type.hint scope) :=
      isHint_close (TypeTree.isHint_bare hworded hfilled)
    dsimp only
    rcases hhint with hempty | hhint
    · rw [hempty]
      exact isHint_none
    · rw [if_neg (by simpa using hhint.ne_empty)]
      split
      · exact isHint_optionalHint (Or.inr hhint)
      · exact hhint

end SchemaPress
