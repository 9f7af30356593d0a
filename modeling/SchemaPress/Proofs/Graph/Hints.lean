import SchemaPress.Proofs.Graph.ClassNames
import SchemaPress.Proofs.TypeTree.Grammar

set_option autoImplicit false

/-! # The hints of a document

Both kinds of documents make trees of certain shapes: a schema gives no maps with keys of their own,
and a type expression gives nothing without content. Inlining root models and building fields keep
these shapes. So of the hollow nodes that can break a hint only two kinds come up: alternatives of
which one is empty, and, in a schema, a choice of no values but null (`hints_wellFormed_iff`). -/

namespace SchemaPress

namespace TypeTree

/-! ## Shapes that building keeps -/

/-- A property of nodes that does not depend on marks and holds of constants, and that inlining
    models below a node keeps. -/
structure IsShape (holds : TypeTree → Prop) : Prop where
  withMarks : ∀ (tree : TypeTree) (m : Marks), holds tree → holds (tree.withMarks m)
  inline : ∀ (replacement : RefId → Option Inlining) (tree : TypeTree), tree.target? = none →
    holds tree → holds (tree.inline replacement)
  constant : ∀ value, holds (.literal {} [value])

theorem children_withMarks (tree : TypeTree) (m : Marks) :
    (tree.withMarks m).children = tree.children := by
  cases tree <;> rfl

theorem children_inline {replacement : RefId → Option Inlining} {tree : TypeTree}
    (h : tree.target? = none) :
    (tree.inline replacement).children = tree.children.map (·.inline replacement) := by
  cases tree with
  | model m target => cases h
  | empty | named | literal | list | set | dict | keyedDict => rfl
  | union m members => exact inlineAll_eq_map replacement members

section

variable {holds : TypeTree → Prop} {tree : TypeTree}

theorem Everywhere.withMarks (hshape : IsShape holds) (h : tree.Everywhere holds) (m : Marks) :
    (tree.withMarks m).Everywhere holds := by
  refine everywhere_of_children (hshape.withMarks tree m h.root) fun child hchild => ?_
  rw [children_withMarks] at hchild
  exact h.child hchild

/-- A shape is kept by inlining types of that shape. -/
theorem Everywhere.inline (hshape : IsShape holds) {replacement : RefId → Option Inlining}
    (hreplacement : ∀ target inlining, replacement target = some inlining →
      inlining.type.Everywhere holds) (h : tree.Everywhere holds) :
    (tree.inline replacement).Everywhere holds := by
  induction tree using induct_children with
  | node tree ih =>
    by_cases htarget : tree.target? = none
    · refine everywhere_of_children (hshape.inline replacement tree htarget h.root) ?_
      intro child hchild
      rw [children_inline htarget] at hchild
      obtain ⟨original, horiginal, rfl⟩ := List.mem_map.1 hchild
      exact ih original horiginal (h.child horiginal)
    · -- only the root is replaced, by a tree that is not inlined once more
      cases tree with
      | model m target =>
        rw [TypeTree.inline]
        cases hfound : replacement target with
        | none => exact h
        | some inlining => exact (hreplacement target inlining hfound).withMarks hshape _
      | empty | named | literal | list | set | dict | keyedDict | union =>
        exact absurd rfl htarget

end

/-! ## The shapes of both kinds of documents -/

/-- A node that is not a map with keys of its own. -/
def Unkeyed : TypeTree → Prop
  | keyedDict _ _ _ => False
  | _ => True

/-- A node that has content: a type, values or alternatives. -/
def Solid : TypeTree → Prop
  | empty _ => False
  | literal _ values => values ≠ []
  | union _ members => members ≠ []
  | _ => True

theorem isShape_unkeyed : IsShape Unkeyed where
  withMarks := by
    intro tree m h
    cases tree <;> exact h
  inline := by
    intro replacement tree htarget h
    cases tree with
    | model => cases htarget
    | keyedDict => exact h
    | empty | named | literal | list | set | dict | union => trivial
  constant := fun _ => trivial

theorem isShape_solid : IsShape Solid where
  withMarks := by
    intro tree m h
    cases tree <;> exact h
  inline := by
    intro replacement tree htarget h
    cases tree with
    | model => cases htarget
    | union m members =>
      rw [inline, inlineAll_eq_map]
      exact fun hempty => h (List.map_eq_nil_iff.1 hempty)
    | empty | literal => exact h
    | named | list | set | dict | keyedDict => trivial
  constant := fun value => List.cons_ne_nil value []

/-- Lowering a schema makes no map with keys of its own. -/
theorem everywhere_unkeyed_of_madeType {type : TypeTree} (h : Schema.MadeType type) :
    type.Everywhere Unkeyed := by
  induction h with
  | @leaf type hchildren =>
    refine everywhere_leaf hchildren ?_
    cases type with
    | keyedDict => cases hchildren
    | empty | named | model | literal | list | set | dict | union => trivial
  | list _ ih => exact everywhere_of_children trivial (by simpa [children] using ih)
  | dict _ ih => exact everywhere_of_children trivial (by simpa [children] using ih)
  | union _ ih => exact everywhere_of_children trivial ih
  | optional _ ih => exact ih.withMarks isShape_unkeyed _

/-- A type expression makes nothing without content. -/
theorem keeps_solid (names : TypeExpr.Names) : names.Keeps (Everywhere Solid) := by
  intro name types type h htypes
  cases h with
  | literal hne => exact everywhere_leaf rfl hne
  | union hne =>
    exact everywhere_of_children hne fun member hmember =>
      htypes member (List.mem_map_of_mem hmember)
  | anyDict =>
    have hany : any.Everywhere Solid := everywhere_leaf rfl trivial
    exact everywhere_of_children trivial (List.forall_mem_singleton.2 hany)
  | @keyedDict key value =>
    exact everywhere_of_children trivial
      (by simpa [children] using ⟨htypes key (by simp), htypes value (by simp)⟩)
  | resolved =>
    rcases names.resolve_cases name with ⟨target, -, hresolve⟩ | ⟨m, found, hresolve⟩
    · rw [hresolve]
      exact everywhere_leaf rfl trivial
    · rw [hresolve]
      exact everywhere_leaf rfl trivial
  | @dict item | @list item | @set item =>
    exact everywhere_of_children trivial (by simpa [children] using htypes item (by simp))
  | @optional item => exact (htypes item (by simp)).withMarks isShape_solid _

/-! ## Types with content have hints -/

section

variable {scope : Scope} {tree : TypeTree}

/-- Where a type with content has no text, all its alternatives are `None`. -/
theorem optional_of_text_empty (hworded : tree.Everywhere (·.Worded scope))
    (hsolid : tree.Everywhere Solid) (h : (tree.bare scope).text = "") :
    (tree.bare scope).optional = true := by
  induction tree with
  | empty m => exact hsolid.root.elim
  | named m type => exact absurd h (isHint_named hworded.root).ne_empty
  | model m target => exact absurd h (IsHint.name hworded.root).ne_empty
  | literal m values => exact absurd h (IsHint.literal hsolid.root).ne_empty
  | list m item | set m item => exact absurd h (apply_ne_empty _ _ _)
  | dict m value | keyedDict m key value => exact absurd h (applyKeyed_ne_empty _ _ _)
  | union m members ih =>
    obtain ⟨member, hmember⟩ := List.exists_mem_of_ne_nil members hsolid.root
    have hadmits : (member.bare scope).text = "None" ∨ (member.bare scope).optional = true := by
      by_cases hnone : (member.bare scope).text = "None"
      · exact Or.inl hnone
      · -- the text of the member is listed, so it is all there is and empty as well
        have hlisted := mem_alternatives.2 ⟨hnone, member, hmember, rfl⟩
        have hempty : (member.bare scope).text = "" :=
          eq_empty_of_join_eq_empty h hlisted
        exact Or.inr (ih member hmember (hworded.child hmember) (hsolid.child hmember) hempty)
    have hany : (bareAll scope members).any
        (fun bare => bare.text == "None" || bare.optional) = true := by
      rw [bareAll_eq_map, List.any_map, List.any_eq_true]
      exact ⟨member, hmember, by simpa using hadmits⟩
    simp [bare, hany]

theorem hint_ne_empty (hworded : tree.Everywhere (·.Worded scope))
    (hsolid : tree.Everywhere Solid) : tree.hint scope ≠ "" := by
  intro hempty
  unfold hint BareHint.close at hempty
  split at hempty
  · exact optionalHint_ne_empty _ _ hempty
  · -- a type without text is optional, so `None` would have been written
    rename_i hplain
    simp [optional_of_text_empty hworded hsolid hempty, hempty] at hplain

/-- Of types with content only alternatives are hollow. -/
theorem eq_union_of_hollow (hworded : tree.Everywhere (·.Worded scope))
    (hsolid : tree.Everywhere Solid) (h : tree.Hollow scope) :
    ∃ m members, tree = .union m members := by
  cases tree with
  | union m members => exact ⟨m, members, rfl⟩
  | literal m values => exact absurd (List.isEmpty_iff.1 h) hsolid.root
  | keyedDict m key value =>
    exact absurd h (hint_ne_empty (hworded.child List.mem_cons_self)
      (hsolid.child List.mem_cons_self))
  | empty | named | model | list | set | dict => exact h.elim

/-- Where no map has keys of its own, alternatives and literals are hollow. -/
theorem eq_union_or_literal_of_hollow (hunkeyed : tree.Unkeyed) (h : tree.Hollow scope) :
    (∃ m members, tree = .union m members) ∨ ∃ m, tree = .literal m [] := by
  cases tree with
  | union m members => exact .inl ⟨m, members, rfl⟩
  | literal m values => exact .inr ⟨m, by rw [List.isEmpty_iff.1 h]⟩
  | keyedDict => exact hunkeyed.elim
  | empty | named | model | list | set | dict => exact h.elim

end

end TypeTree

/-! ## Building keeps shapes -/

open TypeTree (Everywhere IsShape)

section

variable {holds : TypeTree → Prop}

/-- Inlining root models keeps a shape of all types of fields. -/
theorem everywhere_of_mem_kept (hshape : IsShape holds) {collapse : Bool} {specs : List ModelSpec}
    (h : ∀ spec ∈ specs, ∀ field ∈ spec.fields, field.type.Everywhere holds) :
    ∀ spec ∈ keptModels collapse specs, ∀ field ∈ spec.fields, field.type.Everywhere holds := by
  cases collapse with
  | false => exact h
  | true =>
    have hreplacement : ∀ target inlining, Inlining.find? specs target = some inlining →
        inlining.type.Everywhere holds := by
      intro target inlining hfound
      obtain ⟨spec, hspec, field, hfields, -, htype⟩ := Inlining.exists_of_find? hfound
      rw [htype]
      exact h spec hspec field (by simp [hfields])
    intro spec hspec field hfield
    obtain ⟨original, horiginal, rfl⟩ := List.mem_map.1 hspec
    obtain ⟨given, hgiven, rfl⟩ := List.mem_map.1 hfield
    exact (h original (List.mem_of_mem_filter horiginal) given hgiven).inline hshape hreplacement

/-- Building a field keeps a shape of its type. -/
theorem Field.everywhere_build (hshape : IsShape holds) {spec : FieldSpec} (options : Options)
    (h : spec.type.Everywhere holds) : (Field.build options spec).type.Everywhere holds := by
  rcases Field.type_build options spec with htype | ⟨value, htype⟩
  · rwa [htype]
  · rw [htype]
    exact TypeTree.everywhere_leaf rfl (hshape.constant value)

namespace Graph

theorem Coherent.everywhere (hshape : IsShape holds) {graph : Graph} {built : List ModelSpec}
    (hcoherent : graph.Coherent built)
    (h : ∀ spec ∈ built, ∀ field ∈ spec.fields, field.type.Everywhere holds) :
    ∀ model ∈ graph.models, ∀ field ∈ model.fields, field.type.Everywhere holds := by
  intro model hmodel field hfield
  obtain ⟨place, hplace⟩ := List.mem_iff_getElem?.1 hmodel
  obtain ⟨spec, hspec, -, earlier, -, hmade⟩ := hcoherent.made place model hplace
  rw [hmade] at hfield
  obtain ⟨given, hkept, rfl⟩ := List.mem_map.1 (mem_orderFields.1 hfield)
  have hgiven := (keepFirstNames_sublist [] spec.fields).subset hkept
  exact Field.everywhere_build hshape _ (h spec (List.mem_of_getElem? hspec) given hgiven)

/-- A shape of all types that a document gives is one of all types in its graph. -/
theorem everywhere_of_ofDocument (hshape : IsShape holds) {options : Options} {extras : Extras}
    {registry : TypeRegistry} {document : Document} {graph : Graph}
    (h : ofDocument options extras registry document = .ok graph)
    (hlower : ∀ specs lowered,
      document.lower registry (.empty options extras) = .ok (specs, lowered) →
      ∀ spec ∈ specs, ∀ field ∈ spec.fields, field.type.Everywhere holds) :
    ∀ model ∈ graph.models, ∀ field ∈ model.fields, field.type.Everywhere holds := by
  obtain ⟨specs, lowered, hspecs, -, hreached⟩ := reached_of_ofDocument h
  exact hreached.coherent.everywhere hshape
    (everywhere_of_mem_kept hshape (hlower specs lowered hspecs))

end Graph

end

/-! ## The hints of a document -/

namespace Graph

/-- If all names in the type of a field are words, the hint of the field is a hint exactly if the
    type has no hollow node. The hollow nodes are alternatives of which one is empty, and, in the
    types of a schema, choices that leave no value. -/
theorem hints_wellFormed_iff {options : Options} {extras : Extras} {registry : TypeRegistry}
    {document : Document} {graph : Graph}
    (h : ofDocument options extras registry document = .ok graph) {model : Model}
    (hmodel : model ∈ graph.models) {field : Field} (hfield : field ∈ model.fields)
    (hworded : field.type.Everywhere (·.Worded graph.scope)) :
    (IsHint (field.hint graph.scope) ↔ field.type.Everywhere (¬ ·.Hollow graph.scope)) ∧
      field.type.Everywhere fun node => node.Hollow graph.scope →
        (∃ m members, node = .union m members) ∨
        ∃ schema m, document = .ofSchema schema ∧ node = .literal m [] := by
  refine ⟨Field.isHint_iff hworded, fun node hnode hhollow => ?_⟩
  cases document with
  | ofSchema schema =>
    -- without maps that have keys of their own, two kinds of nodes are left
    have hunkeyed := everywhere_of_ofDocument TypeTree.isShape_unkeyed h
      (fun specs lowered hlower =>
        fun spec hspec field hfield => TypeTree.everywhere_unkeyed_of_madeType
          ((Schema.describes_of_lower hlower).made spec hspec field hfield))
      model hmodel field hfield
    refine (TypeTree.eq_union_or_literal_of_hollow (hunkeyed node hnode) hhollow).imp_right ?_
    rintro ⟨m, hliteral⟩
    exact ⟨schema, m, rfl, hliteral⟩
  | ofModels models =>
    -- literals have values, and the keys of maps have hints, since they have content
    have hsolid := everywhere_of_ofDocument TypeTree.isShape_solid h
      (fun specs lowered hlower => ModelsDocument.typed_of_lower TypeTree.keeps_solid hlower)
      model hmodel field hfield
    exact .inl (TypeTree.eq_union_of_hollow (hworded.below hnode) (hsolid.below hnode) hhollow)

/-- A label, a unit that can only be null, and sizes that are nothing but null, or texts. -/
def labelAndSizes : Document :=
  .ofSchema
    { title := some "Article"
      properties :=
        [("label", { types := some ["string"] }),
          ("unit", { choices := some [.null] }),
          ("sizes",
            { types := some ["array"]
              items := some (.each
                { anyOf := [{ anyOf := [{ types := some ["null"] }] },
                    { types := some ["string"] }] }) })] }

/-- The label has a hint; the unit leaves no value, and the sizes have an empty alternative. -/
theorem hints_wellFormed_iff_labelAndSizes :
    ∃ graph, ofDocument {} {} {} labelAndSizes = .ok graph ∧
      graph.models.flatMap (fun model => model.fields.map (·.hint graph.scope)) =
        ["Optional[str]", "Optional[Literal[]]", "Optional[List[Optional[Union[, str]]]]"] ∧
      IsHint "Optional[str]" ∧ ¬ IsHint "Optional[Literal[]]" ∧
      ¬ IsHint "Optional[List[Optional[Union[, str]]]]" := by
  have hshown : (ofDocument {} {} {} labelAndSizes).toOption.map (fun graph =>
      graph.models.flatMap fun model => model.fields.map fun field =>
        (field.hint graph.scope, decide (field.type.Everywhere (·.Worded graph.scope)),
          decide (field.type.Everywhere (¬ ·.Hollow graph.scope)))) =
      some [("Optional[str]", true, true), ("Optional[Literal[]]", true, false),
        ("Optional[List[Optional[Union[, str]]]]", true, false)] := by decide +kernel
  obtain ⟨graph, hgraph, hfields⟩ := exists_of_toOption_map hshown
  have hformed : ∀ text filled, (text, true, filled) ∈
      [("Optional[str]", true, true), ("Optional[Literal[]]", true, false),
        ("Optional[List[Optional[Union[, str]]]]", true, false)] →
      (IsHint text ↔ filled = true) := by
    intro text filled hmem
    rw [← hfields] at hmem
    obtain ⟨model, hmodel, hmem⟩ := List.mem_flatMap.1 hmem
    obtain ⟨field, hfield, hview⟩ := List.mem_map.1 hmem
    simp only [Prod.mk.injEq, decide_eq_true_eq] at hview
    obtain ⟨rfl, hworded, rfl⟩ := hview
    rw [(hints_wellFormed_iff hgraph hmodel hfield hworded).1, decide_eq_true_eq]
  refine ⟨graph, hgraph, ?_, ?_, ?_, ?_⟩
  · have htexts := congrArg (List.map Prod.fst) hfields
    simpa [List.map_flatMap, Function.comp_def] using htexts
  · exact (hformed _ true (by simp)).2 rfl
  · exact fun hhint => by simpa using (hformed _ false (by simp)).1 hhint
  · exact fun hhint => by simpa using (hformed _ false (by simp)).1 hhint

end Graph

end SchemaPress
