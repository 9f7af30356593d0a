import SchemaPress.Proofs.Graph.Grow
import SchemaPress.Proofs.TypeTree.Grammar

set_option autoImplicit false

/-! # What the spelling of types leaves alone

Whether a hint is optional and whether it is `Any` are read off texts, and these texts depend on how
types are spelled. Still the answers do not: a container is never written `None` or `Any`, whatever
its name, and alternatives are written so only if they all are (`rendersAny_union`), which does not
depend on how they are joined. Everything that looks at the spelling through these two answers is
then the same for all spellings: the view of a field apart from its hint, and the order of the
fields of a class. -/

namespace SchemaPress

/-- The scope with its types spelled in another way. -/
def Scope.spelled (scope : Scope) (spelling : Spelling) : Scope :=
  { scope with spelling := spelling }

namespace TypeTree

/-! ## Types -/

theorem writesNone_spelled (scope : Scope) (spelling : Spelling) (tree : TypeTree) :
    tree.writesNone (scope.spelled spelling) = tree.writesNone scope := by
  cases tree <;> rfl

theorem rendersOptional_spelled (scope : Scope) (spelling : Spelling) (tree : TypeTree) :
    tree.rendersOptional (scope.spelled spelling) = tree.rendersOptional scope := by
  induction tree with
  | empty | named | model | literal | list | set | dict | keyedDict => rfl
  | union m members ih =>
    rw [rendersOptional_union, rendersOptional_union]
    congr 1
    rw [Bool.eq_iff_iff, List.any_eq_true, List.any_eq_true]
    refine exists_congr fun member => and_congr_right fun hmember => ?_
    rw [writesNone_spelled, ih member hmember]

/-- The only alternative that is left is `Any` if some member is, and all others are `None`. -/
theorem alternatives_eq_any_iff (scope : Scope) (members : List TypeTree) :
    BareHint.alternatives (bareAll scope members) = ["Any"] ↔
      (∃ member ∈ members, (member.bare scope).text = "Any") ∧
        ∀ member ∈ members,
          (member.bare scope).text = "None" ∨ (member.bare scope).text = "Any" := by
  constructor
  · intro h
    have hmem : ∀ text, (text ≠ "None" ∧ ∃ member ∈ members, (member.bare scope).text = text) ↔
        text = "Any" := by
      intro text
      rw [← mem_alternatives, h, List.mem_singleton]
    refine ⟨((hmem "Any").2 rfl).2, fun member hmember => ?_⟩
    by_cases hnone : (member.bare scope).text = "None"
    · exact Or.inl hnone
    · exact Or.inr ((hmem _).1 ⟨hnone, member, hmember, rfl⟩)
  · rintro ⟨hsome, hall⟩
    refine eq_singleton_of_nodup (BareHint.nodup_alternatives _) ?_ fun text htext => ?_
    · exact mem_alternatives.2 ⟨by decide, hsome⟩
    · obtain ⟨hnone, member, hmember, rfl⟩ := mem_alternatives.1 htext
      exact (hall member hmember).resolve_left hnone

theorem rendersAny_union (scope : Scope) (m : Marks) (members : List TypeTree) :
    (union m members).rendersAny scope = (members.any (·.rendersAny scope) &&
      members.all fun member => member.writesNone scope || member.rendersAny scope) := by
  have hany : "Any" ∈ knownHints := by decide
  have htext : (union m members).rendersAny scope = true ↔
      BareHint.alternatives (bareAll scope members) = ["Any"] := by
    rw [rendersAny, beq_iff_eq, bare]
    exact join_eq_knownHint_iff hany
  rw [Bool.eq_iff_iff, htext, alternatives_eq_any_iff]
  simp only [rendersAny, ← text_bare_eq_none, Bool.and_eq_true, List.any_eq_true,
    List.all_eq_true, Bool.or_eq_true, beq_iff_eq]

theorem rendersAny_spelled (scope : Scope) (spelling : Spelling) (tree : TypeTree) :
    tree.rendersAny (scope.spelled spelling) = tree.rendersAny scope := by
  have hany : "Any" ∈ knownHints := by decide
  induction tree with
  | empty | named | model | literal => rfl
  | list | set =>
    exact (beq_false_of_ne (apply_ne_knownHint hany _ _ _)).trans
      (beq_false_of_ne (apply_ne_knownHint hany _ _ _)).symm
  | dict | keyedDict =>
    exact (beq_false_of_ne (applyKeyed_ne_knownHint hany _ _ _)).trans
      (beq_false_of_ne (applyKeyed_ne_knownHint hany _ _ _)).symm
  | union m members ih =>
    have hmember : ∀ member ∈ members,
        (member.writesNone (scope.spelled spelling) || member.rendersAny (scope.spelled spelling)) =
          (member.writesNone scope || member.rendersAny scope) := by
      intro member hmember
      rw [writesNone_spelled, ih member hmember]
    rw [rendersAny_union, rendersAny_union, Bool.eq_iff_iff, Bool.and_eq_true, Bool.and_eq_true,
      List.any_eq_true, List.any_eq_true, List.all_eq_true, List.all_eq_true]
    refine and_congr (exists_congr fun member => and_congr_right fun h => ?_)
      (forall₂_congr fun member h => ?_)
    · rw [ih member h]
    · rw [hmember member h]

end TypeTree

/-! ## Fields -/

namespace Field

variable (scope : Scope) (spelling : Spelling) (field : Field)

/-- A call names classes and shows no hint. -/
theorem call?_spelled : field.call? (scope.spelled spelling) = field.call? scope := by
  rfl

theorem wrapsOptional_spelled :
    field.wrapsOptional (scope.spelled spelling) = field.wrapsOptional scope := by
  unfold wrapsOptional
  rw [TypeTree.rendersOptional_spelled, TypeTree.rendersAny_spelled]

theorem isSome_annotated?_spelled :
    (field.annotated? (scope.spelled spelling)).isSome = (field.annotated? scope).isSome := by
  unfold annotated?
  rw [call?_spelled]
  split
  · rw [Option.isSome_map, Option.isSome_map]
  · rfl

theorem rendersDefault_spelled :
    field.rendersDefault (scope.spelled spelling) = field.rendersDefault scope := by
  unfold rendersDefault
  rw [TypeTree.rendersOptional_spelled, call?_spelled, ← Option.not_isSome, ← Option.not_isSome,
    isSome_annotated?_spelled]

/-- The view of a field shows the spelling in its hint and in the annotation that holds it. -/
theorem view_spelled : field.view (scope.spelled spelling) =
    { field.view scope with
      hint := field.hint (scope.spelled spelling)
      annotated := field.annotated? (scope.spelled spelling) } := by
  unfold view
  rw [call?_spelled, TypeTree.rendersOptional_spelled, rendersDefault_spelled]

theorem assigns_spelled : field.assigns (scope.spelled spelling) = field.assigns scope := by
  unfold assigns
  rw [view_spelled]
  unfold FieldView.assigns
  simp only [← Option.not_isSome]
  rw [isSome_annotated?_spelled]
  rfl

end Field

/-! ## Models -/

theorem orderFields_spelled (scope : Scope) (spelling : Spelling) (flavor : Flavor)
    (fields : List Field) :
    orderFields flavor (scope.spelled spelling) fields = orderFields flavor scope fields := by
  unfold orderFields
  simp only [Field.assigns_spelled]

/-- The options with the switches for the spelling of types taken from others. -/
def Options.spelledLike (options like : Options) : Options :=
  { options with
    useUnionOperator := like.useUnionOperator
    useStandardCollections := like.useStandardCollections
    useGenericContainers := like.useGenericContainers
    target := like.target }

namespace Graph

/-- The graph with the switches for the spelling of types taken from other options. -/
def spelledLike (graph : Graph) (like : Options) : Graph :=
  { graph with options := graph.options.spelledLike like }

theorem nextModel_spelledLike (graph : Graph) (like : Options) (reference : RefId)
    (spec : ModelSpec) :
    (graph.spelledLike like).nextModel reference spec = graph.nextModel reference spec := by
  have hscope : ((graph.spelledLike like).bindNext reference).scope =
      (graph.bindNext reference).scope.spelled (graph.options.spelledLike like).spelling := rfl
  unfold nextModel
  rw [hscope, orderFields_spelled]
  rfl

theorem grow_spelledLike (graph : Graph) (like : Options) (reference : RefId)
    (spec : ModelSpec) :
    (graph.spelledLike like).grow reference spec =
      (graph.grow reference spec).spelledLike like := by
  unfold grow
  rw [nextModel_spelledLike]
  rfl

/-- Adding a model fails for the same reason, or adds the same model. -/
theorem add_spelledLike (graph : Graph) (like : Options) (spec : ModelSpec) :
    (graph.spelledLike like).add spec =
      (graph.add spec).map fun made => (made.1, made.2.spelledLike like) := by
  cases hgiven : spec.reference with
  | none =>
    simp only [add, hgiven]
    rfl
  | some reference =>
    -- the spelling is asked neither for the template nor for the fields
    have htemplate : (graph.spelledLike like).templateOf spec = graph.templateOf spec := rfl
    have hsource : (graph.spelledLike like).sourceOf? reference = graph.sourceOf? reference := rfl
    have horder : ((graph.spelledLike like).bindNext reference).canOrder
        ((graph.spelledLike like).nextFields reference spec) =
        (graph.bindNext reference).canOrder (graph.nextFields reference spec) := rfl
    cases hempty : (graph.templateOf spec).isEmpty with
    | true =>
      simp only [add, hgiven, htemplate, hempty]
      rfl
    | false =>
      cases hbound : graph.sourceOf? reference with
      | some bound =>
        rw [add_of_bound hgiven (htemplate ▸ hempty) (hsource.trans hbound),
          add_of_bound hgiven hempty hbound]
        rfl
      | none =>
        rw [add_of_free hgiven (htemplate ▸ hempty) (hsource.trans hbound),
          add_of_free hgiven hempty hbound, horder, grow_spelledLike]
        cases (graph.bindNext reference).canOrder (graph.nextFields reference spec) <;> rfl

/-- Models that are added one after the other are the same, fields and their order included. -/
theorem addAll_spelledLike (graph : Graph) (like : Options) (specs : List ModelSpec) :
    (graph.spelledLike like).addAll specs =
      ((graph.addAll specs).1, (graph.addAll specs).2.spelledLike like) := by
  induction specs generalizing graph with
  | nil => rfl
  | cons spec rest ih =>
    rw [addAll, addAll, add_spelledLike]
    cases graph.add spec with
    | ok made => exact ih made.2
    | error failure => rfl

end Graph

/-- The spelling of types changes hints only. It does not change whether a type is optional or
    `Any`, nor anything else in the view of a field, nor the order of the fields of a class; and the
    models of a run are the same. -/
theorem spelling_changes_hints_only :
    (∀ (scope : Scope) (spelling : Spelling) (tree : TypeTree),
      tree.rendersOptional (scope.spelled spelling) = tree.rendersOptional scope ∧
        tree.rendersAny (scope.spelled spelling) = tree.rendersAny scope) ∧
    (∀ (scope : Scope) (spelling : Spelling) (field : Field),
      field.wrapsOptional (scope.spelled spelling) = field.wrapsOptional scope ∧
        field.view (scope.spelled spelling) =
          { field.view scope with
            hint := field.hint (scope.spelled spelling)
            annotated := field.annotated? (scope.spelled spelling) }) ∧
    (∀ (scope : Scope) (spelling : Spelling) (flavor : Flavor) (fields : List Field),
      orderFields flavor (scope.spelled spelling) fields = orderFields flavor scope fields) ∧
    ∀ (graph : Graph) (like : Options) (specs : List ModelSpec),
      (graph.spelledLike like).addAll specs =
        ((graph.addAll specs).1, (graph.addAll specs).2.spelledLike like) := by
  refine ⟨fun scope spelling tree => ?_, fun scope spelling field => ?_, orderFields_spelled,
    Graph.addAll_spelledLike⟩
  · exact ⟨tree.rendersOptional_spelled scope spelling, tree.rendersAny_spelled scope spelling⟩
  · exact ⟨field.wrapsOptional_spelled scope spelling, field.view_spelled scope spelling⟩

end SchemaPress
