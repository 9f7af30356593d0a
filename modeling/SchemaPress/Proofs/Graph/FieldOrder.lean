import SchemaPress.Proofs.Graph.Built
import SchemaPress.Proofs.TypeTree.Optional

set_option autoImplicit false

/-! # The order of the fields of a dataclass

The fields of a dataclass are put in order when its model is added: first those that assign no
value, then the others. That order stays, but what a field assigns is looked up again when the
class is written, and by then more models are known. A field can only start to assign a value
(`Field.assigns_eq`), and it does so if its type exposes a model that was added later and admits
`None` (`Graph.TurnsOptional`). Such a field in front of one that assigns nothing is the only way
in which the order can break. -/

namespace SchemaPress

namespace Field

/-- Whether the default of the field is a `None` that is left out. -/
def hidesNone (field : Field) : Bool :=
  field.stripDefaultNone && field.defaultLiteral == "None"

/-- An attribute of a dataclass has a call, or it shows a default that the field wants. -/
theorem assigns_dataclass {field : Field} (hflavor : field.flavor = .dataclass) (scope : Scope) :
    field.assigns scope = (field.dataclassCall?.isSome ||
      ((!field.required || field.type.rendersOptional scope || field.nullable = some true) &&
        !field.hidesNone)) := by
  have hannotated : field.annotated? scope = none := by
    simp [annotated?, hflavor, Flavor.supportsAnnotated]
  have hcall : field.call? scope = field.dataclassCall? := by
    rw [call?, hflavor]
  simp only [assigns, FieldView.assigns, view, rendersDefault, hannotated, hcall, hidesNone,
    Option.isNone_none, Option.isSome_none, Bool.true_and, Bool.false_and, Bool.not_false,
    Bool.and_true]
  cases field.dataclassCall?.isSome <;> simp

/-- Models that admit `None` can only add to what a field assigns. -/
theorem assigns_eq {field : Field} (hflavor : field.flavor = .dataclass) (scope : Scope) :
    field.assigns scope = (field.assigns scope.withoutModels ||
      (field.type.exposedTargets.any scope.nullable && !field.hidesNone)) := by
  rw [assigns_dataclass hflavor, assigns_dataclass hflavor, TypeTree.rendersOptional_eq scope]
  cases field.dataclassCall?.isSome <;> cases field.required <;>
    cases field.type.rendersOptional scope.withoutModels <;> cases field.hidesNone <;>
    simp [Bool.or_comm]

end Field

/-- When they are put in order, no field that assigns nothing follows one that assigns a value. -/
theorem pairwise_orderFields (scope : Scope) (fields : List Field) :
    (orderFields .dataclass scope fields).Pairwise fun a b =>
      a.assigns scope = true → b.assigns scope = true := by
  have hlast : ∀ b ∈ fields.filter (·.assigns scope), b.assigns scope = true := fun b hb =>
    (List.mem_filter.1 hb).2
  refine List.pairwise_append.2 ⟨?_, ?_, fun a _ b hb _ => hlast b hb⟩
  · refine List.pairwise_iff_forall_sublist.2 fun {a b} hsublist ha => ?_
    have hnot := (List.mem_filter.1 (hsublist.subset (List.mem_cons_self))).2
    simp [ha] at hnot
  · exact List.pairwise_iff_forall_sublist.2 fun {a b} hsublist _ =>
      hlast b (hsublist.subset (by simp))

theorem length_orderFields (flavor : Flavor) (scope : Scope) (fields : List Field) :
    (orderFields flavor scope fields).length = fields.length := by
  unfold orderFields
  split
  · rw [List.length_append, Nat.add_comm, ← List.countP_eq_length_filter,
      ← List.countP_eq_length_filter]
    have hcount := List.length_eq_countP_add_countP (l := fields) fun field => field.assigns scope
    simpa using hcount.symm
  · rfl

/-! ## The models that a field mentions -/

theorem Field.type_defaultToLiteral (field : Field) :
    field.defaultToLiteral.type = field.type := by
  unfold Field.defaultToLiteral
  split <;> rfl

/-- A built field has the type of its specification, or that of a constant. -/
theorem Field.type_build (options : Options) (spec : FieldSpec) :
    (Field.build options spec).type = spec.type ∨
      ∃ value, (Field.build options spec).type = .literal {} [value] := by
  have hfreeze : ∀ field : Field, field.freeze.type = field.type ∨
      ∃ value, field.freeze.type = .literal {} [value] := by
    intro field
    unfold Field.freeze
    split
    · exact .inl rfl
    · rename_i value _
      split
      · exact .inr ⟨value, rfl⟩
      · exact .inl rfl
  unfold Field.build
  simp only
  split
  · rw [type_defaultToLiteral]
    exact hfreeze _
  · exact hfreeze _

/-- A built field mentions no model that its specification does not. -/
theorem Field.targets_build (options : Options) (spec : FieldSpec) :
    (Field.build options spec).type.targets ⊆ spec.type.targets := by
  rcases Field.type_build options spec with htype | ⟨value, htype⟩
  · rw [htype]
    exact List.Subset.refl _
  · rw [htype]
    exact List.nil_subset _

theorem keepFirstNames_sublist (seen : List String) (specs : List FieldSpec) :
    (keepFirstNames seen specs).1.Sublist specs := by
  induction specs generalizing seen with
  | nil => exact .slnil
  | cons spec rest ih =>
    unfold keepFirstNames
    split
    · exact (ih _).cons_cons _
    · split
      · exact (ih _).cons _
      · exact (ih _).cons_cons _

namespace Graph

theorem targets_subset_fields {graph : Graph} {reference : RefId} {spec : ModelSpec}
    {field : Field} (h : field ∈ graph.nextFields reference spec) :
    field.type.targets ⊆ spec.fields.flatMap (·.type.targets) := by
  obtain ⟨fieldSpec, hkept, rfl⟩ := List.mem_map.1 h
  intro target htarget
  have hspec := (keepFirstNames_sublist [] spec.fields).subset hkept
  exact List.mem_flatMap.2 ⟨fieldSpec, hspec, Field.targets_build _ _ htarget⟩

theorem targets_subset_references {graph : Graph} {reference : RefId} {spec : ModelSpec}
    {field : Field} (h : field ∈ graph.nextFields reference spec) :
    field.type.targets ⊆ spec.references := fun _ htarget =>
  List.mem_append_right _ (targets_subset_fields h htarget)

/-! ## The scope in which a model is added -/

theorem isNullable_iff {graph : Graph} {place : RefId} :
    graph.isNullable place = true ↔ ∃ id model, graph.sourceOf? place = some id ∧
      graph.models[id.index]? = some model ∧ model.nullable = true := by
  unfold isNullable model?
  cases hsource : graph.sourceOf? place with
  | none => simp
  | some id => cases hmodel : graph.models[id.index]? <;> simp [hmodel]

theorem sourceOf?_bindNext (graph : Graph) (reference : RefId) (spec : ModelSpec)
    (place : RefId) :
    (graph.bindNext reference).sourceOf? place = (graph.grow reference spec).sourceOf? place := by
  have hchildren := Arena.map_get?_addChildren (fun r => r.source) (fun _ _ => rfl)
    (graph.arena.fill reference graph.nextId) spec.bases graph.nextId place
  rw [sourceOf?_eq_join, sourceOf?_eq_join, grow, hchildren]
  rfl

theorem className_scope (graph : Graph) (place : RefId) :
    graph.scope.className place =
      (((graph.arena.get? place).map (·.name)).map Text.lastSegment).getD "" := by
  rw [Option.map_map]
  rfl

section

variable {graph earlier : Graph} {model : Model} {reference : RefId} {spec : ModelSpec}

/-- A class is named when a model that mentions it is added. -/
theorem Origin.className (h : graph.Origin model earlier reference spec) {place : RefId}
    (hplace : place ∈ spec.references) :
    (earlier.bindNext reference).scope.className place = graph.scope.className place := by
  have hname : ((earlier.bindNext reference).arena.get? place).map (·.name) =
      ((earlier.grow reference spec).arena.get? place).map (·.name) :=
    (Arena.map_get?_addChildren (fun r => r.name) (fun _ _ => rfl)
      (earlier.arena.fill reference earlier.nextId) spec.bases earlier.nextId place).symm
  have hallocated : place.index < (earlier.grow reference spec).arena.refs.length := by
    simpa [grow] using h.allocated place hplace
  rw [className_scope, className_scope, hname, ← h.extended.names place hallocated]

/-- When a model is added, exactly the models before it can be seen to admit `None`. -/
theorem Origin.nullable_iff (h : graph.Origin model earlier reference spec) {place : RefId} :
    (earlier.bindNext reference).scope.nullable place = true ↔
      graph.isNullable place = true ∧
        ∃ id, graph.sourceOf? place = some id ∧ id.index < model.id.index := by
  have hid : model.id.index = earlier.models.length := by
    rw [h.model]
    rfl
  have hmodels : ∀ i < earlier.models.length, graph.models[i]? = earlier.models[i]? := by
    intro i hi
    obtain ⟨rest, hrest⟩ := h.extended.models
    rw [← hrest, models_grow, List.append_assoc, List.getElem?_append_left hi]
  have hsource : ∀ id : ModelId, id.index < earlier.models.length →
      (graph.sourceOf? place = some id ↔
        (earlier.bindNext reference).sourceOf? place = some id) := by
    intro id hlt
    rw [sourceOf?_bindNext earlier reference spec]
    exact h.extended.sources place id (by simp; omega)
  change (earlier.bindNext reference).isNullable place = true ↔ _
  rw [isNullable_iff, isNullable_iff, hid]
  constructor
  · rintro ⟨id, found, hbound, hfound, hnullable⟩
    have hlt := (List.getElem?_eq_some_iff.1 hfound).1
    have hfinal := (hsource id hlt).2 hbound
    exact ⟨⟨id, found, hfinal, (hmodels _ hlt).trans hfound, hnullable⟩, id, hfinal, hlt⟩
  · rintro ⟨⟨id, found, hbound, hfound, hnullable⟩, other, hother, hlt⟩
    cases hbound.symm.trans hother
    exact ⟨id, found, (hsource id hlt).1 hbound, (hmodels _ hlt).symm.trans hfound, hnullable⟩

/-- A dataclass with several fields is added only if these mention no model that is being built: a
    model that they mention is an earlier or a later one. -/
theorem Origin.finished (h : graph.Origin model earlier reference spec)
    (hflavor : earlier.options.flavor = .dataclass) (hlength : 2 ≤ model.fields.length)
    {field : Field} (hfield : field ∈ model.fields) {target : RefId} {id : ModelId}
    (htarget : target ∈ field.type.targets) (hsource : graph.sourceOf? target = some id)
    (hle : id.index ≤ model.id.index) : id.index < model.id.index := by
  rw [h.model] at hlength hfield hle ⊢
  have hbound : (earlier.bindNext reference).sourceOf? target = some id := by
    rw [sourceOf?_bindNext earlier reference spec]
    exact (h.extended.sources target id
      (by rw [models_grow, List.length_append]; exact Nat.lt_succ_of_le hle)).1 hsource
  -- a model is refused if it has fields to be put in order that mention an unfinished one
  have hall : ∀ field ∈ earlier.nextFields reference spec,
      (earlier.bindNext reference).isFinished field.type = true := by
    have hnext : 2 ≤ (earlier.nextFields reference spec).length :=
      length_orderFields _ _ _ ▸ hlength
    have hshort : ¬(earlier.nextFields reference spec).length < 2 := Nat.not_lt.2 hnext
    simpa [canOrder, hshort, show (earlier.bindNext reference).options.flavor = .dataclass from
      hflavor] using h.ordered
  have hfinished := List.all_eq_true.1 (hall field (mem_orderFields.1 hfield)) target htarget
  rw [hbound] at hfinished
  exact of_decide_eq_true hfinished

end

/-! ## Fields that start to assign a value -/

/-- A field that assigns nothing when its model is added, and `None` in the end: by itself it is
    not optional, no earlier model that it exposes admits `None`, and some later one does. -/
structure TurnsOptional (graph : Graph) (model : Model) (field : Field) : Prop where
  plain : field.assigns graph.scope.withoutModels = false
  shown : field.hidesNone = false
  earlier : ∀ target ∈ field.type.exposedTargets, ∀ id, graph.sourceOf? target = some id →
    id.index ≤ model.id.index → graph.isNullable target = false
  later : ∃ target ∈ field.type.exposedTargets, ∃ id, graph.sourceOf? target = some id ∧
    model.id.index < id.index ∧ graph.isNullable target = true

theorem TurnsOptional.assigns {graph : Graph} {model : Model} {field : Field}
    (h : graph.TurnsOptional model field) (hflavor : field.flavor = .dataclass) :
    field.assigns graph.scope = true := by
  obtain ⟨target, htarget, _, _, _, hnullable⟩ := h.later
  have hany : field.type.exposedTargets.any graph.scope.nullable = true :=
    List.any_eq_true.2 ⟨target, htarget, hnullable⟩
  rw [Field.assigns_eq hflavor, hany, h.shown]
  simp

section

variable {graph earlier : Graph} {model : Model} {reference : RefId} {spec : ModelSpec}

/-- What a field assigns when its model is added, and what it assigns in the end. -/
theorem Origin.assigns_early (h : graph.Origin model earlier reference spec)
    (hflavor : earlier.options.flavor = .dataclass) {field : Field}
    (hfield : field ∈ model.fields) :
    field.assigns (earlier.bindNext reference).scope =
      (field.assigns graph.scope.withoutModels ||
        (field.type.exposedTargets.any (earlier.bindNext reference).scope.nullable &&
          !field.hidesNone)) := by
  rw [h.model] at hfield
  have hdataclass := (flavor_of_mem_nextModel hfield).trans hflavor
  have hnames : ∀ target ∈ field.type.exposedTargets,
      (earlier.bindNext reference).scope.className target = graph.scope.className target :=
    fun target htarget => h.className
      (targets_subset_references (mem_orderFields.1 hfield)
        (TypeTree.exposedTargets_subset _ htarget))
  rw [Field.assigns_eq hdataclass, Field.assigns_dataclass hdataclass,
    Field.assigns_dataclass hdataclass graph.scope.withoutModels,
    TypeTree.rendersOptional_withoutModels hnames]

/-- What a field assigns when its model is added, it still assigns in the end. -/
theorem Origin.assigns_mono (h : graph.Origin model earlier reference spec)
    (hflavor : earlier.options.flavor = .dataclass) {field : Field}
    (hfield : field ∈ model.fields)
    (hearly : field.assigns (earlier.bindNext reference).scope = true) :
    field.assigns graph.scope = true := by
  have hdataclass : field.flavor = .dataclass :=
    (flavor_of_mem_nextModel (h.model ▸ hfield)).trans hflavor
  rw [h.assigns_early hflavor hfield, Bool.or_eq_true, Bool.and_eq_true] at hearly
  rw [Field.assigns_eq hdataclass, Bool.or_eq_true, Bool.and_eq_true]
  refine hearly.imp_right fun ⟨hany, hshown⟩ => ⟨?_, hshown⟩
  obtain ⟨target, htarget, hnullable⟩ := List.any_eq_true.1 hany
  exact List.any_eq_true.2 ⟨target, htarget, (h.nullable_iff.1 hnullable).1⟩

/-- A field that starts to assign a value does so because of a later model. -/
theorem Origin.turnsOptional (h : graph.Origin model earlier reference spec)
    (hflavor : earlier.options.flavor = .dataclass) (hlength : 2 ≤ model.fields.length)
    {field : Field} (hfield : field ∈ model.fields)
    (hearly : field.assigns (earlier.bindNext reference).scope = false)
    (hlate : field.assigns graph.scope = true) : graph.TurnsOptional model field := by
  have hdataclass : field.flavor = .dataclass :=
    (flavor_of_mem_nextModel (h.model ▸ hfield)).trans hflavor
  rw [h.assigns_early hflavor hfield, Bool.or_eq_false_iff] at hearly
  rw [Field.assigns_eq hdataclass, hearly.1, Bool.false_or, Bool.and_eq_true,
    Bool.not_eq_true'] at hlate
  obtain ⟨hany, hshown⟩ := hlate
  -- no earlier model admits `None`, or the field would have assigned it from the start
  have hearlier : ∀ target ∈ field.type.exposedTargets, ∀ id,
      graph.sourceOf? target = some id → id.index ≤ model.id.index →
      graph.isNullable target = false := by
    intro target htarget id hsource hle
    have hlt := h.finished hflavor hlength hfield (TypeTree.exposedTargets_subset _ htarget)
      hsource hle
    cases hnullable : graph.isNullable target with
    | false => rfl
    | true =>
      have hseen := List.any_eq_true.2 ⟨target, htarget,
        h.nullable_iff.2 ⟨hnullable, id, hsource, hlt⟩⟩
      rw [hseen, hshown] at hearly
      exact absurd hearly.2 (by decide)
  obtain ⟨target, htarget, hnullable⟩ := List.any_eq_true.1 hany
  obtain ⟨id, _, hsource, _⟩ := isNullable_iff.1 hnullable
  refine ⟨hearly.1, hshown, hearlier, target, htarget, id, hsource, ?_, hnullable⟩
  refine Nat.lt_of_not_le fun hle => ?_
  rw [show graph.scope.nullable target = graph.isNullable target from rfl,
    hearlier target htarget id hsource hle] at hnullable
  cases hnullable

end

/-- In a dataclass of a built graph, the attributes without values come first exactly if no field
    that turns optional stands before one that assigns nothing. -/
theorem assigned_last_iff {graph : Graph} (hbuilt : graph.Built)
    (hflavor : graph.options.flavor = .dataclass) {model : Model} (hmodel : model ∈ graph.models) :
    (model.fields.Pairwise fun a b =>
        a.assigns graph.scope = true → b.assigns graph.scope = true) ↔
      ¬∃ a b, [a, b].Sublist model.fields ∧ graph.TurnsOptional model a ∧
        b.assigns graph.scope = false := by
  obtain ⟨built, hreached⟩ := hbuilt.reached
  obtain ⟨earlier, reference, spec, horigin⟩ := hbuilt.history hmodel
  have hearlier : earlier.options.flavor = .dataclass := by
    rw [← options_grow earlier reference spec, ← horigin.extended.options, hflavor]
  have hfields : model.fields = orderFields .dataclass (earlier.bindNext reference).scope
      (earlier.nextFields reference spec) := by
    rw [horigin.model, ← hearlier]
    rfl
  have hdataclass : ∀ field ∈ model.fields, field.flavor = .dataclass := fun field hfield =>
    (hreached.flavor_eq hmodel field hfield).trans hflavor
  rw [List.pairwise_iff_forall_sublist]
  constructor
  · rintro hsorted ⟨a, b, hsublist, hturns, hnothing⟩
    have hassigns := hturns.assigns (hdataclass a (hsublist.subset List.mem_cons_self))
    rw [hsorted hsublist hassigns] at hnothing
    cases hnothing
  · intro hnone a b hsublist ha
    have hearly := List.pairwise_iff_forall_sublist.1
      (pairwise_orderFields (earlier.bindNext reference).scope
        (earlier.nextFields reference spec)) (hfields ▸ hsublist)
    cases hb : b.assigns graph.scope with
    | true => rfl
    | false =>
      -- `b` has never assigned a value, so `a` did not either when the order was fixed
      have hlate : a.assigns (earlier.bindNext reference).scope = false := by
        rw [Bool.eq_false_iff]
        intro hassigned
        have := horigin.assigns_mono hearlier (hsublist.subset (by simp)) (hearly hassigned)
        rw [hb] at this
        cases this
      exact absurd ⟨a, b, hsublist, horigin.turnsOptional hearlier hsublist.length_le
        (hsublist.subset List.mem_cons_self) hlate ha, hb⟩ hnone

/-- An invoice, with a payer who is described later. -/
def invoiceSpec : ModelSpec where
  reference := some ⟨0⟩
  fields := [{ name := some "payer", type := .model {} ⟨1⟩, required := true },
    { name := some "total", type := .builtin "int", required := true }]

/-- A payer is a number or `None`. -/
def payerSpec : ModelSpec where
  reference := some ⟨1⟩
  kind := .root
  fields := [{ type := .builtin "int", required := true }]
  nullable := true

/-- The graph to which the invoice is added. -/
def beforeInvoice : Graph :=
  ((Graph.empty { flavor := .dataclass } {}).perform (.reference "#/Invoice" "Invoice")).perform
    (.reference "#/Payer" "Payer")

/-- The invoice and then the payer. -/
def invoiceThenPayer : Graph :=
  (beforeInvoice.perform (.add invoiceSpec)).perform (.add payerSpec)

theorem built_invoiceThenPayer : invoiceThenPayer.Built :=
  .call (.add payerSpec)
    (.call (.add invoiceSpec)
      (.call (.reference "#/Payer" "Payer")
        (.call (.reference "#/Invoice" "Invoice") (.empty { flavor := .dataclass } {}) trivial)
        trivial)
      ⟨by decide, nofun⟩)
    ⟨by decide, nofun⟩

/-- The payer of an invoice assigns `None` in the end and stands before the total, which assigns
    nothing. -/
theorem assigned_last_iff_invoice :
    invoiceThenPayer.options.flavor = .dataclass ∧
    ((beforeInvoice.nextModel ⟨0⟩ invoiceSpec).fields.map fun field =>
      (field.name, field.assigns invoiceThenPayer.scope)) =
      [(some "payer", true), (some "total", false)] ∧
    ¬(beforeInvoice.nextModel ⟨0⟩ invoiceSpec).fields.Pairwise fun a b =>
      a.assigns invoiceThenPayer.scope = true → b.assigns invoiceThenPayer.scope = true := by
  refine ⟨rfl, by decide, fun hsorted => ?_⟩
  refine (assigned_last_iff built_invoiceThenPayer rfl
    (List.mem_append_left _ (List.mem_append_right _ (List.mem_singleton.2 rfl)))).1 hsorted
    ⟨_, _, List.Sublist.refl _, ⟨by decide, by decide, ?_, ?_⟩, by decide⟩
  · intro target htarget id hsource hle
    rw [List.mem_singleton.1 htarget] at hsource
    cases hsource
    exact absurd hle (by decide)
  · exact ⟨⟨1⟩, by decide, ⟨1⟩, rfl, by decide, rfl⟩

end Graph

end SchemaPress
