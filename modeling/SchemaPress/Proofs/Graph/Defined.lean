import SchemaPress.Proofs.Graph.Batch
import SchemaPress.Proofs.Graph.FieldOrder
import SchemaPress.Proofs.Graph.Rebuild
import SchemaPress.Proofs.ModelsDocument
import SchemaPress.Proofs.Schema.Models

set_option autoImplicit false

/-! # Names that the module defines

Both kinds of documents give models that mention each other only. Inlining root models keeps that
for the types of fields, but not for base classes. A graph agrees with the specifications that it
was built from, so a reference that a model of the graph mentions stands for a class of the module
exactly if a model is left for it: always in the type of a field, and for a base class unless the
base class was inlined (`names_defined_iff`). -/

namespace SchemaPress

/-- The models of a document have references, and mention each other only. -/
theorem Document.selfContained_of_lower {document : Document} {registry : TypeRegistry}
    {graph lowered : Graph} {specs : List ModelSpec}
    (h : document.lower registry graph = .ok (specs, lowered)) :
    SelfContained specs ∧ graph.arena.Grown lowered.arena ∧
      lowered = { graph with arena := lowered.arena, extras := lowered.extras } ∧
      ∀ reference, some reference ∈ specs.map (·.reference) →
        ∃ path, lowered.arena.find? path = some reference := by
  cases document with
  | ofSchema schema =>
    have h : schema.lower registry graph = .ok (specs, lowered) := h
    obtain ⟨hgrown, -, hreferences, hclosed⟩ := Schema.models_of_lower h
    obtain ⟨results, draft, -, -, hlowered⟩ := Schema.lowered_of_lower h
    refine ⟨hclosed, hgrown, ?_, fun reference hreference => ?_⟩
    · rw [hlowered]
    · rw [hreferences] at hreference
      obtain ⟨path, -, hpath⟩ := List.mem_map.1 hreference
      exact ⟨path, hpath⟩
  | ofModels document =>
    have h : document.lower registry graph = .ok (specs, lowered) := h
    obtain ⟨hclosed, hgrown, hlowered, hfound⟩ := ModelsDocument.selfContained_of_lower h
    refine ⟨hclosed, hgrown, ?_, hfound⟩
    rw [hlowered]

namespace Graph

/-- The module of a graph defines the class that a reference stands for, and writes it under the
    name that the reference has in types. -/
def Defines (graph : Graph) (reference : RefId) : Prop :=
  ∃ model ∈ graph.orderedModels, graph.sourceOf? reference = some model.id ∧
    graph.className model = graph.scope.className reference

section

variable {graph : Graph} {built : List ModelSpec} {reference : RefId}

/-- The classes of a module are those of the specifications that its graph was built from. -/
theorem Coherent.defines_iff (h : graph.Coherent built) :
    graph.Defines reference ↔ some reference ∈ built.map (·.reference) := by
  constructor
  · rintro ⟨model, -, hsource, -⟩
    obtain ⟨spec, hspec, hgiven⟩ := (h.sources reference model.id).1 hsource
    exact List.mem_map.2 ⟨spec, List.mem_of_getElem? hspec, hgiven⟩
  · intro hmem
    obtain ⟨model, hmodel, rfl, hsource⟩ := h.exists_model hmem
    exact ⟨model, h.mem_orderedModels.2 hmodel, hsource, rfl⟩

/-- A model mentions nothing that its specification does not, in the same places. -/
theorem Coherent.origin (h : graph.Coherent built) {model : Model} (hmodel : model ∈ graph.models) :
    ∃ spec ∈ built,
      (∀ field ∈ model.fields, field.type.targets ⊆ spec.fields.flatMap (·.type.targets)) ∧
      ∀ base ∈ model.bases, ∀ reference, base.target? = some reference →
        reference ∈ spec.bases := by
  obtain ⟨place, hplace⟩ := List.mem_iff_getElem?.1 hmodel
  obtain ⟨spec, hspec, -, earlier, -, hmade⟩ := h.made place model hplace
  refine ⟨spec, List.mem_of_getElem? hspec, fun field hfield => ?_, fun base hbase target hid => ?_⟩
  · rw [hmade] at hfield
    exact targets_subset_fields (mem_orderFields.1 hfield)
  · rw [hmade] at hbase
    have hbase : base ∈ earlier.basesOf spec := hbase
    unfold basesOf at hbase
    split at hbase
    · -- the default base class is imported
      obtain ⟨origin, -, rfl⟩ := List.mem_map.1 hbase
      cases hid
    · obtain ⟨found, hfound, rfl⟩ := List.mem_map.1 hbase
      cases hid
      exact hfound

end

/-- The models that are left of a document have allocated references. -/
theorem allocated_of_mem_kept {collapse : Bool} {specs : List ModelSpec} {arena : Arena}
    (hindexed : arena.Indexed) (hclosed : SelfContained specs)
    (hfound : ∀ reference, some reference ∈ specs.map (·.reference) →
      ∃ path, arena.find? path = some reference) :
    ∀ spec ∈ keptModels collapse specs, ∀ reference ∈ linkedReferences spec,
      reference.index < arena.refs.length := by
  intro spec hspec reference hreference
  have hmem : some reference ∈ specs.map (·.reference) := by
    rcases List.mem_append.1 hreference with hreference | hreference
    · have hgiven : spec.reference = some reference := by simpa using hreference
      exact (reference_mem_kept_iff.1 (List.mem_map.2 ⟨spec, hspec, hgiven⟩)).1
    · obtain ⟨original, horiginal, hbases, -⟩ := origin_of_mem_kept hspec
      refine hclosed reference (List.mem_flatMap.2 ⟨original, horiginal, ?_⟩)
      exact List.mem_append_left _ (List.mem_append_right _ (hbases ▸ hreference))
  obtain ⟨path, hpath⟩ := hfound reference hmem
  exact hindexed.lt_of_find? hpath

/-- The graph of a document is built from what the document says about its models. -/
theorem built_of_ofDocument {options : Options} {extras : Extras} {registry : TypeRegistry}
    {document : Document} {graph : Graph}
    (h : ofDocument options extras registry document = .ok graph) :
    ∃ specs lowered, document.lower registry (.empty options extras) = .ok (specs, lowered) ∧
      lowered.build specs = (.ok (), graph) := by
  unfold ofDocument at h
  obtain ⟨⟨specs, lowered⟩, hlower, h⟩ := bind_eq_ok_iff.1 h
  refine ⟨specs, lowered, hlower, ?_⟩
  cases hresult : lowered.build specs with
  | mk outcome built =>
    simp only [hresult] at h
    cases outcome with
    | error failure => cases h
    | ok _ =>
      cases h
      rfl

/-- The models that are left of a document are added to the references that it allocates, and that
    is how its graph is reached. -/
theorem added_of_ofDocument {options : Options} {extras : Extras} {registry : TypeRegistry}
    {document : Document} {graph : Graph}
    (h : ofDocument options extras registry document = .ok graph) :
    ∃ specs lowered, document.lower registry (.empty options extras) = .ok (specs, lowered) ∧
      SelfContained specs ∧
      lowered.addAll (keptModels options.collapseRootModels specs) = (.ok (), graph) ∧
      Reached graph (keptModels options.collapseRootModels specs) := by
  obtain ⟨specs, lowered, hlower, hbuild⟩ := built_of_ofDocument h
  obtain ⟨hclosed, hgrown, hlowered, hfound⟩ := Document.selfContained_of_lower hlower
  refine ⟨specs, lowered, hlower, hclosed, ?_⟩
  -- lowering allocates references and changes extras, and both are calls
  have hstart : Reached lowered [] := by
    have hamended := Reached.call (.amend lowered.extras) (.empty options extras) trivial
    rw [hlowered]
    exact hamended.of_grown hgrown
  have hoptions : lowered.options = options := by
    rw [hlowered]
    rfl
  rw [← hoptions]
  have hindexed : lowered.arena.Indexed := hgrown.indexed Arena.indexed_empty
  exact ⟨hbuild, hstart.addAll (allocated_of_mem_kept hindexed hclosed hfound) hbuild⟩

/-- The graph of a document is reached with the models that are left of the document. -/
theorem reached_of_ofDocument {options : Options} {extras : Extras} {registry : TypeRegistry}
    {document : Document} {graph : Graph}
    (h : ofDocument options extras registry document = .ok graph) :
    ∃ specs lowered, document.lower registry (.empty options extras) = .ok (specs, lowered) ∧
      SelfContained specs ∧ Reached graph (keptModels options.collapseRootModels specs) := by
  obtain ⟨specs, lowered, hlower, hclosed, -, hreached⟩ := added_of_ofDocument h
  exact ⟨specs, lowered, hlower, hclosed, hreached⟩

/-- In the graph of a document, whatever the options, every reference at any node of the type of a
    field stands for a class that the module defines, under the name that is written for it. The
    reference of a base class does so exactly if the base class was not inlined, which happens when
    the options ask for it and the base class is a root model that does not admit `None` and wraps
    a type without models. -/
theorem names_defined_iff {options : Options} {extras : Extras} {registry : TypeRegistry}
    {document : Document} {graph : Graph}
    (h : ofDocument options extras registry document = .ok graph) :
    (∀ model ∈ graph.models, ∀ field ∈ model.fields, ∀ node ∈ field.type.preorder,
      ∀ reference, node.target? = some reference → graph.Defines reference) ∧
    ∃ specs lowered, document.lower registry (.empty options extras) = .ok (specs, lowered) ∧
      ∀ model ∈ graph.models, ∀ base ∈ model.bases, ∀ reference,
        base.target? = some reference →
        (graph.Defines reference ↔ ¬ IsInlined options.collapseRootModels specs reference) := by
  obtain ⟨specs, lowered, hlower, hclosed, hreached⟩ := reached_of_ofDocument h
  have hcoherent := hreached.coherent
  refine ⟨fun model hmodel field hfield node hnode reference htarget => ?_, specs, lowered, hlower,
    fun model hmodel base hbase reference htarget => ?_⟩
  · obtain ⟨spec, hspec, hfields, -⟩ := hcoherent.origin hmodel
    rw [hcoherent.defines_iff]
    exact target_mem_kept hclosed hspec
      (hfields field hfield (TypeTree.mem_targets.2 ⟨node, hnode, htarget⟩))
  · obtain ⟨spec, hspec, -, hbases⟩ := hcoherent.origin hmodel
    rw [hcoherent.defines_iff]
    exact base_mem_kept_iff hclosed hspec (hbases base hbase reference htarget)

/-- A name, which is a text, and a badge, which is derived from names and mentions badges. -/
def nameAndBadge : Document :=
  .ofModels
    { models :=
        [{ name := "Name", kind := .root, fields := [{ type := "str", required := true }] },
          { name := "Badge"
            bases := ["Name"]
            fields := [{ name := some "label", type := "Name" },
              { name := some "next", type := "Optional[Badge]" }] }] }

/-- The options that ask for inlining. -/
def collapsing : Options where
  collapseRootModels := true

/-- With inlining the badge keeps a base class that the module does not define, while the types of
    its fields mention badges only. -/
theorem names_defined_iff_nameAndBadge :
    ∃ graph, ofDocument collapsing {} {} nameAndBadge = .ok graph ∧
      (∃ model ∈ graph.models, ∃ field ∈ model.fields, ∃ node ∈ field.type.preorder,
        ∃ reference, node.target? = some reference ∧ graph.Defines reference) ∧
      ∃ model ∈ graph.models, ∃ base ∈ model.bases, ∃ reference,
        base.target? = some reference ∧ ¬ graph.Defines reference := by
  have hshape : (ofDocument collapsing {} {} nameAndBadge).toOption.map (fun graph =>
      graph.models.map fun model => (model.bases.filterMap TypeTree.target?,
        model.fields.flatMap fun field => field.type.preorder.filterMap TypeTree.target?)) =
      some [([⟨0⟩], [⟨1⟩])] := by decide +kernel
  have hfound : (nameAndBadge.lower {} (.empty collapsing {})).toOption.map (fun result =>
      (Inlining.find? result.1 ⟨0⟩).isSome) = some true := by decide +kernel
  cases hgraph : ofDocument collapsing {} {} nameAndBadge with
  | error failure =>
    rw [hgraph] at hshape
    cases hshape
  | ok graph =>
    obtain ⟨hfields, specs, lowered, hlower, hbases⟩ := names_defined_iff hgraph
    rw [hgraph] at hshape
    rw [hlower] at hfound
    have hshape := Option.some.inj hshape
    have hinlined : IsInlined true specs ⟨0⟩ :=
      ⟨rfl, Inlining.isSome_find?_iff.1 (Option.some.inj hfound)⟩
    obtain ⟨model, hmodel, hmentioned⟩ := List.mem_map.1 (hshape ▸ List.mem_singleton_self _)
    obtain ⟨hbaseTargets, hfieldTargets⟩ := Prod.mk.inj hmentioned
    refine ⟨graph, rfl, ?_, ?_⟩
    · obtain ⟨field, hfield, htarget⟩ :=
        List.mem_flatMap.1 (hfieldTargets ▸ List.mem_singleton_self _)
      obtain ⟨node, hnode, htarget⟩ := List.mem_filterMap.1 htarget
      exact ⟨model, hmodel, field, hfield, node, hnode, ⟨1⟩, htarget,
        hfields model hmodel field hfield node hnode ⟨1⟩ htarget⟩
    · obtain ⟨base, hbase, htarget⟩ :=
        List.mem_filterMap.1 (hbaseTargets ▸ List.mem_singleton_self _)
      exact ⟨model, hmodel, base, hbase, ⟨0⟩, htarget, fun hdefined =>
        (hbases model hmodel base hbase ⟨0⟩ htarget).1 hdefined hinlined⟩

end Graph

end SchemaPress
