import Mathlib.Data.List.Basic
import SchemaPress.Collapse
import SchemaPress.Proofs.Graph.Grow
import SchemaPress.Proofs.TypeTree.Nodes

set_option autoImplicit false

/-! # What inlining leaves behind

A root model that is written in the place of its reference mentions no models itself, so inlining
takes references away from types and adds none (`targets_inline`). If models mention each other
only, the types of their fields still do so when root models are inlined (`target_mem_kept`). Base
classes are not looked at: a model whose base class is inlined keeps the reference, and no model is
left for it (`base_mem_kept_iff`). -/

namespace SchemaPress

/-- A root model that can be written in the place of its reference. -/
def ModelSpec.IsInlinable (spec : ModelSpec) : Prop :=
  spec.kind = .root ∧ spec.nullable = false ∧
    ∃ field, spec.fields = [field] ∧ field.type.targets = []

namespace Inlining

theorem ofSpec?_eq_some_iff {spec : ModelSpec} {target : RefId} {inlining : Inlining} :
    ofSpec? spec = some (target, inlining) ↔
      spec.reference = some target ∧ spec.IsInlinable ∧
        ∃ field, spec.fields = [field] ∧ inlining = ⟨field.type, field.constraints⟩ := by
  unfold ofSpec? ModelSpec.IsInlinable
  constructor
  · intro h
    split at h
    · rename_i reference field hreference hkind hfields
      split at h
      · cases h
      · rename_i hplain
        simp only [Bool.or_eq_true, Bool.not_eq_true', not_or, Bool.not_eq_true,
          Bool.not_eq_false, List.isEmpty_iff] at hplain
        cases h
        exact ⟨hreference, ⟨hkind, hplain.1, field, hfields, hplain.2⟩, field, hfields, rfl⟩
    · cases h
  · rintro ⟨hreference, ⟨hkind, hnullable, field, hfields, htargets⟩, field', hfields', rfl⟩
    cases hfields.symm.trans hfields'
    simp [hreference, hkind, hfields, hnullable, htargets]

/-- A reference is replaced exactly if some root model with it can be. -/
theorem isSome_find?_iff {specs : List ModelSpec} {target : RefId} :
    (find? specs target).isSome ↔
      ∃ spec ∈ specs, spec.reference = some target ∧ spec.IsInlinable := by
  unfold find?
  rw [List.lookup_isSome_iff]
  simp only [List.mem_reverse, List.mem_filterMap, beq_iff_eq]
  constructor
  · rintro ⟨⟨_, inlining⟩, ⟨spec, hspec, hinlining⟩, rfl⟩
    obtain ⟨hreference, hinlinable, -⟩ := ofSpec?_eq_some_iff.1 hinlining
    exact ⟨spec, hspec, hreference, hinlinable⟩
  · rintro ⟨spec, hspec, hreference, hinlinable⟩
    have ⟨_, _, field, hfields, _⟩ := hinlinable
    exact ⟨(target, ⟨field.type, field.constraints⟩), ⟨spec, hspec,
      ofSpec?_eq_some_iff.2 ⟨hreference, hinlinable, field, hfields, rfl⟩⟩, rfl⟩

/-- What takes the place of a reference comes from a specification with it. -/
theorem exists_ofSpec?_of_find? {specs : List ModelSpec} {target : RefId} {inlining : Inlining}
    (h : find? specs target = some inlining) :
    ∃ spec ∈ specs, ofSpec? spec = some (target, inlining) := by
  obtain ⟨front, back, hlist, -⟩ := List.lookup_eq_some_iff.1 h
  have hmem : (target, inlining) ∈ (specs.filterMap ofSpec?).reverse := by
    rw [hlist]
    simp
  exact List.mem_filterMap.1 (List.mem_reverse.1 hmem)

/-- What takes the place of a reference is the type of a root model with it. -/
theorem exists_of_find? {specs : List ModelSpec} {target : RefId} {inlining : Inlining}
    (h : find? specs target = some inlining) :
    ∃ spec ∈ specs, ∃ field, spec.fields = [field] ∧ field.type.targets = [] ∧
      inlining.type = field.type := by
  obtain ⟨spec, hspec, hinlining⟩ := exists_ofSpec?_of_find? h
  obtain ⟨-, ⟨-, -, field, hfields, htargets⟩, field', hfields', rfl⟩ :=
    ofSpec?_eq_some_iff.1 hinlining
  cases hfields.symm.trans hfields'
  exact ⟨spec, hspec, field, hfields, htargets, rfl⟩

/-- What takes the place of a reference mentions no models. -/
theorem targets_of_find? {specs : List ModelSpec} {target : RefId} {inlining : Inlining}
    (h : find? specs target = some inlining) : inlining.type.targets = [] := by
  obtain ⟨spec, -, field, -, htargets, htype⟩ := exists_of_find? h
  rw [htype, htargets]

end Inlining

/-! ## Types -/

theorem TypeTree.inlineAll_eq_map (replacement : RefId → Option Inlining)
    (trees : List TypeTree) :
    TypeTree.inlineAll replacement trees = trees.map (TypeTree.inline replacement) := by
  induction trees with
  | nil => rfl
  | cons tree rest ih => rw [TypeTree.inlineAll, ih, List.map_cons]

/-- Inlining takes away the references that are replaced, and leaves the others. -/
theorem TypeTree.targets_inline {replacement : RefId → Option Inlining}
    (h : ∀ target inlining, replacement target = some inlining → inlining.type.targets = [])
    (tree : TypeTree) :
    (tree.inline replacement).targets =
      tree.targets.filter fun target => (replacement target).isNone := by
  induction tree with
  | empty m => rfl
  | named m type => rfl
  | literal m values => rfl
  | model m target =>
    rw [inline]
    cases hreplacement : replacement target with
    | none => simp [hreplacement]
    | some inlining =>
      simp [hreplacement, targets_withMarks, h target inlining hreplacement]
  | list m item ih => simpa [inline] using ih
  | set m item ih => simpa [inline] using ih
  | dict m value ih => simpa [inline] using ih
  | keyedDict m key value ihkey ihvalue => simp [inline, ihkey, ihvalue]
  | union m members ih =>
    rw [inline, targets_union, targets_union, inlineAll_eq_map, List.flatMap_map,
      List.filter_flatMap]
    exact List.flatMap_congr ih

/-! ## Specifications -/

/-- Specifications that mention no models but each other. -/
def SelfContained (specs : List ModelSpec) : Prop :=
  ∀ reference ∈ specs.flatMap ModelSpec.references, some reference ∈ specs.map (·.reference)

/-- The models that are left for a graph: all, or those that are not inlined. -/
def keptModels (collapse : Bool) (specs : List ModelSpec) : List ModelSpec :=
  if collapse then collapseRootModels specs else specs

variable {collapse : Bool} {specs : List ModelSpec} {reference : RefId}

/-- A reference is inlined: root models are, and one with this reference can be. -/
def IsInlined (collapse : Bool) (specs : List ModelSpec) (reference : RefId) : Prop :=
  collapse = true ∧ ∃ spec ∈ specs, spec.reference = some reference ∧ spec.IsInlinable

/-- A model is left for a reference exactly if there was one and it is not inlined. -/
theorem reference_mem_kept_iff :
    some reference ∈ (keptModels collapse specs).map (·.reference) ↔
      some reference ∈ specs.map (·.reference) ∧ ¬ IsInlined collapse specs reference := by
  unfold keptModels IsInlined
  cases collapse with
  | false => simp
  | true =>
    rw [if_pos rfl, ← Inlining.isSome_find?_iff]
    simp only [collapseRootModels, List.map_map, List.mem_map, List.mem_filter,
      ModelSpec.isInlined, true_and]
    constructor
    · rintro ⟨spec, ⟨hspec, hkept⟩, hreference⟩
      have hreference : spec.reference = some reference := hreference
      rw [hreference] at hkept
      exact ⟨⟨spec, hspec, hreference⟩, by simpa using hkept⟩
    · rintro ⟨⟨spec, hspec, hreference⟩, hkept⟩
      refine ⟨spec, ⟨hspec, ?_⟩, hreference⟩
      rw [hreference]
      simpa using hkept

/-- A model that is not inlined is left, with the same fields up to their types and constraints. -/
theorem mem_kept_of_not_inlined {spec : ModelSpec} (h : spec ∈ specs)
    (hgiven : spec.reference = some reference) (hnot : ¬ IsInlined collapse specs reference) :
    ∃ left ∈ keptModels collapse specs, left.reference = some reference ∧
      (left.fields = spec.fields ∨
        left.fields = spec.fields.map (FieldSpec.inline (Inlining.find? specs))) := by
  unfold keptModels
  unfold IsInlined at hnot
  cases collapse with
  | false => exact ⟨spec, h, hgiven, .inl rfl⟩
  | true =>
    rw [← Inlining.isSome_find?_iff] at hnot
    refine ⟨_, List.mem_map.2 ⟨spec, List.mem_filter.2 ⟨h, ?_⟩, rfl⟩, hgiven, .inr rfl⟩
    rw [ModelSpec.isInlined, hgiven]
    simpa using hnot

/-- Every model that is left comes from one with the same base classes, and the types of its fields
    mention what they mentioned before and what is not inlined. -/
theorem origin_of_mem_kept {spec : ModelSpec} (h : spec ∈ keptModels collapse specs) :
    ∃ original ∈ specs, spec.bases = original.bases ∧
      ∀ target ∈ spec.fields.flatMap (·.type.targets),
        target ∈ original.fields.flatMap (·.type.targets) ∧ ¬ IsInlined collapse specs target := by
  unfold keptModels at h
  unfold IsInlined
  cases collapse with
  | false => exact ⟨spec, h, rfl, fun target htarget => ⟨htarget, by simp⟩⟩
  | true =>
    rw [if_pos rfl] at h
    obtain ⟨original, horiginal, rfl⟩ := List.mem_map.1 h
    refine ⟨original, List.mem_of_mem_filter horiginal, rfl, fun target htarget => ?_⟩
    rw [List.flatMap_map] at htarget
    obtain ⟨field, hfield, htarget⟩ := List.mem_flatMap.1 htarget
    have htarget : target ∈ (field.type.inline (Inlining.find? specs)).targets := htarget
    rw [TypeTree.targets_inline fun _ _ => Inlining.targets_of_find?, List.mem_filter] at htarget
    refine ⟨List.mem_flatMap.2 ⟨field, hfield, htarget.1⟩, ?_⟩
    rw [← Inlining.isSome_find?_iff]
    simpa using htarget.2

/-- A reference in the type of a field stays a reference to one of the models. -/
theorem target_mem_kept (h : SelfContained specs) {spec : ModelSpec}
    (hspec : spec ∈ keptModels collapse specs)
    (htarget : reference ∈ spec.fields.flatMap (·.type.targets)) :
    some reference ∈ (keptModels collapse specs).map (·.reference) := by
  obtain ⟨original, horiginal, -, htargets⟩ := origin_of_mem_kept hspec
  obtain ⟨hmentioned, hkept⟩ := htargets reference htarget
  rw [reference_mem_kept_iff]
  exact ⟨h reference (List.mem_flatMap.2 ⟨original, horiginal, List.mem_append_right _ hmentioned⟩),
    hkept⟩

/-- A model is left for a base class exactly if the base class is not inlined. -/
theorem base_mem_kept_iff (h : SelfContained specs) {spec : ModelSpec}
    (hspec : spec ∈ keptModels collapse specs) (hbase : reference ∈ spec.bases) :
    some reference ∈ (keptModels collapse specs).map (·.reference) ↔
      ¬ IsInlined collapse specs reference := by
  obtain ⟨original, horiginal, hbases, -⟩ := origin_of_mem_kept hspec
  rw [hbases] at hbase
  rw [reference_mem_kept_iff]
  refine and_iff_right (h reference (List.mem_flatMap.2 ⟨original, horiginal, ?_⟩))
  exact List.mem_append_left _ (List.mem_append_right _ hbase)

end SchemaPress
