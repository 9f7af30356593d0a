import Mathlib.Logic.Function.Iterate
import Mathlib.Tactic.TFAE
import SchemaPress.Proofs.Collapse

set_option autoImplicit false

/-! # Root models that wrap root models

Which root models are inlined is decided once, on the types that are given. A root model that wraps
another one mentions a model, so it is left, even if the other one is inlined and a type without
models takes its place (`tag_left_after_one_round`). Inlining again then inlines this one too, and
so on up a chain of root models: each round takes the lowest link of every chain (`WrapsWithin`).

Nothing changes any more as soon as no root model is left that could be inlined, and that is so
after as many rounds as there are models at the latest (`collapse_settles_iff`). -/

namespace SchemaPress

/-- A root model that wraps one type and does not admit `None`. -/
def ModelSpec.IsWrapper (spec : ModelSpec) : Prop :=
  spec.kind = .root ∧ spec.nullable = false ∧ spec.fields.length = 1

instance (spec : ModelSpec) : Decidable spec.IsWrapper :=
  inferInstanceAs (Decidable (_ ∧ _ ∧ _))

/-- A reference stands for a root model on top of a chain that is at most as high as given: every
    model that it mentions is on top of a lower one. -/
def WrapsWithin (specs : List ModelSpec) : Nat → RefId → Prop
  | 0, _ => False
  | height + 1, target => ∃ spec ∈ specs, spec.reference = some target ∧ spec.IsWrapper ∧
      ∀ inner ∈ spec.fields.flatMap (·.type.targets), WrapsWithin specs height inner

instance decidableWrapsWithin (specs : List ModelSpec) :
    (height : Nat) → (target : RefId) → Decidable (WrapsWithin specs height target)
  | 0, _ => inferInstanceAs (Decidable False)
  | height + 1, target =>
    have := decidableWrapsWithin specs height
    inferInstanceAs (Decidable (∃ spec ∈ specs, spec.reference = some target ∧ spec.IsWrapper ∧
      ∀ inner ∈ spec.fields.flatMap (·.type.targets), WrapsWithin specs height inner))

/-! ## Heights of chains -/

/-- A root model can be inlined if it mentions no models. -/
theorem ModelSpec.isInlinable_iff {spec : ModelSpec} :
    spec.IsInlinable ↔ spec.IsWrapper ∧ spec.fields.flatMap (·.type.targets) = [] := by
  unfold IsInlinable IsWrapper
  rw [List.length_eq_one_iff]
  constructor
  · rintro ⟨hkind, hnullable, field, hfields, htargets⟩
    exact ⟨⟨hkind, hnullable, field, hfields⟩, by simp [hfields, htargets]⟩
  · rintro ⟨⟨hkind, hnullable, field, hfields⟩, htargets⟩
    exact ⟨hkind, hnullable, field, hfields, by simpa [hfields] using htargets⟩

variable {specs : List ModelSpec} {target : RefId}

/-- The chains of one link are the root models that can be inlined. -/
theorem wrapsWithin_one_iff :
    WrapsWithin specs 1 target ↔
      ∃ spec ∈ specs, spec.reference = some target ∧ spec.IsInlinable := by
  simp only [WrapsWithin, ModelSpec.isInlinable_iff, List.eq_nil_iff_forall_not_mem]

theorem isSome_find?_iff_wrapsWithin :
    (Inlining.find? specs target).isSome = true ↔ WrapsWithin specs 1 target := by
  rw [Inlining.isSome_find?_iff, wrapsWithin_one_iff]

theorem WrapsWithin.succ {height : Nat} (h : WrapsWithin specs height target) :
    WrapsWithin specs (height + 1) target := by
  induction height generalizing target with
  | zero => exact h.elim
  | succ height ih =>
    obtain ⟨spec, hspec, hgiven, hwrapper, hinner⟩ := h
    exact ⟨spec, hspec, hgiven, hwrapper, fun inner hmem => ih (hinner inner hmem)⟩

theorem WrapsWithin.mono {low high : Nat} (hle : low ≤ high) (h : WrapsWithin specs low target) :
    WrapsWithin specs high target := by
  induction hle with
  | refl => exact h
  | step _ ih => exact ih.succ

/-! ## One round -/

/-- What is left of a model: the same one, with types that mention no inlined model. -/
theorem mem_collapse_iff {spec : ModelSpec} :
    spec ∈ collapseRootModels specs ↔
      ∃ original ∈ specs, (∀ reference ∈ original.reference, ¬ WrapsWithin specs 1 reference) ∧
        spec =
          { original with fields := original.fields.map (·.inline (Inlining.find? specs)) } := by
  have hkept : ∀ original : ModelSpec, original.isInlined (Inlining.find? specs) = false ↔
      ∀ reference ∈ original.reference, ¬ WrapsWithin specs 1 reference := by
    intro original
    unfold ModelSpec.isInlined
    cases original.reference with
    | none => simp
    | some reference => simp [← isSome_find?_iff_wrapsWithin]
  simp only [collapseRootModels, List.mem_map, List.mem_filter, Bool.not_eq_true', hkept, and_assoc,
    eq_comm (a := spec)]

/-- Inlining takes the inlined models out of what a model mentions. -/
theorem mem_targets_inline_iff {fields : List FieldSpec} {inner : RefId} :
    inner ∈ (fields.map (·.inline (Inlining.find? specs))).flatMap (·.type.targets) ↔
      inner ∈ fields.flatMap (·.type.targets) ∧ ¬ WrapsWithin specs 1 inner := by
  have htargets : ∀ field : FieldSpec, inner ∈ (field.inline (Inlining.find? specs)).type.targets ↔
      inner ∈ field.type.targets ∧ ¬ WrapsWithin specs 1 inner := by
    intro field
    change inner ∈ (field.type.inline (Inlining.find? specs)).targets ↔ _
    rw [TypeTree.targets_inline fun _ _ => Inlining.targets_of_find?, List.mem_filter,
      Option.isNone_iff_eq_none, ← isSome_find?_iff_wrapsWithin, Option.not_isSome_iff_eq_none]
  simp only [List.mem_flatMap, List.mem_map, exists_exists_and_eq_and, htargets]
  constructor
  · rintro ⟨field, hfield, hinner, hkept⟩
    exact ⟨⟨field, hfield, hinner⟩, hkept⟩
  · rintro ⟨⟨field, hfield, hinner⟩, hkept⟩
    exact ⟨field, hfield, hinner, hkept⟩

/-- A round takes the lowest link of every chain. -/
theorem wrapsWithin_collapse (height : Nat) :
    WrapsWithin (collapseRootModels specs) height target ↔
      WrapsWithin specs (height + 1) target ∧ ¬ WrapsWithin specs 1 target := by
  induction height generalizing target with
  | zero => exact ⟨False.elim, fun h => h.2 h.1⟩
  | succ height ih =>
    -- of the models that a link mentions, those that are gone were on chains of one link
    have hinner : ∀ fields : List FieldSpec,
        (∀ inner ∈ (fields.map (·.inline (Inlining.find? specs))).flatMap (·.type.targets),
          WrapsWithin (collapseRootModels specs) height inner) ↔
        ∀ inner ∈ fields.flatMap (·.type.targets), WrapsWithin specs (height + 1) inner := by
      intro fields
      constructor
      · intro h inner hmem
        by_cases hone : WrapsWithin specs 1 inner
        · exact hone.mono (by omega)
        · exact (ih.1 (h inner (mem_targets_inline_iff.2 ⟨hmem, hone⟩))).1
      · intro h inner hmem
        obtain ⟨hmem, hone⟩ := mem_targets_inline_iff.1 hmem
        exact ih.2 ⟨h inner hmem, hone⟩
    constructor
    · rintro ⟨spec, hspec, hgiven, hwrapper, h⟩
      obtain ⟨original, horiginal, hkept, rfl⟩ := mem_collapse_iff.1 hspec
      refine ⟨⟨original, horiginal, hgiven, ?_, (hinner original.fields).1 h⟩, hkept target hgiven⟩
      simpa [ModelSpec.IsWrapper] using hwrapper
    · rintro ⟨⟨original, horiginal, hgiven, hwrapper, h⟩, hone⟩
      refine ⟨_, mem_collapse_iff.2 ⟨original, horiginal, ?_, rfl⟩, hgiven, ?_,
        (hinner original.fields).2 h⟩
      · rintro reference hreference
        cases hgiven.symm.trans hreference
        exact hone
      · simpa [ModelSpec.IsWrapper] using hwrapper

/-- The models that a round leaves are those that were no chains of one link. -/
theorem references_collapse (specs : List ModelSpec) :
    (collapseRootModels specs).map (·.reference) =
      (specs.map (·.reference)).filter fun reference =>
        ∀ target ∈ reference, ¬ WrapsWithin specs 1 target := by
  unfold collapseRootModels
  rw [List.map_map, List.filter_map]
  refine congrArg (List.map _) (List.filter_congr fun spec _ => ?_)
  unfold ModelSpec.isInlined
  cases hgiven : spec.reference with
  | none => simp [hgiven]
  | some reference =>
    rw [Bool.eq_iff_iff]
    simp [hgiven, ← isSome_find?_iff_wrapsWithin]

/-! ## Nothing to inline -/

theorem TypeTree.inline_eq_self {replacement : RefId → Option Inlining}
    (h : ∀ target, replacement target = none) (tree : TypeTree) :
    tree.inline replacement = tree := by
  induction tree with
  | empty m => rfl
  | named m type => rfl
  | literal m values => rfl
  | model m target => rw [inline, h target]
  | list m item ih => rw [inline, ih]
  | set m item ih => rw [inline, ih]
  | dict m value ih => rw [inline, ih]
  | keyedDict m key value ihkey ihvalue => rw [inline, ihkey, ihvalue]
  | union m members ih =>
    rw [inline, inlineAll_eq_map, List.map_congr_left ih, List.map_id']

theorem FieldSpec.inline_eq_self {replacement : RefId → Option Inlining}
    (h : ∀ target, replacement target = none) (field : FieldSpec) :
    field.inline replacement = field := by
  have hnone : field.type.target?.bind replacement = none := by
    cases field.type.target? <;> simp [h]
  rw [inline, TypeTree.inline_eq_self h, hnone]

/-- A round changes nothing exactly if no model can be inlined. -/
theorem collapse_eq_self_iff :
    collapseRootModels specs = specs ↔ ∀ target, ¬ WrapsWithin specs 1 target := by
  constructor
  · intro h target hone
    -- the model with this reference would have to be left
    have ⟨spec, hspec, hgiven, _⟩ := hone
    rw [← h] at hspec
    obtain ⟨original, -, hkept, rfl⟩ := mem_collapse_iff.1 hspec
    exact hkept target hgiven hone
  · intro h
    have hnone : ∀ target, Inlining.find? specs target = none := by
      intro target
      rw [← Option.not_isSome_iff_eq_none, isSome_find?_iff_wrapsWithin]
      exact h target
    have hkept : ∀ spec ∈ specs, (!spec.isInlined (Inlining.find? specs)) = true := by
      intro spec _
      cases hgiven : spec.reference <;> simp [ModelSpec.isInlined, hgiven, hnone]
    simp only [collapseRootModels, List.filter_eq_self.2 hkept,
      FieldSpec.inline_eq_self hnone, List.map_id']

/-- A round that changes anything leaves fewer models. -/
theorem length_collapse_lt (h : collapseRootModels specs ≠ specs) :
    (collapseRootModels specs).length < specs.length := by
  rw [Ne, collapse_eq_self_iff] at h
  push Not at h
  obtain ⟨target, hone⟩ := h
  have ⟨spec, hspec, hgiven, _⟩ := hone
  have hleft := congrArg List.length (references_collapse specs)
  have hall : (specs.map (·.reference)).length = specs.length := List.length_map _
  rw [List.length_map] at hleft
  rw [hleft, ← hall]
  refine List.length_filter_lt_length_iff_exists.2 ⟨some target, ?_, ?_⟩
  · exact List.mem_map.2 ⟨spec, hspec, hgiven⟩
  · simpa using hone

/-! ## Several rounds -/

/-- As many rounds as there are models are enough. -/
theorem collapse_iterate_of_length_le {rounds : Nat} (h : specs.length ≤ rounds) :
    collapseRootModels (collapseRootModels^[rounds] specs) = collapseRootModels^[rounds] specs := by
  induction rounds generalizing specs with
  | zero =>
    rw [List.length_eq_zero_iff.1 (Nat.le_zero.1 h)]
    rfl
  | succ rounds ih =>
    by_cases hsame : collapseRootModels specs = specs
    · rw [Function.iterate_fixed hsame, hsame]
    · have hlt := length_collapse_lt hsame
      rw [Function.iterate_succ_apply]
      exact ih (by omega)

/-- Every round takes one link of every chain. -/
theorem wrapsWithin_iterate (rounds height : Nat) :
    WrapsWithin (collapseRootModels^[rounds] specs) height target ↔
      WrapsWithin specs (height + rounds) target ∧ ¬ WrapsWithin specs rounds target := by
  induction rounds generalizing height with
  | zero => simp [WrapsWithin]
  | succ rounds ih =>
    have hsucc : WrapsWithin specs rounds target → WrapsWithin specs (rounds + 1) target :=
      WrapsWithin.succ
    rw [Function.iterate_succ_apply', wrapsWithin_collapse, ih, ih,
      show height + 1 + rounds = height + (rounds + 1) by omega, Nat.add_comm 1 rounds]
    tauto

/-- The models that are left after some rounds are those on top of no chain that low. -/
theorem references_iterate (specs : List ModelSpec) (rounds : Nat) :
    (collapseRootModels^[rounds] specs).map (·.reference) =
      (specs.map (·.reference)).filter fun reference =>
        ∀ target ∈ reference, ¬ WrapsWithin specs rounds target := by
  induction rounds with
  | zero => simp [WrapsWithin]
  | succ rounds ih =>
    have hleft : ∀ target, ¬ WrapsWithin specs (rounds + 1) target ↔
        ¬ WrapsWithin (collapseRootModels^[rounds] specs) 1 target ∧
          ¬ WrapsWithin specs rounds target := by
      intro target
      have hsucc : WrapsWithin specs rounds target → WrapsWithin specs (rounds + 1) target :=
        WrapsWithin.succ
      rw [wrapsWithin_iterate, Nat.add_comm 1 rounds]
      tauto
    rw [Function.iterate_succ_apply', references_collapse, ih, List.filter_filter]
    refine List.filter_congr fun reference _ => ?_
    rw [Bool.eq_iff_iff]
    simp only [Bool.and_eq_true, decide_eq_true_eq, hleft]
    cases reference <;> simp

/-- After some rounds, the types of fields mention no model that these rounds took. -/
theorem not_wrapsWithin_of_mem_targets {rounds : Nat} {spec : ModelSpec}
    (hspec : spec ∈ collapseRootModels^[rounds] specs)
    (htarget : target ∈ spec.fields.flatMap (·.type.targets)) :
    ¬ WrapsWithin specs rounds target := by
  induction rounds generalizing spec with
  | zero => exact id
  | succ rounds ih =>
    rw [Function.iterate_succ_apply'] at hspec
    obtain ⟨original, horiginal, -, rfl⟩ := mem_collapse_iff.1 hspec
    obtain ⟨hmentioned, hone⟩ := mem_targets_inline_iff.1 htarget
    have hnot := ih horiginal hmentioned
    rw [wrapsWithin_iterate, Nat.add_comm 1 rounds] at hone
    tauto

/-- How far inlining gets. Some rounds leave, in order, the models on top of no chain of as many
    root models, and no type of a field mentions another one. Another round changes nothing exactly
    if no root model is left that can be inlined, that is, if no chain is higher than the number of
    rounds; in particular a second round changes nothing exactly if no root model wraps models all
    of which can be inlined. As many rounds as there are models are always enough. -/
theorem collapse_settles_iff (specs : List ModelSpec) :
    (∀ rounds, (collapseRootModels^[rounds] specs).map (·.reference) =
        (specs.map (·.reference)).filter (fun reference =>
          ∀ target ∈ reference, ¬ WrapsWithin specs rounds target) ∧
      ∀ spec ∈ collapseRootModels^[rounds] specs, ∀ target ∈ spec.fields.flatMap (·.type.targets),
        ¬ WrapsWithin specs rounds target) ∧
    (∀ rounds, List.TFAE [
      collapseRootModels (collapseRootModels^[rounds] specs) = collapseRootModels^[rounds] specs,
      ∀ spec ∈ collapseRootModels^[rounds] specs, spec.reference ≠ none → ¬ spec.IsInlinable,
      ∀ target, WrapsWithin specs (rounds + 1) target → WrapsWithin specs rounds target]) ∧
    ∀ rounds, specs.length ≤ rounds →
      collapseRootModels (collapseRootModels^[rounds] specs) =
        collapseRootModels^[rounds] specs := by
  refine ⟨fun rounds => ⟨references_iterate specs rounds, fun spec hspec target htarget =>
    not_wrapsWithin_of_mem_targets hspec htarget⟩, fun rounds => ?_,
    fun rounds h => collapse_iterate_of_length_le h⟩
  tfae_have 1 ↔ 3 := by
    rw [collapse_eq_self_iff]
    refine forall_congr' fun target => ?_
    rw [wrapsWithin_iterate, Nat.add_comm 1 rounds]
    tauto
  tfae_have 1 ↔ 2 := by
    rw [collapse_eq_self_iff]
    simp only [wrapsWithin_one_iff]
    constructor
    · intro h spec hspec hgiven hinlinable
      obtain ⟨target, htarget⟩ := Option.ne_none_iff_exists'.1 hgiven
      exact h target ⟨spec, hspec, htarget, hinlinable⟩
    · rintro h target ⟨spec, hspec, hgiven, hinlinable⟩
      exact h spec hspec (by simp [hgiven]) hinlinable
  tfae_finish

/-- A tag is a label, a label is a text, and a parcel has a tag. -/
def taggedParcel : List ModelSpec :=
  [{ reference := some ⟨0⟩, kind := .root,
     fields := [{ type := .builtin "str", required := true }] },
   { reference := some ⟨1⟩, kind := .root,
     fields := [{ type := .model {} ⟨0⟩, required := true }] },
   { reference := some ⟨2⟩, fields := [{ name := some "tag", type := .model {} ⟨1⟩ }] }]

/-- One round leaves the tag, which wraps a text by then, and a second one takes it. -/
theorem tag_left_after_one_round :
    (taggedParcel.filterMap (·.reference)).Nodup ∧
    collapseRootModels (collapseRootModels taggedParcel) ≠ collapseRootModels taggedParcel ∧
    ∃ spec ∈ collapseRootModels taggedParcel, spec.reference = some ⟨1⟩ ∧ spec.IsInlinable := by
  refine ⟨by decide, fun hsame => ?_, _, List.mem_cons_self, rfl, rfl, rfl, _, rfl, rfl⟩
  exact absurd (congrArg List.length hsame) (by decide)

/-- Two rounds leave the parcel alone, and no third one is needed. -/
theorem collapse_settles_iff_taggedParcel :
    (collapseRootModels^[2] taggedParcel).map (·.reference) = [some ⟨2⟩] ∧
    collapseRootModels (collapseRootModels^[2] taggedParcel) =
      collapseRootModels^[2] taggedParcel := by
  obtain ⟨hleft, hsettled, -⟩ := collapse_settles_iff taggedParcel
  refine ⟨(hleft 2).1.trans (by decide), ((hsettled 2).out 0 2).2 ?_⟩
  rintro target ⟨spec, hspec, hgiven, hwrapper, -⟩
  simp only [taggedParcel, List.mem_cons, List.not_mem_nil, or_false] at hspec
  rcases hspec with rfl | rfl | rfl
  · cases hgiven
    decide
  · cases hgiven
    decide
  · cases hwrapper.1

end SchemaPress
