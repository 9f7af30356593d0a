import Mathlib.Data.List.Forall2
import SchemaPress.Proofs.Collapse

set_option autoImplicit false

/-! # Inlining as a substitution

What inlining makes of a list of specifications, said without the pass that does it. A reference
that stands for an inlinable root model is replaced by the type that the model wraps
(`Substituted`), a field that was such a reference takes over bounds (`FieldSpec.Collapsed`), and
nothing else changes (`ModelSpec.Collapsed`). If no two specifications have the same reference,
these rules have one result for every list, and it is the one that the pass computes
(`collapse_is_substitution`). -/

namespace SchemaPress

/-- A reference stands for an inlinable root model, and this is the field that the model wraps. -/
def Wraps (specs : List ModelSpec) (target : RefId) (wrapped : FieldSpec) : Prop :=
  ∃ spec ∈ specs, spec.reference = some target ∧ spec.IsInlinable ∧ spec.fields = [wrapped]

/-- A type and the same type with inlinable models replaced. A type in the place of a model is
    optional if either of them was. -/
inductive Substituted (specs : List ModelSpec) : TypeTree → TypeTree → Prop
  | replaced (m : Marks) {target : RefId} {wrapped : FieldSpec} : Wraps specs target wrapped →
      Substituted specs (.model m target) (wrapped.type.withMarks
        { wrapped.type.marks with optional := wrapped.type.marks.optional || m.optional })
  | kept (m : Marks) {target : RefId} : (∀ wrapped, ¬ Wraps specs target wrapped) →
      Substituted specs (.model m target) (.model m target)
  | empty (m : Marks) : Substituted specs (.empty m) (.empty m)
  | named (m : Marks) (type : NamedType) : Substituted specs (.named m type) (.named m type)
  | literal (m : Marks) (values : List Value) :
      Substituted specs (.literal m values) (.literal m values)
  | list (m : Marks) {item item' : TypeTree} :
      Substituted specs item item' → Substituted specs (.list m item) (.list m item')
  | set (m : Marks) {item item' : TypeTree} :
      Substituted specs item item' → Substituted specs (.set m item) (.set m item')
  | dict (m : Marks) {value value' : TypeTree} :
      Substituted specs value value' → Substituted specs (.dict m value) (.dict m value')
  | keyedDict (m : Marks) {key key' value value' : TypeTree} :
      Substituted specs key key' → Substituted specs value value' →
      Substituted specs (.keyedDict m key value) (.keyedDict m key' value')
  | union (m : Marks) {members members' : List TypeTree} :
      List.Forall₂ (Substituted specs) members members' →
      Substituted specs (.union m members) (.union m members')

/-- The bound that a field has for a kind of constraint. -/
def FieldSpec.bound? (field : FieldSpec) (kind : ConstraintKind) : Option Bound :=
  field.constraints.bind (·.get? kind)

/-- A field and the same field after inlining. -/
structure FieldSpec.Collapsed (specs : List ModelSpec) (before after : FieldSpec) : Prop where
  type : Substituted specs before.type after.type
  /-- A field that was an inlined model has its own bounds, and those of the model otherwise. -/
  taken : ∀ target wrapped, before.type.target? = some target → Wraps specs target wrapped →
    (∀ kind, after.bound? kind = (before.bound? kind <|> wrapped.bound? kind)) ∧
      (after.constraints = none ↔ before.constraints = none ∧ wrapped.constraints = none)
  /-- Any other field has the constraints that it had. -/
  own : (∀ target wrapped, before.type.target? = some target → ¬ Wraps specs target wrapped) →
    after.constraints = before.constraints
  others : after = { before with type := after.type, constraints := after.constraints }

/-- A model and the same model after inlining. -/
structure ModelSpec.Collapsed (specs : List ModelSpec) (before after : ModelSpec) : Prop where
  fields : List.Forall₂ (FieldSpec.Collapsed specs) before.fields after.fields
  others : after = { before with fields := after.fields }

instance (spec : ModelSpec) : Decidable spec.IsInlinable :=
  decidable_of_iff (spec.kind = .root ∧ spec.nullable = false ∧ spec.fields.length = 1 ∧
      ∀ field ∈ spec.fields, field.type.targets = []) <| by
    unfold ModelSpec.IsInlinable
    rcases spec.fields with _ | ⟨field, _ | ⟨second, rest⟩⟩ <;> simp

/-- A relation that says what becomes of each member says what becomes of the list. -/
theorem forall₂_iff_eq_map {α β : Type} {R : α → β → Prop} {f : α → β} {members : List α}
    {results : List β} (h : ∀ member ∈ members, ∀ result, R member result ↔ result = f member) :
    List.Forall₂ R members results ↔ results = members.map f := by
  induction members generalizing results with
  | nil => simp
  | cons member rest ih =>
    rw [List.forall₂_cons_left_iff, List.map_cons]
    constructor
    · rintro ⟨first, others, hfirst, hothers, rfl⟩
      rw [(h member List.mem_cons_self first).1 hfirst,
        (ih fun other hother => h other (List.mem_cons_of_mem _ hother)).1 hothers]
    · rintro rfl
      exact ⟨f member, rest.map f, (h member List.mem_cons_self _).2 rfl,
        (ih fun other hother => h other (List.mem_cons_of_mem _ hother)).2 rfl, rfl⟩

/-- Merging takes each bound from the second set if it is there, and has no result only if there is
    no set at all. -/
theorem ConstraintSet.eq_merge_iff {a b c : Option ConstraintSet} :
    c = ConstraintSet.merge a b ↔
      (∀ kind, c.bind (·.get? kind) = (b.bind (·.get? kind) <|> a.bind (·.get? kind))) ∧
        (c = none ↔ b = none ∧ a = none) := by
  have hext : ∀ x y : ConstraintSet, x = y ↔ ∀ kind, x.get? kind = y.get? kind := fun x y =>
    ⟨fun h _ => h ▸ rfl, fun h => congrArg ConstraintSet.mk (funext h)⟩
  cases a with
  | none => cases b <;> cases c <;> simp [merge, hext]
  | some a =>
    cases b with
    | none => cases c <;> simp [merge, hext]
    | some b =>
      cases c with
      | none => simp [merge]
      | some c => simp [merge, hext, override, Option.orElse_eq_orElse, Option.orElse_eq_or]

/-! ## The reference of an inlinable model -/

section

variable {specs : List ModelSpec} (hdistinct : (specs.filterMap (·.reference)).Nodup)

include hdistinct

/-- There is one specification at most for a reference. -/
theorem eq_of_reference_eq {spec other : ModelSpec} {target : RefId} (hspec : spec ∈ specs)
    (hother : other ∈ specs) (h : spec.reference = some target)
    (h' : other.reference = some target) : spec = other := by
  induction specs with
  | nil => cases hspec
  | cons first rest ih =>
    -- a second specification with the reference of the first one would repeat it
    have hfirst : ∀ later ∈ rest, first.reference = some target →
        later.reference ≠ some target := by
      intro later hlater hgiven hagain
      rw [List.filterMap_cons_some hgiven, List.nodup_cons] at hdistinct
      exact hdistinct.1 (List.mem_filterMap.2 ⟨later, hlater, hagain⟩)
    rcases List.mem_cons.1 hspec with rfl | hlater
    · rcases List.mem_cons.1 hother with rfl | hlater'
      · rfl
      · exact absurd h' (hfirst other hlater' h)
    · rcases List.mem_cons.1 hother with rfl | hlater'
      · exact absurd h (hfirst spec hlater h')
      · exact ih (hdistinct.sublist ((List.sublist_cons_self first rest).filterMap _)) hlater
          hlater'

/-- An inlinable model wraps one field. -/
theorem Wraps.unique {target : RefId} {wrapped other : FieldSpec} (h : Wraps specs target wrapped)
    (h' : Wraps specs target other) : wrapped = other := by
  obtain ⟨spec, hspec, hgiven, -, hfields⟩ := h
  obtain ⟨spec', hspec', hgiven', -, hfields'⟩ := h'
  cases eq_of_reference_eq hdistinct hspec hspec' hgiven hgiven'
  exact List.singleton_inj.1 (hfields.symm.trans hfields')

/-- What takes the place of a reference is what its model wraps. -/
theorem Inlining.find?_eq_some_iff {target : RefId} {inlining : Inlining} :
    Inlining.find? specs target = some inlining ↔
      ∃ wrapped, Wraps specs target wrapped ∧
        inlining = ⟨wrapped.type, wrapped.constraints⟩ := by
  have hfound : ∀ {found : Inlining}, Inlining.find? specs target = some found →
      ∃ wrapped, Wraps specs target wrapped ∧ found = ⟨wrapped.type, wrapped.constraints⟩ := by
    intro found h
    obtain ⟨spec, hspec, hof⟩ := Inlining.exists_ofSpec?_of_find? h
    obtain ⟨hgiven, hinlinable, wrapped, hfields, hfound⟩ := Inlining.ofSpec?_eq_some_iff.1 hof
    exact ⟨wrapped, ⟨spec, hspec, hgiven, hinlinable, hfields⟩, hfound⟩
  refine ⟨hfound, ?_⟩
  rintro ⟨wrapped, hwraps, rfl⟩
  -- something is found, and there is only one candidate
  have ⟨spec, hspec, hgiven, hinlinable, _⟩ := hwraps
  obtain ⟨found, h⟩ := Option.isSome_iff_exists.1
    (Inlining.isSome_find?_iff.2 ⟨spec, hspec, hgiven, hinlinable⟩)
  obtain ⟨other, hother, rfl⟩ := hfound h
  rw [h, Wraps.unique hdistinct hwraps hother]

theorem Inlining.find?_eq_none_iff {target : RefId} :
    Inlining.find? specs target = none ↔ ∀ wrapped, ¬ Wraps specs target wrapped := by
  rw [Option.eq_none_iff_forall_ne_some]
  simp only [ne_eq, Inlining.find?_eq_some_iff hdistinct]
  exact ⟨fun h wrapped hwraps => h _ ⟨wrapped, hwraps, rfl⟩,
    fun h _ ⟨wrapped, hwraps, _⟩ => h wrapped hwraps⟩

/-! ## Types, fields and models -/

/-- Types are inlined by the rules of substitution. -/
theorem substituted_iff {tree result : TypeTree} :
    Substituted specs tree result ↔ result = tree.inline (Inlining.find? specs) := by
  induction tree generalizing result with
  | empty m => exact ⟨fun h => by cases h; rfl, fun h => h ▸ .empty m⟩
  | named m type => exact ⟨fun h => by cases h; rfl, fun h => h ▸ .named m type⟩
  | literal m values => exact ⟨fun h => by cases h; rfl, fun h => h ▸ .literal m values⟩
  | model m target =>
    rw [TypeTree.inline]
    cases hfind : Inlining.find? specs target with
    | none =>
      have hnone := (Inlining.find?_eq_none_iff hdistinct).1 hfind
      constructor
      · intro h
        cases h with
        | replaced _ hwraps => exact absurd hwraps (hnone _)
        | kept => rfl
      · rintro rfl
        exact .kept m hnone
    | some inlining =>
      obtain ⟨wrapped, hwraps, rfl⟩ := (Inlining.find?_eq_some_iff hdistinct).1 hfind
      constructor
      · intro h
        cases h with
        | replaced _ hother => rw [Wraps.unique hdistinct hother hwraps]
        | kept _ hnone => exact absurd hwraps (hnone _)
      · rintro rfl
        exact .replaced m hwraps
  | list m item ih =>
    constructor
    · intro h
      cases h with
      | list _ hitem => rw [ih.1 hitem, TypeTree.inline]
    · rintro rfl
      exact .list m (ih.2 rfl)
  | set m item ih =>
    constructor
    · intro h
      cases h with
      | set _ hitem => rw [ih.1 hitem, TypeTree.inline]
    · rintro rfl
      exact .set m (ih.2 rfl)
  | dict m value ih =>
    constructor
    · intro h
      cases h with
      | dict _ hvalue => rw [ih.1 hvalue, TypeTree.inline]
    · rintro rfl
      exact .dict m (ih.2 rfl)
  | keyedDict m key value ihkey ihvalue =>
    constructor
    · intro h
      cases h with
      | keyedDict _ hkey hvalue => rw [ihkey.1 hkey, ihvalue.1 hvalue, TypeTree.inline]
    · rintro rfl
      exact .keyedDict m (ihkey.2 rfl) (ihvalue.2 rfl)
  | union m members ih =>
    have hmembers : ∀ {results : List TypeTree}, List.Forall₂ (Substituted specs) members results ↔
        results = members.map (TypeTree.inline (Inlining.find? specs)) :=
      forall₂_iff_eq_map fun member hmember result => ih member hmember
    rw [TypeTree.inline, TypeTree.inlineAll_eq_map]
    constructor
    · intro h
      cases h with
      | union _ h => rw [hmembers.1 h]
    · rintro rfl
      exact .union m (hmembers.2 rfl)

/-- Fields are inlined by the rules: what they take over is what merging constraints gives. -/
theorem FieldSpec.collapsed_iff {before after : FieldSpec} :
    FieldSpec.Collapsed specs before after ↔ after = before.inline (Inlining.find? specs) := by
  unfold FieldSpec.inline
  cases hfind : before.type.target?.bind (Inlining.find? specs) with
  | none =>
    -- the field was no inlined model
    have hown : ∀ target wrapped, before.type.target? = some target →
        ¬ Wraps specs target wrapped := by
      intro target wrapped htarget
      rw [htarget, Option.bind_some, Inlining.find?_eq_none_iff hdistinct] at hfind
      exact hfind wrapped
    constructor
    · intro h
      rw [h.others, (substituted_iff hdistinct).1 h.type, h.own hown]
    · rintro rfl
      exact ⟨(substituted_iff hdistinct).2 rfl,
        fun target wrapped htarget hwraps => absurd hwraps (hown target wrapped htarget),
        fun _ => rfl, rfl⟩
  | some inlining =>
    obtain ⟨target, htarget, hinlining⟩ := Option.bind_eq_some_iff.1 hfind
    obtain ⟨wrapped, hwraps, rfl⟩ := (Inlining.find?_eq_some_iff hdistinct).1 hinlining
    constructor
    · intro h
      rw [h.others, (substituted_iff hdistinct).1 h.type,
        ConstraintSet.eq_merge_iff.2 (h.taken target wrapped htarget hwraps)]
    · rintro rfl
      refine ⟨(substituted_iff hdistinct).2 rfl, ?_, fun hown => absurd hwraps
        (hown target wrapped htarget), rfl⟩
      intro target' wrapped' htarget' hwraps'
      cases htarget.symm.trans htarget'
      cases Wraps.unique hdistinct hwraps hwraps'
      exact ConstraintSet.eq_merge_iff.1 rfl

/-- A model is left out exactly if it has a reference and can be inlined. -/
theorem ModelSpec.isInlined_iff {spec : ModelSpec} (hspec : spec ∈ specs) :
    spec.isInlined (Inlining.find? specs) = true ↔ spec.reference ≠ none ∧ spec.IsInlinable := by
  unfold ModelSpec.isInlined
  cases hgiven : spec.reference with
  | none => simp
  | some target =>
    rw [Option.bind_some, Inlining.isSome_find?_iff]
    constructor
    · rintro ⟨other, hother, hgiven', hinlinable⟩
      rw [eq_of_reference_eq hdistinct hspec hother hgiven hgiven']
      exact ⟨by simp, hinlinable⟩
    · rintro ⟨-, hinlinable⟩
      exact ⟨spec, hspec, hgiven, hinlinable⟩

/-- Models are inlined by the rules. -/
theorem ModelSpec.collapsed_iff {before after : ModelSpec} :
    ModelSpec.Collapsed specs before after ↔ after =
      { before with fields := before.fields.map (FieldSpec.inline (Inlining.find? specs)) } := by
  have hfields : ∀ {results : List FieldSpec},
      List.Forall₂ (FieldSpec.Collapsed specs) before.fields results ↔
        results = before.fields.map (FieldSpec.inline (Inlining.find? specs)) :=
    forall₂_iff_eq_map fun field _ result => FieldSpec.collapsed_iff hdistinct
  constructor
  · intro h
    rw [h.others, hfields.1 h.fields]
  · rintro rfl
    exact ⟨hfields.2 rfl, rfl⟩

end

/-- Inlining root models is a substitution. If no two specifications have the same reference, the
    result is the list, in order, of the models that cannot be inlined, each of them with the
    fields that the rules give it; the rules allow no other result. And no type of a field mentions
    a model that was left out. -/
theorem collapse_is_substitution {specs : List ModelSpec}
    (hdistinct : (specs.filterMap (·.reference)).Nodup) :
    (∀ result, result = collapseRootModels specs ↔
      List.Forall₂ (ModelSpec.Collapsed specs)
        (specs.filter fun spec => ¬ (spec.reference ≠ none ∧ spec.IsInlinable)) result) ∧
    ∀ spec ∈ collapseRootModels specs, ∀ field ∈ spec.fields, ∀ target ∈ field.type.targets,
      ∀ other ∈ specs, other.reference = some target → ¬ other.IsInlinable := by
  have hkept : specs.filter (fun spec => ¬ (spec.reference ≠ none ∧ spec.IsInlinable)) =
      specs.filter (!·.isInlined (Inlining.find? specs)) := by
    refine List.filter_congr fun spec hspec => ?_
    rw [Bool.eq_iff_iff, decide_eq_true_iff, Bool.not_eq_true', ← Bool.not_eq_true]
    exact not_congr (ModelSpec.isInlined_iff hdistinct hspec).symm
  refine ⟨fun result => ?_, fun spec hspec field hfield target htarget other hother hgiven => ?_⟩
  · rw [hkept]
    exact (forall₂_iff_eq_map fun spec _ after =>
      @ModelSpec.collapsed_iff specs hdistinct spec after).symm
  · obtain ⟨_, _, _, htargets⟩ := origin_of_mem_kept
      (show spec ∈ keptModels true specs from hspec)
    have hnot := (htargets target (List.mem_flatMap.2 ⟨field, hfield, htarget⟩)).2
    exact fun hinlinable => hnot ⟨rfl, other, hother, hgiven, hinlinable⟩

/-- What a label wraps: a text that is not empty. -/
def labelField : FieldSpec where
  type := .builtin "str"
  required := true
  constraints := some (ConstraintSet.empty.insert .minLength (.count 1))

/-- A parcel is derived from labels, and has a short label or none and marks by labels. -/
def parcelSpec : ModelSpec where
  reference := some ⟨1⟩
  bases := [⟨0⟩]
  fields :=
    [{ name := some "label"
       type := .model { optional := true } ⟨0⟩
       constraints := some (ConstraintSet.empty.insert .maxLength (.count 9)) },
     { name := some "marks"
       type := .keyedDict {} (.model {} ⟨0⟩) (.union {} [.model {} ⟨0⟩, .model {} ⟨1⟩]) }]

/-- A label and a parcel. -/
def parcelSpecs : List ModelSpec :=
  [{ reference := some ⟨0⟩, kind := .root, fields := [labelField] }, parcelSpec]

/-- The fields of a parcel when labels are inlined. -/
def inlinedFields : List FieldSpec :=
  [{ name := some "label"
     type := .named { optional := true } { name := "str" }
     constraints := some ((ConstraintSet.empty.insert .maxLength (.count 9)).insert .minLength
       (.count 1)) },
   { name := some "marks"
     type := .keyedDict {} (.builtin "str") (.union {} [.builtin "str", .model {} ⟨1⟩]) }]

/-- Labels are written in the place of their reference, and nothing mentions them but the base class
    of the parcel. -/
theorem collapse_is_substitution_parcel :
    (parcelSpecs.filterMap (·.reference)).Nodup ∧
    [{ parcelSpec with fields := inlinedFields }] = collapseRootModels parcelSpecs ∧
    ∀ spec ∈ collapseRootModels parcelSpecs, ∀ field ∈ spec.fields,
      (⟨0⟩ : RefId) ∉ field.type.targets := by
  have hdistinct : (parcelSpecs.filterMap (·.reference)).Nodup := by decide
  obtain ⟨hresult, hgone⟩ := collapse_is_substitution hdistinct
  have hlabel : Wraps parcelSpecs ⟨0⟩ labelField :=
    ⟨_, List.mem_cons_self, rfl, ⟨rfl, rfl, labelField, rfl, rfl⟩, rfl⟩
  have hparcel : ∀ wrapped, ¬ Wraps parcelSpecs ⟨1⟩ wrapped := by
    rintro wrapped ⟨spec, hspec, hgiven, ⟨hkind, -⟩, -⟩
    simp only [parcelSpecs, List.mem_cons, List.not_mem_nil, or_false] at hspec
    rcases hspec with rfl | rfl
    · cases hgiven
    · cases hkind
  refine ⟨hdistinct, (hresult _).2 (.cons ⟨.cons ⟨.replaced _ hlabel, ?_, ?_, rfl⟩
    (.cons ⟨.keyedDict _ (.replaced _ hlabel) (.union _ (.cons (.replaced _ hlabel)
      (.cons (.kept _ hparcel) .nil))), nofun, fun _ => rfl, rfl⟩ .nil), rfl⟩ .nil), ?_⟩
  · rintro target wrapped htarget hwraps
    cases htarget
    cases Wraps.unique hdistinct hlabel hwraps
    exact ⟨fun kind => by cases kind <;> rfl, by simp⟩
  · exact fun hown => absurd hlabel (hown ⟨0⟩ labelField rfl)
  · exact fun spec hspec field hfield htarget =>
      hgone spec hspec field hfield ⟨0⟩ htarget _ List.mem_cons_self rfl
        ⟨rfl, rfl, labelField, rfl, rfl⟩

end SchemaPress
