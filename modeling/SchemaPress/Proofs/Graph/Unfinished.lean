import SchemaPress.Proofs.Graph.FieldOrder
import SchemaPress.Proofs.Graph.InPlace

set_option autoImplicit false

/-! # When a model cannot be looked up

A reference that is bound leads to a model that is there, in every graph that calls lead to. The
exception is the time between binding the reference of a new model and storing the model: then this
one lookup fails (`Coherent.nullable?_bindNext`). Types are written in that time only to put the
fields of a dataclass in order, so adding a model breaks off exactly if it is a dataclass with
several fields one of which mentions it (`adding_breaks_off_iff`). -/

namespace SchemaPress

/-- In a dataclass, a field has the type that its specification has. -/
theorem Field.type_build_dataclass {options : Options} (h : options.flavor = .dataclass)
    (spec : FieldSpec) : (Field.build options spec).type = spec.type := by
  have hfreeze : ∀ field : Field, field.flavor = .dataclass → field.freeze.type = field.type := by
    intro field hflavor
    unfold Field.freeze
    rw [hflavor]
    split <;> rfl
  unfold Field.build
  simp only
  split
  · rw [type_defaultToLiteral, hfreeze _ h]
  · rw [hfreeze _ h]

theorem TypeTree.mem_targets_iff_model {tree : TypeTree} {target : RefId} :
    target ∈ tree.targets ↔ ∃ m, TypeTree.model m target ∈ tree.preorder := by
  rw [mem_targets]
  constructor
  · rintro ⟨node, hnode, htarget⟩
    cases node with
    | model m other =>
      cases htarget
      exact ⟨m, hnode⟩
    | _ => cases htarget
  · rintro ⟨m, hnode⟩
    exact ⟨_, hnode, rfl⟩

namespace Graph

section

variable {graph : Graph} {built : List ModelSpec}

/-- A reference that is bound leads to a model. -/
theorem Coherent.nullable?_eq (h : graph.Coherent built) (reference : RefId) :
    graph.nullable? reference = some (graph.isNullable reference) := by
  rw [← graph.getD_nullable?]
  unfold nullable?
  cases hsource : graph.sourceOf? reference with
  | none => rfl
  | some id =>
    obtain ⟨model, hmodel, -⟩ := h.sourceOf?_eq_some_iff.1 hsource
    simp [hmodel]

theorem Coherent.covers_eq_true (h : graph.Coherent built) (tree : TypeTree) :
    graph.lookups.covers tree = true :=
  List.all_eq_true.2 fun target _ => by
    rw [show graph.lookups.nullable? target = _ from h.nullable?_eq target]
    rfl

variable {reference : RefId}

/-- Once the reference of the next model is bound, its lookup fails, and no other one does. -/
theorem Coherent.nullable?_bindNext (h : graph.Coherent built)
    (hallocated : reference.index < graph.arena.refs.length) (target : RefId) :
    (graph.bindNext reference).nullable? target =
      if target = reference then none else some (graph.isNullable target) := by
  have hsource : (graph.bindNext reference).sourceOf? target =
      if target = reference then some graph.nextId else graph.sourceOf? target := by
    rw [graph.sourceOf?_bindNext reference {} target, graph.sourceOf?_grow {} hallocated]
  unfold nullable?
  rw [hsource]
  by_cases htarget : target = reference
  · rw [if_pos htarget, if_pos htarget]
    simp [model?, nextId, bindNext]
  · rw [if_neg htarget, if_neg htarget]
    exact h.nullable?_eq target

/-- The fields of the next model can be put in order unless it is a dataclass with several fields
    one of which mentions it. -/
theorem Coherent.canOrder_nextFields_iff (h : graph.Coherent built)
    (hallocated : reference.index < graph.arena.refs.length) (spec : ModelSpec) :
    (graph.bindNext reference).canOrder (graph.nextFields reference spec) = true ↔
      ¬ (graph.options.flavor = .dataclass ∧ 2 ≤ (keepFirstNames [] spec.fields).1.length ∧
        ∃ field ∈ (keepFirstNames [] spec.fields).1, reference ∈ field.type.targets) := by
  have hfinished : ∀ tree : TypeTree,
      (graph.bindNext reference).isFinished tree = true ↔ reference ∉ tree.targets := by
    intro tree
    rw [← covers_lookups, LookupScope.covers, List.all_eq_true]
    simp only [lookups, h.nullable?_bindNext hallocated]
    constructor
    · intro hall hmem
      simpa using hall reference hmem
    · intro hnot target htarget
      have hne : target ≠ reference := fun heq => hnot (heq ▸ htarget)
      rw [if_neg hne]
      rfl
  have hlength : (graph.nextFields reference spec).length =
      (keepFirstNames [] spec.fields).1.length :=
    List.length_map ..
  by_cases hflavor : graph.options.flavor = .dataclass
  · -- the fields of a dataclass have the types of their specifications
    have hall : ((graph.nextFields reference spec).all fun field =>
        (graph.bindNext reference).isFinished field.type) = true ↔
          ∀ field ∈ (keepFirstNames [] spec.fields).1, reference ∉ field.type.targets := by
      simp only [nextFields, buildFields, List.all_map, List.all_eq_true, Function.comp_apply,
        Field.type_build_dataclass hflavor, hfinished]
    have hcan : (graph.bindNext reference).canOrder (graph.nextFields reference spec) = true ↔
        (keepFirstNames [] spec.fields).1.length < 2 ∨
          ∀ field ∈ (keepFirstNames [] spec.fields).1, reference ∉ field.type.targets := by
      rw [← hall, ← hlength]
      simp [canOrder, bindNext, hflavor]
    rw [hcan, or_iff_not_imp_left, Nat.not_lt]
    simp [hflavor]
  · simp [canOrder, bindNext, hflavor]

/-- Adding a model breaks off exactly if the model gets to the order of its fields and is a
    dataclass with several fields one of which mentions it. -/
theorem Coherent.breaksOff_iff (h : graph.Coherent built) {spec : ModelSpec}
    (hallocated : ∀ reference, spec.reference = some reference →
      reference.index < graph.arena.refs.length) :
    ((addInPlace spec).runOn graph).1 = .error .unfinishedModel ↔
      ∃ reference, spec.reference = some reference ∧ spec.template ≠ some "" ∧
        graph.sourceOf? reference = none ∧ graph.options.flavor = .dataclass ∧
        2 ≤ (keepFirstNames [] spec.fields).1.length ∧
        ∃ field ∈ (keepFirstNames [] spec.fields).1, reference ∈ field.type.targets := by
  rcases graph.runOn_addInPlace_cases spec with
    ⟨hrefuses, failure, hfailure, hrun⟩ | ⟨haccepts, reference, hgiven, hrun⟩
  · rw [hrun]
    constructor
    · intro heq
      cases heq
      exact absurd rfl hfailure
    · rintro ⟨reference, hgiven, htemplate, hfree, -⟩
      exact absurd hrefuses (not_refuses_iff.2 ⟨reference, hgiven, htemplate, hfree⟩)
  · obtain ⟨other, hother, htemplate, hfree⟩ := not_refuses_iff.1 haccepts
    cases hgiven.symm.trans hother
    have hcan := h.canOrder_nextFields_iff (hallocated reference hgiven) spec
    rw [hrun]
    split
    · rename_i horder
      refine ⟨nofun, ?_⟩
      rintro ⟨other, hother, -, -, hmentioned⟩
      cases hgiven.symm.trans hother
      exact absurd hmentioned (hcan.1 horder)
    · rename_i horder
      have hmentioned := Classical.not_not.1 (mt hcan.2 horder)
      exact ⟨fun _ => ⟨reference, hgiven, htemplate, hfree, hmentioned⟩, fun _ => rfl⟩

end

/-- When adding a model breaks off, in place or not. Whatever calls a graph was reached by, a model
    for an allocated reference breaks off while its fields are put in order exactly if nothing keeps
    it from getting there, its graph has dataclasses, at least two fields are left when repeated
    names are dropped, and the type of one of them mentions the model, at any depth. In the graphs
    that calls lead to no lookup fails, so all types and fields can be written. -/
theorem adding_breaks_off_iff {graph : Graph} {built : List ModelSpec}
    (hreached : Reached graph built) (spec : ModelSpec)
    (hallocated : ∀ reference, spec.reference = some reference →
      reference.index < graph.arena.refs.length) :
    (graph.add spec = .error .unfinishedModel ↔
      ((addInPlace spec).runOn graph).1 = .error .unfinishedModel) ∧
    (((addInPlace spec).runOn graph).1 = .error .unfinishedModel ↔
      ∃ reference, spec.reference = some reference ∧ spec.template ≠ some "" ∧
        graph.sourceOf? reference = none ∧ graph.options.flavor = .dataclass ∧
        2 ≤ (keepFirstNames [] spec.fields).1.length ∧
        ∃ field ∈ (keepFirstNames [] spec.fields).1,
          ∃ m, TypeTree.model m reference ∈ field.type.preorder) ∧
    (∀ reference, graph.nullable? reference = some (graph.isNullable reference)) ∧
    (∀ tree : TypeTree, tree.hint? graph.lookups = some (tree.hint graph.scope)) ∧
    ∀ field : Field, field.view? graph.lookups = some (field.view graph.scope) := by
  have hcoherent := hreached.coherent
  refine ⟨?_, ?_, hcoherent.nullable?_eq, fun tree => ?_, fun field => ?_⟩
  · rw [add_eq_runOn]
    cases ((addInPlace spec).runOn graph).1 <;> simp [Except.map]
  · simp only [← TypeTree.mem_targets_iff_model]
    exact hcoherent.breaksOff_iff hallocated
  · rw [TypeTree.hint?_eq, hcoherent.covers_eq_true, graph.total_lookups, if_pos rfl]
  · rw [Field.view?_eq, hcoherent.covers_eq_true, graph.total_lookups, if_pos rfl]

/-- A branch carries leaves and, deep in the type of its second field, other branches. -/
def branchSpec : ModelSpec where
  reference := some ⟨0⟩
  fields := [{ name := some "leaves", type := .builtin "int" },
    { name := some "forks", type := .dict {} (.list { optional := true } (.model {} ⟨0⟩)) }]

/-- The graph of dataclasses to which the branch is added. -/
def beforeBranch : Graph :=
  (Graph.empty { flavor := .dataclass } {}).perform (.reference "#/Branch" "Branch")

/-- The branch without leaves. -/
def bareBranchSpec : ModelSpec :=
  { branchSpec with fields := branchSpec.fields.drop 1 }

/-- The branch breaks off, but it does not if it has only the field that mentions it. -/
theorem adding_breaks_off_iff_branch :
    ((addInPlace branchSpec).runOn beforeBranch).1 = .error .unfinishedModel ∧
    ((addInPlace bareBranchSpec).runOn beforeBranch).1 ≠ .error .unfinishedModel := by
  have hreached : Reached beforeBranch [] :=
    .call (.reference "#/Branch" "Branch") (.empty { flavor := .dataclass } {}) trivial
  have hallocated : ∀ reference : RefId, some ⟨0⟩ = some reference →
      reference.index < beforeBranch.arena.refs.length := by
    rintro reference ⟨⟩
    decide
  constructor
  · refine (adding_breaks_off_iff hreached branchSpec hallocated).2.1.2 ?_
    refine ⟨⟨0⟩, rfl, nofun, rfl, rfl, by decide, _, .tail _ (.head _), {}, ?_⟩
    exact .tail _ (.tail _ (.head _))
  · intro hbroken
    obtain ⟨-, -, -, -, -, hlength, -⟩ :=
      (adding_breaks_off_iff hreached bareBranchSpec hallocated).2.1.1 hbroken
    exact absurd hlength (by decide)

end Graph

end SchemaPress
