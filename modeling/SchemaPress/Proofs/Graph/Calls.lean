import Mathlib.Data.List.Basic
import SchemaPress.Proofs.Graph.Grow

set_option autoImplicit false

/-! # What calls make of a graph

A graph changes by calls only: references are allocated, models are added or refused, classes are
renamed, and extras are changed. `Reached` follows any sequence of such calls from the empty graph
and keeps, beside the graph, the specifications that were accepted, in order.

The links between references and models are stored twice, in the arena and in the models. Both
sides agree with the list of accepted specifications (`Coherent`): every model is made of the
specification in its place, a reference is bound to the place of the specification that was given
for it, and its children are the places of the specifications that name it as a base class. One
lemma per call shows that this stays so. -/

namespace SchemaPress.Graph

/-- What can be asked of a graph. -/
inductive Call
  /-- Find or allocate a reference. -/
  | reference (path name : String)
  /-- Add a model. -/
  | add (spec : ModelSpec)
  /-- Give the class of a model another name. -/
  | rename (id : ModelId) (className : String)
  /-- Change what the extras say. -/
  | amend (extras : Extras)

/-- The graph after a call; a model that is refused leaves it as it was. -/
def perform (graph : Graph) : Call → Graph
  | .reference path name => (graph.allocate path name).2
  | .add spec =>
    match graph.add spec with
    | .ok (_, grown) => grown
    | .error _ => graph
  | .rename id className => graph.rename id className
  | .amend extras => { graph with extras := extras }

/-- The specification that a call makes a model of, if it does. -/
def accepted? (graph : Graph) : Call → Option ModelSpec
  | .add spec =>
    match graph.add spec with
    | .ok _ => some spec
    | .error _ => none
  | _ => none

/-- The places in the arena that adding a model writes to. -/
def linkedReferences (spec : ModelSpec) : List RefId :=
  spec.reference.toList ++ spec.bases

/-- A call that returns, be it with a failure: what it writes to is allocated, and it does not break
    off while it puts fields in order. -/
def Call.Returns (graph : Graph) : Call → Prop
  | .add spec =>
    (∀ reference ∈ linkedReferences spec, reference.index < graph.arena.refs.length) ∧
      graph.add spec ≠ .error .unfinishedModel
  | _ => True

/-- The graphs that calls lead to, each with the specifications of its models. -/
inductive Reached : Graph → List ModelSpec → Prop
  | empty (options : Options) (extras : Extras) : Reached (.empty options extras) []
  | call {graph : Graph} {built : List ModelSpec} (call : Call) :
      Reached graph built → call.Returns graph →
      Reached (graph.perform call) (built ++ (graph.accepted? call).toList)

/-- A model is refused, which changes nothing, or the graph grows by it. -/
theorem perform_add (graph : Graph) (spec : ModelSpec) :
    (graph.perform (.add spec) = graph ∧ graph.accepted? (.add spec) = none) ∨
    ∃ target, spec.reference = some target ∧ graph.sourceOf? target = none ∧
      (graph.bindNext target).canOrder (graph.nextFields target spec) = true ∧
      graph.perform (.add spec) = graph.grow target spec ∧
      graph.accepted? (.add spec) = some spec := by
  cases hadd : graph.add spec with
  | error failure =>
    left
    simp only [perform, accepted?, hadd, and_self]
  | ok result =>
    obtain ⟨target, hgiven, -, hfree, horder, -, hgrown⟩ := add_eq_ok_iff.1 hadd
    right
    refine ⟨target, hgiven, hfree, horder, ?_⟩
    simp only [perform, accepted?, hadd, hgrown, and_self]

/-! ## Children among specifications -/

/-- The places of the specifications that name a base class, in ascending order. -/
def childrenAmong (built : List ModelSpec) (base : RefId) : List ModelId :=
  (built.zipIdx.filter fun entry => entry.1.bases.contains base).map fun entry => ⟨entry.2⟩

theorem mem_childrenAmong {built : List ModelSpec} {base : RefId} {id : ModelId} :
    id ∈ childrenAmong built base ↔
      ∃ spec, built[id.index]? = some spec ∧ base ∈ spec.bases := by
  simp only [childrenAmong, List.mem_map, List.mem_filter, List.contains_iff_mem, Prod.exists,
    List.mem_zipIdx_iff_getElem?]
  constructor
  · rintro ⟨spec, place, ⟨hspec, hbase⟩, rfl⟩
    exact ⟨spec, hspec, hbase⟩
  · rintro ⟨spec, hspec, hbase⟩
    exact ⟨spec, id.index, ⟨hspec, hbase⟩, rfl⟩

/-- Children are listed in strictly ascending order. -/
theorem pairwise_childrenAmong (built : List ModelSpec) (base : RefId) :
    (childrenAmong built base).Pairwise fun a b => a.index < b.index := by
  have hplaces : (built.zipIdx.map Prod.snd).Pairwise (· < ·) := by
    rw [List.zipIdx_map_snd]
    exact List.pairwise_lt_range'
  unfold childrenAmong
  rw [List.pairwise_map]
  exact (List.pairwise_map.1 hplaces).filter _

/-- One specification more adds its place to the children of its base classes. -/
theorem childrenAmong_append (built : List ModelSpec) (spec : ModelSpec) (base : RefId) :
    childrenAmong (built ++ [spec]) base =
      childrenAmong built base ++ if base ∈ spec.bases then [⟨built.length⟩] else [] := by
  unfold childrenAmong
  rw [List.zipIdx_append, List.filter_append, List.map_append]
  by_cases hbase : base ∈ spec.bases
  · simp [hbase]
  · simp [hbase]

/-- The children of a reference that no specification names are none. -/
theorem childrenAmong_eq_nil {built : List ModelSpec} {base : RefId}
    (h : ∀ spec ∈ built, base ∉ spec.bases) : childrenAmong built base = [] := by
  refine List.eq_nil_iff_forall_not_mem.2 fun id hid => ?_
  obtain ⟨spec, hspec, hbase⟩ := mem_childrenAmong.1 hid
  exact h spec (List.mem_of_getElem? hspec) hbase

/-! ## Graphs that agree with their specifications -/

/-- A model in its place is made of a specification, with what some graph said at that time. -/
def MadeOf (model : Model) (place : Nat) (spec : ModelSpec) : Prop :=
  spec.reference = some model.reference ∧
    ∃ earlier : Graph, earlier.models.length = place ∧
      model = earlier.nextModel model.reference spec

/-- Models and references agree with the specifications that were accepted. -/
structure Coherent (graph : Graph) (built : List ModelSpec) : Prop where
  length : built.length = graph.models.length
  made : ∀ (place : Nat) (model : Model), graph.models[place]? = some model →
    ∃ spec, built[place]? = some spec ∧ MadeOf model place spec
  allocated : ∀ spec ∈ built, ∀ reference ∈ linkedReferences spec,
    reference.index < graph.arena.refs.length
  sources : ∀ (reference : RefId) (id : ModelId), graph.sourceOf? reference = some id ↔
    ∃ spec, built[id.index]? = some spec ∧ spec.reference = some reference
  children : ∀ (place : RefId) (reference : Reference), graph.arena.get? place = some reference →
    reference.children = childrenAmong built place

theorem coherent_empty (options : Options) (extras : Extras) :
    (Graph.empty options extras).Coherent [] where
  length := rfl
  made := by simp [Graph.empty]
  allocated := by simp
  sources := by simp [sourceOf?, Graph.empty, Arena.get?]
  children := by simp [Graph.empty, Arena.get?]

section

variable {graph : Graph} {built : List ModelSpec}

/-- A new reference is bound to nothing and has no children. -/
theorem Coherent.allocate (h : graph.Coherent built) (path name : String) :
    (graph.allocate path name).2.Coherent built where
  length := h.length
  made := h.made
  allocated := fun spec hspec reference hreference =>
    Nat.lt_of_lt_of_le (h.allocated spec hspec reference hreference)
      (graph.arena.length_refs_le_allocate path name)
  sources := fun reference id => by rw [sourceOf?_allocate, h.sources]
  children := by
    intro place reference hplace
    by_cases hold : place.index < graph.arena.refs.length
    · exact h.children place reference (graph.arena.get?_allocate path name hold ▸ hplace)
    · -- no specification can name a place that was not allocated
      have hunnamed : ∀ spec ∈ built, place ∉ spec.bases := fun spec hspec hbase =>
        hold (h.allocated spec hspec place (List.mem_append_right _ hbase))
      rw [childrenAmong_eq_nil hunnamed]
      have hplace : (graph.arena.allocate path name).2.refs[place.index]? = some reference := hplace
      rcases graph.arena.allocate_refs path name with hrefs | ⟨fresh, -, hchildren, hrefs⟩
      · rw [hrefs, List.getElem?_eq_none (Nat.le_of_not_lt hold)] at hplace
        cases hplace
      · rw [hrefs, List.getElem?_append_right (Nat.le_of_not_lt hold), List.getElem?_singleton,
          Option.ite_none_right_eq_some, Option.some.injEq] at hplace
        rw [← hplace.2]
        exact hchildren

/-- Another name touches no link. -/
theorem Coherent.rename (h : graph.Coherent built) (id : ModelId) (className : String) :
    (graph.rename id className).Coherent built := by
  unfold Graph.rename
  cases graph.model? id with
  | none => exact h
  | some model =>
    exact {
      length := h.length
      made := h.made
      allocated := fun spec hspec reference hreference => by
        rw [Arena.length_refs_rename]
        exact h.allocated spec hspec reference hreference
      sources := fun reference target => by
        rw [← h.sources, sourceOf?_eq_join, sourceOf?_eq_join,
          Arena.map_get?_rename (fun r => r.source) (fun _ _ => rfl)]
      children := fun place reference hplace => by
        have hview := Arena.map_get?_rename (fun r => r.children) (fun _ _ => rfl) graph.arena
          model.reference className place
        rw [show (graph.arena.rename model.reference className).get? place = some reference from
          hplace, Option.map_some] at hview
        obtain ⟨old, hold, heq⟩ := Option.map_eq_some_iff.1 hview.symm
        rw [← heq]
        exact h.children place old hold }

/-- The children of a reference after a model was added. -/
theorem Coherent.children_grow (h : graph.Coherent built) (target : RefId) (spec : ModelSpec)
    {place : RefId} {reference : Reference}
    (hplace : (graph.grow target spec).arena.get? place = some reference) :
    reference.children = childrenAmong (built ++ [spec]) place := by
  have hchildren := Arena.children_addChildren (graph.arena.fill target graph.nextId) spec.bases
    graph.nextId place
  rw [show (spec.bases.foldl (fun arena base => arena.addChild base graph.nextId)
    (graph.arena.fill target graph.nextId)).get? place = some reference from hplace,
    Option.map_some] at hchildren
  obtain ⟨bound, hbound, heq⟩ := Option.map_eq_some_iff.1 hchildren.symm
  -- binding changes no children, so these are the ones from before
  have hview := Arena.map_get?_modify (fun r : Reference => r.children)
    (f := fun r => { r with source := some graph.nextId }) (fun _ => rfl) graph.arena target place
  rw [show (graph.arena.modify target fun r => { r with source := some graph.nextId }).get? place =
    some bound from hbound, Option.map_some] at hview
  obtain ⟨old, hold, hsame⟩ := Option.map_eq_some_iff.1 hview.symm
  have hbefore : bound.children = childrenAmong built place := by
    rw [← hsame]
    exact h.children place old hold
  have hnew : graph.nextId ∉ bound.children := by
    rw [hbefore, mem_childrenAmong]
    rintro ⟨other, hother, -⟩
    have hlt := (List.getElem?_eq_some_iff.1 hother).1
    rw [h.length] at hlt
    exact Nat.lt_irrefl _ hlt
  rw [← heq, childrenAmong_append, ← hbefore, h.length]
  by_cases hbase : place ∈ spec.bases
  · rw [if_pos ⟨hbase, hnew⟩, if_pos hbase]
    rfl
  · rw [if_neg fun hboth => hbase hboth.1, if_neg hbase, List.append_nil]

/-- A model that is added takes the next place, and its specification is the last one. -/
theorem Coherent.grow (h : graph.Coherent built) {target : RefId} {spec : ModelSpec}
    (hgiven : spec.reference = some target) (hfree : graph.sourceOf? target = none)
    (hallocated : ∀ reference ∈ linkedReferences spec,
      reference.index < graph.arena.refs.length) :
    (graph.grow target spec).Coherent (built ++ [spec]) where
  length := by simp [h.length]
  made := by
    intro place model hmodel
    rw [models_grow] at hmodel
    rcases Nat.lt_trichotomy place graph.models.length with hlt | heq | hgt
    · rw [List.getElem?_append_left hlt] at hmodel
      obtain ⟨old, hold, hmade⟩ := h.made place model hmodel
      exact ⟨old, by rw [List.getElem?_append_left (h.length ▸ hlt), hold], hmade⟩
    · subst heq
      rw [List.getElem?_append_right (Nat.le_refl _), Nat.sub_self] at hmodel
      have hmodel : model = graph.nextModel target spec := by simpa using hmodel.symm
      subst hmodel
      refine ⟨spec, ?_, hgiven, graph, rfl, rfl⟩
      rw [← h.length, List.getElem?_append_right (Nat.le_refl _), Nat.sub_self]
      rfl
    · rw [List.getElem?_eq_none (by simp; omega)] at hmodel
      cases hmodel
  allocated := by
    have hlength : (graph.grow target spec).arena.refs.length = graph.arena.refs.length := by
      simp [Graph.grow]
    rw [hlength]
    intro other hother reference hreference
    rcases List.mem_append.1 hother with hother | hother
    · exact h.allocated other hother reference hreference
    · rw [List.mem_singleton.1 hother] at hreference
      exact hallocated reference hreference
  sources := by
    have htarget : target.index < graph.arena.refs.length :=
      hallocated target (by simp [linkedReferences, hgiven])
    intro reference id
    rw [graph.sourceOf?_grow spec htarget]
    by_cases hid : id.index < built.length
    · -- an earlier model: its reference cannot be the new one, which was free
      rw [List.getElem?_append_left hid, ← h.sources]
      by_cases hreference : reference = target
      · rw [if_pos hreference, hreference, hfree]
        refine ⟨fun hnew => ?_, fun hold => by cases hold⟩
        have hnext := Option.some.inj hnew
        rw [← hnext, h.length] at hid
        exact absurd hid (Nat.lt_irrefl _)
      · rw [if_neg hreference]
    · rw [List.getElem?_append_right (Nat.le_of_not_lt hid)]
      constructor
      · intro hsource
        split at hsource
        · rename_i hreference
          have hnext := Option.some.inj hsource
          refine ⟨spec, ?_, hreference ▸ hgiven⟩
          rw [← hnext, h.length]
          simp [nextId]
        · obtain ⟨other, hother, -⟩ := (h.sources reference id).1 hsource
          exact absurd (List.getElem?_eq_some_iff.1 hother).1 hid
      · rintro ⟨other, hother, hreference⟩
        rw [List.getElem?_singleton, Option.ite_none_right_eq_some, Option.some.injEq] at hother
        obtain ⟨hzero, rfl⟩ := hother
        have hplace : reference = target := Option.some.inj (hreference.symm.trans hgiven)
        have hindex : id.index = graph.models.length := by
          rw [← h.length]
          omega
        rw [if_pos hplace, nextId, ← hindex]
  children := fun _ _ hplace => h.children_grow target spec hplace

/-- Every call that returns keeps a graph and the specifications of its models in agreement. -/
theorem Coherent.perform (h : graph.Coherent built) {call : Call} (hreturns : call.Returns graph) :
    (graph.perform call).Coherent (built ++ (graph.accepted? call).toList) := by
  cases call with
  | reference path name => simpa [Graph.perform, accepted?] using h.allocate path name
  | rename id className => simpa [Graph.perform, accepted?] using h.rename id className
  | amend extras =>
    simp only [Graph.perform, accepted?, Option.toList_none, List.append_nil]
    exact { h with }
  | add spec =>
    rcases graph.perform_add spec with ⟨hsame, hrefused⟩ |
      ⟨target, hgiven, hfree, -, hgrown, haccepted⟩
    · rw [hsame, hrefused, Option.toList_none, List.append_nil]
      exact h
    · rw [hgrown, haccepted, Option.toList_some]
      exact h.grow hgiven hfree hreturns.1

end

/-- Calls keep a graph and the specifications of its models in agreement. -/
theorem Reached.coherent {graph : Graph} {built : List ModelSpec} (h : Reached graph built) :
    graph.Coherent built := by
  induction h with
  | empty options extras => exact coherent_empty options extras
  | call call _ hreturns ih => exact ih.perform hreturns

/-- What holds of every new model, under the options of its graph, holds of all models. -/
theorem Reached.forall_models {P : Options → Model → Prop}
    (hnext : ∀ (earlier : Graph) (target : RefId) (spec : ModelSpec),
      P earlier.options (earlier.nextModel target spec))
    {graph : Graph} {built : List ModelSpec} (h : Reached graph built) :
    ∀ model ∈ graph.models, P graph.options model := by
  induction h with
  | empty options extras => simp [Graph.empty]
  | @call graph built call _ _ ih =>
    cases call with
    | reference path name => exact ih
    | amend extras => exact ih
    | rename id className =>
      change ∀ model ∈ (graph.rename id className).models,
        P (graph.rename id className).options model
      unfold Graph.rename
      cases graph.model? id with
      | none => exact ih
      | some renamed => exact ih
    | add spec =>
      rcases graph.perform_add spec with ⟨hsame, -⟩ | ⟨target, -, -, -, hgrown, -⟩
      · rw [hsame]
        exact ih
      · rw [hgrown, options_grow]
        intro model hmodel
        rw [models_grow] at hmodel
        rcases List.mem_append.1 hmodel with hold | hnew
        · exact ih model hold
        · rw [List.mem_singleton.1 hnew]
          exact hnext graph target spec

/-- Every model was once the next one of a graph with the same options. -/
theorem Reached.exists_eq_nextModel {graph : Graph} {built : List ModelSpec}
    (h : Reached graph built) {model : Model} (hmodel : model ∈ graph.models) :
    ∃ (earlier : Graph) (target : RefId) (spec : ModelSpec),
      earlier.options = graph.options ∧ model = earlier.nextModel target spec :=
  h.forall_models (P := fun options model => ∃ (earlier : Graph) (target : RefId)
      (spec : ModelSpec), earlier.options = options ∧ model = earlier.nextModel target spec)
    (fun earlier target spec => ⟨earlier, target, spec, rfl, rfl⟩) model hmodel

/-- The fields of a model have the flavor of the graph. -/
theorem Reached.flavor_eq {graph : Graph} {built : List ModelSpec} (h : Reached graph built)
    {model : Model} (hmodel : model ∈ graph.models) :
    ∀ field ∈ model.fields, field.flavor = graph.options.flavor := by
  obtain ⟨earlier, target, spec, hoptions, rfl⟩ := h.exists_eq_nextModel hmodel
  intro field hfield
  rw [← hoptions]
  exact flavor_of_mem_nextModel hfield

/-! ## Links -/

section

variable {graph : Graph} {built : List ModelSpec}

/-- Every model knows its place. -/
theorem Coherent.id_eq (h : graph.Coherent built) {place : Nat} {model : Model}
    (hmodel : graph.models[place]? = some model) : model.id = ⟨place⟩ := by
  obtain ⟨spec, -, -, earlier, hlength, hmade⟩ := h.made place model hmodel
  rw [hmade, ← hlength]
  rfl

/-- A reference is bound to the model that holds it. -/
theorem Coherent.sourceOf?_eq_some_iff (h : graph.Coherent built) {reference : RefId}
    {id : ModelId} : graph.sourceOf? reference = some id ↔
      ∃ model, graph.model? id = some model ∧ model.reference = reference := by
  rw [h.sources]
  unfold model?
  constructor
  · rintro ⟨spec, hspec, hgiven⟩
    have hlt := (List.getElem?_eq_some_iff.1 hspec).1
    rw [h.length] at hlt
    obtain ⟨other, hother, hreference, -⟩ := h.made id.index _ (List.getElem?_eq_getElem hlt)
    refine ⟨_, List.getElem?_eq_getElem hlt, ?_⟩
    cases hspec.symm.trans hother
    exact Option.some.inj (hreference.symm.trans hgiven)
  · rintro ⟨model, hmodel, rfl⟩
    obtain ⟨spec, hspec, hgiven, -⟩ := h.made id.index model hmodel
    exact ⟨spec, hspec, hgiven⟩

/-- References are bound to models of the graph only. -/
theorem Coherent.source_lt (h : graph.Coherent built) {reference : RefId} {id : ModelId}
    (hsource : graph.sourceOf? reference = some id) : id.index < graph.models.length := by
  obtain ⟨model, hmodel, -⟩ := h.sourceOf?_eq_some_iff.1 hsource
  exact (List.getElem?_eq_some_iff.1 hmodel).1

/-- The reference of a model is bound to it. -/
theorem Coherent.sourceOf?_reference (h : graph.Coherent built) {model : Model}
    (hmodel : model ∈ graph.models) : graph.sourceOf? model.reference = some model.id := by
  obtain ⟨place, hplace⟩ := List.mem_iff_getElem?.1 hmodel
  rw [h.id_eq hplace]
  exact h.sourceOf?_eq_some_iff.2 ⟨model, hplace, rfl⟩

/-- A reference for which a model was specified is bound to that model. -/
theorem Coherent.exists_model (h : graph.Coherent built) {reference : RefId}
    (hmem : some reference ∈ built.map (·.reference)) :
    ∃ model ∈ graph.models, model.reference = reference ∧
      graph.sourceOf? reference = some model.id := by
  obtain ⟨spec, hspec, hgiven⟩ := List.mem_map.1 hmem
  obtain ⟨place, hplace⟩ := List.mem_iff_getElem?.1 hspec
  have hsource : graph.sourceOf? reference = some ⟨place⟩ :=
    (h.sources reference ⟨place⟩).2 ⟨spec, hplace, hgiven⟩
  obtain ⟨model, hmodel, hreference⟩ := h.sourceOf?_eq_some_iff.1 hsource
  exact ⟨model, List.mem_of_getElem? hmodel, hreference, by rw [hsource, h.id_eq hmodel]⟩

/-- Every model was specified. -/
theorem Coherent.reference_mem (h : graph.Coherent built) {model : Model}
    (hmodel : model ∈ graph.models) : some model.reference ∈ built.map (·.reference) := by
  obtain ⟨place, hplace⟩ := List.mem_iff_getElem?.1 hmodel
  obtain ⟨spec, hspec, hgiven, -⟩ := h.made place model hplace
  exact List.mem_map.2 ⟨spec, List.mem_of_getElem? hspec, hgiven⟩

/-- A model is made of the only specification with its reference. -/
theorem Coherent.madeOf (h : graph.Coherent built) {model : Model} (hmodel : model ∈ graph.models)
    {spec : ModelSpec} (hspec : spec ∈ built) (hgiven : spec.reference = some model.reference) :
    ∃ place, MadeOf model place spec := by
  obtain ⟨place, hplace⟩ := List.mem_iff_getElem?.1 hmodel
  obtain ⟨other, hother, hmade⟩ := h.made place model hplace
  obtain ⟨index, hindex⟩ := List.mem_iff_getElem?.1 hspec
  -- both specifications are in the place that the reference is bound to
  have hsource := (h.sources model.reference ⟨place⟩).2 ⟨other, hother, hmade.1⟩
  have hsource' := (h.sources model.reference ⟨index⟩).2 ⟨spec, hindex, hgiven⟩
  cases hsource.symm.trans hsource'
  cases hother.symm.trans hindex
  exact ⟨place, hmade⟩

/-- Every field knows the model that holds it. -/
theorem Coherent.owner_eq (h : graph.Coherent built) {model : Model} (hmodel : model ∈ graph.models)
    {field : Field} (hfield : field ∈ model.fields) :
    field.owner = some ⟨model.id, model.reference⟩ := by
  obtain ⟨place, hplace⟩ := List.mem_iff_getElem?.1 hmodel
  obtain ⟨spec, -, -, earlier, -, hmade⟩ := h.made place model hplace
  rw [hmade] at hfield ⊢
  obtain ⟨fieldSpec, -, rfl⟩ := List.mem_map.1 (mem_orderFields.1 hfield)
  rfl

end

/-- After any calls the links of a graph agree with its models. There is one accepted specification
    for each model, and every model has its place as its identifier. A reference is bound to a model
    exactly if the model is there and has that reference. The children of a reference are, in
    strictly ascending order, the places of the models that were specified with it as a base class.
    And every field has the model that holds it, and the reference of that model, as its owner. -/
theorem links_agree {graph : Graph} {built : List ModelSpec} (h : Reached graph built) :
    built.length = graph.models.length ∧
    (∀ (place : Nat) (model : Model), graph.models[place]? = some model →
      model.id = ⟨place⟩ ∧ ∃ spec, built[place]? = some spec ∧ MadeOf model place spec) ∧
    (∀ (reference : RefId) (id : ModelId), graph.sourceOf? reference = some id ↔
      ∃ model, graph.model? id = some model ∧ model.reference = reference) ∧
    (∀ (place : RefId) (reference : Reference), graph.arena.get? place = some reference →
      (reference.children.Pairwise fun a b => a.index < b.index) ∧
      ∀ id, id ∈ reference.children ↔
        ∃ spec, built[id.index]? = some spec ∧ place ∈ spec.bases) ∧
    ∀ model ∈ graph.models, ∀ field ∈ model.fields,
      field.owner = some ⟨model.id, model.reference⟩ := by
  have hcoherent := h.coherent
  refine ⟨hcoherent.length,
    fun place model hmodel => ⟨hcoherent.id_eq hmodel, hcoherent.made place model hmodel⟩,
    fun reference id => hcoherent.sourceOf?_eq_some_iff, fun place reference hplace => ?_,
    fun model hmodel field hfield => hcoherent.owner_eq hmodel hfield⟩
  rw [hcoherent.children place reference hplace]
  exact ⟨pairwise_childrenAmong built place, fun id => mem_childrenAmong⟩

/-- A pet, which is derived from animals, from itself, and from animals again. -/
def heirSpec : ModelSpec where
  reference := some ⟨1⟩
  bases := [⟨0⟩, ⟨1⟩, ⟨0⟩]
  fields := [{ name := some "mate", type := .model {} ⟨1⟩ }]

/-- The graph to which the pet is added. -/
def beforeHeir : Graph :=
  ((Graph.empty {} {}).perform (.reference "#/Animal" "Animal")).perform (.reference "#/Pet" "Pet")

/-- The pet is added, refused the second time, and renamed. -/
def renamedHeir : Graph :=
  ((beforeHeir.perform (.add heirSpec)).perform (.add heirSpec)).perform (.rename ⟨0⟩ "Dog")

theorem reached_renamedHeir : Reached renamedHeir [heirSpec] :=
  .call (.rename ⟨0⟩ "Dog")
    (.call (.add heirSpec)
      (.call (.add heirSpec)
        (.call (.reference "#/Pet" "Pet")
          (.call (.reference "#/Animal" "Animal") (.empty {} {}) trivial) trivial)
        ⟨by decide, nofun⟩)
      ⟨by decide, nofun⟩)
    trivial

/-- The pet is bound to its reference and is a child of both of its base classes, and the reference
    of animals is free. -/
theorem links_agree_renamedHeir :
    (∃ model, renamedHeir.model? ⟨0⟩ = some model ∧ model.reference = ⟨1⟩) ∧
    (∀ model, renamedHeir.model? ⟨0⟩ = some model → model.reference ≠ ⟨0⟩) ∧
    ∀ place ∈ heirSpec.bases, ∀ reference, renamedHeir.arena.get? place = some reference →
      (⟨0⟩ : ModelId) ∈ reference.children := by
  obtain ⟨-, -, hsources, hchildren, -⟩ := links_agree reached_renamedHeir
  refine ⟨(hsources ⟨1⟩ ⟨0⟩).1 rfl, fun model hmodel hreference => ?_,
    fun place hplace reference hget => ?_⟩
  · exact absurd ((hsources ⟨0⟩ ⟨0⟩).2 ⟨model, hmodel, hreference⟩) (by decide)
  · exact ((hchildren place reference hget).2 ⟨0⟩).2 ⟨heirSpec, rfl, hplace⟩

end SchemaPress.Graph
