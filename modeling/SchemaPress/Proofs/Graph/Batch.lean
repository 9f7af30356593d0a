import SchemaPress.Document
import SchemaPress.Proofs.Arena.Calls
import SchemaPress.Proofs.Graph.Calls

set_option autoImplicit false

/-! # Adding several models

Models are added one after another until one is refused. A model is refused for its reference only
if another model has it: references that are free and differ from each other are never found
bound (`addAll_ne_alreadyBound`), and a batch that is added as a whole had such references
(`nodup_of_addAll`). A batch is a sequence of calls, so the graph afterwards agrees with the
specifications of the batch (`Reached.addAll`). -/

namespace SchemaPress.Graph

variable {graph : Graph} {specs : List ModelSpec}

/-- A model is found bound only if its reference is. -/
theorem source_of_alreadyBound {spec : ModelSpec} {path : String} {model : Nat}
    (h : graph.add spec = .error (.alreadyBound path model)) :
    ∃ reference, spec.reference = some reference ∧ graph.sourceOf? reference ≠ none := by
  cases hgiven : spec.reference with
  | none =>
    simp only [add, hgiven] at h
    cases h
  | some reference =>
    refine ⟨reference, rfl, fun hfree => ?_⟩
    cases htemplate : (graph.templateOf spec).isEmpty with
    | true =>
      simp only [add, hgiven, htemplate] at h
      cases h
    | false =>
      rw [add_of_free hgiven htemplate hfree] at h
      split at h
      · cases h
      · cases h

/-- Adding a model allocates nothing. -/
theorem length_refs_grow (graph : Graph) (reference : RefId) (spec : ModelSpec) :
    (graph.grow reference spec).arena.refs.length = graph.arena.refs.length := by
  simp [Graph.grow]

/-- Free references that differ are never found bound. -/
theorem addAll_ne_alreadyBound (hnodup : (specs.map (·.reference)).Nodup)
    (hallocated : ∀ reference, some reference ∈ specs.map (·.reference) →
      reference.index < graph.arena.refs.length)
    (hfree : ∀ reference, some reference ∈ specs.map (·.reference) →
      graph.sourceOf? reference = none) (path : String) (model : Nat) :
    (graph.addAll specs).1 ≠ .error (.alreadyBound path model) := by
  induction specs generalizing graph with
  | nil => simp [addAll]
  | cons spec rest ih =>
    rw [List.map_cons, List.nodup_cons] at hnodup
    rw [addAll]
    cases hadd : graph.add spec with
    | error failure =>
      intro hbound
      cases hbound
      obtain ⟨reference, hgiven, hsource⟩ := source_of_alreadyBound hadd
      exact hsource (hfree reference (by simp [hgiven]))
    | ok result =>
      obtain ⟨target, hgiven, -, -, -, -, hgrown⟩ := add_eq_ok_iff.1 hadd
      have htarget : target.index < graph.arena.refs.length :=
        hallocated target (by simp [hgiven])
      simp only [hgrown]
      refine ih hnodup.2 (fun reference hreference => ?_) fun reference hreference => ?_
      · rw [length_refs_grow]
        exact hallocated reference (List.mem_cons_of_mem _ hreference)
      · -- the first model takes its own reference only, and the others differ from it
        rw [graph.sourceOf?_grow spec htarget, if_neg]
        · exact hfree reference (List.mem_cons_of_mem _ hreference)
        · rintro rfl
          exact hnodup.1 (hgiven ▸ hreference)

/-- A batch that is added as a whole has references that are free and differ. -/
theorem nodup_of_addAll
    (hallocated : ∀ reference, some reference ∈ specs.map (·.reference) →
      reference.index < graph.arena.refs.length)
    (h : (graph.addAll specs).1 = .ok ()) :
    (specs.map (·.reference)).Nodup ∧
      ∀ reference, some reference ∈ specs.map (·.reference) →
        graph.sourceOf? reference = none := by
  induction specs generalizing graph with
  | nil => simp
  | cons spec rest ih =>
    rw [addAll] at h
    cases hadd : graph.add spec with
    | error failure =>
      rw [hadd] at h
      cases h
    | ok result =>
      obtain ⟨target, hgiven, -, hfree, -, -, hgrown⟩ := add_eq_ok_iff.1 hadd
      have htarget : target.index < graph.arena.refs.length :=
        hallocated target (by simp [hgiven])
      simp only [hadd, hgrown] at h
      obtain ⟨hnodup, hrest⟩ := ih (fun reference hreference => by
        rw [length_refs_grow]
        exact hallocated reference (List.mem_cons_of_mem _ hreference)) h
      -- after the first model its own reference is no longer free
      have hnot : some target ∉ rest.map (·.reference) := by
        intro hmem
        have hsource := hrest target hmem
        rw [graph.sourceOf?_grow spec htarget, if_pos rfl] at hsource
        cases hsource
      rw [List.map_cons, hgiven]
      refine ⟨List.nodup_cons.2 ⟨hnot, hnodup⟩, fun reference hreference => ?_⟩
      rcases List.mem_cons.1 hreference with heq | hmem
      · rw [Option.some.inj heq, hfree]
      · have hsource := hrest reference hmem
        rw [graph.sourceOf?_grow spec htarget] at hsource
        split at hsource
        · cases hsource
        · exact hsource

/-! ## Names -/

/-- Adding a model changes nothing that references are found or called by. -/
theorem sameNames_grow (graph : Graph) (reference : RefId) (spec : ModelSpec) :
    graph.arena.SameNames (graph.grow reference spec).arena :=
  (graph.arena.sameNames_fill reference graph.nextId).trans
    (Arena.sameNames_addChildren _ spec.bases graph.nextId)

/-- Nor do several models, even if not all of them can be added. -/
theorem sameNames_addAll (graph : Graph) (specs : List ModelSpec) :
    graph.arena.SameNames (graph.addAll specs).2.arena := by
  induction specs generalizing graph with
  | nil => exact .refl graph.arena
  | cons spec rest ih =>
    rw [addAll]
    cases hadd : graph.add spec with
    | error failure => exact .refl graph.arena
    | ok result =>
      obtain ⟨target, -, -, -, -, -, hgrown⟩ := add_eq_ok_iff.1 hadd
      simp only [hgrown]
      exact (graph.sameNames_grow target spec).trans (ih _)

/-! ## Diagnostics -/

/-- What was noticed stays on record. -/
theorem diagnostics_subset_addAll (graph : Graph) (specs : List ModelSpec) :
    graph.diagnostics ⊆ (graph.addAll specs).2.diagnostics := by
  induction specs generalizing graph with
  | nil => exact List.Subset.refl _
  | cons spec rest ih =>
    rw [addAll]
    cases hadd : graph.add spec with
    | error failure => exact List.Subset.refl _
    | ok result =>
      obtain ⟨target, -, -, -, -, -, hgrown⟩ := add_eq_ok_iff.1 hadd
      simp only [hgrown]
      exact List.Subset.trans (List.subset_append_left _ _) (ih (graph.grow target spec))

/-- If all models of a batch are added, every field that is left out of one of them is reported. -/
theorem duplicateField_of_addAll {after : Graph} (h : graph.addAll specs = (.ok (), after))
    {spec : ModelSpec} (hspec : spec ∈ specs) {reference : RefId}
    (hgiven : spec.reference = some reference) {name : String}
    (hname : name ∈ (keepFirstNames [] spec.fields).2) :
    .duplicateField (after.arena.displayName reference) name ∈ after.diagnostics := by
  induction specs generalizing graph with
  | nil => cases hspec
  | cons first rest ih =>
    rw [addAll] at h
    cases hadd : graph.add first with
    | error failure =>
      rw [hadd] at h
      cases h
    | ok result =>
      obtain ⟨target, htarget, -, -, -, -, hgrown⟩ := add_eq_ok_iff.1 hadd
      simp only [hadd, hgrown] at h
      rcases List.mem_cons.1 hspec with rfl | hrest
      · cases hgiven.symm.trans htarget
        -- it is reported under the name that the reference has to the end
        have hlater := (graph.grow reference spec).diagnostics_subset_addAll rest
        have hsame : graph.arena.SameNames after.arena := by
          have hkept := (graph.grow reference spec).sameNames_addAll rest
          rw [h] at hkept
          exact (graph.sameNames_grow reference spec).trans hkept
        rw [h] at hlater
        rw [hsame.displayName]
        exact hlater (List.mem_append_right _ (List.mem_map_of_mem hname))
      · exact ih h hrest

/-! ## Calls -/

/-- Allocations are calls. -/
theorem Reached.of_grown {built : List ModelSpec} (h : Reached graph built) {arena : Arena}
    (hgrown : graph.arena.Grown arena) : Reached { graph with arena := arena } built := by
  induction hgrown with
  | refl => exact h
  | allocate path name _ ih =>
    have hcall := Reached.call (.reference path name) ih trivial
    simp only [accepted?, Option.toList_none, List.append_nil] at hcall
    exact hcall

/-- A batch that is added as a whole leads to a graph with its specifications. -/
theorem Reached.addAll {built : List ModelSpec} {after : Graph} (h : Reached graph built)
    (hallocated : ∀ spec ∈ specs, ∀ reference ∈ linkedReferences spec,
      reference.index < graph.arena.refs.length)
    (hadded : graph.addAll specs = (.ok (), after)) : Reached after (built ++ specs) := by
  induction specs generalizing graph built with
  | nil =>
    cases hadded
    rwa [List.append_nil]
  | cons spec rest ih =>
    rw [Graph.addAll] at hadded
    cases hadd : graph.add spec with
    | error failure =>
      rw [hadd] at hadded
      cases hadded
    | ok result =>
      obtain ⟨target, -, -, -, -, -, hgrown⟩ := add_eq_ok_iff.1 hadd
      have hcall := Reached.call (.add spec) h
        ⟨hallocated spec List.mem_cons_self, by rw [hadd]; simp⟩
      simp only [perform, accepted?, hadd, Option.toList_some] at hcall
      simp only [hadd] at hadded
      have hlater := ih hcall (fun other hother reference hreference => by
        rw [hgrown, length_refs_grow]
        exact hallocated other (List.mem_cons_of_mem _ hother) reference hreference) hadded
      rwa [List.append_assoc] at hlater

end SchemaPress.Graph
