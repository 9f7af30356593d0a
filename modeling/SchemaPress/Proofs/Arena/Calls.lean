import SchemaPress.Proofs.Arena
import SchemaPress.Proofs.Arena.FreshName

set_option autoImplicit false

/-! # What calls make of an arena

References are allocated, bound and given children, in any order. Three things in an arena have to
stay in step: the references by their places, the index of their paths, and the display names that
are taken. `Consistent` says what they have in common. Only an allocation adds to them: it puts a
path that is not found into the index, and a fresh name is not taken, so it is the name of no other
reference. The other calls leave alone what references are found and called by (`SameNames`), and a
slot that is not free cannot be bound. From these steps the same follows for every sequence of calls
(`paths_and_names_in_step`). -/

namespace SchemaPress

/-- What a reference is known by. -/
structure Identity where
  path : String
  declaredName : String
  name : String
  duplicateName : Option String
  deriving DecidableEq, Repr

/-- What a reference is known by, whatever it is bound to. -/
def Reference.identity (reference : Reference) : Identity where
  path := reference.path
  declaredName := reference.declaredName
  name := reference.name
  duplicateName := reference.duplicateName

namespace Arena

/-- What can be asked of an arena that gives its references no other names. -/
inductive Call
  /-- Find or allocate a reference. -/
  | allocate (path name : String)
  /-- Put a model into the slot of a reference; nothing happens if it is not free. -/
  | bind (id : RefId) (model : ModelId)
  /-- Note a model that has the one behind a reference as a base class. -/
  | addChild (id : RefId) (child : ModelId)
  deriving DecidableEq, Repr

/-- The arena after a call. -/
def perform (arena : Arena) : Call → Arena
  | .allocate path name => (arena.allocate path name).2
  | .bind id model =>
    match arena.bind id model with
    | .ok bound => bound
    | .error _ => arena
  | .addChild id child => arena.addChild id child

/-- The arena after several calls, the first of which finds it empty. -/
def run (calls : List Call) : Arena :=
  calls.foldl perform {}

theorem run_append (front back : List Call) :
    run (front ++ back) = back.foldl perform (run front) :=
  List.foldl_append

/-! ## What references are known by -/

/-- What the references of an arena are known by, in their places. -/
def identities (arena : Arena) : List Identity :=
  arena.refs.map Reference.identity

theorem getElem?_identities (arena : Arena) (id : RefId) :
    arena.identities[id.index]? = (arena.get? id).map Reference.identity :=
  List.getElem?_map

theorem identity_mem_identities {arena : Arena} {id : RefId} {reference : Reference}
    (h : arena.get? id = some reference) : reference.identity ∈ arena.identities :=
  List.mem_map_of_mem (List.mem_of_getElem? h)

/-- Nothing changed that references are found or called by. -/
structure SameNames (arena other : Arena) : Prop where
  identities : other.identities = arena.identities
  byPath : other.byPath = arena.byPath
  taken : other.taken = arena.taken

theorem SameNames.refl (arena : Arena) : arena.SameNames arena :=
  ⟨rfl, rfl, rfl⟩

theorem SameNames.trans {a b c : Arena} (h : a.SameNames b) (h' : b.SameNames c) :
    a.SameNames c :=
  ⟨h'.identities.trans h.identities, h'.byPath.trans h.byPath, h'.taken.trans h.taken⟩

theorem SameNames.find? {arena other : Arena} (h : arena.SameNames other) (path : String) :
    other.find? path = arena.find? path := by
  unfold Arena.find?
  rw [h.byPath]

theorem SameNames.displayName {arena other : Arena} (h : arena.SameNames other) (id : RefId) :
    other.displayName id = arena.displayName id := by
  have hname : ∀ arena : Arena,
      arena.displayName id = ((arena.identities[id.index]?).map Identity.name).getD "" := by
    intro arena
    rw [getElem?_identities, Option.map_map]
    rfl
  rw [hname, hname, h.identities]

theorem sameNames_addChild (arena : Arena) (id : RefId) (child : ModelId) :
    arena.SameNames (arena.addChild id child) := by
  refine ⟨arena.map_refs_modify Reference.identity (fun reference => ?_) id, rfl, rfl⟩
  split
  · rfl
  · rfl

theorem sameNames_addChildren (arena : Arena) (bases : List RefId) (child : ModelId) :
    arena.SameNames (bases.foldl (fun arena base => arena.addChild base child) arena) := by
  induction bases generalizing arena with
  | nil => exact .refl arena
  | cons base rest ih => exact (arena.sameNames_addChild base child).trans (ih _)

theorem sameNames_fill (arena : Arena) (id : RefId) (model : ModelId) :
    arena.SameNames (arena.fill id model) := by
  refine ⟨arena.map_refs_modify Reference.identity (fun reference => ?_) id, rfl, rfl⟩
  rfl

/-- A call that binds fills a free slot, and does nothing to others. -/
theorem perform_bind (arena : Arena) (id : RefId) (model : ModelId) :
    arena.perform (.bind id model) =
      if (arena.get? id).bind (·.source) = none then arena.fill id model else arena := by
  unfold perform
  cases hsource : (arena.get? id).bind (·.source) with
  | none => simp [bind_of_free hsource]
  | some bound => simp [bind_of_bound hsource]

theorem sameNames_perform_bind (arena : Arena) (id : RefId) (model : ModelId) :
    arena.SameNames (arena.perform (.bind id model)) := by
  rw [perform_bind]
  split
  · exact arena.sameNames_fill id model
  · exact .refl arena

/-- Allocation adds at most one reference, behind all others. -/
theorem identities_prefix_allocate (arena : Arena) (path name : String) :
    arena.identities <+: (arena.allocate path name).2.identities := by
  rcases arena.allocate_refs path name with hrefs | ⟨fresh, -, -, hrefs⟩
  · have hsame : (arena.allocate path name).2.identities = arena.identities :=
      congrArg (List.map Reference.identity) hrefs
    exact hsame ▸ List.prefix_rfl
  · unfold identities
    rw [hrefs, List.map_append]
    exact List.prefix_append _ _

/-- No call changes what a reference is known by. -/
theorem identities_prefix_perform (arena : Arena) (call : Call) :
    arena.identities <+: (arena.perform call).identities := by
  cases call with
  | allocate path name => exact arena.identities_prefix_allocate path name
  | bind id model => exact (arena.sameNames_perform_bind id model).identities ▸ List.prefix_rfl
  | addChild id child => exact (arena.sameNames_addChild id child).identities ▸ List.prefix_rfl

/-- No calls change what a reference is known by. -/
theorem identities_prefix_foldl (arena : Arena) (calls : List Call) :
    arena.identities <+: (calls.foldl perform arena).identities := by
  induction calls generalizing arena with
  | nil => exact List.prefix_rfl
  | cons call rest ih => exact (arena.identities_prefix_perform call).trans (ih _)

/-! ## Arenas whose parts agree -/

/-- The index is right, display names differ and come from the names that were asked for, the taken
    names are the display names, and exactly the references that have another name than the one that
    was asked for remember that one. -/
structure Consistent (arena : Arena) : Prop where
  indexed : arena.Indexed
  names : (arena.identities.map Identity.name).Nodup
  taken : ∀ name, name ∈ arena.taken ↔ name ∈ arena.identities.map Identity.name
  duplicates : ∀ identity ∈ arena.identities, identity.duplicateName =
    if identity.name = identity.declaredName then none else some identity.declaredName
  numbered : ∀ identity ∈ arena.identities,
    ∃ count, identity.name ∈ nameCandidates identity.declaredName count

theorem consistent_empty : Consistent {} where
  indexed := indexed_empty
  names := List.nodup_nil
  taken := by simp [identities]
  duplicates := by simp [identities]
  numbered := by simp [identities]

variable {arena : Arena}

/-- References with the same display name are the same. -/
theorem Consistent.eq_of_name_eq (h : arena.Consistent) {id id' : RefId}
    {reference reference' : Reference} (hid : arena.get? id = some reference)
    (hid' : arena.get? id' = some reference') (hname : reference.name = reference'.name) :
    id = id' := by
  have hplace : (arena.identities.map Identity.name)[id.index]? =
      (arena.identities.map Identity.name)[id'.index]? := by
    rw [List.getElem?_map, List.getElem?_map, getElem?_identities, getElem?_identities, hid, hid']
    exact congrArg some hname
  have hlt : id.index < (arena.identities.map Identity.name).length := by
    simpa [identities] using (List.getElem?_eq_some_iff.1 hid).1
  have hindex := (List.getElem?_inj hlt h.names).1 hplace
  cases id
  cases id'
  exact congrArg RefId.mk hindex

/-- A change of nothing that references are found or called by keeps the parts in agreement. -/
theorem Consistent.congr (h : arena.Consistent) {other : Arena} (hsame : arena.SameNames other) :
    other.Consistent where
  indexed := by
    refine h.indexed.congr (fun id => ?_) hsame.byPath
    have hpath : ∀ arena : Arena,
        (arena.get? id).map (·.path) = (arena.identities[id.index]?).map Identity.path := by
      intro arena
      rw [getElem?_identities, Option.map_map]
      rfl
    rw [hpath, hpath, hsame.identities]
  names := hsame.identities ▸ h.names
  taken := by
    rw [hsame.identities, hsame.taken]
    exact h.taken
  duplicates := hsame.identities ▸ h.duplicates
  numbered := hsame.identities ▸ h.numbered

/-- What an allocation adds: a reference with a fresh name, if the path is not found. -/
theorem identities_allocate_of_find?_eq_none {path : String} (h : arena.find? path = none)
    (name : String) : (arena.allocate path name).2.identities = arena.identities ++
      [{ path := path
         declaredName := name
         name := freshName arena.taken name
         duplicateName := if freshName arena.taken name = name then none else some name }] := by
  unfold Arena.allocate identities
  rw [h, List.map_append]
  rfl

/-- An allocation keeps the parts in agreement. -/
theorem Consistent.allocate (h : arena.Consistent) (path name : String) :
    (arena.allocate path name).2.Consistent := by
  cases hfind : arena.find? path with
  | some id =>
    have hsame : (arena.allocate path name).2 = arena := by
      unfold Arena.allocate
      rw [hfind]
    rwa [hsame]
  | none =>
    -- the new reference has a name that was not taken, so no other one has it
    obtain ⟨hfresh, hcandidate⟩ := freshName_spec arena.taken name
    have hidentities := identities_allocate_of_find?_eq_none hfind name
    have htaken : (arena.allocate path name).2.taken =
        freshName arena.taken name :: arena.taken := by
      unfold Arena.allocate
      rw [hfind]
    refine ⟨h.indexed.allocate path name, ?_, fun other => ?_, ?_, ?_⟩
    · rw [hidentities, List.map_append]
      exact List.concat_eq_append ▸ h.names.concat fun hmem => hfresh ((h.taken _).2 hmem)
    · rw [hidentities, htaken, List.map_append, List.mem_append, List.mem_cons, h.taken other,
        or_comm]
      simp
    · rw [hidentities, List.forall_mem_append]
      exact ⟨h.duplicates, by simp⟩
    · rw [hidentities, List.forall_mem_append]
      exact ⟨h.numbered, by simpa using ⟨_, hcandidate⟩⟩

/-- Every call keeps the parts in agreement. -/
theorem Consistent.perform (h : arena.Consistent) (call : Call) :
    (arena.perform call).Consistent := by
  cases call with
  | allocate path name => exact h.allocate path name
  | bind id model => exact h.congr (arena.sameNames_perform_bind id model)
  | addChild id child => exact h.congr (arena.sameNames_addChild id child)

theorem consistent_run (calls : List Call) : (run calls).Consistent := by
  have hfold : ∀ (calls : List Call) (arena : Arena), arena.Consistent →
      (calls.foldl Arena.perform arena).Consistent := by
    intro calls
    induction calls with
    | nil => exact fun _ h => h
    | cons call rest ih => exact fun arena h => ih _ (h.perform call)
  exact hfold calls {} consistent_empty

/-- A path that is known is not allocated again. -/
theorem allocate_of_find? {path : String} {id : RefId} (h : arena.find? path = some id)
    (name : String) : arena.allocate path name = (id, arena) := by
  unfold Arena.allocate
  rw [h]

/-- After any calls on an empty arena, the index leads from a path to a place exactly if the
    reference there has that path; paths differ, and so do display names; the taken names are the
    display names; and a reference has another name than the one that was asked for exactly if it
    remembers that one. To allocate a path that is known gives its place and changes nothing, to
    bind a slot that is not free is an error and changes nothing, and no later calls change the
    path, the names or the remembered name of a reference. -/
theorem paths_and_names_in_step (calls : List Call) :
    (∀ path id, (run calls).byPath.get? path = some id ↔
      ∃ reference, (run calls).refs[id.index]? = some reference ∧ reference.path = path) ∧
    ((run calls).refs.map (·.path)).Nodup ∧
    ((run calls).refs.map (·.name)).Nodup ∧
    (∀ name, name ∈ (run calls).taken ↔ ∃ reference ∈ (run calls).refs, reference.name = name) ∧
    (∀ reference ∈ (run calls).refs, reference.name ≠ reference.declaredName ↔
      reference.duplicateName = some reference.declaredName) ∧
    (∀ path id, (run calls).find? path = some id → ∀ name,
      (run calls).allocate path name = (id, run calls)) ∧
    (∀ id reference bound, (run calls).get? id = some reference → reference.source = some bound →
      ∀ model, (run calls).bind id model = .error (.alreadyBound reference.path bound.index) ∧
        run (calls ++ [.bind id model]) = run calls) ∧
    ∀ later id reference, (run calls).get? id = some reference →
      ∃ after, (run (calls ++ later)).get? id = some after ∧
        after.identity = reference.identity := by
  have h := consistent_run calls
  refine ⟨h.indexed, h.indexed.nodup_paths, ?_, fun name => ?_, fun reference hreference => ?_,
    fun path id hfind name => allocate_of_find? hfind name,
    fun id reference bound hreference hbound model => ?_, fun later id reference hreference => ?_⟩
  · simpa [identities, Function.comp_def, Reference.identity] using h.names
  · simpa [identities, Function.comp_def, Reference.identity] using h.taken name
  · have hduplicate : reference.duplicateName =
        if reference.name = reference.declaredName then none else some reference.declaredName :=
      h.duplicates reference.identity (List.mem_map_of_mem hreference)
    rw [hduplicate]
    by_cases hname : reference.name = reference.declaredName
    · simp [hname]
    · simp [hname]
  · have hsource : ((run calls).get? id).bind (·.source) = some bound := by
      rw [hreference]
      exact hbound
    refine ⟨?_, ?_⟩
    · rw [bind_of_bound hsource, hreference]
      rfl
    · rw [run_append, List.foldl_cons, List.foldl_nil, perform_bind, hsource]
      rfl
  · obtain ⟨new, hnew⟩ := (run calls).identities_prefix_foldl later
    have hlt : id.index < (run calls).identities.length := by
      simpa [identities] using (List.getElem?_eq_some_iff.1 hreference).1
    have hsame := (run (calls ++ later)).getElem?_identities id
    rw [run_append, ← hnew, List.getElem?_append_left hlt, getElem?_identities, hreference] at hsame
    obtain ⟨after, hafter, hidentity⟩ := Option.map_eq_some_iff.1 hsame.symm
    exact ⟨after, run_append calls later ▸ hafter, hidentity⟩

/-- Two pets, a third reference that asks for the name that the second was given, the first path
    once more, and another model for the second. -/
def petCalls : List Call :=
  [.allocate "a#/Pet" "Pet", .allocate "b#/Pet" "Pet", .bind ⟨1⟩ ⟨0⟩, .allocate "c#/Pet" "Pet1",
    .addChild ⟨0⟩ ⟨0⟩, .allocate "a#/Pet" "Cat", .bind ⟨1⟩ ⟨7⟩]

/-- The second and the third pet are called by numbers that are free, the first path still leads to
    the first of them, the second keeps its first model, and all of them keep their names when a
    fourth is added. -/
theorem paths_and_names_in_step_pets :
    (run petCalls).refs.map (fun reference => (reference.name, reference.duplicateName)) =
      [("Pet", none), ("Pet1", some "Pet"), ("Pet11", some "Pet1")] ∧
    ((run petCalls).refs.map (·.name)).Nodup ∧
    (run petCalls).allocate "a#/Pet" "Dog" = (⟨0⟩, run petCalls) ∧
    (run petCalls).bind ⟨1⟩ ⟨7⟩ = .error (.alreadyBound "b#/Pet" 0) ∧
    ∃ after, (run (petCalls ++ [.allocate "d#/Pet" "Pet"])).get? ⟨2⟩ = some after ∧
      after.name = "Pet11" := by
  obtain ⟨-, -, hnames, -, -, hknown, hbound, hlater⟩ := paths_and_names_in_step petCalls
  have hsecond : ((run petCalls).get? ⟨1⟩).map (fun reference =>
      (reference.path, reference.source)) = some ("b#/Pet", some ⟨0⟩) := by decide +kernel
  obtain ⟨second, hget', hslot⟩ := Option.map_eq_some_iff.1 hsecond
  obtain ⟨hpath, hsource⟩ := Prod.mk.inj hslot
  have hthird : ((run petCalls).get? ⟨2⟩).map Reference.identity =
      some ⟨"c#/Pet", "Pet1", "Pet11", some "Pet1"⟩ := by decide +kernel
  obtain ⟨third, hget, hidentity⟩ := Option.map_eq_some_iff.1 hthird
  obtain ⟨after, hafter, hsame⟩ := hlater [.allocate "d#/Pet" "Pet"] ⟨2⟩ third hget
  refine ⟨by decide +kernel, hnames, hknown "a#/Pet" ⟨0⟩ (by decide +kernel) "Dog", ?_, after,
    hafter, congrArg Identity.name (hsame.trans hidentity)⟩
  rw [(hbound ⟨1⟩ second ⟨0⟩ hget' hsource ⟨7⟩).1, hpath]

end Arena

end SchemaPress
