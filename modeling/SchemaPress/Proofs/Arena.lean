import SchemaPress.Proofs.Entries
import SchemaPress.Reference

set_option autoImplicit false

/-! # Looking into an arena after a change

What is found at each place after references are bound, are given children or other names, or are
allocated. A property of references that does not look at children is kept by `addChild`
everywhere. What is found by a path stays, however much is allocated later (`Grown.find?`).

Paths are looked up in an index, which is right if it leads from each path to the place of the
reference with that path (`Indexed`). Allocation keeps it right, since it adds a path that the index
does not know together with the first free place. -/

namespace SchemaPress.Arena

/-- A change of one reference is seen there and nowhere else. -/
theorem get?_modify (arena : Arena) (id : RefId) (f : Reference → Reference) (place : RefId) :
    (arena.modify id f).get? place =
      if place = id then (arena.get? place).map f else arena.get? place := by
  obtain ⟨i⟩ := id
  obtain ⟨j⟩ := place
  simp only [modify, get?, List.getElem?_modify, RefId.mk.injEq]
  by_cases h : i = j
  · simp [h]
  · have h' : j ≠ i := fun e => h e.symm
    simp [h, h']

/-- A change that a view does not show is not seen through it. -/
theorem map_get?_modify {β : Type} (view : Reference → β) {f : Reference → Reference}
    (hview : ∀ reference, view (f reference) = view reference) (arena : Arena) (id place : RefId) :
    ((arena.modify id f).get? place).map view = (arena.get? place).map view := by
  rw [get?_modify]
  split
  · rw [Option.map_map]
    congr 1
    funext reference
    exact hview reference
  · rfl

/-- A change that a view does not show is not seen in the list of the views. -/
theorem map_refs_modify {β : Type} (arena : Arena) (view : Reference → β)
    {f : Reference → Reference} (hview : ∀ reference, view (f reference) = view reference)
    (id : RefId) : (arena.modify id f).refs.map view = arena.refs.map view := by
  refine List.ext_getElem? fun place => ?_
  rw [List.getElem?_map, List.getElem?_map]
  exact arena.map_get?_modify view hview id ⟨place⟩

/-! ## Slots -/

theorem get?_fill (arena : Arena) (id : RefId) (model : ModelId) (place : RefId) :
    (arena.fill id model).get? place =
      if place = id then (arena.get? place).map fun r => { r with source := some model }
      else arena.get? place :=
  arena.get?_modify id _ place

@[simp]
theorem length_refs_fill (arena : Arena) (id : RefId) (model : ModelId) :
    (arena.fill id model).refs.length = arena.refs.length := by
  simp [fill, modify]

/-- A free slot is filled. -/
theorem bind_of_free {arena : Arena} {id : RefId} (h : (arena.get? id).bind (·.source) = none)
    (model : ModelId) : arena.bind id model = .ok (arena.fill id model) := by
  unfold bind
  rw [h]
  rfl

/-- A slot is not filled twice. -/
theorem bind_of_bound {arena : Arena} {id : RefId} {bound : ModelId}
    (h : (arena.get? id).bind (·.source) = some bound) (model : ModelId) :
    arena.bind id model =
      .error (.alreadyBound (((arena.get? id).map (·.path)).getD "") bound.index) := by
  unfold bind
  rw [h]
  rfl

/-! ## Children -/

section Children

variable {β : Type} (view : Reference → β)
  (hview : ∀ (reference : Reference) children, view { reference with children } = view reference)

include hview

/-- A further child changes nothing but the children. -/
theorem map_get?_addChild (arena : Arena) (id : RefId) (child : ModelId) (place : RefId) :
    ((arena.addChild id child).get? place).map view = (arena.get? place).map view := by
  refine arena.map_get?_modify view (fun reference => ?_) id place
  split
  · rfl
  · exact hview reference _

/-- Further children change nothing but the children. -/
theorem map_get?_addChildren (arena : Arena) (bases : List RefId) (child : ModelId)
    (place : RefId) :
    ((bases.foldl (fun arena base => arena.addChild base child) arena).get? place).map view =
      (arena.get? place).map view := by
  induction bases generalizing arena with
  | nil => rfl
  | cons base rest ih => rw [List.foldl_cons, ih, map_get?_addChild view hview]

end Children

@[simp]
theorem length_refs_addChildren (arena : Arena) (bases : List RefId) (child : ModelId) :
    (bases.foldl (fun arena base => arena.addChild base child) arena).refs.length =
      arena.refs.length := by
  induction bases generalizing arena with
  | nil => rfl
  | cons base rest ih => rw [List.foldl_cons, ih, addChild, modify, List.length_modify]

theorem taken_addChildren (arena : Arena) (bases : List RefId) (child : ModelId) :
    (bases.foldl (fun arena base => arena.addChild base child) arena).taken = arena.taken := by
  induction bases generalizing arena with
  | nil => rfl
  | cons base rest ih => exact ih (arena.addChild base child)

theorem byPath_addChildren (arena : Arena) (bases : List RefId) (child : ModelId) :
    (bases.foldl (fun arena base => arena.addChild base child) arena).byPath = arena.byPath := by
  induction bases generalizing arena with
  | nil => rfl
  | cons base rest ih => exact ih (arena.addChild base child)

/-- A model becomes a child of each of its base classes, once. -/
theorem get?_addChildren (arena : Arena) (bases : List RefId) (child : ModelId) (place : RefId) :
    (bases.foldl (fun arena base => arena.addChild base child) arena).get? place =
      (arena.get? place).map fun reference =>
        if place ∈ bases ∧ child ∉ reference.children then
          { reference with children := reference.children ++ [child] }
        else reference := by
  induction bases generalizing arena with
  | nil => simp
  | cons base rest ih =>
    rw [List.foldl_cons, ih, addChild, get?_modify]
    by_cases hbase : place = base
    · rw [if_pos hbase, Option.map_map]
      congr 1
      funext reference
      by_cases hchild : child ∈ reference.children
      · simp [hchild]
      · simp [hchild, hbase]
    · simp [hbase]

theorem children_addChildren (arena : Arena) (bases : List RefId) (child : ModelId)
    (place : RefId) :
    ((bases.foldl (fun arena base => arena.addChild base child) arena).get? place).map
        (·.children) =
      (arena.get? place).map fun reference =>
        if place ∈ bases ∧ child ∉ reference.children then reference.children ++ [child]
        else reference.children := by
  rw [get?_addChildren, Option.map_map]
  congr 1
  funext reference
  exact apply_ite Reference.children _ _ _

/-! ## Names -/

/-- Another name changes nothing but the name. -/
theorem map_get?_rename {β : Type} (view : Reference → β)
    (hview : ∀ (reference : Reference) name, view { reference with name } = view reference)
    (arena : Arena) (id : RefId) (className : String) (place : RefId) :
    ((arena.rename id className).get? place).map view = (arena.get? place).map view := by
  unfold rename
  cases arena.get? id with
  | none => rfl
  | some reference => exact arena.map_get?_modify view (fun r => hview r _) id place

theorem length_refs_rename (arena : Arena) (id : RefId) (className : String) :
    (arena.rename id className).refs.length = arena.refs.length := by
  unfold rename
  cases arena.get? id with
  | none => rfl
  | some reference => exact List.length_modify _ _ _

/-! ## Allocation -/

/-- Allocation leaves the arena alone or appends a reference that is not bound. -/
theorem allocate_refs (arena : Arena) (path name : String) :
    (arena.allocate path name).2.refs = arena.refs ∨
      ∃ fresh : Reference, fresh.source = none ∧ fresh.children = [] ∧
        (arena.allocate path name).2.refs = arena.refs ++ [fresh] := by
  unfold allocate
  cases arena.find? path with
  | some id => exact Or.inl rfl
  | none => exact Or.inr ⟨_, rfl, rfl, rfl⟩

/-- What is allocated stays as it is. -/
theorem get?_allocate (arena : Arena) (path name : String) {place : RefId}
    (h : place.index < arena.refs.length) :
    (arena.allocate path name).2.get? place = arena.get? place := by
  unfold get?
  rcases arena.allocate_refs path name with hrefs | ⟨fresh, -, -, hrefs⟩
  · rw [hrefs]
  · rw [hrefs, List.getElem?_append_left h]

theorem length_refs_le_allocate (arena : Arena) (path name : String) :
    arena.refs.length ≤ (arena.allocate path name).2.refs.length := by
  rcases arena.allocate_refs path name with hrefs | ⟨fresh, -, -, hrefs⟩
  · exact Nat.le_of_eq (congrArg List.length hrefs.symm)
  · simp [hrefs]

/-- Allocation binds nothing. -/
theorem source_allocate (arena : Arena) (path name : String) (place : RefId) :
    ((arena.allocate path name).2.get? place).bind (·.source) =
      (arena.get? place).bind (·.source) := by
  by_cases h : place.index < arena.refs.length
  · rw [arena.get?_allocate path name h]
  · unfold get?
    rw [List.getElem?_eq_none (Nat.le_of_not_lt h)]
    rcases arena.allocate_refs path name with hrefs | ⟨fresh, hsource, -, hrefs⟩
    · rw [hrefs, List.getElem?_eq_none (Nat.le_of_not_lt h)]
    · rw [hrefs, List.getElem?_append_right (Nat.le_of_not_lt h)]
      cases place.index - arena.refs.length with
      | zero => simpa using hsource
      | succ n => rfl

/-! ## Looking for paths -/

/-- The index leads from each path to the place of the reference with that path. -/
def Indexed (arena : Arena) : Prop :=
  ∀ path id, arena.find? path = some id ↔
    ∃ reference, arena.get? id = some reference ∧ reference.path = path

theorem indexed_empty : Indexed {} := by
  intro path id
  simp [find?, get?, Entries.get?]

section

variable {arena : Arena} {path path' : String} {id : RefId}

/-- Two paths do not lead to the same reference. -/
theorem Indexed.find?_injective (hindexed : arena.Indexed) (h : arena.find? path = some id)
    (h' : arena.find? path' = some id) : path = path' := by
  obtain ⟨reference, hreference, rfl⟩ := (hindexed path id).1 h
  obtain ⟨reference', hreference', rfl⟩ := (hindexed path' id).1 h'
  rw [Option.some.inj (hreference.symm.trans hreference')]

theorem Indexed.lt_of_find? (hindexed : arena.Indexed) (h : arena.find? path = some id) :
    id.index < arena.refs.length := by
  obtain ⟨reference, hreference, -⟩ := (hindexed path id).1 h
  exact (List.getElem?_eq_some_iff.1 hreference).1

/-- No two references have the same path. -/
theorem Indexed.nodup_paths (hindexed : arena.Indexed) : (arena.refs.map (·.path)).Nodup := by
  refine List.pairwise_map.2 (List.pairwise_iff_getElem.2 fun i j hi hj hij hsame => ?_)
  have hfirst := (hindexed arena.refs[j].path ⟨i⟩).2
    ⟨arena.refs[i], List.getElem?_eq_getElem hi, hsame⟩
  have hsecond := (hindexed arena.refs[j].path ⟨j⟩).2
    ⟨arena.refs[j], List.getElem?_eq_getElem hj, rfl⟩
  have hplace := hfirst.symm.trans hsecond
  simp only [Option.some.injEq, RefId.mk.injEq] at hplace
  omega

/-- A change that leaves the paths and the index alone keeps the index right. -/
theorem Indexed.congr (hindexed : arena.Indexed) {other : Arena}
    (hpaths : ∀ id, (other.get? id).map (·.path) = (arena.get? id).map (·.path))
    (hindex : other.byPath = arena.byPath) : other.Indexed := by
  intro path id
  have hold := hindexed path id
  unfold find? at hold ⊢
  rw [hindex, hold, ← Option.map_eq_some_iff, ← Option.map_eq_some_iff, hpaths]

/-- Allocation makes its own path known and leaves all others as they were. -/
theorem find?_allocate (arena : Arena) (path name other : String) :
    (arena.allocate path name).2.find? other =
      if other = path then some (arena.allocate path name).1 else arena.find? other := by
  unfold allocate
  cases hpath : arena.find? path with
  | some id =>
    by_cases hother : other = path
    · rw [if_pos hother, hother, hpath]
    · rw [if_neg hother]
  | none => exact Entries.get?_put arena.byPath path _ other

/-- Allocation keeps the index right. -/
theorem Indexed.allocate (hindexed : arena.Indexed) (path name : String) :
    (arena.allocate path name).2.Indexed := by
  cases hpath : arena.find? path with
  | some id =>
    have hsame : (arena.allocate path name).2 = arena := by
      unfold Arena.allocate
      rw [hpath]
    rwa [hsame]
  | none =>
    intro other id
    rw [find?_allocate]
    simp only [Arena.allocate, hpath, get?]
    -- the reference in the new place is the only one with the new path
    have hold : ∀ {id : RefId} {reference : Reference}, arena.get? id = some reference →
        reference.path ≠ path := by
      intro id reference hreference hsame
      have hfind := (hindexed path id).2 ⟨reference, hreference, hsame⟩
      rw [hpath] at hfind
      cases hfind
    rcases Nat.lt_trichotomy id.index arena.refs.length with hlt | heq | hgt
    · rw [List.getElem?_append_left hlt]
      by_cases hother : other = path
      · rw [if_pos hother, Option.some.injEq]
        refine iff_of_false (fun hid => ?_) ?_
        · rw [← hid] at hlt
          exact Nat.lt_irrefl _ hlt
        · rintro ⟨reference, hreference, hsame⟩
          exact hold hreference (hsame.trans hother)
      · rw [if_neg hother]
        exact hindexed other id
    · obtain ⟨place⟩ := id
      subst heq
      rw [List.getElem?_concat_length]
      by_cases hother : other = path
      · simp [hother]
      · have hmissing : arena.find? other ≠ some ⟨arena.refs.length⟩ := fun hfind =>
          Nat.lt_irrefl _ (hindexed.lt_of_find? hfind)
        simp [hother, Ne.symm hother, hmissing]
    · rw [List.getElem?_eq_none (by rw [List.length_append]; exact hgt)]
      refine iff_of_false (fun hfind => ?_) (by simp)
      split at hfind
      · rw [← Option.some.inj hfind] at hgt
        exact Nat.lt_irrefl _ hgt
      · exact Nat.lt_asymm hgt (hindexed.lt_of_find? hfind)

end

/-- A later state of an arena, after some allocations. -/
inductive Grown (start : Arena) : Arena → Prop
  | refl : Grown start start
  | allocate {arena : Arena} (path name : String) :
      Grown start arena → Grown start (arena.allocate path name).2

theorem Grown.trans {a b c : Arena} (h : a.Grown b) (h' : b.Grown c) : a.Grown c := by
  induction h' with
  | refl => exact h
  | allocate path name _ ih => exact ih.allocate path name

/-- What is found by a path is found by it later. -/
theorem Grown.find? {start arena : Arena} (h : start.Grown arena) {path : String} {id : RefId}
    (hfind : start.find? path = some id) : arena.find? path = some id := by
  induction h with
  | refl => exact hfind
  | @allocate arena other name _ ih =>
    rw [find?_allocate]
    split
    · rename_i hpath
      unfold Arena.allocate
      rw [← hpath, ih]
    · exact ih

theorem Grown.indexed {start arena : Arena} (h : start.Grown arena) (hstart : start.Indexed) :
    arena.Indexed := by
  induction h with
  | refl => exact hstart
  | allocate path name _ ih => exact ih.allocate path name

/-- Allocations bind nothing. -/
theorem Grown.source {start arena : Arena} (h : start.Grown arena) (place : RefId) :
    (arena.get? place).bind (·.source) = (start.get? place).bind (·.source) := by
  induction h with
  | refl => rfl
  | @allocate arena path name _ ih => rw [arena.source_allocate path name, ih]

/-- A later state of an arena, after some allocations under names with a property. -/
inductive GrownUnder (asked : String → Prop) (start : Arena) : Arena → Prop
  | refl : GrownUnder asked start start
  | allocate {arena : Arena} (path : String) {name : String} : asked name →
      GrownUnder asked start arena → GrownUnder asked start (arena.allocate path name).2

theorem GrownUnder.trans {asked : String → Prop} {a b c : Arena} (h : a.GrownUnder asked b)
    (h' : b.GrownUnder asked c) : a.GrownUnder asked c := by
  induction h' with
  | refl => exact h
  | allocate path hname _ ih => exact .allocate path hname ih

theorem GrownUnder.grown {asked : String → Prop} {start arena : Arena}
    (h : start.GrownUnder asked arena) : start.Grown arena := by
  induction h with
  | refl => exact .refl
  | allocate path _ _ ih => exact ih.allocate path _

end SchemaPress.Arena
