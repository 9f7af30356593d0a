import SchemaPress.Proofs.Graph.Batch
import SchemaPress.Proofs.Results
import SchemaPress.Proofs.Schema.Models

set_option autoImplicit false

/-! # The names of definitions

The root and the definitions of a document get their names before any of their schemas is looked
at. Objects inside them ask for names later, and a reference keeps its name however many are
allocated after it. So these names depend on the keys of the definitions and on the name of the
root only (`definition_names_stable`). -/

namespace SchemaPress

namespace Arena

/-- The display name of the reference with the given path. -/
def nameOf? (arena : Arena) (path : String) : Option String :=
  (arena.find? path).map arena.displayName

theorem SameNames.nameOf? {arena other : Arena} (h : arena.SameNames other) (path : String) :
    other.nameOf? path = arena.nameOf? path := by
  unfold Arena.nameOf?
  rw [h.find?, funext h.displayName]

/-- A display name is given once and for all. -/
theorem Grown.nameOf? {start arena : Arena} (h : start.Grown arena) (hstart : start.Indexed)
    {path name : String} (hname : start.nameOf? path = some name) :
    arena.nameOf? path = some name := by
  obtain ⟨id, hid, rfl⟩ := Option.map_eq_some_iff.1 hname
  have hplace : id.index < arena.refs.length ∧ arena.get? id = start.get? id := by
    induction h with
    | refl => exact ⟨hstart.lt_of_find? hid, rfl⟩
    | @allocate arena other suggested _ ih =>
      obtain ⟨hlt, hget⟩ := ih
      exact ⟨Nat.lt_of_lt_of_le hlt (arena.length_refs_le_allocate other suggested),
        (arena.get?_allocate other suggested hlt).trans hget⟩
  unfold Arena.nameOf? displayName
  rw [h.find? hid, Option.map_some, hplace.2]

end Arena

namespace Schema

/-- What an entry asks for: a path and a name. -/
theorem requests_entries (options : Options) (schema : Schema) :
    (schema.entries options).map (fun entry => (entry.path, entry.name)) =
      (if schema.isContainerOnly then [] else [("#", rootName options schema)]) ++
        (Entries.names schema.defs).map (fun key => ("#/$defs/" ++ key, Python.className key)) ++
        (Entries.names schema.definitions).map
          fun key => ("#/definitions/" ++ key, Python.className key) := by
  unfold entries
  split
  · simp [Entries.names, Function.comp_def]
  · simp [Entries.names, Function.comp_def]

/-- Every entry has a reference once the entries are allocated. -/
theorem exists_nameOf?_allocateEntries {entries : List Entry} {entry : Entry}
    (hentry : entry ∈ entries) {arena : Arena} (harena : arena.Indexed) (known : Entries RefId) :
    ∃ name, (allocateEntries arena known entries).2.nameOf? entry.path = some name := by
  induction entries generalizing arena known with
  | nil => cases hentry
  | cons first rest ih =>
    rw [allocateEntries]
    rcases List.mem_cons.1 hentry with rfl | hrest
    · have hfind := arena.find?_allocate entry.path entry.name entry.path
      rw [if_pos rfl] at hfind
      have hname : (arena.allocate entry.path entry.name).2.nameOf? entry.path = some _ :=
        Option.map_eq_some_iff.2 ⟨_, hfind, rfl⟩
      exact ⟨_, (grown_allocateEntries rest _ _).nameOf?
        (harena.allocate entry.path entry.name) hname⟩
    · exact ih hrest (harena.allocate first.path first.name) _

/-- The names that the entries have at the start stay when the document is lowered and its models
    are added, as far as this goes. -/
theorem nameOf?_of_lower {schema : Schema} {registry : TypeRegistry} {graph lowered : Graph}
    {specs : List ModelSpec} (hindexed : graph.arena.Indexed)
    (h : schema.lower registry graph = .ok (specs, lowered)) {path name : String}
    (hname : (schema.draftIn graph).arena.nameOf? path = some name) :
    lowered.arena.nameOf? path = some name ∧
      (lowered.build specs).2.arena.nameOf? path = some name := by
  obtain ⟨draft, hadds, rfl, rfl⟩ := adds_of_lower h
  have hentries : (schema.draftIn graph).arena.Indexed :=
    (grown_allocateEntries _ graph.arena []).indexed hindexed
  have hlowered := hadds.grown.grown.nameOf? hentries hname
  exact ⟨hlowered, ((Graph.sameNames_addAll _ _).nameOf? path).trans hlowered⟩

/-- Two documents that have the same definitions by name, in order, and either both a root with the
    same name or none, give their root and their definitions the same names: whatever the schemas
    are, and with them the objects inside that ask for names as well, and whatever types and extras
    the user has chosen. The names are there when the documents have been lowered, and stay when the
    models are added. -/
theorem definition_names_stable {options : Options} {extras extras' : Extras}
    {registry registry' : TypeRegistry} {schema edited : Schema} {specs specs' : List ModelSpec}
    {lowered lowered' : Graph}
    (hcontainer : edited.isContainerOnly = schema.isContainerOnly)
    (hroot : schema.isContainerOnly = false → rootName options edited = rootName options schema)
    (hdefs : Entries.names edited.defs = Entries.names schema.defs)
    (hdefinitions : Entries.names edited.definitions = Entries.names schema.definitions)
    (h : schema.lower registry (.empty options extras) = .ok (specs, lowered))
    (h' : edited.lower registry' (.empty options extras') = .ok (specs', lowered')) :
    (edited.entries options).map Entry.path = (schema.entries options).map Entry.path ∧
    ∀ path ∈ (schema.entries options).map Entry.path, ∃ name,
      lowered.arena.nameOf? path = some name ∧ lowered'.arena.nameOf? path = some name ∧
      (lowered.build specs).2.arena.nameOf? path = some name ∧
      (lowered'.build specs').2.arena.nameOf? path = some name := by
  have hrequests : (edited.entries options).map (fun entry => (entry.path, entry.name)) =
      (schema.entries options).map fun entry => (entry.path, entry.name) := by
    rw [requests_entries, requests_entries, hcontainer, hdefs, hdefinitions]
    cases hroots : schema.isContainerOnly with
    | true => rfl
    | false => rw [hroot hroots]
  have hpaths : (edited.entries options).map Entry.path =
      (schema.entries options).map Entry.path := by
    simpa [Function.comp_def] using congrArg (List.map Prod.fst) hrequests
  refine ⟨hpaths, fun path hpath => ?_⟩
  obtain ⟨entry, hentry, rfl⟩ := List.mem_map.1 hpath
  obtain ⟨name, hname⟩ := exists_nameOf?_allocateEntries hentry Arena.indexed_empty []
  -- the references of the entries are allocated by what they ask for, so both drafts start alike
  have hname' : (edited.draftIn (.empty options extras')).arena.nameOf? entry.path = some name := by
    rw [draftIn]
    exact (congrArg (fun result => result.2.nameOf? entry.path)
      (allocateEntries_congr hrequests {} [])).trans hname
  obtain ⟨hlowered, hbuilt⟩ := nameOf?_of_lower Arena.indexed_empty h hname
  obtain ⟨hlowered', hbuilt'⟩ := nameOf?_of_lower Arena.indexed_empty h' hname'
  exact ⟨name, hlowered, hlowered', hbuilt, hbuilt'⟩

/-- A pet whose owner is described on the spot, and two definitions: one that asks for the name of
    the root and one that asks for the name of the owner. -/
def ownedPet : Schema where
  title := some "Pet"
  properties := [("owner", { properties := [("name", { types := some ["string"] })] })]
  defs := [("pet", {}), ("PetOwner", { types := some ["string"] })]

/-- The same definitions with other schemas: the pet has no owner, but the owner has an address. -/
def strayPet : Schema where
  title := some "Pet"
  properties := [("age", { types := some ["integer"] })]
  defs :=
    [("pet", { types := some ["integer"] }),
      ("PetOwner",
        { properties :=
            [("address", { properties := [("town", { types := some ["string"] })] })] })]

/-- The owner on the spot does not get the name of the definition, which is called the same in both
    documents, as is the definition that could not have the name of the root. -/
theorem definition_names_stable_pets :
    ∃ specs lowered specs' lowered',
      ownedPet.lower {} (.empty {} {}) = .ok (specs, lowered) ∧
      strayPet.lower {} (.empty {} {}) = .ok (specs', lowered') ∧
      lowered.arena.nameOf? "#/properties/owner" = some "PetOwner1" ∧
      lowered'.arena.nameOf? "#/properties/owner" = none ∧
      (lowered'.build specs').2.arena.nameOf? "#" = some "Pet" ∧
      (lowered'.build specs').2.arena.nameOf? "#/$defs/pet" = some "Pet1" ∧
      (lowered'.build specs').2.arena.nameOf? "#/$defs/PetOwner" = some "PetOwner" := by
  have hnames : (ownedPet.lower {} (.empty {} {})).toOption.map (fun result =>
      ["#", "#/$defs/pet", "#/$defs/PetOwner", "#/properties/owner"].map
        result.2.arena.nameOf?) =
      some [some "Pet", some "Pet1", some "PetOwner", some "PetOwner1"] := by decide +kernel
  have hnames' : (strayPet.lower {} (.empty {} {})).toOption.map (fun result =>
      result.2.arena.nameOf? "#/properties/owner") = some none := by decide +kernel
  obtain ⟨result, hlower, hnames⟩ := exists_of_toOption_map hnames
  obtain ⟨result', hlower', hnames'⟩ := exists_of_toOption_map hnames'
  have hcontainer : strayPet.isContainerOnly = ownedPet.isContainerOnly := rfl
  obtain ⟨-, hstable⟩ := definition_names_stable hcontainer (fun _ => rfl) rfl rfl hlower hlower'
  simp only [List.map_cons, List.map_nil, List.cons.injEq, and_true] at hnames
  obtain ⟨hroot, hpet, howner, hinner⟩ := hnames
  have hsame : ∀ path ∈ (ownedPet.entries {}).map Entry.path, ∀ name,
      result.2.arena.nameOf? path = some name →
      (result'.2.build result'.1).2.arena.nameOf? path = some name := by
    intro path hpath name hname
    obtain ⟨given, hgiven, -, -, hbuilt⟩ := hstable path hpath
    rw [hbuilt, ← hgiven, hname]
  exact ⟨_, _, _, _, hlower, hlower', hinner, hnames', hsame _ (by decide) _ hroot,
    hsame _ (by decide) _ hpet, hsame _ (by decide) _ howner⟩

end Schema

end SchemaPress
