import SchemaPress.ModelsDocument
import SchemaPress.Proofs.Arena
import SchemaPress.Proofs.Collapse
import SchemaPress.Proofs.Config
import SchemaPress.Proofs.Entries
import SchemaPress.Proofs.Results

set_option autoImplicit false

/-! # The models of a document that defines models

A model is found by its path or by its name, and nothing else makes a type mention a model. Every
reference that is found this way is the one that the path of some definition leads to, and the
model of that definition has it. So the models of a document mention each other only
(`selfContained_of_lower`). -/

namespace SchemaPress

/-! ## Types -/

namespace TypeExpr

/-- What a name with arguments can stand for, given what the arguments stand for. -/
inductive Makes (names : Names) (name : String) :
    List (Except TypeMeaningFault TypeTree) → TypeTree → Prop
  | literal {types : List (Except TypeMeaningFault TypeTree)} {values : List Value} :
      values ≠ [] → Makes names name types (.literal {} values)
  | union {members : List TypeTree} :
      members ≠ [] → Makes names name (members.map .ok) (.union {} members)
  | anyDict : Makes names name [] (.dict {} .any)
  | dict {value : TypeTree} : Makes names name [.ok value] (.dict {} value)
  | keyedDict {key value : TypeTree} :
      Makes names name [.ok key, .ok value] (.keyedDict {} key value)
  | resolved : Makes names name [] (names.resolve name)
  | list {item : TypeTree} : Makes names name [.ok item] (.list {} item)
  | set {item : TypeTree} : Makes names name [.ok item] (.set {} item)
  | optional {item : TypeTree} : Makes names name [.ok item] item.optional

theorem length_literalValues {arguments : List TypeExpr} {values : List Value}
    (h : literalValues arguments = .ok values) : values.length = arguments.length := by
  induction arguments generalizing values with
  | nil =>
    cases h
    rfl
  | cons expr rest ih =>
    rw [literalValues] at h
    cases hvalue : literalValue? expr with
    | none =>
      rw [hvalue] at h
      cases h
    | some value =>
      simp only [hvalue, bind_eq_ok_iff, pure_eq_ok_iff] at h
      obtain ⟨others, hothers, rfl⟩ := h
      rw [List.length_cons, List.length_cons, ih hothers]

theorem makes_of_apply {names : Names} {name : String} {arguments : List TypeExpr}
    {types : List (Except TypeMeaningFault TypeTree)} {type : TypeTree}
    (hlength : types.length = arguments.length)
    (h : apply names name arguments types = .ok type) : Makes names name types type := by
  unfold apply at h
  split at h
  · -- a literal
    rename_i hliteral
    simp only [bind_eq_ok_iff, pure_eq_ok_iff] at h
    obtain ⟨values, hvalues, rfl⟩ := h
    refine .literal fun hempty => ?_
    have hvalues := length_literalValues hvalues
    rw [hempty] at hvalues
    simp [List.length_eq_zero_iff.1 hvalues.symm] at hliteral
  split at h
  · -- a union
    rename_i hunion
    simp only [bind_eq_ok_iff, pure_eq_ok_iff] at h
    obtain ⟨members, hmembers, rfl⟩ := h
    have hmap := map_eq_of_mapM_eq_ok hmembers
    rw [List.map_id] at hmap
    subst hmap
    refine .union fun hempty => ?_
    rw [hempty] at hlength
    simp [List.length_eq_zero_iff.1 hlength.symm] at hunion
  split at h
  · -- a dictionary
    split at h
    · cases h
      exact .anyDict
    · simp only [bind_eq_ok_iff, pure_eq_ok_iff] at h
      obtain ⟨value, rfl, rfl⟩ := h
      exact .dict
    · simp only [bind_eq_ok_iff, pure_eq_ok_iff] at h
      obtain ⟨key, rfl, value, rfl, rfl⟩ := h
      exact .keyedDict
    · cases h
  · split at h
    · cases h
      exact .resolved
    · -- a list, a set or an optional type
      split at h
      · simp only [bind_eq_ok_iff, pure_eq_ok_iff] at h
        obtain ⟨item, rfl, rfl⟩ := h
        exact .list
      split at h
      · simp only [bind_eq_ok_iff, pure_eq_ok_iff] at h
        obtain ⟨item, rfl, rfl⟩ := h
        exact .set
      split at h
      · simp only [bind_eq_ok_iff, pure_eq_ok_iff] at h
        obtain ⟨item, rfl, rfl⟩ := h
        exact .optional
      · cases h
    · cases h

theorem length_toTypes (names : Names) (exprs : List TypeExpr) :
    (toTypes names exprs).length = exprs.length := by
  induction exprs with
  | nil => rfl
  | cons expr rest ih => rw [toTypes, List.length_cons, List.length_cons, ih]

/-- A property that a type has whenever the types of the arguments have it. -/
def Names.Keeps (names : Names) (good : TypeTree → Prop) : Prop :=
  ∀ name types type, Makes names name types type →
    (∀ tree, .ok tree ∈ types → good tree) → good type

section

variable {names : Names} {good : TypeTree → Prop}

mutual

/-- Such a property holds of every type that an expression stands for. -/
theorem Names.Keeps.toType (hgood : names.Keeps good) : ∀ (expr : TypeExpr) (type : TypeTree),
    expr.toType names = .ok type → good type
  | .constant _, _, h => by cases h
  | .named name arguments, type, h =>
    hgood name _ type (makes_of_apply (length_toTypes names arguments) h)
      (Names.Keeps.toTypes hgood arguments)

theorem Names.Keeps.toTypes (hgood : names.Keeps good) :
    ∀ (exprs : List TypeExpr) (type : TypeTree), .ok type ∈ toTypes names exprs → good type
  | [], _, h => absurd h List.not_mem_nil
  | expr :: rest, type, h => by
    rcases List.mem_cons.1 h with h | h
    · exact Names.Keeps.toType hgood expr type h.symm
    · exact Names.Keeps.toTypes hgood rest type h

end

theorem Names.Keeps.readType (hgood : names.Keeps good) {text : String} {type : TypeTree}
    (h : readType names text = .ok type) : good type := by
  unfold TypeExpr.readType at h
  obtain ⟨expr, -, h⟩ := bind_eq_ok_iff.1 h
  cases htype : expr.toType names with
  | error fault =>
    rw [htype] at h
    cases h
  | ok found =>
    rw [htype] at h
    cases h
    exact hgood.toType expr _ htype

end

/-- What a name by itself stands for: a model that has the name, or a type with a name. -/
theorem Names.resolve_cases (names : Names) (name : String) :
    (∃ target, Entries.get? names.models name = some target ∧
      names.resolve name = .model {} target) ∨
    ∃ m type, names.resolve name = .named m type := by
  unfold Names.resolve
  split
  · rename_i target htarget
    exact .inl ⟨target, htarget, rfl⟩
  · right
    split
    · rename_i type htype
      obtain ⟨path, -, rfl⟩ := Option.map_eq_some_iff.1 htype
      exact ⟨_, _, rfl⟩
    · split
      · exact ⟨_, _, rfl⟩
      · split
        · exact ⟨_, _, rfl⟩
        · split
          · exact ⟨_, _, rfl⟩
          · exact ⟨_, _, rfl⟩

/-- A type that mentions no models but those that have names. -/
def Names.Covers (names : Names) (type : TypeTree) : Prop :=
  ∀ target ∈ type.targets, ∃ name, Entries.get? names.models name = some target

/-- A name with arguments mentions no models but those of its arguments and its own. -/
theorem Names.keeps_covers (names : Names) : names.Keeps names.Covers := by
  intro name types type h htypes
  cases h with
  | literal => simp [Names.Covers]
  | union =>
    intro target htarget
    rw [TypeTree.targets_union] at htarget
    obtain ⟨member, hmember, htarget⟩ := List.mem_flatMap.1 htarget
    exact htypes member (List.mem_map_of_mem hmember) target htarget
  | anyDict => simp [Names.Covers, TypeTree.any, TypeTree.imported]
  | @keyedDict key value =>
    intro target htarget
    rw [TypeTree.targets_keyedDict] at htarget
    rcases List.mem_append.1 htarget with htarget | htarget
    · exact htypes key (by simp) target htarget
    · exact htypes value (by simp) target htarget
  | resolved =>
    rcases names.resolve_cases name with ⟨target, hname, hresolve⟩ | ⟨m, found, hresolve⟩
    · simpa [Names.Covers, hresolve] using ⟨name, hname⟩
    · simp [Names.Covers, hresolve]
  | @dict item | @list item | @set item =>
    simpa [Names.Covers] using htypes item (by simp)
  | @optional item =>
    simpa [Names.Covers, TypeTree.optional, TypeTree.targets_withMarks] using
      htypes item (by simp)

end TypeExpr

namespace ModelsDocument

open TypeExpr

/-! ## Models -/

theorem bases_of_resolveBases {known : Entries RefId} {model : String} {bases : List String}
    {ids : List RefId} (h : resolveBases known model bases = .ok ids) :
    ∀ id ∈ ids, ∃ name, Entries.get? known name = some id := by
  induction bases generalizing ids with
  | nil =>
    cases h
    simp
  | cons base rest ih =>
    rw [resolveBases] at h
    cases hbase : Entries.get? known base with
    | none =>
      rw [hbase] at h
      cases h
    | some found =>
      simp only [hbase, bind_eq_ok_iff, pure_eq_ok_iff] at h
      obtain ⟨others, hothers, rfl⟩ := h
      intro id hid
      rcases List.mem_cons.1 hid with rfl | hid
      · exact ⟨base, hbase⟩
      · exact ih hothers id hid

/-- The types of fields are read from texts. -/
theorem read_of_mapM_lowerField {names : Names} {itemsAsLength : Bool}
    {definitions : List FieldDef} {fields : List FieldSpec}
    (h : definitions.mapM (lowerField names itemsAsLength) = .ok fields) :
    ∀ field ∈ fields, ∃ text, readType names text = .ok field.type := by
  intro field hfield
  obtain ⟨definition, -, hlower⟩ := exists_of_mapM_eq_ok h hfield
  unfold lowerField at hlower
  simp only [bind_eq_ok_iff, pure_eq_ok_iff] at hlower
  obtain ⟨type, htype, rfl⟩ := hlower
  exact ⟨definition.type, htype⟩

/-- A model has the reference that its path stands for, and mentions models that have names. -/
theorem lowered_of_lowerModel {names : Names} {itemsAsLength : Bool} {definition : ModelDef}
    {spec : ModelSpec} (h : lowerModel names itemsAsLength definition = .ok spec) :
    spec.reference = Entries.get? names.models definition.pathOrName ∧
      ∀ reference ∈ spec.references, ∃ name, Entries.get? names.models name = some reference := by
  unfold lowerModel at h
  simp only [bind_eq_ok_iff, pure_eq_ok_iff] at h
  obtain ⟨bases, hbases, fields, hfields, rfl⟩ := h
  refine ⟨rfl, fun reference hreference => ?_⟩
  rcases List.mem_append.1 hreference with hreference | hreference
  · rcases List.mem_append.1 hreference with hreference | hreference
    · exact ⟨definition.pathOrName, by simpa using hreference⟩
    · exact bases_of_resolveBases hbases reference hreference
  · obtain ⟨field, hfield, htarget⟩ := List.mem_flatMap.1 hreference
    obtain ⟨text, htype⟩ := read_of_mapM_lowerField hfields field hfield
    exact names.keeps_covers.readType htype reference htarget

/-- What holds of all types that expressions stand for holds of the types of all fields. -/
theorem typed_of_lower {document : ModelsDocument} {registry : TypeRegistry}
    {graph lowered : Graph} {specs : List ModelSpec} {good : TypeTree → Prop}
    (hgood : ∀ names : Names, names.Keeps good)
    (h : document.lower registry graph = .ok (specs, lowered)) :
    ∀ spec ∈ specs, ∀ field ∈ spec.fields, good field.type := by
  unfold lower at h
  obtain ⟨⟨known, allocated⟩, -, h⟩ := bind_eq_ok_iff.1 h
  obtain ⟨specs', hspecs, h⟩ := bind_eq_ok_iff.1 h
  cases h
  intro spec hspec field hfield
  obtain ⟨definition, -, hlower⟩ := exists_of_mapM_eq_ok hspecs hspec
  unfold lowerModel at hlower
  simp only [bind_eq_ok_iff, pure_eq_ok_iff] at hlower
  obtain ⟨bases, -, fields, hfields, rfl⟩ := hlower
  obtain ⟨text, htype⟩ := read_of_mapM_lowerField hfields field hfield
  exact (hgood _).readType htype

/-! ## References -/

/-- What is known leads to the references of some paths, and those paths are known. -/
structure Registered (known : Entries RefId) (paths : List String) (arena : Arena) : Prop where
  sound : ∀ (name : String) (id : RefId), Entries.get? known name = some id →
    ∃ path ∈ paths, arena.find? path = some id
  complete : ∀ path ∈ paths, ∃ id, Entries.get? known path = some id ∧
    arena.find? path = some id

/-- One definition more makes its path known, and its name if nothing else has it. -/
theorem Registered.allocate {known : Entries RefId} {paths : List String} {arena : Arena}
    (h : Registered known paths arena) (path name : String) :
    Registered (Entries.putNew (Entries.put known path (arena.allocate path name).1) name
      (arena.allocate path name).1) (paths ++ [path]) (arena.allocate path name).2 := by
  have hgrown : arena.Grown (arena.allocate path name).2 := Arena.Grown.refl.allocate path name
  have hnew : (arena.allocate path name).2.find? path = some (arena.allocate path name).1 := by
    rw [Arena.find?_allocate, if_pos rfl]
  constructor
  · intro other id hid
    rw [Entries.get?_putNew, Entries.get?_put, Option.or_eq_some_iff] at hid
    have hid : id = (arena.allocate path name).1 ∨ Entries.get? known other = some id := by
      rcases hid with hid | ⟨-, hid⟩
      · split at hid
        · exact .inl (Option.some.inj hid).symm
        · exact .inr hid
      · split at hid
        · exact .inl (Option.some.inj hid).symm
        · cases hid
    rcases hid with rfl | hid
    · exact ⟨path, List.mem_append_right _ List.mem_cons_self, hnew⟩
    · obtain ⟨found, hfound, hfind⟩ := h.sound other id hid
      exact ⟨found, List.mem_append_left _ hfound, hgrown.find? hfind⟩
  · intro other hother
    rw [Entries.get?_putNew, Entries.get?_put]
    by_cases hsame : other = path
    · rw [if_pos hsame, hsame]
      exact ⟨_, rfl, hnew⟩
    · -- a name is put only if it is new, so it cannot hide a path
      rw [if_neg hsame]
      have hold : other ∈ paths := by simpa [hsame] using hother
      obtain ⟨id, hid, hfind⟩ := h.complete other hold
      rw [hid]
      exact ⟨id, rfl, hgrown.find? hfind⟩

/-- Allocation registers the paths of all definitions and changes nothing else. -/
theorem registered_of_allocateAll {definitions : List ModelDef} {graph lowered : Graph}
    {known all : Entries RefId} {paths : List String} (h : Registered known paths graph.arena)
    (hall : allocateAll graph known definitions = .ok (all, lowered)) :
    Registered all (paths ++ definitions.map ModelDef.pathOrName) lowered.arena ∧
      graph.arena.Grown lowered.arena ∧ lowered = { graph with arena := lowered.arena } := by
  induction definitions generalizing graph known paths with
  | nil =>
    cases hall
    exact ⟨by simpa using h, .refl, rfl⟩
  | cons definition rest ih =>
    rw [allocateAll] at hall
    split at hall
    · cases hall
    · obtain ⟨hregistered, hgrown, hlowered⟩ := ih
        (h.allocate definition.pathOrName definition.name) hall
      refine ⟨?_, ?_, hlowered⟩
      · rwa [List.map_cons, List.append_cons]
      · exact (Arena.Grown.refl.allocate definition.pathOrName definition.name).trans hgrown

/-- The models of a document have references, and mention each other only. -/
theorem selfContained_of_lower {document : ModelsDocument} {registry : TypeRegistry}
    {graph lowered : Graph} {specs : List ModelSpec}
    (h : document.lower registry graph = .ok (specs, lowered)) :
    SelfContained specs ∧ graph.arena.Grown lowered.arena ∧
      lowered = { graph with arena := lowered.arena } ∧
      ∀ reference, some reference ∈ specs.map (·.reference) →
        ∃ path, lowered.arena.find? path = some reference := by
  unfold lower at h
  obtain ⟨⟨known, allocated⟩, hall, h⟩ := bind_eq_ok_iff.1 h
  obtain ⟨specs', hspecs, h⟩ := bind_eq_ok_iff.1 h
  cases h
  have hempty : Registered [] [] graph.arena := ⟨fun _ _ hid => (by cases hid), by simp⟩
  obtain ⟨hregistered, hgrown, hlowered⟩ := registered_of_allocateAll hempty hall
  have hmap := map_eq_of_mapM_eq_ok hspecs
  refine ⟨fun reference hreference => ?_, hgrown, hlowered, fun reference hreference => ?_⟩
  · -- a model that is mentioned has a path, and the definition with that path gives the model
    obtain ⟨spec, hspec, hreference⟩ := List.mem_flatMap.1 hreference
    obtain ⟨definition, -, hlower⟩ := exists_of_mapM_eq_ok hspecs hspec
    obtain ⟨name, hname⟩ := (lowered_of_lowerModel hlower).2 reference hreference
    obtain ⟨path, hpath, hfind⟩ := hregistered.sound name reference hname
    obtain ⟨id, hid, hfind'⟩ := hregistered.complete path hpath
    cases hfind.symm.trans hfind'
    rw [List.nil_append] at hpath
    obtain ⟨target, htarget, rfl⟩ := List.mem_map.1 hpath
    have hmem : lowerModel ⟨known, registry⟩ lowered.options.flavor.itemBoundsAsLength target ∈
        specs.map Except.ok := hmap ▸ List.mem_map_of_mem htarget
    obtain ⟨found, hfound, heq⟩ := List.mem_map.1 hmem
    exact List.mem_map.2 ⟨found, hfound, (lowered_of_lowerModel heq.symm).1.trans hid⟩
  · obtain ⟨spec, hspec, hgiven⟩ := List.mem_map.1 hreference
    obtain ⟨definition, -, hlower⟩ := exists_of_mapM_eq_ok hspecs hspec
    have hknown := (lowered_of_lowerModel hlower).1.symm.trans hgiven
    obtain ⟨path, -, hfind⟩ := hregistered.sound _ reference hknown
    exact ⟨path, hfind⟩

end ModelsDocument

end SchemaPress
