import Mathlib.Data.List.Forall2
import SchemaPress.Proofs.Arena
import SchemaPress.Proofs.Collapse
import SchemaPress.Proofs.Config
import SchemaPress.Proofs.Schema.Address
import SchemaPress.Proofs.Schema.Lowering

set_option autoImplicit false

/-! # The models of a document

Lowering adds one model for each of the `modelPlaces` of a document, in that order. The reference of
the model is the one that the path of the place leads to, and the model is like the schema there: an
object has one field for each property of its parts, and an entry that is no object becomes a root
model around its type (`Represents`). `Adds` says so of any part of a document, together with where
the references that occur come from and which names and types can occur at all. It holds of one
level of lowering if it holds of the level below, and so, by induction on the depth, of every
schema. This is the only induction over the levels; everything else about lowered documents is read
off from `adds_of_lower`. -/

namespace SchemaPress.Schema

open Drafting

/-! ## What is added to a draft -/

/-- What the model of a schema is like. -/
def Setting.Represents (setting : Setting) (schema : Schema) (spec : ModelSpec) : Prop :=
  if schema.isObjectModel then
    spec.kind = .base ∧ spec.nullable = false ∧
      List.Forall₂ (fun x field => ∃ type, field =
          setting.propertyField ((parts schema).flatMap Schema.required) x.1 x.2 type)
        ((parts schema).flatMap properties) spec.fields
  else
    spec.kind = .root ∧ spec.nullable = schema.isNullable ∧
      ∃ type, spec.fields = [setting.rootField schema type]

/-- A reference that belongs to a definition, or to the model at one of some places. -/
def Provides (known : Entries RefId) (places : List (String × Schema)) (arena : Arena)
    (reference : RefId) : Prop :=
  (∃ pointer, Entries.get? known pointer = some reference) ∨
    ∃ place ∈ places, arena.find? place.1 = some reference

theorem Provides.mono {known : Entries RefId} {places more : List (String × Schema)}
    {arena later : Arena} {reference : RefId} (h : Provides known places arena reference)
    (hplaces : places ⊆ more) (hgrown : arena.Grown later) :
    Provides known more later reference := by
  rcases h with h | ⟨place, hplace, hfind⟩
  · exact .inl h
  · exact .inr ⟨place, hplaces hplace, hgrown.find? hfind⟩

/-- Models for some places, in order. They mention definitions and each other only. -/
structure Setting.Describes (setting : Setting) (places : List (String × Schema)) (arena : Arena)
    (specs : List ModelSpec) : Prop where
  references : specs.map (·.reference) = places.map fun place => arena.find? place.1
  represents : List.Forall₂ (fun place spec => setting.Represents place.2 spec) places specs
  made : ∀ spec ∈ specs, ∀ field ∈ spec.fields, MadeType field.type
  closed : ∀ reference ∈ specs.flatMap ModelSpec.references,
    Provides setting.known places arena reference

/-- A draft with one model more for each of some places, in order. Some types that come with them
    mention definitions and new models only. -/
structure Adds (setting : Setting) (places : List (String × Schema)) (types : List TypeTree)
    (before after : Draft) : Prop where
  grown : before.arena.GrownUnder MadeName after.arena
  found : ∀ place ∈ places, (after.arena.find? place.1).isSome
  made : ∀ type ∈ types, MadeType type
  mentioned : ∀ type ∈ types, ∀ reference ∈ type.targets,
    Provides setting.known places after.arena reference
  specs : ∃ new, after.specs = before.specs ++ new ∧ setting.Describes places after.arena new

section

variable {setting : Setting} {places : List (String × Schema)} {types : List TypeTree}
  {before middle after : Draft}

/-- What is found by paths is found by them later. -/
theorem map_find?_grown {arena later : Arena} (hgrown : arena.Grown later)
    (hfound : ∀ place ∈ places, (arena.find? place.1).isSome) :
    (places.map fun place => arena.find? place.1) =
      places.map fun place => later.find? place.1 := by
  refine List.map_congr_left fun place hplace => ?_
  obtain ⟨id, hid⟩ := Option.isSome_iff_exists.1 (hfound place hplace)
  rw [hid, hgrown.find? hid]

theorem Setting.Describes.append {places' : List (String × Schema)} {arena later : Arena}
    {specs specs' : List ModelSpec} (h : setting.Describes places arena specs)
    (hgrown : arena.Grown later) (hfound : ∀ place ∈ places, (arena.find? place.1).isSome)
    (h' : setting.Describes places' later specs') :
    setting.Describes (places ++ places') later (specs ++ specs') where
  references := by
    rw [List.map_append, List.map_append, h.references, h'.references,
      map_find?_grown hgrown hfound]
  represents := List.rel_append h.represents h'.represents
  made := by
    intro spec hspec
    rcases List.mem_append.1 hspec with hspec | hspec
    · exact h.made spec hspec
    · exact h'.made spec hspec
  closed := by
    intro reference hreference
    rw [List.flatMap_append] at hreference
    rcases List.mem_append.1 hreference with hreference | hreference
    · exact (h.closed reference hreference).mono (List.subset_append_left _ _) hgrown
    · exact (h'.closed reference hreference).mono (List.subset_append_right _ _) .refl

/-- Nothing is added to a draft that stays as it is. -/
theorem Adds.refl (setting : Setting) (draft : Draft) : Adds setting [] [] draft draft where
  grown := .refl
  found := by simp
  made := by simp
  mentioned := by simp
  specs := ⟨[], (List.append_nil _).symm, rfl, .nil, by simp, by simp⟩

/-- One addition after another adds the models of both. -/
theorem Adds.trans {places' : List (String × Schema)} {types' : List TypeTree}
    (h : Adds setting places types before middle)
    (h' : Adds setting places' types' middle after) :
    Adds setting (places ++ places') (types ++ types') before after where
  grown := h.grown.trans h'.grown
  found := by
    intro place hplace
    rcases List.mem_append.1 hplace with hplace | hplace
    · -- what the first addition found is still found after the second
      obtain ⟨id, hid⟩ := Option.isSome_iff_exists.1 (h.found place hplace)
      rw [h'.grown.grown.find? hid]
      rfl
    · exact h'.found place hplace
  made := by
    intro type htype
    rcases List.mem_append.1 htype with htype | htype
    · exact h.made type htype
    · exact h'.made type htype
  mentioned := by
    intro type htype reference hreference
    rcases List.mem_append.1 htype with htype | htype
    · exact (h.mentioned type htype reference hreference).mono (List.subset_append_left _ _)
        h'.grown.grown
    · exact (h'.mentioned type htype reference hreference).mono (List.subset_append_right _ _)
        .refl
  specs := by
    obtain ⟨new, hspecs, hnew⟩ := h.specs
    obtain ⟨new', hspecs', hnew'⟩ := h'.specs
    refine ⟨new ++ new', ?_, hnew.append h'.grown.grown h.found hnew'⟩
    rw [hspecs', hspecs, List.append_assoc]

/-- Types may be put together to another one. -/
theorem Adds.retype (h : Adds setting places types before after) {type : TypeTree}
    (hmade : MadeType type)
    (htargets : ∀ reference ∈ type.targets, ∃ part ∈ types, reference ∈ part.targets) :
    Adds setting places [type] before after :=
  { h with
    made := by simpa using hmade
    mentioned := by
      intro other hother reference hreference
      rw [List.mem_singleton.1 hother] at hreference
      obtain ⟨part, hpart, hreference⟩ := htargets reference hreference
      exact h.mentioned part hpart reference hreference }

/-- A type that mentions nothing needs no models. -/
theorem Adds.of_plain (draft : Draft) {type : TypeTree} (hmade : MadeType type)
    (htargets : type.targets = []) : Adds setting [] [type] draft draft :=
  (Adds.refl setting draft).retype hmade (by simp [htargets])

/-- What is added after an allocation is added. -/
theorem Adds.of_allocate {path name : String} (hname : MadeName name)
    (h : Adds setting places types
      { before with arena := (before.arena.allocate path name).2 } after) :
    Adds setting places types before after :=
  { h with grown := (Arena.GrownUnder.allocate path hname .refl).trans h.grown }

/-- The model of an object or a definition comes last. -/
theorem Adds.append_spec (h : Adds setting places types before middle) {path : String}
    {schema : Schema} {reference : RefId} {spec : ModelSpec}
    (hpath : middle.arena.find? path = some reference)
    (hgiven : spec.reference = some reference) (hrepresents : setting.Represents schema spec)
    (hbases : ∀ base ∈ spec.bases, ∃ pointer, Entries.get? setting.known pointer = some base)
    (hmade : ∀ field ∈ spec.fields, MadeType field.type)
    (hfields : ∀ field ∈ spec.fields, ∀ target ∈ field.type.targets,
      ∃ type ∈ types, target ∈ type.targets)
    (harena : after.arena = middle.arena) (hspecs : after.specs = middle.specs ++ [spec]) :
    Adds setting (places ++ [(path, schema)]) [.model {} reference] before after := by
  have hown : Provides setting.known (places ++ [(path, schema)]) middle.arena reference :=
    .inr ⟨(path, schema), List.mem_append_right _ List.mem_cons_self, hpath⟩
  refine ⟨harena ▸ h.grown, ?_, ?_, ?_, ?_⟩
  · rw [harena]
    intro place hplace
    rcases List.mem_append.1 hplace with hplace | hplace
    · exact h.found place hplace
    · rw [List.mem_singleton.1 hplace, hpath]
      rfl
  · rw [List.forall_mem_singleton]
    exact .leaf rfl
  · rw [harena, List.forall_mem_singleton, TypeTree.targets_model, List.forall_mem_singleton]
    exact hown
  · obtain ⟨new, hnew, hdescribes⟩ := h.specs
    rw [harena]
    refine ⟨new ++ [spec], by rw [hspecs, hnew, List.append_assoc], ?_, ?_, ?_, ?_⟩
    · rw [List.map_append, List.map_append, hdescribes.references, List.map_singleton,
        List.map_singleton, hgiven, hpath]
    · exact List.rel_append hdescribes.represents (.cons hrepresents .nil)
    · rw [List.forall_mem_append, List.forall_mem_singleton]
      exact ⟨hdescribes.made, hmade⟩
    · intro other hother
      rw [List.flatMap_append, List.flatMap_singleton] at hother
      rcases List.mem_append.1 hother with hother | hother
      · exact (hdescribes.closed other hother).mono (List.subset_append_left _ _) .refl
      · unfold ModelSpec.references at hother
        rw [hgiven] at hother
        rcases List.mem_append.1 hother with hother | hother
        · rcases List.mem_append.1 hother with hother | hother
          · rw [List.mem_singleton.1 hother]
            exact hown
          · exact .inl (hbases other hother)
        · obtain ⟨field, hfield, hother⟩ := List.mem_flatMap.1 hother
          obtain ⟨type, htype, hother⟩ := hfields field hfield other hother
          exact (h.mentioned type htype other hother).mono (List.subset_append_left _ _) .refl

/-- Computations one after another add what each of them adds to what has grown so far. -/
theorem Adds.of_runs_from {α β : Type} {f : α → Drafting β} {members : List α} {results : List β}
    {placesOf : α → List (String × Schema)} {typesOf : β → List TypeTree} {start : Arena}
    (hstart : start.Grown before.arena) (h : Runs f members before results after)
    (hstep : ∀ member ∈ members, ∀ before result after, start.Grown before.arena →
      f member before = .ok (result, after) →
      Adds setting (placesOf member) (typesOf result) before after) :
    Adds setting (members.flatMap placesOf) (results.flatMap typesOf) before after := by
  induction h with
  | nil draft => exact Adds.refl setting draft
  | cons hfirst hrest ih =>
    have hadds := hstep _ List.mem_cons_self _ _ _ hstart hfirst
    rw [List.flatMap_cons, List.flatMap_cons]
    exact hadds.trans (ih (hstart.trans hadds.grown.grown) fun member hmember =>
      hstep member (List.mem_cons_of_mem _ hmember))

/-- The same where each of them has one type and nothing needs to be known of what came before. -/
theorem Adds.of_runs {α β : Type} {f : α → Drafting β} {members : List α} {results : List β}
    {placesOf : α → List (String × Schema)} (typeOf : β → TypeTree)
    (h : Runs f members before results after)
    (hstep : ∀ member ∈ members, ∀ before result after, f member before = .ok (result, after) →
      Adds setting (placesOf member) [typeOf result] before after) :
    Adds setting (members.flatMap placesOf) (results.map typeOf) before after := by
  rw [List.map_eq_flatMap]
  exact Adds.of_runs_from .refl h fun member hmember before result after _ hrun =>
    hstep member hmember before result after hrun

end

/-! ## One level of lowering -/

/-- A place below a path. -/
def placed (path : String) (place : Address × Schema) : String × Schema :=
  (under path place.1, place.2)

theorem map_placed_placesIn (models : Schema → List (Address × Schema))
    (inner : List (Address × Schema)) (path : String) :
    (placesIn models inner).map (placed path) =
      inner.flatMap fun x => (models x.2).map (placed (under path x.1)) := by
  rw [placesIn, List.map_flatMap]
  refine List.flatMap_congr fun x _ => ?_
  rw [List.map_map]
  refine List.map_congr_left fun rest _ => ?_
  exact congrArg (·, rest.2) (under_append path x.1 rest.1)

namespace Setting

/-- A lowering that adds, with every type, the models that the type needs. -/
def AddsInline (setting : Setting) (lower : Lowering) : Prop :=
  ∀ (schema : Schema) (path suggested : String) (before : Draft) (type : TypeTree)
      (after : Draft), MadeName suggested →
    lower schema path suggested before = .ok (type, after) →
    Adds setting ((schema.inlinePlaces setting.registry).map (placed path)) [type] before after

section

variable {setting : Setting} {lower : Lowering} {schema : Schema} {path suggested : String}
  {before after : Draft}

/-- Lowering several schemas inside a schema adds the models inside all of them. -/
theorem AddsInline.of_runs (hlower : setting.AddsInline lower) (path : String) {α β : Type}
    {f : α → Drafting β} {members : List α} {results : List β} (place : α → Address × Schema)
    (typeOf : β → TypeTree)
    (hstep : ∀ (member : α) (before : Draft) (result : β) (after : Draft),
      f member before = .ok (result, after) →
      ∃ suggested, MadeName suggested ∧
        lower (place member).2 (under path (place member).1) suggested before =
          .ok (typeOf result, after))
    (h : Runs f members before results after) :
    Adds setting
      ((placesIn (inlinePlaces setting.registry) (members.map place)).map (placed path))
      (results.map typeOf) before after := by
  rw [map_placed_placesIn, List.flatMap_map]
  refine Adds.of_runs typeOf h fun member _ before result after hrun => ?_
  obtain ⟨suggested, hsuggested, hlowered⟩ := hstep member before result after hrun
  exact hlower _ _ suggested before _ after hsuggested hlowered

/-- Each property gives its field. -/
theorem fields_of_runs {owner : String} {required : List String}
    {properties : List (String × Schema)} {fields : List FieldSpec}
    (h : Runs (fun x => setting.lowerProperty lower owner path required x.1 x.2) properties before
      fields after) :
    List.Forall₂ (fun x field => ∃ type, field = setting.propertyField required x.1 x.2 type)
      properties fields := by
  induction h with
  | nil draft => exact .nil
  | cons hfirst _ ih => exact .cons ⟨_, (lower_of_lowerProperty hfirst).2⟩ ih

/-- An object adds the models in its properties and then its own. -/
theorem AddsInline.lowerObject (hlower : setting.AddsInline lower) {reference : RefId}
    (hobject : schema.isObjectModel = true) (hpath : before.arena.find? path = some reference)
    (h : setting.lowerObject lower reference path schema before = .ok ((), after)) :
    Adds setting
      ((placesIn (inlinePlaces setting.registry) schema.innerProperties ++ [([], schema)]).map
        (placed path)) [.model {} reference] before after := by
  obtain ⟨bases, fields, middle, hbases, hfields, harena, hspecs⟩ := lowered_of_lowerObject h
  have hadds := hlower.of_runs path (fun x : String × Schema => (["properties", x.1], x.2))
    FieldSpec.type (fun x before field after hrun => ⟨_,
      .property x.1 (.short _ reference), by
        rw [under_keyword_name rfl path x.1]
        exact (lower_of_lowerProperty hrun).1⟩) hfields
  rw [List.map_append]
  refine hadds.append_spec (hadds.grown.grown.find? hpath) rfl ?_ ?_ ?_ ?_ harena hspecs
  · rw [Represents, if_pos hobject]
    exact ⟨rfl, rfl, fields_of_runs hfields⟩
  · intro base hbase
    have hmem : some base ∈ (basePointers schema).map (Entries.get? setting.known) :=
      hbases ▸ List.mem_map_of_mem hbase
    obtain ⟨pointer, -, hpointer⟩ := List.mem_map.1 hmem
    exact ⟨pointer, hpointer⟩
  · exact fun field hfield => hadds.made _ (List.mem_map_of_mem hfield)
  · exact fun field hfield target htarget => ⟨_, List.mem_map_of_mem hfield, htarget⟩

/-- A listed type may be made of no schemas. -/
theorem innerNamed_eq_nil {name : String}
    (hobject : name = "object" → ∀ values, schema.additional ≠ some (.values values))
    (harray : name = "array" → schema.items = none) : schema.innerNamed name = [] := by
  unfold innerNamed
  split
  · split
    · rename_i values hvalues
      exact absurd hvalues (hobject rfl values)
    · rfl
  · rw [harray rfl]
  · rfl

/-- A listed type adds the models in the schemas that it is made of. -/
theorem AddsInline.naming (hlower : setting.AddsInline lower) {name : String} {type : TypeTree}
    (hsuggested : MadeName suggested)
    (h : Naming setting lower schema path suggested before name type after) :
    Adds setting
      ((placesIn (inlinePlaces setting.registry) (schema.innerNamed name)).map (placed path))
      [type] before after := by
  have hitem := setting.madeName_itemName hsuggested
  cases h with
  | @values values type _ hadditional hrun =>
    have hway : under path ["additionalProperties"] = path ++ "/additionalProperties" :=
      under_keyword rfl path
    have hadds := hlower _ _ _ _ _ _ hsuggested hrun
    have hdict := hadds.retype (.dict (hadds.made type List.mem_cons_self)) (by simp)
    rw [map_placed_placesIn]
    simpa [hway, innerNamed, hadditional] using hdict
  | @each item type _ hitems hrun =>
    have hway : under path ["items"] = path ++ "/items" := under_keyword rfl path
    have hadds := hlower _ _ _ _ _ _ hitem hrun
    have hlist := hadds.retype (.list (hadds.made type List.mem_cons_self)) (by simp)
    rw [map_placed_placesIn]
    simpa [hway, innerNamed, hitems] using hlist
  | @positional items members _ hitems hruns =>
    have hway : ∀ i : Nat, under path ["items", toString i] = path ++ "/items/" ++ toString i :=
      fun i => under_keyword_name rfl path (toString i)
    have hadds := hlower.of_runs path (fun x => (["items", toString x.2], x.1)) id
      (fun x before type after hrun => ⟨_, hitem, (hway x.2).symm ▸ hrun⟩) hruns
    rw [List.map_id] at hadds
    have hlist := hadds.retype (.list (.union hadds.made)) (by simp)
    simpa [innerNamed, hitems, numbered] using hlist
  | plain hobject harray hmade htargets =>
    rw [innerNamed_eq_nil hobject harray]
    exact Adds.of_plain _ hmade htargets

theorem targets_joined (schema : Schema) (members : List TypeTree) :
    (joined schema members).targets = members.flatMap TypeTree.targets := by
  unfold joined
  split
  · split
    · rfl
    · cases schema.constant with
      | none => rfl
      | some value => cases value <;> rfl
  · exact (List.flatMap_singleton _ _).symm
  · exact TypeTree.targets_union {} members

theorem madeType_joined (schema : Schema) {members : List TypeTree}
    (h : ∀ member ∈ members, MadeType member) : MadeType (joined schema members) := by
  unfold joined
  split
  · split
    · exact .leaf rfl
    · cases schema.constant with
      | none => exact .leaf rfl
      | some value =>
        cases value with
        | null | bool | int | float | str => exact .leaf rfl
        | arr => exact .list (.leaf rfl)
        | obj => exact .dict (.leaf rfl)
  · exact h _ List.mem_cons_self
  · exact .union h

/-- Null is made of nothing, so it does no harm to look at it as well. -/
theorem flatMap_innerNamed (schema : Schema) (names : List String) :
    names.flatMap schema.innerNamed = (names.filter (· != "null")).flatMap schema.innerNamed := by
  induction names with
  | nil => rfl
  | cons name rest ih =>
    rw [List.flatMap_cons, ih]
    by_cases hnull : name = "null"
    · subst hnull
      rfl
    · rw [List.filter_cons_of_pos (by simpa using hnull), List.flatMap_cons]

theorem placesIn_typeNames (models : Schema → List (Address × Schema)) (schema : Schema)
    (names : List String) :
    placesIn models (names.flatMap schema.innerNamed) =
      (names.filter (· != "null")).flatMap fun name =>
        placesIn models (schema.innerNamed name) := by
  rw [flatMap_innerNamed, placesIn, List.flatMap_assoc]
  rfl

/-- Listed types add the models in the schemas that they are made of. -/
theorem AddsInline.lowerTypes (hlower : setting.AddsInline lower) {type : TypeTree}
    (hsuggested : MadeName suggested)
    (h : setting.lowerTypes lower schema path suggested before = .ok (type, after)) :
    Adds setting
      ((placesIn (inlinePlaces setting.registry)
        (schema.typeNames.flatMap schema.innerNamed)).map (placed path)) [type] before after := by
  obtain ⟨members, hruns, rfl⟩ := runs_of_lowerTypes h
  have hadds := Adds.of_runs id hruns fun name _ before type after hrun =>
    hlower.naming hsuggested (naming_of_lowerNamed hrun)
  rw [List.map_id] at hadds
  rw [placesIn_typeNames, List.map_flatMap]
  refine hadds.retype (madeType_joined schema hadds.made) fun reference hreference => ?_
  rw [targets_joined] at hreference
  exact List.mem_flatMap.1 hreference

/-! ### Which way is taken -/

theorem isSome_chosenType? (setting : Setting) (schema : Schema) :
    (setting.chosenType? schema).isSome = schema.hasChosenType setting.registry := by
  unfold chosenType? hasChosenType
  cases Entries.get? schema.keywords "x-python-type" with
  | none => rfl
  | some value =>
    cases value with
    | str name =>
      cases hregistered : setting.registry.type? name with
      | some type => simp [hregistered]
      | none => by_cases hdot : '.' ∈ name.toList <;> simp [hregistered, hdot]
    | _ => rfl

theorem exists_chosenType_eq {type : TypeTree} (h : setting.chosenType? schema = some type) :
    ∃ m named, type = .named m named := by
  unfold chosenType? at h
  split at h
  · split at h
    · rename_i registered hregistered
      obtain ⟨path, -, rfl⟩ := Option.map_eq_some_iff.1 hregistered
      cases h
      exact ⟨_, _, rfl⟩
    · split at h
      · cases h
        exact ⟨_, _, rfl⟩
      · cases h
  · cases h

theorem isClosed_eq_false (hpointer : schema.pointer = none)
    (hchosen : setting.chosenType? schema = none) (hchoices : schema.choices = none) :
    schema.isClosed setting.registry = false := by
  simp [isClosed, hpointer, hchoices, ← isSome_chosenType?, hchosen]

/-- A closed schema needs no classes. -/
theorem inlinePlaces_of_isClosed {registry : TypeRegistry} (h : schema.isClosed registry = true) :
    schema.inlinePlaces registry = [] := by
  rw [inlinePlaces_eq]
  simp [inner, isInlineObject, h, placesIn]

/-- One level of lowering adds the models of a schema if the levels below add theirs. -/
theorem AddsInline.step (hlower : setting.AddsInline lower) {type : TypeTree}
    (hsuggested : MadeName suggested)
    (h : Step setting lower schema path suggested before type after) :
    Adds setting ((schema.inlinePlaces setting.registry).map (placed path)) [type] before
      after := by
  cases h with
  | @pointer pointer id hpointer hknown =>
    rw [inlinePlaces_of_isClosed (by simp [isClosed, hpointer])]
    refine { Adds.refl setting before with made := ?_, mentioned := ?_ }
    · rw [List.forall_mem_singleton]
      exact .leaf rfl
    · rw [List.forall_mem_singleton, TypeTree.targets_model, List.forall_mem_singleton]
      exact .inl ⟨pointer, hknown⟩
  | chosen hpointer hchosen =>
    rw [inlinePlaces_of_isClosed (by simp [isClosed, ← isSome_chosenType?, hchosen])]
    obtain ⟨m, named, rfl⟩ := exists_chosenType_eq hchosen
    exact Adds.of_plain _ (.leaf rfl) rfl
  | @choices values hpointer hchosen hchoices =>
    rw [inlinePlaces_of_isClosed (by simp [isClosed, hchoices])]
    exact Adds.of_plain _ (.leaf rfl) rfl
  | @alternatives members _ hpointer hchosen hchoices halternatives hruns =>
    have hclosed := isClosed_eq_false hpointer hchosen hchoices
    have hadds := hlower.of_runs path
      (fun x : Schema × Nat => ([schema.alternatives.1, toString x.2], x.1)) id
      (fun x before type after hrun => ⟨suggested, hsuggested, hrun⟩) hruns
    rw [List.map_id] at hadds
    have hunion := hadds.retype (.union hadds.made) (by simp)
    rw [inlinePlaces_eq]
    simpa [inner, isInlineObject, hclosed, halternatives, numbered] using hunion
  | @only single _ _ hpointer hchosen hchoices halternatives hallOf hproperties hrun =>
    have hclosed := isClosed_eq_false hpointer hchosen hchoices
    have hobject : schema.isObjectModel = true := by simp [isObjectModel, hallOf]
    have hwraps : schema.wrapsOne = true := by simp [wrapsOne, hallOf, hproperties]
    have hway : under path ["allOf", Nat.repr 0] = path ++ "/allOf/0" := by
      rw [under_keyword_name rfl, String.append_assoc]
      rfl
    have hadds := hlower _ _ _ _ _ _ hsuggested hrun
    rw [inlinePlaces_eq, List.map_append, map_placed_placesIn]
    simpa [inner, isInlineObject, hclosed, halternatives, hobject, hwraps, hallOf, numbered, hway]
      using hadds
  | @object _ hpointer hchosen hchoices halternatives hobject hone hrun =>
    have hclosed := isClosed_eq_false hpointer hchosen hchoices
    have hwraps : schema.wrapsOne = false := by
      simpa [wrapsOne] using hone
    -- the reference is allocated before the object is lowered, so the path leads to it
    have hallocate := before.arena.find?_allocate path suggested path
    rw [if_pos rfl] at hallocate
    have hadds := (hlower.lowerObject hobject hallocate hrun).of_allocate hsuggested
    rw [inlinePlaces_eq]
    simpa [inner, isInlineObject, hclosed, halternatives, hobject, hwraps] using hadds
  | types hpointer hchosen hchoices halternatives hobject hrun =>
    have hclosed := isClosed_eq_false hpointer hchosen hchoices
    have hadds := hlower.lowerTypes hsuggested hrun
    rw [inlinePlaces_eq]
    simpa [inner, isInlineObject, hclosed, halternatives, hobject] using hadds

/-- Lowering adds the models that a type needs, however deep they are. -/
theorem addsInline_lowerType (setting : Setting) (fuel : Nat) :
    setting.AddsInline (setting.lowerType fuel) := by
  induction fuel with
  | zero =>
    intro schema path suggested before type after _ h
    exact absurd h throw_ok
  | succ fuel ih =>
    intro schema path suggested before type after hsuggested h
    exact ih.step hsuggested (step_of_lowerStep h)

/-! ## Documents -/

theorem madeType_rootField (setting : Setting) (schema : Schema) {type : TypeTree}
    (h : MadeType type) : MadeType (setting.rootField schema type).type := by
  unfold rootField
  split
  · exact .optional h
  · exact h

theorem targets_rootField (setting : Setting) (schema : Schema) (type : TypeTree) :
    (setting.rootField schema type).type.targets = type.targets := by
  unfold rootField
  split
  · exact TypeTree.targets_withMarks _ _
  · rfl

/-- A definition adds the models in it and then its own. -/
theorem adds_lowerDefinition {reference : RefId} (hpath : before.arena.find? path = some reference)
    (h : setting.lowerDefinition reference path schema before = .ok ((), after)) :
    Adds setting ((schema.entryModels setting.registry).map (placed path))
      [.model {} reference] before after := by
  have hlower := setting.addsInline_lowerType schema.height
  unfold entryModels entryInner
  by_cases hobject : schema.isObjectModel = true
  · rw [if_pos hobject]
    unfold lowerDefinition at h
    simp only [hobject, if_true] at h
    exact hlower.lowerObject hobject hpath h
  · rw [if_neg hobject]
    have hno : schema.isObjectModel = false := by simpa using hobject
    obtain ⟨type, middle, hrun, harena, hspecs⟩ := lowered_of_lowerDefinition hno h
    have hadds := hlower _ _ _ _ _ _ (.short _ reference) hrun
    have hinline : schema.inlinePlaces setting.registry =
        placesIn (inlinePlaces setting.registry) (schema.inner setting.registry) := by
      rw [inlinePlaces_eq]
      simp [isInlineObject, hno]
    rw [hinline] at hadds
    rw [List.map_append]
    refine hadds.append_spec (hadds.grown.grown.find? hpath) rfl ?_ (by simp) ?_ ?_ harena hspecs
    · rw [Represents, if_neg hobject]
      exact ⟨rfl, rfl, type, rfl⟩
    · rw [List.forall_mem_singleton]
      exact setting.madeType_rootField schema (hadds.made type List.mem_cons_self)
    · rw [List.forall_mem_singleton, targets_rootField]
      exact fun target htarget => ⟨type, List.mem_cons_self, htarget⟩

end

end Setting

/-- The definitions of a document are known by paths that are among the given ones and lead to
    their references. -/
def Indexed (known : Entries RefId) (paths : List String) (arena : Arena) : Prop :=
  ∀ (pointer : String) (id : RefId), Entries.get? known pointer = some id →
    pointer ∈ paths ∧ arena.find? pointer = some id

theorem grown_allocateEntries (entries : List Entry) (arena : Arena) (known : Entries RefId) :
    arena.Grown (allocateEntries arena known entries).2 := by
  induction entries generalizing arena known with
  | nil => exact .refl
  | cons entry rest ih =>
    exact (Arena.Grown.refl.allocate entry.path entry.name).trans (ih _ _)

/-- Allocating entries makes their paths known and leads to their references. -/
theorem indexed_allocateEntries {arena : Arena} {known : Entries RefId} {paths : List String}
    (entries : List Entry) (h : Indexed known paths arena)
    (hpaths : ∀ entry ∈ entries, entry.path ∈ paths) :
    Indexed (allocateEntries arena known entries).1 paths
      (allocateEntries arena known entries).2 := by
  induction entries generalizing arena known with
  | nil => exact h
  | cons entry rest ih =>
    have hindexed : Indexed (Entries.put known entry.path (arena.allocate entry.path entry.name).1)
        paths (arena.allocate entry.path entry.name).2 := by
      intro pointer id hid
      rw [Entries.get?_put] at hid
      rw [Arena.find?_allocate]
      split at hid
      · -- a path that occurs again leads to the reference that it led to before
        rename_i hpointer
        rw [if_pos hpointer, hpointer]
        exact ⟨hpaths entry List.mem_cons_self, hid⟩
      · rename_i hpointer
        rw [if_neg hpointer]
        exact h pointer id hid
    exact ih hindexed fun other hother => hpaths other (List.mem_cons_of_mem _ hother)

/-- The entries of a document are found by their paths from the start on. -/
theorem indexed_draftIn (schema : Schema) (registry : TypeRegistry) (graph : Graph) :
    Indexed (schema.settingIn registry graph).known
      ((schema.entries graph.options).map Entry.path) (schema.draftIn graph).arena := by
  refine indexed_allocateEntries (schema.entries graph.options) ?_ fun entry hentry =>
    List.mem_map_of_mem hentry
  intro pointer id hid
  cases hid

/-- The entries of a document are lowered at their places. -/
theorem map_entries (schema : Schema) (options : Options) :
    (schema.entries options).map (fun entry => (entry.path, entry.schema)) =
      schema.entryPlaces.map fun x => (under "#" x.1, x.2) := by
  have hdefs : ∀ key : String, under "#" ["$defs", key] = "#/$defs/" ++ key :=
    fun key => under_keyword_name rfl "#" key
  have hdefinitions : ∀ key : String, under "#" ["definitions", key] = "#/definitions/" ++ key :=
    fun key => under_keyword_name rfl "#" key
  unfold entries entryPlaces definitionPlaces
  split
  · simp [Function.comp_def, hdefs, hdefinitions]
  · simp [Function.comp_def, hdefs, hdefinitions]

theorem map_placed_modelPlaces (registry : TypeRegistry) (schema : Schema) (options : Options) :
    (schema.modelPlaces registry).map (placed "#") =
      (schema.entries options).flatMap fun entry =>
        (entry.schema.entryModels registry).map (placed entry.path) := by
  unfold modelPlaces
  rw [map_placed_placesIn]
  have h := congrArg (List.flatMap fun x : String × Schema =>
    (x.2.entryModels registry).map (placed x.1)) (map_entries schema options)
  rw [List.flatMap_map, List.flatMap_map] at h
  exact h.symm

/-- Lowering a document adds one model for each of its places to the references of its entries. -/
theorem adds_of_lower {schema : Schema} {registry : TypeRegistry} {graph lowered : Graph}
    {specs : List ModelSpec} (h : schema.lower registry graph = .ok (specs, lowered)) :
    ∃ draft : Draft,
      Adds (schema.settingIn registry graph) ((schema.modelPlaces registry).map (placed "#")) []
        (schema.draftIn graph) draft ∧
      specs = draft.specs ∧
      lowered = { graph with arena := draft.arena, extras := draft.extras } := by
  obtain ⟨results, draft, hruns, hspecs, hlowered⟩ := lowered_of_lower h
  refine ⟨draft, ?_, hspecs, hlowered⟩
  have hadds : Adds (schema.settingIn registry graph)
      ((schema.modelPlaces registry).map (placed "#")) (results.flatMap fun _ => [])
      (schema.draftIn graph) draft := by
    rw [map_placed_modelPlaces registry schema graph.options]
    refine Adds.of_runs_from .refl hruns fun entry _ before _ after hlater hrun => ?_
    obtain ⟨reference, hknown, hdefinition⟩ := Setting.lowered_of_lowerEntry hrun
    have hfind := (schema.indexed_draftIn registry graph entry.path reference hknown).2
    have hadded := Setting.adds_lowerDefinition (hlater.find? hfind) hdefinition
    exact { hadded with made := by simp, mentioned := by simp }
  exact { hadds with made := by simp, mentioned := by simp }

section

variable {schema : Schema} {registry : TypeRegistry} {graph lowered : Graph}
  {specs : List ModelSpec}

/-- A document gets one model for each of its places, in order. -/
theorem describes_of_lower (h : schema.lower registry graph = .ok (specs, lowered)) :
    (schema.settingIn registry graph).Describes ((schema.modelPlaces registry).map (placed "#"))
      lowered.arena specs := by
  obtain ⟨draft, hadds, rfl, rfl⟩ := adds_of_lower h
  obtain ⟨new, hspecs, hdescribes⟩ := hadds.specs
  have hspecs : draft.specs = new := hspecs
  rwa [hspecs]

/-- The references of a document are allocated to its entries, and then under made names. -/
theorem grownUnder_of_lower (h : schema.lower registry graph = .ok (specs, lowered)) :
    (schema.draftIn graph).arena.GrownUnder MadeName lowered.arena := by
  obtain ⟨draft, hadds, -, rfl⟩ := adds_of_lower h
  exact hadds.grown

/-- The models of a document are those of its model schemas, in order. -/
theorem represents_of_lower (h : schema.lower registry graph = .ok (specs, lowered)) :
    List.Forall₂ (schema.settingIn registry graph).Represents (schema.modelNodes registry)
      specs := by
  have hrepresents := (describes_of_lower h).represents
  rw [List.forall₂_map_left_iff] at hrepresents
  rw [modelNodes, List.forall₂_map_left_iff]
  exact hrepresents

/-- A document adds one model for each of its paths, in order, and its models mention each other
    only. -/
theorem models_of_lower (h : schema.lower registry graph = .ok (specs, lowered)) :
    graph.arena.Grown lowered.arena ∧
      (∀ path ∈ schema.modelPaths registry, (lowered.arena.find? path).isSome) ∧
      specs.map (·.reference) = (schema.modelPaths registry).map lowered.arena.find? ∧
      SelfContained specs := by
  have hdescribes := describes_of_lower h
  obtain ⟨draft, hadds, rfl, rfl⟩ := adds_of_lower h
  have hgrown : graph.arena.Grown (schema.draftIn graph).arena := grown_allocateEntries _ _ _
  have hreferences : draft.specs.map (·.reference) =
      (schema.modelPaths registry).map draft.arena.find? := by
    rw [hdescribes.references, modelPaths, List.map_map, List.map_map]
    rfl
  refine ⟨hgrown.trans hadds.grown.grown, fun path hpath => ?_, hreferences,
    fun reference hmem => ?_⟩
  · obtain ⟨x, hx, rfl⟩ := List.mem_map.1 hpath
    exact hadds.found (placed "#" x) (List.mem_map_of_mem hx)
  · rw [hdescribes.references]
    rcases hdescribes.closed reference hmem with ⟨pointer, hknown⟩ | ⟨place, hplace, hfind⟩
    · obtain ⟨hpointer, hfind⟩ := schema.indexed_draftIn registry graph pointer reference hknown
      obtain ⟨entry, hentry, rfl⟩ := List.mem_map.1 hpointer
      refine List.mem_map.2 ⟨(entry.path, entry.schema), ?_, hadds.grown.grown.find? hfind⟩
      rw [map_placed_modelPlaces registry schema graph.options]
      refine List.mem_flatMap.2 ⟨entry, hentry, List.mem_map.2 ⟨([], entry.schema), ?_, rfl⟩⟩
      exact List.mem_append_right _ List.mem_cons_self
    · exact List.mem_map.2 ⟨place, hplace, hfind⟩

end

end SchemaPress.Schema
