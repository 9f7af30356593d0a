import Mathlib.Data.List.Forall2
import SchemaPress.Proofs.Schema.Address
import SchemaPress.Proofs.Schema.Lowering

set_option autoImplicit false

/-! # Null that is overlooked

A schema admits null by saying so, or by listing null beside other types. For a schema that stands
for a type (items, further properties, alternatives and parts of an object) lowering does not look
at that, nor does it for an entry of a document that is an object.

`forgetNested` takes null away from all of them, at every depth, and from nothing else. The document
is lowered to the same models (`lower_forgetNested`), although none of them admits null any more
(`isNullable_of_isNestedIn`). One level of lowering gives the same result if the level below does,
since null changes neither the way that is taken nor the schemas inside. -/

namespace SchemaPress.Schema

/-! ## Forgetting null -/

/-- The names of types without null, where it stands among several. On its own it is the type. -/
def withoutNull (names : List String) : List String :=
  if 1 < names.length then names.filter (· != "null") else names

mutual

/-- A schema in which the types inside it do not admit null, and neither does its own unless that
    is kept. The properties of objects keep theirs. -/
def forget (keep : Bool) : Schema → Schema
  | ⟨pointer, types, title, description, format, properties, required, items, additional, choices,
      constant, default, nullable, anyOf, oneOf, allOf, defs, definitions, keywords⟩ =>
    ⟨pointer, if keep then types else types.map withoutNull, title, description, format,
      forgetProperties properties, required, forgetItems items, forgetAdditional additional,
      choices, constant, default, keep && nullable, forgetAll anyOf, forgetAll oneOf,
      forgetAll allOf, defs, definitions, keywords⟩

/-- Types that do not admit null. -/
def forgetAll : List Schema → List Schema
  | [] => []
  | schema :: rest => schema.forget false :: forgetAll rest

/-- Properties keep their own null. -/
def forgetProperties : List (String × Schema) → List (String × Schema)
  | [] => []
  | (name, schema) :: rest => (name, schema.forget true) :: forgetProperties rest

/-- Items that do not admit null. -/
def forgetItems : Option (Items Schema) → Option (Items Schema)
  | none => none
  | some (.each item) => some (.each (item.forget false))
  | some (.positional items) => some (.positional (forgetAll items))

/-- Further properties that do not admit null. -/
def forgetAdditional : Option (Additional Schema) → Option (Additional Schema)
  | none => none
  | some (.flag allowed) => some (.flag allowed)
  | some (.values values) => some (.values (values.forget false))

end

mutual

theorem height_forget (keep : Bool) :
    (schema : Schema) → (schema.forget keep).height = schema.height
  | ⟨_, _, _, _, _, properties, _, items, additional, _, _, _, _, anyOf, oneOf, allOf, _, _,
      _⟩ => by
    rw [forget, height, height, heightOfProperties_forget properties, heightOfItems_forget items,
      heightOfAdditional_forget additional, heightOfAll_forget anyOf, heightOfAll_forget oneOf,
      heightOfAll_forget allOf]

theorem heightOfAll_forget : (schemas : List Schema) →
    heightOfAll (forgetAll schemas) = heightOfAll schemas
  | [] => rfl
  | schema :: rest => by
    rw [forgetAll, heightOfAll, heightOfAll, height_forget false schema, heightOfAll_forget rest]

theorem heightOfProperties_forget : (properties : List (String × Schema)) →
    heightOfProperties (forgetProperties properties) = heightOfProperties properties
  | [] => rfl
  | (name, schema) :: rest => by
    rw [forgetProperties, heightOfProperties, heightOfProperties, height_forget true schema,
      heightOfProperties_forget rest]

theorem heightOfItems_forget : (items : Option (Items Schema)) →
    heightOfItems (forgetItems items) = heightOfItems items
  | none => rfl
  | some (.each item) => by
    rw [forgetItems, heightOfItems, heightOfItems, height_forget false item]
  | some (.positional items) => by
    rw [forgetItems, heightOfItems, heightOfItems, heightOfAll_forget items]

theorem heightOfAdditional_forget : (additional : Option (Additional Schema)) →
    heightOfAdditional (forgetAdditional additional) = heightOfAdditional additional
  | none => rfl
  | some (.flag allowed) => rfl
  | some (.values values) => by
    rw [forgetAdditional, heightOfAdditional, heightOfAdditional, height_forget false values]

end

theorem forgetAll_eq (schemas : List Schema) : forgetAll schemas = schemas.map (forget false) := by
  induction schemas with
  | nil => rfl
  | cons schema rest ih => rw [forgetAll, ih, List.map_cons]

theorem forgetProperties_eq (properties : List (String × Schema)) :
    forgetProperties properties = properties.map fun x => (x.1, x.2.forget true) := by
  induction properties with
  | nil => rfl
  | cons property rest ih => rw [forgetProperties, ih, List.map_cons]

section

variable (keep : Bool) (schema : Schema)

@[simp]
theorem pointer_forget : (schema.forget keep).pointer = schema.pointer := by
  cases schema
  rfl

@[simp]
theorem types_forget : (schema.forget keep).types =
    if keep then schema.types else schema.types.map withoutNull := by
  cases schema
  rfl

@[simp]
theorem title_forget : (schema.forget keep).title = schema.title := by
  cases schema
  rfl

@[simp]
theorem description_forget : (schema.forget keep).description = schema.description := by
  cases schema
  rfl

@[simp]
theorem format_forget : (schema.forget keep).format = schema.format := by
  cases schema
  rfl

@[simp]
theorem properties_forget : (schema.forget keep).properties =
    schema.properties.map fun x => (x.1, x.2.forget true) := by
  rw [← forgetProperties_eq]
  cases schema
  rfl

@[simp]
theorem required_forget : (schema.forget keep).required = schema.required := by
  cases schema
  rfl

@[simp]
theorem items_forget : (schema.forget keep).items = forgetItems schema.items := by
  cases schema
  rfl

@[simp]
theorem additional_forget :
    (schema.forget keep).additional = forgetAdditional schema.additional := by
  cases schema
  rfl

@[simp]
theorem choices_forget : (schema.forget keep).choices = schema.choices := by
  cases schema
  rfl

@[simp]
theorem constant_forget : (schema.forget keep).constant = schema.constant := by
  cases schema
  rfl

@[simp]
theorem default_forget : (schema.forget keep).default = schema.default := by
  cases schema
  rfl

@[simp]
theorem nullable_forget : (schema.forget keep).nullable = (keep && schema.nullable) := by
  cases schema
  rfl

@[simp]
theorem anyOf_forget : (schema.forget keep).anyOf = schema.anyOf.map (forget false) := by
  rw [← forgetAll_eq]
  cases schema
  rfl

@[simp]
theorem oneOf_forget : (schema.forget keep).oneOf = schema.oneOf.map (forget false) := by
  rw [← forgetAll_eq]
  cases schema
  rfl

@[simp]
theorem allOf_forget : (schema.forget keep).allOf = schema.allOf.map (forget false) := by
  rw [← forgetAll_eq]
  cases schema
  rfl

@[simp]
theorem keywords_forget : (schema.forget keep).keywords = schema.keywords := by
  cases schema
  rfl

end

/-! ### What lowering sees -/

theorem filter_withoutNull (names : List String) :
    (withoutNull names).filter (· != "null") = names.filter (· != "null") := by
  unfold withoutNull
  split
  · rw [List.filter_filter]
    simp
  · rfl

theorem withoutNull_eq_null_iff (names : List String) :
    withoutNull names = ["null"] ↔ names = ["null"] := by
  unfold withoutNull
  split
  · rename_i hlength
    constructor
    · intro h
      have hmem : "null" ∈ names.filter (· != "null") := h ▸ List.mem_cons_self
      simp at hmem
    · rintro rfl
      simp at hlength
  · rfl

section

variable (keep : Bool) (schema : Schema)

theorem typeNames_forget : (schema.forget keep).typeNames =
    if keep then schema.typeNames else withoutNull schema.typeNames := by
  unfold typeNames
  rw [types_forget]
  cases keep <;> cases schema.types <;> rfl

theorem filter_typeNames_forget :
    (schema.forget keep).typeNames.filter (· != "null") =
      schema.typeNames.filter (· != "null") := by
  rw [typeNames_forget]
  split
  · rfl
  · exact filter_withoutNull _

theorem typeNames_forget_eq_null_iff :
    (schema.forget keep).typeNames = ["null"] ↔ schema.typeNames = ["null"] := by
  rw [typeNames_forget]
  split
  · rfl
  · exact withoutNull_eq_null_iff _

/-- Null that is kept is there, and null that is not kept is gone. -/
theorem isNullable_forget : (schema.forget keep).isNullable = (keep && schema.isNullable) := by
  cases keep with
  | true => simp [isNullable, typeNames_forget]
  | false =>
    simp only [isNullable, nullable_forget, typeNames_forget, Bool.false_and, Bool.false_or,
      Bool.false_eq_true, if_false]
    unfold withoutNull
    split
    · simp
    · rename_i hsingle
      simp only [hsingle, decide_false, Bool.false_and]

theorem alternatives_forget : (schema.forget keep).alternatives =
    (schema.alternatives.1, schema.alternatives.2.map (forget false)) := by
  unfold alternatives
  simp only [anyOf_forget, oneOf_forget, List.isEmpty_map]
  split <;> rfl

theorem admitsFurther?_forget :
    (schema.forget keep).admitsFurther? = schema.admitsFurther? := by
  rw [admitsFurther?, additional_forget, admitsFurther?]
  cases schema.additional with
  | none => rfl
  | some additional => cases additional <;> rfl

theorem isObjectModel_forget : (schema.forget keep).isObjectModel = schema.isObjectModel := by
  simp [isObjectModel]

theorem isContainerOnly_forget :
    (schema.forget keep).isContainerOnly = schema.isContainerOnly := by
  have htypes : (schema.forget keep).types.isNone = schema.types.isNone := by
    rw [types_forget]
    split <;> simp
  have hitems : (schema.forget keep).items.isNone = schema.items.isNone := by
    rw [items_forget]
    rcases schema.items with _ | _ | _ <;> rfl
  rw [isContainerOnly, htypes, hitems]
  simp [isContainerOnly]

end

namespace Setting

section

variable (keep : Bool) (schema : Schema)

/-- The parts of an object apart from the object itself. -/
theorem parts_forget : parts (schema.forget keep) =
    schema.forget keep :: (parts schema).tail.map (forget false) := by
  have hkept : ∀ member : Schema,
      ((member.forget false).pointer.isNone || !(member.forget false).properties.isEmpty) =
        (member.pointer.isNone || !member.properties.isEmpty) := by
    intro member
    simp
  rw [parts, parts, List.tail_cons, allOf_forget, List.filter_map]
  congr 3
  exact funext hkept

theorem required_parts_forget : (parts (schema.forget keep)).flatMap required =
    (parts schema).flatMap required := by
  rw [parts_forget, List.flatMap_cons, List.flatMap_map, required_forget]
  simp only [required_forget]
  rfl

theorem properties_parts_forget : (parts (schema.forget keep)).flatMap properties =
    ((parts schema).flatMap properties).map fun x => (x.1, x.2.forget true) := by
  rw [parts_forget, List.flatMap_cons, List.flatMap_map, properties_forget, List.map_flatMap]
  simp only [properties_forget]
  rfl

theorem basePointers_forget : basePointers (schema.forget keep) = basePointers schema := by
  rw [basePointers, basePointers, allOf_forget, List.filterMap_map]
  congr 1
  funext member
  simp

end

/-! ## Lowering does not look at null -/

/-- A lowering for which it does not matter whether null has been forgotten. -/
def Overlooks (lower : Lowering) : Prop :=
  ∀ (keep : Bool) (schema : Schema) (path suggested : String),
    lower (schema.forget keep) path suggested = lower schema path suggested

section

variable {setting : Setting} {lower : Lowering} (hlower : Overlooks lower)
include hlower

theorem lowerNamed_forget (keep : Bool) (schema : Schema) (path suggested name : String) :
    setting.lowerNamed lower (schema.forget keep) path suggested name =
      setting.lowerNamed lower schema path suggested name := by
  unfold lowerNamed
  split
  · rw [additional_forget]
    cases schema.additional with
    | none => rfl
    | some additional =>
      cases additional with
      | flag allowed => rfl
      | values values => simp only [forgetAdditional, hlower false values]
  · rw [items_forget]
    cases schema.items with
    | none => rfl
    | some items =>
      cases items with
      | each item => simp only [forgetItems, hlower false item]
      | positional items =>
        simp only [forgetItems, forgetAll_eq, List.zipIdx_map, List.mapM_map, Function.comp_def,
          Prod.map_fst, Prod.map_snd, id_eq, hlower false]
  · simp [textType]
  · rfl
  · simp [numberType]
  · rfl
  · rfl
  · rfl

theorem lowerTypes_forget (keep : Bool) (schema : Schema) (path suggested : String) :
    setting.lowerTypes lower (schema.forget keep) path suggested =
      setting.lowerTypes lower schema path suggested := by
  unfold lowerTypes
  rw [filter_typeNames_forget, constant_forget,
    funext (lowerNamed_forget hlower keep schema path suggested)]
  simp only [typeNames_forget_eq_null_iff]

/-- A property is asked whether it admits null, so it has to keep its own. -/
theorem lowerProperty_forget (owner path : String) (required : List String) (name : String)
    (schema : Schema) :
    setting.lowerProperty lower owner path required name (schema.forget true) =
      setting.lowerProperty lower owner path required name schema := by
  unfold lowerProperty
  simp only [hlower true, propertyField, default_forget, isNullable_forget, Bool.true_and,
    constraints?, keywords_forget, propertyExtras, description_forget, constant_forget]

theorem lowerObject_forget (keep : Bool) (reference : RefId) (path : String) (schema : Schema) :
    setting.lowerObject lower reference path (schema.forget keep) =
      setting.lowerObject lower reference path schema := by
  unfold lowerObject
  simp only [basePointers_forget, required_parts_forget, properties_parts_forget, List.mapM_map,
    Function.comp_def, lowerProperty_forget hlower, admitsFurther?_forget, description?,
    description_forget]

/-- One level of lowering takes the same way if the level below gives the same types. -/
theorem lowerStep_forget (keep : Bool) (schema : Schema) (path suggested : String) :
    setting.lowerStep lower (schema.forget keep) path suggested =
      setting.lowerStep lower schema path suggested := by
  have hchosen : setting.chosenType? (schema.forget keep) = setting.chosenType? schema := by
    rw [chosenType?, chosenType?, keywords_forget]
  unfold lowerStep
  simp only [pointer_forget, hchosen, choices_forget, alternatives_forget, List.isEmpty_map,
    List.zipIdx_map, List.mapM_map, Function.comp_def, Prod.map_fst, Prod.map_snd, id_eq,
    hlower false, isObjectModel_forget, lowerTypes_forget hlower, lowerObject_forget hlower,
    allOf_forget, properties_forget]
  -- forgetting keeps the shapes of the lists that tell the ways of an object apart
  rcases schema.allOf with _ | ⟨single, _ | ⟨second, rest⟩⟩
  · rfl
  · rcases schema.properties with _ | ⟨property, others⟩
    · simp only [List.map_cons, List.map_nil, hlower false]
    · rfl
  · rfl

end

/-- Null is overlooked at every depth. -/
theorem overlooks_lowerType (setting : Setting) (fuel : Nat) :
    Overlooks (setting.lowerType fuel) := by
  induction fuel with
  | zero =>
    intro keep schema path suggested
    rfl
  | succ fuel ih =>
    intro keep schema path suggested
    exact lowerStep_forget ih keep schema path suggested

end Setting

/-! ## Documents -/

/-- An entry of a document without the null that is overlooked: only an entry that is no object
    keeps its own. -/
def forgetEntry (schema : Schema) : Schema :=
  schema.forget !schema.isObjectModel

/-- A document without the null that is overlooked. -/
def forgetNested (schema : Schema) : Schema :=
  { schema.forgetEntry with
    defs := schema.defs.map fun x => (x.1, x.2.forgetEntry)
    definitions := schema.definitions.map fun x => (x.1, x.2.forgetEntry) }

theorem Setting.lowerDefinition_forgetEntry (setting : Setting) (reference : RefId) (path : String)
    (schema : Schema) :
    setting.lowerDefinition reference path schema.forgetEntry =
      setting.lowerDefinition reference path schema := by
  have hlower := setting.overlooks_lowerType schema.height
  unfold lowerDefinition forgetEntry
  rw [height_forget, isObjectModel_forget]
  cases hobject : schema.isObjectModel with
  | true => simp only [if_true, lowerObject_forget hlower]
  | false =>
    simp only [Bool.false_eq_true, if_false, Bool.not_false, hlower true, rootField,
      default_forget, isNullable_forget, Bool.true_and, constraints?, keywords_forget,
      description?, description_forget]

/-- A schema is lowered without regard to the definitions that it carries. -/
theorem Setting.lowerDefinition_defs (setting : Setting) (reference : RefId) (path : String)
    (schema : Schema) (defs definitions : List (String × Schema)) :
    setting.lowerDefinition reference path
        { schema with defs := defs, definitions := definitions } =
      setting.lowerDefinition reference path schema := by
  cases schema
  rfl

/-- Two entries that are lowered alike. -/
structure Entry.Alike (entry other : Entry) : Prop where
  path : other.path = entry.path
  name : other.name = entry.name
  lower : ∀ (setting : Setting) (reference : RefId),
    setting.lowerDefinition reference entry.path other.schema =
      setting.lowerDefinition reference entry.path entry.schema

theorem entries_forgetNested (schema : Schema) (options : Options) :
    List.Forall₂ Entry.Alike (schema.entries options) (schema.forgetNested.entries options) := by
  have hcontainer : schema.forgetNested.isContainerOnly = schema.isContainerOnly :=
    isContainerOnly_forget _ schema
  have hroot : rootName options schema.forgetNested = rootName options schema := by
    simp [rootName, forgetNested, forgetEntry]
  have hdefinitions : ∀ (front : String) (definitions : List (String × Schema)),
      List.Forall₂ Entry.Alike
        (definitions.map fun x => ⟨front ++ x.1, Python.className x.1, x.2⟩)
        ((definitions.map fun x => (x.1, x.2.forgetEntry)).map fun x =>
          ⟨front ++ x.1, Python.className x.1, x.2⟩) := by
    intro front definitions
    rw [List.map_map, List.forall₂_map_left_iff, List.forall₂_map_right_iff, List.forall₂_same]
    exact fun x _ => ⟨rfl, rfl, fun setting reference =>
      setting.lowerDefinition_forgetEntry reference _ x.2⟩
  unfold entries
  rw [hcontainer, hroot]
  refine List.rel_append (List.rel_append ?_ (hdefinitions _ _)) (hdefinitions _ _)
  split
  · exact .nil
  · exact .cons ⟨rfl, rfl, fun setting reference =>
      (setting.lowerDefinition_defs reference _ _ _ _).trans
        (setting.lowerDefinition_forgetEntry reference _ schema)⟩ .nil

theorem allocateEntries_alike {entries others : List Entry}
    (h : List.Forall₂ Entry.Alike entries others) (arena : Arena) (known : Entries RefId) :
    allocateEntries arena known others = allocateEntries arena known entries := by
  refine allocateEntries_congr ?_ arena known
  induction h with
  | nil => rfl
  | cons halike _ ih => rw [List.map_cons, List.map_cons, halike.path, halike.name, ih]

theorem forM_alike {entries others : List Entry} (h : List.Forall₂ Entry.Alike entries others)
    (setting : Setting) : others.forM setting.lowerEntry = entries.forM setting.lowerEntry := by
  induction h with
  | nil => rfl
  | @cons entry other _ _ halike _ ih =>
    have hentry : setting.lowerEntry other = setting.lowerEntry entry := by
      simp only [Setting.lowerEntry, halike.path, halike.lower setting]
    change (setting.lowerEntry other >>= fun _ => List.forM _ _) =
      (setting.lowerEntry entry >>= fun _ => List.forM _ _)
    rw [hentry, ih]

/-- Forgetting the null that is overlooked changes nothing, whether lowering succeeds or fails. -/
theorem lower_forgetNested (schema : Schema) (registry : TypeRegistry) (graph : Graph) :
    schema.forgetNested.lower registry graph = schema.lower registry graph := by
  have halike := entries_forgetNested schema graph.options
  have hallocate := allocateEntries_alike halike graph.arena []
  have hsetting : schema.forgetNested.settingIn registry graph =
      schema.settingIn registry graph := by
    rw [settingIn, settingIn, hallocate]
  have hdraft : schema.forgetNested.draftIn graph = schema.draftIn graph := by
    rw [draftIn, draftIn, hallocate]
  change (((schema.forgetNested.entries graph.options).forM
      (schema.forgetNested.settingIn registry graph).lowerEntry) (schema.forgetNested.draftIn graph)
        >>= _) = (((schema.entries graph.options).forM
      (schema.settingIn registry graph).lowerEntry) (schema.draftIn graph) >>= _)
  rw [hsetting, hdraft, forM_alike halike]

/-! ## What is overlooked -/

/-- The schemas right inside a schema that stand for types: those of items and of further
    properties, alternatives and parts. -/
def innerTypes (schema : Schema) : List Schema :=
  schema.itemSchemas ++ schema.valueSchemas ++ schema.anyOf ++ schema.oneOf ++ schema.allOf

/-- A schema stands for a type inside another one, at any depth. -/
inductive TypeIn (node : Schema) : Schema → Prop
  | here {whole : Schema} : node ∈ whole.innerTypes → TypeIn node whole
  | deeper {child whole : Schema} : child ∈ whole.children → TypeIn node child → TypeIn node whole

theorem innerTypes_forget (keep : Bool) (schema : Schema) :
    (schema.forget keep).innerTypes = schema.innerTypes.map (forget false) := by
  have hitems : (schema.forget keep).itemSchemas = schema.itemSchemas.map (forget false) := by
    rw [itemSchemas, itemSchemas, items_forget]
    rcases schema.items with _ | item | items
    · rfl
    · rfl
    · exact forgetAll_eq items
  have hvalues : (schema.forget keep).valueSchemas = schema.valueSchemas.map (forget false) := by
    rw [valueSchemas, valueSchemas, additional_forget]
    rcases schema.additional with _ | allowed | values <;> rfl
  simp [innerTypes, hitems, hvalues]

/-- A schema inside one in which null is forgotten is one in which null is forgotten. -/
theorem mem_children_forget {keep : Bool} {schema child : Schema}
    (h : child ∈ (schema.forget keep).children) :
    ∃ (kept : Bool) (inner : Schema), child = inner.forget kept := by
  have hchildren : (schema.forget keep).children =
      schema.properties.map (fun x => x.2.forget true) ++ schema.innerTypes.map (forget false) := by
    rw [← innerTypes_forget keep]
    simp [children, innerTypes, Function.comp_def]
  rw [hchildren, List.mem_append] at h
  rcases h with h | h
  · obtain ⟨x, -, rfl⟩ := List.mem_map.1 h
    exact ⟨true, x.2, rfl⟩
  · obtain ⟨inner, -, rfl⟩ := List.mem_map.1 h
    exact ⟨false, inner, rfl⟩

/-- No type inside a schema in which null is forgotten admits null. -/
theorem isNullable_of_typeIn {keep : Bool} {schema node : Schema}
    (h : TypeIn node (schema.forget keep)) : node.isNullable = false := by
  generalize hwhole : schema.forget keep = whole at h
  induction h generalizing keep schema with
  | here hnode =>
    rw [← hwhole, innerTypes_forget] at hnode
    obtain ⟨inner, -, rfl⟩ := List.mem_map.1 hnode
    exact isNullable_forget false inner
  | deeper hchild _ ih =>
    rw [← hwhole] at hchild
    obtain ⟨kept, inner, rfl⟩ := mem_children_forget hchild
    exact ih rfl

/-- A schema of a document that is an object among its entries, or stands for a type inside one of
    them. -/
def IsNestedIn (node document : Schema) : Prop :=
  ∃ x ∈ document.entryPlaces, (node = x.2 ∧ node.isObjectModel = true) ∨ TypeIn node x.2

theorem typeIn_of_defs {node schema : Schema} {defs definitions : List (String × Schema)}
    (h : TypeIn node { schema with defs := defs, definitions := definitions }) :
    TypeIn node schema := by
  cases h with
  | here hnode => exact .here hnode
  | deeper hchild h => exact .deeper hchild h

/-- Nothing that is overlooked in a document without overlooked null admits null. -/
theorem isNullable_of_isNestedIn {schema node : Schema} (h : node.IsNestedIn schema.forgetNested) :
    node.isNullable = false := by
  have hentry : ∀ entry : Schema, entry.forgetEntry.isObjectModel = true →
      entry.forgetEntry.isNullable = false := by
    intro entry hobject
    rw [forgetEntry, isObjectModel_forget] at hobject
    rw [forgetEntry, isNullable_forget, hobject]
    rfl
  obtain ⟨x, hx, h⟩ := h
  unfold entryPlaces at hx
  rcases List.mem_append.1 hx with hx | hx
  · split at hx
    · cases hx
    · rw [List.mem_singleton.1 hx] at h
      rcases h with ⟨rfl, hobject⟩ | htype
      · exact hentry schema hobject
      · exact isNullable_of_typeIn (typeIn_of_defs htype)
  · have hdefinition : ∃ entry : Schema, x.2 = entry.forgetEntry := by
      rcases List.mem_append.1 hx with hx | hx
      · obtain ⟨y, hy, rfl⟩ := List.mem_map.1 hx
        obtain ⟨z, -, rfl⟩ := List.mem_map.1 hy
        exact ⟨z.2, rfl⟩
      · obtain ⟨y, hy, rfl⟩ := List.mem_map.1 hx
        obtain ⟨z, -, rfl⟩ := List.mem_map.1 hy
        exact ⟨z.2, rfl⟩
    obtain ⟨entry, hentryEq⟩ := hdefinition
    rw [hentryEq] at h
    rcases h with ⟨rfl, hobject⟩ | htype
    · exact hentry entry hobject
    · exact isNullable_of_typeIn htype

end SchemaPress.Schema
