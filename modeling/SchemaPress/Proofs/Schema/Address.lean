import Mathlib.Data.List.Nodup
import SchemaPress.SchemaDocument

set_option autoImplicit false

/-! # Where the models of a schema stand

A model of a schema is known by its path, a text that is glued together from segments: keywords,
names of properties, keys of definitions and numbers. Here the schemas that become models are listed
with their addresses, lists of segments (`modelPlaces`), and texts are made of them afterwards
(`under`).

The texts of two addresses can be the same: a name may hold the slash that separates segments, and
an object that is put together from several schemas may take properties of the same name from
them. If names are clear in all schemas (`Unambiguous`), neither happens: addresses are distinct
because no way into a schema is the beginning of another one, and segments without slashes can be
read back from the text (`nodup_modelPaths`). -/

namespace SchemaPress.Schema

/-- The segments of a path, below some other path. -/
abbrev Address := List String

/-! ## Schemas inside a schema -/

/-- Whether the user has chosen the type of a schema. -/
def hasChosenType (registry : TypeRegistry) (schema : Schema) : Bool :=
  match Entries.get? schema.keywords "x-python-type" with
  | some (.str name) => (registry.type? name).isSome || name.toList.contains '.'
  | _ => false

/-- Whether a schema is a type without the schemas inside it: it points to a definition, its type
    was chosen, or it lists its values. -/
def isClosed (registry : TypeRegistry) (schema : Schema) : Bool :=
  schema.pointer.isSome || schema.hasChosenType registry || schema.choices.isSome

/-- Whether a schema only stands for the one that it is put together from. -/
def wrapsOne (schema : Schema) : Bool :=
  schema.allOf.length == 1 && schema.properties.isEmpty

/-- Schemas in a list, each with the way to it. -/
def numbered (keyword : String) (schemas : List Schema) : List (Address × Schema) :=
  schemas.zipIdx.map fun x => ([keyword, toString x.2], x.1)

/-- The properties of an object and of its parts, each with the way to it. Whichever part a
    property comes from, the way is the same. -/
def innerProperties (schema : Schema) : List (Address × Schema) :=
  ((Setting.parts schema).flatMap properties).map fun x => (["properties", x.1], x.2)

/-- The schemas that a listed type is made of, each with the way to it. -/
def innerNamed (schema : Schema) : String → List (Address × Schema)
  | "object" =>
    match schema.additional with
    | some (.values values) => [(["additionalProperties"], values)]
    | _ => []
  | "array" =>
    match schema.items with
    | some (.each item) => [(["items"], item)]
    | some (.positional items) => numbered "items" items
    | none => []
  | _ => []

/-- The schemas that the type of a schema is made of, each with the way to it. -/
def inner (registry : TypeRegistry) (schema : Schema) : List (Address × Schema) :=
  if schema.isClosed registry then []
  else if !schema.alternatives.2.isEmpty then
    numbered schema.alternatives.1 schema.alternatives.2
  else if schema.isObjectModel then
    if schema.wrapsOne then numbered "allOf" schema.allOf else schema.innerProperties
  else schema.typeNames.flatMap schema.innerNamed

/-- Whether a schema inside another one becomes a class of its own. -/
def isInlineObject (registry : TypeRegistry) (schema : Schema) : Bool :=
  !schema.isClosed registry && schema.alternatives.2.isEmpty && schema.isObjectModel &&
    !schema.wrapsOne

theorem height_le_heightOfAll {schemas : List Schema} {schema : Schema} (h : schema ∈ schemas) :
    schema.height ≤ heightOfAll schemas := by
  induction schemas with
  | nil => cases h
  | cons first rest ih =>
    rw [heightOfAll]
    rcases List.mem_cons.1 h with rfl | h
    · exact Nat.le_max_left _ _
    · exact Nat.le_trans (ih h) (Nat.le_max_right _ _)

theorem height_le_heightOfProperties {properties : List (String × Schema)}
    {x : String × Schema} (h : x ∈ properties) : x.2.height ≤ heightOfProperties properties := by
  induction properties with
  | nil => cases h
  | cons first rest ih =>
    obtain ⟨name, schema⟩ := first
    rw [heightOfProperties]
    rcases List.mem_cons.1 h with rfl | h
    · exact Nat.le_max_left _ _
    · exact Nat.le_trans (ih h) (Nat.le_max_right _ _)

/-- The schemas that items are like. -/
def itemSchemas (schema : Schema) : List Schema :=
  match schema.items with
  | some (.each item) => [item]
  | some (.positional items) => items
  | none => []

/-- The schema that further properties are like. -/
def valueSchemas (schema : Schema) : List Schema :=
  match schema.additional with
  | some (.values values) => [values]
  | _ => []

/-- The schemas right inside a schema, apart from definitions. -/
def children (schema : Schema) : List Schema :=
  schema.properties.map Prod.snd ++ schema.itemSchemas ++ schema.valueSchemas ++ schema.anyOf ++
    schema.oneOf ++ schema.allOf

theorem height_lt_of_mem_children {schema child : Schema} (h : child ∈ schema.children) :
    child.height < schema.height := by
  obtain ⟨_, _, _, _, _, properties, _, items, additional, _, _, _, _, anyOf, oneOf, allOf, _, _,
    _⟩ := schema
  simp only [children, List.mem_append] at h
  rw [height]
  rcases h with ((((h | h) | h) | h) | h) | h
  · obtain ⟨x, hx, rfl⟩ := List.mem_map.1 h
    have := height_le_heightOfProperties hx
    omega
  · have : child.height ≤ heightOfItems items := by
      rcases items with _ | item | items
      · cases h
      · exact Nat.le_of_eq (congrArg height (List.mem_singleton.1 h))
      · exact height_le_heightOfAll h
    omega
  · have : child.height ≤ heightOfAdditional additional := by
      rcases additional with _ | allowed | values
      · cases h
      · cases h
      · exact Nat.le_of_eq (congrArg height (List.mem_singleton.1 h))
    omega
  all_goals
    have := height_le_heightOfAll h
    omega

/-- A schema lies in another one: right inside it, or right inside a part of it. -/
def LiesIn (schema whole : Schema) : Prop :=
  schema ∈ whole.children ∨ ∃ part ∈ whole.children, schema ∈ part.children

theorem LiesIn.height_lt {schema whole : Schema} (h : schema.LiesIn whole) :
    schema.height < whole.height := by
  rcases h with h | ⟨part, hpart, h⟩
  · exact height_lt_of_mem_children h
  · exact Nat.lt_trans (height_lt_of_mem_children h) (height_lt_of_mem_children hpart)

theorem snd_mem_of_mem_numbered {keyword : String} {schemas : List Schema}
    {x : Address × Schema} (h : x ∈ numbered keyword schemas) : x.2 ∈ schemas := by
  obtain ⟨y, hy, rfl⟩ := List.mem_map.1 h
  exact List.fst_mem_of_mem_zipIdx hy

theorem liesIn_of_mem_innerProperties {schema : Schema} {x : Address × Schema}
    (h : x ∈ schema.innerProperties) : x.2.LiesIn schema := by
  obtain ⟨y, hy, rfl⟩ := List.mem_map.1 h
  obtain ⟨part, hpart, hy⟩ := List.mem_flatMap.1 hy
  have hproperty : y.2 ∈ part.children := by
    simp only [children, List.mem_append]
    exact .inl (.inl (.inl (.inl (.inl (List.mem_map_of_mem hy)))))
  rcases List.mem_cons.1 hpart with rfl | hpart
  · exact .inl hproperty
  · exact .inr ⟨part, List.mem_append_right _ (List.mem_of_mem_filter hpart), hproperty⟩

theorem liesIn_of_mem_innerNamed {schema : Schema} {name : String} {x : Address × Schema}
    (h : x ∈ schema.innerNamed name) : x.2.LiesIn schema := by
  refine .inl ?_
  simp only [children, List.mem_append]
  unfold innerNamed at h
  split at h
  · have hvalue : x.2 ∈ schema.valueSchemas := by
      unfold valueSchemas
      split at h
      · rw [List.mem_singleton.1 h]
        exact List.mem_cons_self
      · cases h
    exact .inl (.inl (.inl (.inr hvalue)))
  · have hitem : x.2 ∈ schema.itemSchemas := by
      unfold itemSchemas
      split at h
      · rw [List.mem_singleton.1 h]
        exact List.mem_cons_self
      · exact snd_mem_of_mem_numbered h
      · cases h
    exact .inl (.inl (.inl (.inl (.inr hitem))))
  · cases h

theorem liesIn_of_mem_inner {registry : TypeRegistry} {schema : Schema} {x : Address × Schema}
    (h : x ∈ schema.inner registry) : x.2.LiesIn schema := by
  unfold inner at h
  split at h
  · cases h
  split at h
  · have hmember := snd_mem_of_mem_numbered h
    refine .inl ?_
    simp only [children, List.mem_append]
    unfold alternatives at hmember
    split at hmember
    · exact .inl (.inr hmember)
    · exact .inl (.inl (.inr hmember))
  split at h
  · split at h
    · exact .inl (List.mem_append_right _ (snd_mem_of_mem_numbered h))
    · exact liesIn_of_mem_innerProperties h
  · obtain ⟨name, -, h⟩ := List.mem_flatMap.1 h
    exact liesIn_of_mem_innerNamed h

/-! ## Listing the models -/

/-- The objects that become classes when a schema becomes a type, those inside it first, each with
    the way to it. -/
def inlinePlaces (registry : TypeRegistry) (schema : Schema) : List (Address × Schema) :=
  ((schema.inner registry).attach.flatMap fun ⟨x, _⟩ =>
    (inlinePlaces registry x.2).map fun y => (x.1 ++ y.1, y.2)) ++
    if schema.isInlineObject registry then [([], schema)] else []
termination_by schema.height
decreasing_by
  rename_i h
  exact (liesIn_of_mem_inner h).height_lt

/-- What is listed inside several schemas, behind the ways to them. -/
def placesIn (models : Schema → List (Address × Schema)) (inner : List (Address × Schema)) :
    List (Address × Schema) :=
  inner.flatMap fun x => (models x.2).map fun y => (x.1 ++ y.1, y.2)

theorem placesIn_append (models : Schema → List (Address × Schema))
    (front back : List (Address × Schema)) :
    placesIn models (front ++ back) = placesIn models front ++ placesIn models back :=
  List.flatMap_append

theorem inlinePlaces_eq (registry : TypeRegistry) (schema : Schema) :
    schema.inlinePlaces registry =
      placesIn (inlinePlaces registry) (schema.inner registry) ++
        if schema.isInlineObject registry then [([], schema)] else [] := by
  rw [inlinePlaces, placesIn, List.flatMap_subtype fun x _ => rfl, List.unattach_attach]

/-- The schemas that an entry of a document is made of: an object is one whatever else it says. -/
def entryInner (registry : TypeRegistry) (schema : Schema) : List (Address × Schema) :=
  if schema.isObjectModel then schema.innerProperties else schema.inner registry

/-- The schemas of an entry of a document that become models, the entry itself last, each with the
    way to it. -/
def entryModels (registry : TypeRegistry) (schema : Schema) : List (Address × Schema) :=
  placesIn (inlinePlaces registry) (schema.entryInner registry) ++ [([], schema)]

/-- The definitions of a document, each with the way to it. -/
def definitionPlaces (schema : Schema) : List (Address × Schema) :=
  schema.defs.map (fun x => (["$defs", x.1], x.2)) ++
    schema.definitions.map (fun x => (["definitions", x.1], x.2))

/-- The entries of a document, each with the way to it: its root, unless it only carries
    definitions, and its definitions. -/
def entryPlaces (schema : Schema) : List (Address × Schema) :=
  (if schema.isContainerOnly then [] else [([], schema)]) ++ schema.definitionPlaces

/-- The schemas of a document that become models, each with the way to it. -/
def modelPlaces (registry : TypeRegistry) (schema : Schema) : List (Address × Schema) :=
  placesIn (entryModels registry) schema.entryPlaces

/-- The schemas of a document that become models. -/
def modelNodes (registry : TypeRegistry) (schema : Schema) : List Schema :=
  (schema.modelPlaces registry).map (·.2)

/-! ## Texts of addresses -/

/-- The path at an address below another path. -/
def under (path : String) (address : Address) : String :=
  address.foldl (fun text segment => text ++ "/" ++ segment) path

/-- The paths of the models of a document. -/
def modelPaths (registry : TypeRegistry) (schema : Schema) : List String :=
  (schema.modelPlaces registry).map fun x => under "#" x.1

@[simp]
theorem under_nil (path : String) : under path [] = path :=
  rfl

theorem under_append (path : String) (front back : Address) :
    under path (front ++ back) = under (under path front) back :=
  List.foldl_append

/-- A keyword may be written together with the slashes around it. -/
theorem under_keyword_name {keyword text : String} (h : "/" ++ keyword ++ "/" = text)
    (path name : String) : under path [keyword, name] = path ++ text ++ name := by
  rw [← h]
  simp only [under, List.foldl_cons, List.foldl_nil, String.append_assoc]

theorem under_keyword {keyword text : String} (h : "/" ++ keyword = text) (path : String) :
    under path [keyword] = path ++ text := by
  rw [← h]
  simp only [under, List.foldl_cons, List.foldl_nil, String.append_assoc]

theorem toList_under (path : String) (address : Address) :
    (under path address).toList =
      ['/'].intercalate (path.toList :: address.map String.toList) := by
  induction address generalizing path with
  | nil => simp [under]
  | cons segment rest ih =>
    have h := ih (path ++ "/" ++ segment)
    rw [under, List.foldl_cons]
    rw [under] at h
    rw [h]
    cases rest with
    | nil => simp
    | cons _ _ => simp

/-- A list of segments that hold no slash. -/
def NoSlash (address : Address) : Prop :=
  ∀ segment ∈ address, '/' ∉ segment.toList

/-- Segments without slashes can be read back from their text. -/
theorem under_injective {path : String} (hpath : '/' ∉ path.toList) {a b : Address}
    (ha : NoSlash a) (hb : NoSlash b) (h : under path a = under path b) : a = b := by
  -- cutting the text at its slashes gives the segments back
  have hread : ∀ {address : Address}, NoSlash address →
      (under path address).toList.splitOn '/' = path.toList :: address.map String.toList := by
    intro address hsegments
    rw [toList_under]
    refine List.splitOn_intercalate '/' ?_ (List.cons_ne_nil _ _)
    intro segment hsegment
    rcases List.mem_cons.1 hsegment with rfl | hsegment
    · exact hpath
    · obtain ⟨text, htext, rfl⟩ := List.mem_map.1 hsegment
      exact hsegments text htext
  have hlists : path.toList :: a.map String.toList = path.toList :: b.map String.toList := by
    rw [← hread ha, ← hread hb, h]
  exact List.map_injective_iff.2 (fun _ _ => String.toList_inj.1) (List.cons.inj hlists).2

/-! ## Ways that keep apart -/

/-- Neither of two ways is the beginning of the other. -/
def Apart (a b : Address) : Prop :=
  ¬ a <+: b ∧ ¬ b <+: a

theorem Apart.append_ne {a b : Address} (h : Apart a b) (u v : Address) : a ++ u ≠ b ++ v := by
  intro heq
  have hb : b <+: a ++ u := heq ▸ List.prefix_append b v
  rcases List.prefix_or_prefix_of_prefix (List.prefix_append a u) hb with h' | h'
  · exact h.1 h'
  · exact h.2 h'

theorem apart_of_keyword_ne {keyword keyword' : String} (h : keyword ≠ keyword')
    (a b : Address) : Apart (keyword :: a) (keyword' :: b) := by
  unfold Apart
  simp only [List.cons_prefix_cons]
  exact ⟨fun h' => h h'.1, fun h' => h h'.1.symm⟩

theorem apart_of_name_ne (keyword : String) {name name' : String} (h : name ≠ name') :
    Apart [keyword, name] [keyword, name'] := by
  unfold Apart
  simp only [List.cons_prefix_cons]
  exact ⟨fun h' => h h'.2.1, fun h' => h h'.2.1.symm⟩

/-- The keywords that ways into a schema start with. -/
def wayKeywords : List String :=
  ["anyOf", "oneOf", "allOf", "properties", "additionalProperties", "items"]

/-- The ways to several schemas keep apart, hold no slash and start with a keyword. -/
structure WellSpread (inner : List (Address × Schema)) : Prop where
  apart : inner.Pairwise fun x y => Apart x.1 y.1
  noSlash : ∀ x ∈ inner, NoSlash x.1
  keyword : ∀ x ∈ inner, ∃ keyword ∈ wayKeywords, ∃ rest, x.1 = keyword :: rest

theorem wellSpread_nil : WellSpread [] :=
  ⟨.nil, by simp, by simp⟩

theorem toString_injective : Function.Injective (toString : Nat → String) := by
  intro i j h
  have hdigits : Nat.toDigits 10 i = Nat.toDigits 10 j := by
    rw [← Nat.toList_repr, ← Nat.toList_repr]
    exact congrArg String.toList h
  have hvalue := congrArg (Nat.ofDigitChars 10 · 0) hdigits
  simpa only [Nat.ofDigitChars_toDigits (by decide : 1 < 10) (by decide)] using hvalue

theorem slash_not_mem_toString (i : Nat) : '/' ∉ (toString i).toList := by
  intro h
  have hmem : '/' ∈ Nat.toDigits 10 i := Nat.toList_repr ▸ h
  exact absurd (Nat.isDigit_of_mem_toDigits (by decide) (by decide) hmem) (by decide)

theorem noSlash_wayKeywords : NoSlash wayKeywords := by
  unfold NoSlash
  decide

/-- Numbers tell the schemas of a list apart. -/
theorem wellSpread_numbered {keyword : String} (hkeyword : keyword ∈ wayKeywords)
    (schemas : List Schema) : WellSpread (numbered keyword schemas) where
  apart := by
    have hplaces : (schemas.zipIdx.map Prod.snd).Nodup := by
      rw [List.zipIdx_map_snd]
      exact List.nodup_range'
    rw [numbered, List.pairwise_map]
    refine (List.pairwise_map.1 hplaces).imp fun hne => ?_
    exact apart_of_name_ne keyword fun h => hne (toString_injective h)
  noSlash := by
    intro x hx
    obtain ⟨y, -, rfl⟩ := List.mem_map.1 hx
    intro segment hsegment
    rcases List.mem_cons.1 hsegment with rfl | hsegment
    · exact noSlash_wayKeywords _ hkeyword
    · rw [List.mem_singleton.1 hsegment]
      exact slash_not_mem_toString y.2
  keyword := by
    intro x hx
    obtain ⟨y, -, rfl⟩ := List.mem_map.1 hx
    exact ⟨keyword, hkeyword, _, rfl⟩

/-! ## Clear names -/

/-- The names in a schema are clear: the properties of its parts have different names without
    slashes, and no type is listed twice. -/
structure HasClearNames (schema : Schema) : Prop where
  distinct : (((Setting.parts schema).flatMap properties).map Prod.fst).Nodup
  noSlash : NoSlash (((Setting.parts schema).flatMap properties).map Prod.fst)
  types : schema.typeNames.Nodup

theorem HasClearNames.innerProperties {schema : Schema} (h : schema.HasClearNames) :
    WellSpread schema.innerProperties where
  apart := by
    rw [Schema.innerProperties, List.pairwise_map]
    exact (List.pairwise_map.1 h.distinct).imp fun hne => apart_of_name_ne "properties" hne
  noSlash := by
    intro x hx
    obtain ⟨y, hy, rfl⟩ := List.mem_map.1 hx
    intro segment hsegment
    rcases List.mem_cons.1 hsegment with rfl | hsegment
    · decide
    · rw [List.mem_singleton.1 hsegment]
      exact h.noSlash y.1 (List.mem_map_of_mem hy)
  keyword := by
    intro x hx
    obtain ⟨y, -, rfl⟩ := List.mem_map.1 hx
    exact ⟨"properties", by decide, _, rfl⟩

theorem wellSpread_singleton {keyword : String} (hkeyword : keyword ∈ wayKeywords)
    (schema : Schema) : WellSpread [([keyword], schema)] where
  apart := List.pairwise_singleton _ _
  noSlash := by
    intro x hx segment hsegment
    rw [List.mem_singleton.1 hx] at hsegment
    rw [List.mem_singleton.1 hsegment]
    exact noSlash_wayKeywords _ hkeyword
  keyword := by
    intro x hx
    rw [List.mem_singleton.1 hx]
    exact ⟨keyword, hkeyword, [], rfl⟩

theorem wellSpread_innerNamed (schema : Schema) (name : String) :
    WellSpread (schema.innerNamed name) := by
  unfold innerNamed
  split
  · split
    · exact wellSpread_singleton (by decide) _
    · exact wellSpread_nil
  · split
    · exact wellSpread_singleton (by decide) _
    · exact wellSpread_numbered (by decide) _
    · exact wellSpread_nil
  · exact wellSpread_nil

/-- The keyword of the schemas that a listed type is made of. -/
theorem keyword_of_mem_innerNamed {schema : Schema} {name : String} {x : Address × Schema}
    (h : x ∈ schema.innerNamed name) :
    (name = "object" ∧ ∃ rest, x.1 = "additionalProperties" :: rest) ∨
      (name = "array" ∧ ∃ rest, x.1 = "items" :: rest) := by
  unfold innerNamed at h
  split at h
  · split at h
    · rw [List.mem_singleton.1 h]
      exact .inl ⟨rfl, [], rfl⟩
    · cases h
  · refine .inr ⟨rfl, ?_⟩
    split at h
    · rw [List.mem_singleton.1 h]
      exact ⟨[], rfl⟩
    · obtain ⟨y, -, rfl⟩ := List.mem_map.1 h
      exact ⟨_, rfl⟩
    · cases h
  · cases h

theorem apart_of_mem_innerNamed {schema : Schema} {name name' : String} (hne : name ≠ name')
    {x y : Address × Schema} (hx : x ∈ schema.innerNamed name) (hy : y ∈ schema.innerNamed name') :
    Apart x.1 y.1 := by
  rcases keyword_of_mem_innerNamed hx with ⟨hname, a, hx⟩ | ⟨hname, a, hx⟩
  · rcases keyword_of_mem_innerNamed hy with ⟨hname', b, hy⟩ | ⟨-, b, hy⟩
    · exact absurd (hname.trans hname'.symm) hne
    · rw [hx, hy]
      exact apart_of_keyword_ne (by decide) a b
  · rcases keyword_of_mem_innerNamed hy with ⟨-, b, hy⟩ | ⟨hname', b, hy⟩
    · rw [hx, hy]
      exact apart_of_keyword_ne (by decide) a b
    · exact absurd (hname.trans hname'.symm) hne

/-- Clear names keep the ways into a schema apart. -/
theorem HasClearNames.inner {schema : Schema} (h : schema.HasClearNames)
    (registry : TypeRegistry) : WellSpread (schema.inner registry) := by
  unfold Schema.inner
  split
  · exact wellSpread_nil
  split
  · refine wellSpread_numbered ?_ _
    unfold alternatives
    split
    · exact (by decide : "oneOf" ∈ wayKeywords)
    · exact (by decide : "anyOf" ∈ wayKeywords)
  split
  · split
    · exact wellSpread_numbered (by decide) _
    · exact h.innerProperties
  · exact {
      apart := by
        rw [List.pairwise_flatMap]
        refine ⟨fun name _ => (wellSpread_innerNamed schema name).apart, ?_⟩
        exact h.types.imp fun hne x hx y hy => apart_of_mem_innerNamed hne hx hy
      noSlash := by
        intro x hx
        obtain ⟨name, -, hx⟩ := List.mem_flatMap.1 hx
        exact (wellSpread_innerNamed schema name).noSlash x hx
      keyword := by
        intro x hx
        obtain ⟨name, -, hx⟩ := List.mem_flatMap.1 hx
        exact (wellSpread_innerNamed schema name).keyword x hx }

theorem HasClearNames.entryInner {schema : Schema} (h : schema.HasClearNames)
    (registry : TypeRegistry) : WellSpread (schema.entryInner registry) := by
  unfold Schema.entryInner
  split
  · exact h.innerProperties
  · exact h.inner registry

/-- A property of a schema and of all schemas in it, apart from definitions. -/
inductive Everywhere (P : Schema → Prop) : Schema → Prop
  | intro {schema : Schema} : P schema → (∀ child ∈ schema.children, Everywhere P child) →
      Everywhere P schema

theorem Everywhere.self {P : Schema → Prop} {schema : Schema} (h : Everywhere P schema) :
    P schema := by
  obtain ⟨hself, -⟩ := h
  exact hself

theorem Everywhere.of_mem_children {P : Schema → Prop} {schema child : Schema}
    (h : Everywhere P schema) (hchild : child ∈ schema.children) : Everywhere P child := by
  obtain ⟨-, hchildren⟩ := h
  exact hchildren child hchild

theorem Everywhere.of_liesIn {P : Schema → Prop} {schema whole : Schema}
    (h : Everywhere P whole) (hlies : schema.LiesIn whole) : Everywhere P schema := by
  rcases hlies with hchild | ⟨part, hpart, hchild⟩
  · exact h.of_mem_children hchild
  · exact (h.of_mem_children hpart).of_mem_children hchild

theorem liesIn_of_mem_entryInner {registry : TypeRegistry} {schema : Schema}
    {x : Address × Schema} (h : x ∈ schema.entryInner registry) : x.2.LiesIn schema := by
  unfold entryInner at h
  split at h
  · exact liesIn_of_mem_innerProperties h
  · exact liesIn_of_mem_inner h

/-! ## Distinct addresses -/

/-- Places at distinct addresses, of which no segment holds a slash. -/
structure Readable (places : List (Address × Schema)) : Prop where
  nodup : (places.map (·.1)).Nodup
  noSlash : ∀ x ∈ places, NoSlash x.1

section

variable {models : Schema → List (Address × Schema)} {inner : List (Address × Schema)}

theorem mem_placesIn {place : Address × Schema} :
    place ∈ placesIn models inner ↔
      ∃ x ∈ inner, ∃ y ∈ models x.2, (x.1 ++ y.1, y.2) = place := by
  simp only [placesIn, List.mem_flatMap, List.mem_map]

theorem Readable.placesIn (hapart : inner.Pairwise fun x y => Apart x.1 y.1)
    (hnoSlash : ∀ x ∈ inner, NoSlash x.1) (h : ∀ x ∈ inner, Readable (models x.2)) :
    Readable (placesIn models inner) where
  nodup := by
    rw [Schema.placesIn, List.map_flatMap, List.nodup_flatMap]
    constructor
    · intro x hx
      rw [List.map_map]
      have hmap := (h x hx).nodup.map (List.append_right_injective x.1)
      rwa [List.map_map] at hmap
    · refine hapart.imp fun {x y} hxy address hx hy => ?_
      simp only [List.map_map, List.mem_map] at hx hy
      obtain ⟨u, -, rfl⟩ := hx
      obtain ⟨v, -, heq⟩ := hy
      exact hxy.append_ne u.1 v.1 heq.symm
  noSlash := by
    intro place hplace
    obtain ⟨x, hx, y, hy, rfl⟩ := mem_placesIn.1 hplace
    intro segment hsegment
    rcases List.mem_append.1 hsegment with hsegment | hsegment
    · exact hnoSlash x hx segment hsegment
    · exact (h x hx).noSlash y hy segment hsegment

/-- The address of a schema itself is none of those inside it. -/
theorem Readable.append_self (hspread : WellSpread inner) (h : ∀ x ∈ inner, Readable (models x.2))
    {own : List (Address × Schema)} (schema : Schema) (hown : own = [] ∨ own = [([], schema)]) :
    Readable (Schema.placesIn models inner ++ own) := by
  have hinner := Readable.placesIn hspread.apart hspread.noSlash h
  rcases hown with rfl | rfl
  · rwa [List.append_nil]
  · refine ⟨?_, ?_⟩
    · rw [List.map_append]
      refine hinner.nodup.append (List.nodup_singleton []) fun address haddress hself => ?_
      obtain ⟨place, hplace, rfl⟩ := List.mem_map.1 haddress
      obtain ⟨x, hx, y, -, rfl⟩ := mem_placesIn.1 hplace
      obtain ⟨keyword, -, tail, heq⟩ := hspread.keyword x hx
      rw [heq] at hself
      cases List.mem_singleton.1 hself
    · intro place hplace
      rcases List.mem_append.1 hplace with hplace | hplace
      · exact hinner.noSlash place hplace
      · rw [List.mem_singleton.1 hplace]
        intro segment hsegment
        cases hsegment

end

theorem readable_inlinePlaces (registry : TypeRegistry) (schema : Schema)
    (h : Everywhere HasClearNames schema) : Readable (schema.inlinePlaces registry) := by
  -- along the listing: a property of a part lies two levels below, not right inside
  induction schema using inlinePlaces.induct registry with
  | case1 schema ih =>
    rw [inlinePlaces_eq]
    refine Readable.append_self (h.self.inner registry) (fun x hx => ?_) schema ?_
    · exact ih x hx (h.of_liesIn (liesIn_of_mem_inner hx))
    · split
      · exact .inr rfl
      · exact .inl rfl

theorem readable_entryModels (registry : TypeRegistry) {schema : Schema}
    (h : Everywhere HasClearNames schema) : Readable (schema.entryModels registry) :=
  Readable.append_self (h.self.entryInner registry)
    (fun _ hx => readable_inlinePlaces registry _ (h.of_liesIn (liesIn_of_mem_entryInner hx)))
    schema (.inr rfl)

/-! ## Documents -/

/-- The names of a document are clear, in all its schemas and among its definitions. -/
structure Unambiguous (schema : Schema) : Prop where
  defs : (schema.defs.map Prod.fst).Nodup
  definitions : (schema.definitions.map Prod.fst).Nodup
  keys : NoSlash ((schema.defs ++ schema.definitions).map Prod.fst)
  root : Everywhere HasClearNames schema
  entries : ∀ x ∈ schema.defs ++ schema.definitions, Everywhere HasClearNames x.2

theorem Unambiguous.apart_definitionPlaces {schema : Schema} (h : schema.Unambiguous) :
    schema.definitionPlaces.Pairwise fun x y => Apart x.1 y.1 := by
  rw [definitionPlaces, List.pairwise_append, List.pairwise_map, List.pairwise_map]
  refine ⟨(List.pairwise_map.1 h.defs).imp fun hne => apart_of_name_ne "$defs" hne,
    (List.pairwise_map.1 h.definitions).imp fun hne => apart_of_name_ne "definitions" hne, ?_⟩
  intro x hx y hy
  obtain ⟨u, -, rfl⟩ := List.mem_map.1 hx
  obtain ⟨v, -, rfl⟩ := List.mem_map.1 hy
  exact apart_of_keyword_ne (by decide) _ _

/-- The way to a definition is its keyword and its key. -/
theorem way_of_mem_definitionPlaces {schema : Schema} {x : Address × Schema}
    (h : x ∈ schema.definitionPlaces) :
    ∃ keyword ∈ ["$defs", "definitions"], ∃ key, x.1 = [keyword, key] ∧
      (key, x.2) ∈ schema.defs ++ schema.definitions := by
  rcases List.mem_append.1 h with h | h
  · obtain ⟨y, hy, rfl⟩ := List.mem_map.1 h
    exact ⟨"$defs", by decide, y.1, rfl, List.mem_append_left _ hy⟩
  · obtain ⟨y, hy, rfl⟩ := List.mem_map.1 h
    exact ⟨"definitions", by decide, y.1, rfl, List.mem_append_right _ hy⟩

theorem Unambiguous.readable_definitionPlaces {schema : Schema} (h : schema.Unambiguous)
    (registry : TypeRegistry) :
    Readable (placesIn (entryModels registry) schema.definitionPlaces) := by
  refine Readable.placesIn h.apart_definitionPlaces (fun x hx => ?_) fun x hx => ?_
  · obtain ⟨keyword, hkeyword, key, hway, hmem⟩ := way_of_mem_definitionPlaces hx
    have hplain : NoSlash ["$defs", "definitions"] := by
      unfold NoSlash
      decide
    rw [hway]
    intro segment hsegment
    rcases List.mem_cons.1 hsegment with rfl | hsegment
    · exact hplain _ hkeyword
    · rw [List.mem_singleton.1 hsegment]
      exact h.keys key (List.mem_map_of_mem hmem)
  · obtain ⟨-, -, key, -, hmem⟩ := way_of_mem_definitionPlaces hx
    exact readable_entryModels registry (h.entries _ hmem)

/-- An address in the root does not start like one in a definition. -/
theorem entryModels_disjoint_definitionPlaces {schema : Schema}
    (h : Everywhere HasClearNames schema) (registry : TypeRegistry) :
    ((schema.entryModels registry).map (·.1)).Disjoint
      ((placesIn (entryModels registry) schema.definitionPlaces).map (·.1)) := by
  intro address hroot hdefinition
  obtain ⟨place, hplace, rfl⟩ := List.mem_map.1 hdefinition
  obtain ⟨x, hx, rest, -, rfl⟩ := mem_placesIn.1 hplace
  obtain ⟨keyword, hkeyword, key, hway, -⟩ := way_of_mem_definitionPlaces hx
  obtain ⟨other, hother, hsame⟩ := List.mem_map.1 hroot
  rw [hway] at hsame
  rcases List.mem_append.1 hother with hother | hother
  · obtain ⟨y, hy, tail, -, rfl⟩ := mem_placesIn.1 hother
    obtain ⟨keyword', hkeyword', tail', hway'⟩ := (h.self.entryInner registry).keyword y hy
    rw [hway'] at hsame
    have hsame : keyword' = keyword := (List.cons.inj hsame).1
    have hdisjoint : ∀ k ∈ ["$defs", "definitions"], k ∉ wayKeywords := by decide
    exact hdisjoint keyword hkeyword (hsame ▸ hkeyword')
  · rw [List.mem_singleton.1 hother] at hsame
    cases hsame

theorem Unambiguous.readable_modelPlaces {schema : Schema} (h : schema.Unambiguous)
    (registry : TypeRegistry) : Readable (schema.modelPlaces registry) := by
  have hroot := readable_entryModels registry h.root
  have hdefinitions := h.readable_definitionPlaces registry
  unfold modelPlaces entryPlaces
  split
  · exact hdefinitions
  · have hself : placesIn (entryModels registry) [([], schema)] =
        schema.entryModels registry := by
      simp [placesIn]
    rw [placesIn_append, hself]
    refine ⟨?_, fun place hplace => ?_⟩
    · rw [List.map_append]
      exact hroot.nodup.append hdefinitions.nodup
        (entryModels_disjoint_definitionPlaces h.root registry)
    · rcases List.mem_append.1 hplace with hplace | hplace
      · exact hroot.noSlash place hplace
      · exact hdefinitions.noSlash place hplace

/-- In a document with clear names the models have different paths. -/
theorem nodup_modelPaths {schema : Schema} (h : schema.Unambiguous) (registry : TypeRegistry) :
    (schema.modelPaths registry).Nodup := by
  have hreadable := h.readable_modelPlaces registry
  have hpaths : schema.modelPaths registry =
      ((schema.modelPlaces registry).map (·.1)).map (under "#") := by
    rw [List.map_map]
    rfl
  rw [hpaths]
  refine hreadable.nodup.map_on fun a ha b hb hsame => ?_
  obtain ⟨x, hx, rfl⟩ := List.mem_map.1 ha
  obtain ⟨y, hy, rfl⟩ := List.mem_map.1 hb
  exact under_injective (by decide) (hreadable.noSlash x hx) (hreadable.noSlash y hy) hsame

end SchemaPress.Schema
