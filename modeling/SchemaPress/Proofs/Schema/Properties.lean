import SchemaPress.Proofs.Graph.Defined
import SchemaPress.Proofs.Schema.Distinct

set_option autoImplicit false

/-! # What becomes of properties

Each property of an object gives a field that is serialized under the key of the property, whatever
its attribute is called. Two keys may ask for the same attribute, and a model keeps only the first
of several fields with one name. So the model of an object has a field for a key exactly if no other
key before it asks for the same attribute, and otherwise it says so (`property_kept_iff`). -/

namespace SchemaPress

/-! ## Fields that are kept -/

/-- The name of a field in serialized data. -/
def FieldSpec.serializedName? (spec : FieldSpec) : Option String :=
  spec.wireName <|> spec.name

/-- A field is serialized under the name that its specification gives. -/
theorem Field.serializedName?_build (options : Options) (spec : FieldSpec) :
    (Field.build options spec).serializedName? = spec.serializedName? := by
  have hfreeze : ∀ field : Field, field.freeze.serializedName? = field.serializedName? := by
    intro field
    unfold Field.freeze
    cases field.constant? with
    | none => rfl
    | some value => cases field.flavor <;> rfl
  have hliteral : ∀ field : Field,
      field.defaultToLiteral.serializedName? = field.serializedName? := by
    intro field
    unfold Field.defaultToLiteral
    split
    · rfl
    · rfl
  obtain ⟨field, hspec, -, hbuild⟩ := Field.view_build (fun field => field.serializedName?) hfreeze
    hliteral options spec
  exact hbuild.trans (congrArg FieldSpec.serializedName? hspec)

/-- A field that stands for a key: its attribute is named after the key, and it is serialized under
    the key itself. -/
structure FieldSpec.StandsFor (spec : FieldSpec) (key : String) : Prop where
  name : spec.name = some (Python.attributeName key)
  serialized : spec.serializedName? = some key

theorem keepFirstNames_cons {spec : FieldSpec} {name : String} (hname : spec.name = some name)
    (seen : List String) (rest : List FieldSpec) :
    keepFirstNames seen (spec :: rest) =
      if name ∈ seen then
        ((keepFirstNames seen rest).1, name :: (keepFirstNames seen rest).2)
      else
        (spec :: (keepFirstNames (name :: seen) rest).1,
          (keepFirstNames (name :: seen) rest).2) := by
  rw [keepFirstNames]
  simp only [hname, List.contains_iff_mem]

section

variable {keys : List String} {specs : List FieldSpec}

/-- A field for a key is kept exactly if its attribute has not been seen and the key is the first
    one that asks for it. -/
theorem kept_iff_of_standsFor (h : List.Forall₂ (fun key spec => spec.StandsFor key) keys specs)
    (seen : List String) (key : String) :
    (∃ spec ∈ (keepFirstNames seen specs).1, spec.serializedName? = some key) ↔
      Python.attributeName key ∉ seen ∧
        keys.find? (Python.attributeName · == Python.attributeName key) = some key := by
  induction h generalizing seen with
  | nil => simp [keepFirstNames]
  | @cons other spec keys specs hspec _ ih =>
    have hkey : spec.serializedName? = some key ↔ other = key := by
      rw [hspec.serialized, Option.some.injEq]
    rw [keepFirstNames_cons hspec.name]
    by_cases hsame : Python.attributeName other = Python.attributeName key
    · -- the other key asks for the same attribute, so this one is kept only if it is that one
      rw [List.find?_cons_of_pos (by simpa using hsame), Option.some.injEq]
      by_cases hseen : Python.attributeName other ∈ seen
      · simp [hseen, ih, ← hsame]
      · simp [hseen, ih, ← hsame, hkey]
    · have hother : other ≠ key := fun heq => hsame (congrArg Python.attributeName heq)
      have hdiffers : Python.attributeName key ≠ Python.attributeName other := fun heq =>
        hsame heq.symm
      rw [List.find?_cons_of_neg (by simpa using hsame)]
      by_cases hseen : Python.attributeName other ∈ seen
      · simp [hseen, ih]
      · simp [hseen, ih, hkey, hother, hdiffers]

/-- A field for a key is kept, or the name of its attribute is among those that are not. -/
theorem kept_or_dropped_of_standsFor
    (h : List.Forall₂ (fun key spec => spec.StandsFor key) keys specs) (seen : List String)
    {key : String} (hkey : key ∈ keys) :
    (∃ spec ∈ (keepFirstNames seen specs).1, spec.serializedName? = some key) ∨
      Python.attributeName key ∈ (keepFirstNames seen specs).2 := by
  induction h generalizing seen with
  | nil => cases hkey
  | @cons other spec keys specs hspec _ ih =>
    rw [keepFirstNames_cons hspec.name]
    rcases List.mem_cons.1 hkey with rfl | hkey
    · split
      · exact .inr List.mem_cons_self
      · exact .inl ⟨spec, List.mem_cons_self, hspec.serialized⟩
    · split
      · exact (ih seen hkey).imp_right (List.mem_cons_of_mem _)
      · refine (ih _ hkey).imp_left ?_
        rintro ⟨found, hfound, hserialized⟩
        exact ⟨found, List.mem_cons_of_mem _ hfound, hserialized⟩

end

/-- Inlining changes what a field stands for as little as its name. -/
theorem FieldSpec.StandsFor.inline {spec : FieldSpec} {key : String} (h : spec.StandsFor key)
    (replacement : RefId → Option Inlining) : (spec.inline replacement).StandsFor key :=
  ⟨h.name, h.serialized⟩

/-- A model has the fields that its specification keeps. -/
theorem Graph.MadeOf.exists_field_iff {model : Model} {place : Nat} {spec : ModelSpec}
    (h : Graph.MadeOf model place spec) (key : String) :
    (∃ field ∈ model.fields, field.serializedName? = some key) ↔
      ∃ field ∈ (keepFirstNames [] spec.fields).1, field.serializedName? = some key := by
  obtain ⟨-, earlier, -, hmodel⟩ := h
  rw [hmodel]
  constructor
  · rintro ⟨field, hfield, hserialized⟩
    obtain ⟨found, hfound, rfl⟩ := List.mem_map.1 (Graph.mem_orderFields.1 hfield)
    exact ⟨found, hfound,
      (Field.serializedName?_build earlier.options found).symm.trans hserialized⟩
  · rintro ⟨found, hfound, hserialized⟩
    exact ⟨_, Graph.mem_orderFields.2 (List.mem_map_of_mem hfound),
      (Field.serializedName?_build earlier.options found).trans hserialized⟩

/-! ## Properties of objects -/

namespace Schema

/-- The keys of the properties of an object, those of the schema itself before those of the schemas
    in it that it is put together from. -/
def propertyKeys (schema : Schema) : List String :=
  ((Setting.parts schema).flatMap properties).map Prod.fst

/-- No key before this one, unless it is the same, asks for the same attribute. -/
def IsFirstKey (schema : Schema) (key : String) : Prop :=
  schema.propertyKeys.find? (Python.attributeName · == Python.attributeName key) = some key

instance (schema : Schema) (key : String) : Decidable (schema.IsFirstKey key) :=
  inferInstanceAs (Decidable (_ = _))

/-- The model of an object has a field for each key of its properties, in order. -/
theorem Setting.Represents.standsFor {setting : Setting} {schema : Schema} {spec : ModelSpec}
    (h : setting.Represents schema spec) (hobject : schema.isObjectModel = true) :
    List.Forall₂ (fun key field => FieldSpec.StandsFor field key) schema.propertyKeys
      spec.fields := by
  rw [Represents, if_pos hobject] at h
  rw [propertyKeys, List.forall₂_map_left_iff]
  refine h.2.2.imp ?_
  rintro x field ⟨type, rfl⟩
  refine ⟨rfl, ?_⟩
  simp only [FieldSpec.serializedName?, propertyField]
  by_cases hname : Python.attributeName x.1 = x.1
  · simp [hname]
  · simp [hname]

section

variable {schema node : Schema} {registry : TypeRegistry} {graph lowered : Graph}
  {specs : List ModelSpec} {place : Nat}

/-- Each schema that becomes a model has a path, which leads to the reference of its model. -/
theorem spec_of_getElem?_modelNodes (h : schema.lower registry graph = .ok (specs, lowered))
    (hnode : (schema.modelNodes registry)[place]? = some node) :
    ∃ path spec reference, (schema.modelPaths registry)[place]? = some path ∧ spec ∈ specs ∧
      spec.reference = some reference ∧ lowered.arena.find? path = some reference ∧
      (schema.settingIn registry graph).Represents node spec := by
  obtain ⟨-, hfound, hreferences, -⟩ := models_of_lower h
  have hrepresents := represents_of_lower h
  obtain ⟨hlt, hget⟩ := List.getElem?_eq_some_iff.1 hnode
  have hspec : place < specs.length := hrepresents.length_eq ▸ hlt
  have hplace : (specs.map (·.reference))[place]? = some specs[place].reference := by
    simp [hspec]
  rw [hreferences, List.getElem?_map] at hplace
  obtain ⟨path, hpath, hfind⟩ := Option.map_eq_some_iff.1 hplace
  obtain ⟨reference, hreference⟩ :=
    Option.isSome_iff_exists.1 (hfound path (List.mem_of_getElem? hpath))
  refine ⟨path, specs[place], reference, hpath, List.getElem_mem hspec, ?_, hreference, ?_⟩
  · rw [← hfind, hreference]
  · exact hget ▸ hrepresents.get hlt hspec

/-- The model of an object is not inlined, unless another model has its path. -/
theorem not_isInlined_of_object (hindexed : graph.arena.Indexed)
    (h : schema.lower registry graph = .ok (specs, lowered))
    {collapse : Bool} (hclear : collapse = false ∨ (schema.modelPaths registry).Nodup)
    {spec : ModelSpec} (hspec : spec ∈ specs) {reference : RefId}
    (hgiven : spec.reference = some reference) (hkind : spec.kind = .base) :
    ¬ IsInlined collapse specs reference := by
  rintro ⟨hcollapse, other, hother, hsame, hroot, -⟩
  rcases hclear with hclear | hclear
  · rw [hcollapse] at hclear
    cases hclear
  · obtain ⟨hgrown, hfound, hreferences, -⟩ := models_of_lower h
    have hnodup : (specs.map (·.reference)).Nodup :=
      hreferences ▸ (nodup_map_find?_iff (hgrown.indexed hindexed) hfound).2 hclear
    have heq : other = spec :=
      List.inj_on_of_nodup_map hnodup hother hspec (hsame.trans hgiven.symm)
    rw [heq, hkind] at hroot
    cases hroot

end

/-- Where a model is left for an object, its specification has a field for each key. -/
theorem standsFor_of_kept {setting : Setting} {node : Schema} {specs : List ModelSpec}
    {collapse : Bool} {spec : ModelSpec} {reference : RefId}
    (hrepresents : setting.Represents node spec) (hobject : node.isObjectModel = true)
    (hspec : spec ∈ specs) (hgiven : spec.reference = some reference)
    (hleft : some reference ∈ (keptModels collapse specs).map (·.reference)) :
    ∃ left ∈ keptModels collapse specs, left.reference = some reference ∧
      List.Forall₂ (fun key field => FieldSpec.StandsFor field key) node.propertyKeys
        left.fields := by
  have hstands := hrepresents.standsFor hobject
  obtain ⟨left, hmem, hsame, hfields⟩ :=
    mem_kept_of_not_inlined hspec hgiven (reference_mem_kept_iff.1 hleft).2
  refine ⟨left, hmem, hsame, ?_⟩
  rcases hfields with hfields | hfields
  · exact hfields ▸ hstands
  · rw [hfields, List.forall₂_map_right_iff]
    exact hstands.imp fun _ _ hfield => hfield.inline _

/-- In the graph of a document, the path of every object that becomes a model leads to its model:
    always if root models are not inlined, and otherwise if no two models have the same path. A
    model to which the path of an object leads has, for a key of the properties of the object, a
    field that is serialized under this key exactly if the key is the first one that asks for its
    attribute. If there is none, the model is reported to repeat the name of the attribute. -/
theorem property_kept_iff {options : Options} {extras : Extras} {registry : TypeRegistry}
    {schema : Schema} {graph : Graph}
    (h : Graph.ofDocument options extras registry (.ofSchema schema) = .ok graph)
    {place : Nat} {node : Schema} (hnode : (schema.modelNodes registry)[place]? = some node)
    (hobject : node.isObjectModel = true) :
    ∃ path, (schema.modelPaths registry)[place]? = some path ∧
      (options.collapseRootModels = false ∨ (schema.modelPaths registry).Nodup →
        ∃ model ∈ graph.models, graph.arena.find? path = some model.reference) ∧
      ∀ model ∈ graph.models, graph.arena.find? path = some model.reference →
        ∀ key ∈ node.propertyKeys,
          ((∃ field ∈ model.fields, field.serializedName? = some key) ↔ node.IsFirstKey key) ∧
          (¬ node.IsFirstKey key →
            .duplicateField (graph.arena.displayName model.reference) (Python.attributeName key) ∈
              graph.diagnostics) := by
  obtain ⟨specs, lowered, hlower, -, hadded, hreached⟩ := Graph.added_of_ofDocument h
  have hcoherent := hreached.coherent
  have hlower : schema.lower registry (.empty options extras) = .ok (specs, lowered) := hlower
  -- adding models changes no path
  have hfind : ∀ path, graph.arena.find? path = lowered.arena.find? path := by
    intro path
    have hsame := lowered.sameNames_addAll (keptModels options.collapseRootModels specs)
    rw [hadded] at hsame
    exact hsame.find? path
  obtain ⟨path, spec, reference, hpath, hspec, hgiven, hreference, hrepresents⟩ :=
    spec_of_getElem?_modelNodes hlower hnode
  refine ⟨path, hpath, fun hclear => ?_, fun model hmodel hleads key hkey => ?_⟩
  · have hkind : spec.kind = .base := by
      rw [Setting.Represents, if_pos hobject] at hrepresents
      exact hrepresents.1
    have hleft := reference_mem_kept_iff.2 ⟨List.mem_map.2 ⟨spec, hspec, hgiven⟩,
      not_isInlined_of_object Arena.indexed_empty hlower hclear hspec hgiven hkind⟩
    obtain ⟨model, hmodel, rfl, -⟩ := hcoherent.exists_model hleft
    exact ⟨model, hmodel, (hfind path).trans hreference⟩
  · rw [hfind, hreference] at hleads
    cases hleads
    obtain ⟨left, hmem, hsame, hstands⟩ := standsFor_of_kept hrepresents hobject hspec hgiven
      (hcoherent.reference_mem hmodel)
    obtain ⟨index, hmade⟩ := hcoherent.madeOf hmodel hmem hsame
    have hkept : (∃ field ∈ model.fields, field.serializedName? = some key) ↔
        node.IsFirstKey key := by
      rw [hmade.exists_field_iff, kept_iff_of_standsFor hstands]
      exact and_iff_right List.not_mem_nil
    refine ⟨hkept, fun hnot => ?_⟩
    rcases kept_or_dropped_of_standsFor hstands [] hkey with hfield | hdropped
    · exact absurd (hkept.1 ((hmade.exists_field_iff key).2 hfield)) hnot
    · exact Graph.duplicateField_of_addAll hadded hmem hsame hdropped

/-- A person whose first name is given in two spellings, and whose age comes from a part. -/
def twoSpellings : Schema where
  title := some "Person"
  properties :=
    [("first-name", { types := some ["string"] }), ("first_name", { types := some ["integer"] })]
  allOf := [{ properties := [("age", { types := some ["integer"] })] }]

/-- The second spelling asks for the same attribute as the first one, and is lost: no field is
    serialized under it. -/
theorem property_lost_twoSpellings :
    ∃ graph, Graph.ofDocument {} {} {} (.ofSchema twoSpellings) = .ok graph ∧
      "first_name" ∈ twoSpellings.propertyKeys ∧
      ∃ model, graph.models = [model] ∧
        ∀ field ∈ model.fields, field.serializedName? ≠ some "first_name" := by
  have hnames : (Graph.ofDocument {} {} {} (.ofSchema twoSpellings)).toOption.map (fun graph =>
      graph.models.map fun model => model.fields.map fun field => field.serializedName?) =
      some [[some "first-name", some "age"]] := by decide +kernel
  obtain ⟨graph, hgraph, hnames⟩ := exists_of_toOption_map hnames
  obtain ⟨model, rest, hmodels, hfields, hrest⟩ := List.map_eq_cons_iff.1 hnames
  rw [List.map_eq_nil_iff.1 hrest] at hmodels
  refine ⟨graph, hgraph, by decide, model, hmodels, fun field hfield hname => ?_⟩
  have hmem : some "first_name" ∈ model.fields.map fun field => field.serializedName? :=
    hname ▸ List.mem_map_of_mem hfield
  rw [hfields] at hmem
  exact absurd hmem (by decide)

theorem modelNodes_twoSpellings : twoSpellings.modelNodes {} = [twoSpellings] := by
  have htext : inlinePlaces {} { types := some ["string"] } = [] := by
    rw [inlinePlaces_eq]
    rfl
  have hnumber : inlinePlaces {} { types := some ["integer"] } = [] := by
    rw [inlinePlaces_eq]
    rfl
  have hentry : twoSpellings.entryModels {} = [([], twoSpellings)] := by
    change placesIn (inlinePlaces {}) [(_, { types := some ["string"] }),
      (_, { types := some ["integer"] }), (_, { types := some ["integer"] })] ++ _ = _
    simp [placesIn, htext, hnumber]
  change (placesIn (entryModels {}) [([], twoSpellings)]).map (·.2) = _
  simp [placesIn, hentry]

/-- The first spelling and the age have fields, the second spelling has none, and the person is
    reported to repeat the name of the attribute. -/
theorem property_kept_iff_twoSpellings :
    ∃ graph, Graph.ofDocument {} {} {} (.ofSchema twoSpellings) = .ok graph ∧
      ∃ model ∈ graph.models,
        (∃ field ∈ model.fields, field.serializedName? = some "first-name") ∧
        (∃ field ∈ model.fields, field.serializedName? = some "age") ∧
        (¬ ∃ field ∈ model.fields, field.serializedName? = some "first_name") ∧
        .duplicateField (graph.arena.displayName model.reference) "first_name" ∈
          graph.diagnostics := by
  have hok : (Graph.ofDocument {} {} {} (.ofSchema twoSpellings)).toOption.map (fun _ => ()) =
      some () := by decide +kernel
  obtain ⟨graph, hgraph, -⟩ := exists_of_toOption_map hok
  have hnode : (twoSpellings.modelNodes {})[0]? = some twoSpellings := by
    rw [modelNodes_twoSpellings]
    rfl
  obtain ⟨path, -, hexists, hkeys⟩ := property_kept_iff hgraph hnode rfl
  obtain ⟨model, hmodel, hleads⟩ := hexists (.inl rfl)
  have hkeys := hkeys model hmodel hleads
  have hlost := hkeys "first_name" (by decide)
  have hsecond : ¬ twoSpellings.IsFirstKey "first_name" := by decide +kernel
  have hname : Python.attributeName "first_name" = "first_name" := by decide +kernel
  refine ⟨graph, hgraph, model, hmodel, ?_, ?_, ?_, ?_⟩
  · exact (hkeys "first-name" (by decide)).1.2 (by decide +kernel)
  · exact (hkeys "age" (by decide)).1.2 (by decide +kernel)
  · exact fun hfield => hsecond (hlost.1.1 hfield)
  · exact hname ▸ hlost.2 hsecond

end Schema

end SchemaPress
