import SchemaPress.Proofs.Graph.FieldOrder

set_option autoImplicit false

/-! # Fields of one name

A model has one field of each name at most, the first that is given; a later one is left out and
reported. Fields without a name are all kept. The names seen so far are collected while the fields
are taken one after another (`keepFirstNames`), but which fields that keeps can be told from the
place of each (`keepFirstNames_eq`): a field is left out if it has the name of an earlier one.

What is kept is then put in the order of the flavor, which takes nothing away. So the stored fields
of a model, their order and the reports are all known from the given fields
(`keepsFirst_of_add`). -/

namespace SchemaPress

/-- A field that has the name of an earlier one. -/
def FieldSpec.Repeats (earlier : List FieldSpec) (spec : FieldSpec) : Prop :=
  spec.name.isSome = true ∧ ∃ other ∈ earlier, other.name = spec.name

instance (earlier : List FieldSpec) (spec : FieldSpec) : Decidable (spec.Repeats earlier) :=
  inferInstanceAs (Decidable (_ ∧ _))

/-- The fields that repeat no earlier name. -/
def withoutRepeats (specs : List FieldSpec) : List FieldSpec :=
  (specs.zipIdx.filter fun entry => ¬entry.1.Repeats (specs.take entry.2)).map (·.1)

/-- The names of the fields that repeat an earlier one. -/
def repeatedNames (specs : List FieldSpec) : List String :=
  (specs.zipIdx.filter fun entry => entry.1.Repeats (specs.take entry.2)).filterMap (·.1.name)

/-- The elements of a list with the late ones behind the others, and otherwise in the same order. -/
structure StablyPartitioned {α : Type} (late : α → Bool) (before after : List α) : Prop where
  late_last : after.Pairwise fun a b => late a = true → late b = true
  stable : ∀ side, after.filter (late · == side) = before.filter (late · == side)

/-! ## What is kept -/

/-- Which names have been seen is known from the fields before. -/
theorem keepFirstNames_eq {seen : List String} {front : List FieldSpec}
    (hseen : ∀ name, name ∈ seen ↔ ∃ other ∈ front, other.name = some name)
    (rest : List FieldSpec) :
    keepFirstNames seen rest =
      (((rest.zipIdx front.length).filter fun entry =>
          ¬entry.1.Repeats ((front ++ rest).take entry.2)).map (·.1),
        ((rest.zipIdx front.length).filter fun entry =>
          entry.1.Repeats ((front ++ rest).take entry.2)).filterMap (·.1.name)) := by
  induction rest generalizing seen front with
  | nil => rfl
  | cons spec rest ih =>
    -- the next field stands where the fields taken so far end, and then it is one of them
    have htake : (front ++ spec :: rest).take front.length = front := List.take_left
    have hall : front ++ spec :: rest = front ++ [spec] ++ rest := by simp
    have hlength : front.length + 1 = (front ++ [spec]).length := by simp
    rw [keepFirstNames, List.zipIdx_cons, List.filter_cons, List.filter_cons, htake, hall, hlength]
    have hfront : ∀ name, (∃ field ∈ front ++ [spec], field.name = some name) ↔
        name ∈ seen ∨ spec.name = some name := by
      simp [or_and_right, exists_or, hseen]
    cases hname : spec.name with
    | none =>
      have hrepeats : ¬spec.Repeats front := by simp [FieldSpec.Repeats, hname]
      have hnext : ∀ other, other ∈ seen ↔ ∃ field ∈ front ++ [spec], field.name = some other := by
        intro other
        simp only [hfront, hname, reduceCtorEq, or_false]
      simp [ih hnext, hrepeats]
    | some name =>
      have hrepeats : spec.Repeats front ↔ name ∈ seen := by
        simp [FieldSpec.Repeats, hname, hseen]
      by_cases hmem : name ∈ seen
      · have hnext : ∀ other,
            other ∈ seen ↔ ∃ field ∈ front ++ [spec], field.name = some other := by
          intro other
          simp only [hfront, hname, Option.some.injEq, iff_self_or]
          rintro rfl
          exact hmem
        simp [ih hnext, hrepeats, hmem, hname]
      · have hnext : ∀ other,
            other ∈ name :: seen ↔ ∃ field ∈ front ++ [spec], field.name = some other := by
          intro other
          rw [hfront, hname, List.mem_cons, Option.some.injEq, or_comm, eq_comm]
        simp [ih hnext, hrepeats, hmem]

theorem keepFirstNames_nil (specs : List FieldSpec) :
    keepFirstNames [] specs = (withoutRepeats specs, repeatedNames specs) := by
  have hnone : ∀ name, name ∈ ([] : List String) ↔
      ∃ other ∈ ([] : List FieldSpec), other.name = some name := by simp
  exact keepFirstNames_eq hnone specs

/-- The fields of a name that are kept: the first one, unless the name has been seen. -/
theorem filter_keepFirstNames (seen : List String) (specs : List FieldSpec) (name : String) :
    (keepFirstNames seen specs).1.filter (·.name = some name) =
      if name ∈ seen then [] else (specs.find? (·.name = some name)).toList := by
  fun_induction keepFirstNames seen specs with
  | case1 => simp
  | case2 seen spec rest hname kept dropped heq ih =>
    rw [heq] at ih
    simp [ih, hname]
  | case3 seen spec rest other hname hseen kept dropped heq ih =>
    rw [heq] at ih
    rw [List.contains_iff_mem] at hseen
    by_cases hsame : other = name
    · simp [ih, hsame ▸ hseen]
    · simp [ih, hname, hsame]
  | case4 seen spec rest other hname hnew kept dropped heq ih =>
    rw [heq] at ih
    rw [List.contains_iff_mem] at hnew
    by_cases hsame : other = name
    · subst hsame
      simp [ih, hname, hnew]
    · simp [ih, hname, hsame, Ne.symm hsame]

/-- Fields without names are all kept. -/
theorem filter_anonymous_keepFirstNames (seen : List String) (specs : List FieldSpec) :
    (keepFirstNames seen specs).1.filter (·.name = none) = specs.filter (·.name = none) := by
  fun_induction keepFirstNames seen specs with
  | case1 => rfl
  | case2 seen spec rest hname kept dropped heq ih =>
    rw [heq] at ih
    simp [ih, hname]
  | case3 seen spec rest name hname hseen kept dropped heq ih =>
    rw [heq] at ih
    simp [ih, hname]
  | case4 seen spec rest name hname hnew kept dropped heq ih =>
    rw [heq] at ih
    simp [ih, hname]

/-- A field is kept or its name is reported. -/
theorem length_keepFirstNames (seen : List String) (specs : List FieldSpec) :
    (keepFirstNames seen specs).1.length + (keepFirstNames seen specs).2.length =
      specs.length := by
  fun_induction keepFirstNames seen specs with
  | case1 => rfl
  | case2 seen spec rest hname kept dropped heq ih =>
    rw [heq] at ih
    simp only [List.length_cons] at ih ⊢
    omega
  | case3 seen spec rest name hname hseen kept dropped heq ih =>
    rw [heq] at ih
    simp only [List.length_cons] at ih ⊢
    omega
  | case4 seen spec rest name hname hnew kept dropped heq ih =>
    rw [heq] at ih
    simp only [List.length_cons] at ih ⊢
    omega

theorem filter_withoutRepeats (specs : List FieldSpec) (name : String) :
    (withoutRepeats specs).filter (·.name = some name) =
      (specs.find? (·.name = some name)).toList := by
  simpa [keepFirstNames_nil] using filter_keepFirstNames [] specs name

theorem filter_anonymous_withoutRepeats (specs : List FieldSpec) :
    (withoutRepeats specs).filter (·.name = none) = specs.filter (·.name = none) := by
  simpa [keepFirstNames_nil] using filter_anonymous_keepFirstNames [] specs

theorem length_withoutRepeats (specs : List FieldSpec) :
    (withoutRepeats specs).length + (repeatedNames specs).length = specs.length := by
  simpa [keepFirstNames_nil] using length_keepFirstNames [] specs

/-- A named field is kept if it is the first of its name. -/
theorem find?_of_mem_withoutRepeats {specs : List FieldSpec} {spec : FieldSpec} {name : String}
    (h : spec ∈ withoutRepeats specs) (hname : spec.name = some name) :
    specs.find? (·.name = some name) = some spec := by
  have hmem : spec ∈ (withoutRepeats specs).filter (·.name = some name) :=
    List.mem_filter.2 ⟨h, by simp [hname]⟩
  rw [filter_withoutRepeats] at hmem
  exact Option.mem_toList.1 hmem

/-- Every name is kept. -/
theorem exists_mem_withoutRepeats {specs : List FieldSpec} {spec : FieldSpec} {name : String}
    (h : spec ∈ specs) (hname : spec.name = some name) :
    ∃ first ∈ withoutRepeats specs, first.name = some name := by
  have hsome : (specs.find? (·.name = some name)).isSome = true :=
    List.find?_isSome.2 ⟨spec, h, by simp [hname]⟩
  obtain ⟨first, hfirst⟩ := Option.isSome_iff_exists.1 hsome
  have hmem : first ∈ (withoutRepeats specs).filter (·.name = some name) := by
    rw [filter_withoutRepeats, hfirst]
    exact List.mem_singleton_self first
  exact ⟨first, (List.mem_filter.1 hmem).1, by simpa using (List.mem_filter.1 hmem).2⟩

theorem nodup_names_withoutRepeats (specs : List FieldSpec) :
    ((withoutRepeats specs).filterMap (·.name)).Nodup := by
  refine List.pairwise_filterMap.2 (List.pairwise_iff_forall_sublist.2 ?_)
  rintro a b hsublist name ha other hb rfl
  -- two fields of one name would both be the first
  have htwo := hsublist.filter (·.name = some name)
  rw [filter_withoutRepeats] at htwo
  have hlength := htwo.length_le
  cases hfirst : specs.find? (·.name = some name) <;> simp [ha, hb, hfirst] at hlength

/-! ## Stored fields -/

theorem Field.name_build (options : Options) (spec : FieldSpec) :
    (Field.build options spec).name = spec.name := by
  have hfreeze : ∀ field : Field, field.freeze.name = field.name := by
    intro field
    unfold Field.freeze
    split
    · rfl
    · split <;> rfl
  have hliteral : ∀ field : Field, field.defaultToLiteral.name = field.name := by
    intro field
    unfold Field.defaultToLiteral
    split <;> rfl
  obtain ⟨field, rfl, -, hbuild⟩ :=
    Field.view_build (fun field => field.name) hfreeze hliteral options spec
  exact hbuild

theorem stablyPartitioned_orderFields (scope : Scope) (fields : List Field) :
    StablyPartitioned (·.assigns scope) fields (orderFields .dataclass scope fields) where
  late_last := pairwise_orderFields scope fields
  stable := by
    intro side
    cases side <;> simp [orderFields, List.filter_append, List.filter_filter]

theorem perm_orderFields (flavor : Flavor) (scope : Scope) (fields : List Field) :
    (orderFields flavor scope fields).Perm fields := by
  unfold orderFields
  split
  · exact List.perm_append_comm.trans (List.filter_append_perm (·.assigns scope) fields)
  · exact .refl fields

namespace Graph

/-- The names of fields are those of their specifications. -/
theorem filterMap_name_buildFields (options : Options) (owner : Owner) (specs : List FieldSpec) :
    (buildFields options owner specs).filterMap (·.name) = specs.filterMap (·.name) := by
  rw [buildFields, List.filterMap_map]
  congr 1
  funext spec
  exact Field.name_build options spec

theorem filter_name_buildFields (options : Options) (owner : Owner) (specs : List FieldSpec)
    (name : Option String) :
    (buildFields options owner specs).filter (·.name = name) =
      buildFields options owner (specs.filter (·.name = name)) := by
  rw [buildFields, buildFields, List.filter_map]
  congr 1
  exact List.filter_congr fun spec _ => by simp [Field.name_build]

/-- The fields of a model that has been added, and what was reported of those left out. -/
structure KeepsFirst (graph grown : Graph) (spec : ModelSpec) (model : Model) : Prop where
  added : grown.models = graph.models ++ [model]
  /-- In most flavors the fields stay in order. -/
  in_order : graph.options.flavor ≠ .dataclass →
    model.fields =
      buildFields graph.options ⟨model.id, model.reference⟩ (withoutRepeats spec.fields)
  /-- In a dataclass those that assign a value come last. -/
  partitioned : graph.options.flavor = .dataclass →
    StablyPartitioned (·.assigns (graph.bindNext model.reference).scope)
      (buildFields graph.options ⟨model.id, model.reference⟩ (withoutRepeats spec.fields))
      model.fields
  distinct : (model.fields.filterMap (·.name)).Nodup
  first : ∀ field ∈ model.fields, ∀ name, field.name = some name →
    ∃ given, spec.fields.find? (·.name = some name) = some given ∧
      field = { Field.build graph.options given with owner := some ⟨model.id, model.reference⟩ }
  named : ∀ given ∈ spec.fields, ∀ name, given.name = some name →
    ∃ field ∈ model.fields, field.name = some name
  anonymous : (model.fields.filter (·.name = none)).Perm
    (buildFields graph.options ⟨model.id, model.reference⟩ (spec.fields.filter (·.name = none)))
  reported : grown.diagnostics = graph.diagnostics ++ (repeatedNames spec.fields).map
    (.duplicateField (graph.arena.displayName model.reference))
  counted : model.fields.length + (repeatedNames spec.fields).length = spec.fields.length

theorem fields_nextModel (graph : Graph) (reference : RefId) (spec : ModelSpec) :
    (graph.nextModel reference spec).fields =
      orderFields graph.options.flavor (graph.bindNext reference).scope
        (buildFields graph.options ⟨graph.nextId, reference⟩ (withoutRepeats spec.fields)) := by
  have hkept : graph.nextFields reference spec =
      buildFields graph.options ⟨graph.nextId, reference⟩ (withoutRepeats spec.fields) := by
    rw [nextFields, keepFirstNames_nil]
  rw [← hkept]
  rfl

theorem perm_fields_nextModel (graph : Graph) (reference : RefId) (spec : ModelSpec) :
    (graph.nextModel reference spec).fields.Perm
      (buildFields graph.options ⟨graph.nextId, reference⟩ (withoutRepeats spec.fields)) := by
  rw [fields_nextModel]
  exact perm_orderFields _ _ _

theorem mem_fields_nextModel {graph : Graph} {reference : RefId} {spec : ModelSpec}
    {field : Field} :
    field ∈ (graph.nextModel reference spec).fields ↔
      ∃ given ∈ withoutRepeats spec.fields,
        { Field.build graph.options given with owner := some ⟨graph.nextId, reference⟩ } =
          field := by
  rw [(perm_fields_nextModel graph reference spec).mem_iff, buildFields, List.mem_map]

/-- **The fields of a model are the first of each name.** Whenever a model is added, its fields are
    built from the given ones that repeat no earlier name, in the same order, or in a dataclass
    with those that assign a value behind the others. So no two have one name, each named field is
    the first of its name that is given, and every name and every field without a name is there.
    Each field that is left out is reported once, in the given order, with the model's name and
    its own. -/
theorem keepsFirst_of_add {graph grown : Graph} {spec : ModelSpec} {id : ModelId}
    (h : graph.add spec = .ok (id, grown)) :
    ∃ model, spec.reference = some model.reference ∧ model.id = id ∧
      graph.KeepsFirst grown spec model := by
  obtain ⟨reference, hreference, -, -, -, rfl, rfl⟩ := add_eq_ok_iff.1 h
  have hfields := graph.fields_nextModel reference spec
  have hperm := graph.perm_fields_nextModel reference spec
  refine ⟨graph.nextModel reference spec, hreference, rfl,
    { added := rfl, in_order := ?_, partitioned := ?_, distinct := ?_, first := ?_, named := ?_,
      anonymous := ?_, reported := ?_, counted := ?_ }⟩
  · intro hflavor
    rw [hfields, orderFields]
    · rfl
    · exact hflavor
  · intro hflavor
    rw [hfields, hflavor]
    exact stablyPartitioned_orderFields _ _
  · rw [(hperm.filterMap (·.name)).nodup_iff, filterMap_name_buildFields]
    exact nodup_names_withoutRepeats spec.fields
  · intro field hfield name hname
    obtain ⟨given, hgiven, rfl⟩ := mem_fields_nextModel.1 hfield
    have hgivenName : given.name = some name :=
      (Field.name_build graph.options given).symm.trans hname
    exact ⟨given, find?_of_mem_withoutRepeats hgiven hgivenName, rfl⟩
  · intro given hgiven name hname
    obtain ⟨first, hfirst, hfirstName⟩ := exists_mem_withoutRepeats hgiven hname
    exact ⟨_, mem_fields_nextModel.2 ⟨first, hfirst, rfl⟩,
      (Field.name_build graph.options first).trans hfirstName⟩
  · have hanonymous := hperm.filter (·.name = none)
    rw [filter_name_buildFields, filter_anonymous_withoutRepeats] at hanonymous
    exact hanonymous
  · have hreported : (keepFirstNames [] spec.fields).2 = repeatedNames spec.fields := by
      rw [keepFirstNames_nil]
    rw [← hreported]
    rfl
  · rw [hperm.length_eq, buildFields, List.length_map]
    exact length_withoutRepeats spec.fields

/-- A crate, with a size and a label that are given twice. -/
def crateSpec : ModelSpec where
  reference := some ⟨0⟩
  fields := [{ name := some "size", type := .builtin "int", default := some (.int 1) },
    { name := some "label", type := .builtin "str", required := true },
    { type := .builtin "int", required := true },
    { name := some "size", type := .builtin "float", required := true },
    { name := some "label", type := .builtin "str" }]

/-- The graph to which the crate is added. -/
def beforeCrate : Graph :=
  ((Graph.empty { flavor := .dataclass } {}).allocate "#/Crate" "Crate").2

/-- The size has a default, so it comes last. -/
theorem keepsFirst_of_add_crate :
    beforeCrate.add crateSpec = .ok (⟨0⟩, beforeCrate.grow ⟨0⟩ crateSpec) ∧
      beforeCrate.KeepsFirst (beforeCrate.grow ⟨0⟩ crateSpec) crateSpec
        (beforeCrate.nextModel ⟨0⟩ crateSpec) ∧
      (beforeCrate.nextModel ⟨0⟩ crateSpec).fields.map (·.name) =
        [some "label", none, some "size"] ∧
      repeatedNames crateSpec.fields = ["size", "label"] := by
  have hadd : beforeCrate.add crateSpec = .ok (⟨0⟩, beforeCrate.grow ⟨0⟩ crateSpec) := rfl
  obtain ⟨model, -, -, hkeeps⟩ := keepsFirst_of_add hadd
  have hmodel : [beforeCrate.nextModel ⟨0⟩ crateSpec] = [model] := hkeeps.added
  refine ⟨hadd, ?_, by decide, by decide⟩
  rw [(List.cons.inj hmodel).1]
  exact hkeeps

end Graph

end SchemaPress
