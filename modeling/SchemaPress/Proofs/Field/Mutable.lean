import SchemaPress.Proofs.Field.Required
import SchemaPress.Proofs.Graph.FieldOrder
import SchemaPress.Proofs.Python.Literal
import SchemaPress.Proofs.Template.Classes

set_option autoImplicit false

/-! # Lists and dictionaries as defaults

A list or a dictionary behind an attribute of a dataclass would be shared by all instances, and a
dataclass refuses it. So such a default is made by a factory, in a call of its own. The call is left
out for a required field, which is expected to have no default at all. But a required field that
admits `None` does have one: its default is written wherever there is no call. That is the only way
in which a list or a dictionary gets assigned as it is (`assigns_mutable_iff`). -/

namespace SchemaPress

/-- A list or a dictionary. -/
def Value.isMutable : Value → Bool
  | .arr _ | .obj _ => true
  | _ => false

/-- A field that is required and stays so: it has no constant, and no single literal becomes its
    default. -/
structure FieldSpec.StaysRequired (options : Options) (spec : FieldSpec) : Prop where
  required : spec.required = true
  no_constant : Entries.get? spec.extras "const" = none
  no_literal : options.useOneLiteralAsDefault = true → ∀ value, spec.type.values? ≠ some [value]

/-- A field that admits `None`, by its type or by its own mark. -/
def FieldSpec.AdmitsNone (scope : Scope) (spec : FieldSpec) : Prop :=
  spec.type.rendersOptional scope = true ∨ spec.nullable = some true

/-- The function that makes a default: the one that the field names, or one that returns the
    value. -/
def FieldSpec.factoryText (spec : FieldSpec) (value : Value) : String :=
  match Entries.get? spec.extras "default_factory" with
  | some given => CallDialect.factoryExpression given
  | none => "lambda: " ++ Python.literal value

namespace Field

/-! ## Built fields -/

/-- What stays required is built as it is given. -/
theorem toFieldSpec_build {options : Options} {spec : FieldSpec} (h : spec.StaysRequired options) :
    (build options spec).toFieldSpec = spec := by
  have hfreeze : ∀ field : Field, field.toFieldSpec = spec → field.freeze = field := by
    rintro field rfl
    rw [freeze, constant?, h.no_constant]
  unfold build
  simp only
  split
  · rename_i hliteral
    rw [hfreeze _ rfl, defaultToLiteral]
    split
    · rename_i value hvalues _
      exact absurd hvalues (h.no_literal hliteral value)
    · rfl
  · rw [hfreeze _ rfl]

/-- A constant of a dataclass need not be given. -/
theorem freeze_dataclass {field : Field} (hflavor : field.flavor = .dataclass) :
    (field.freeze.required = true ↔
      field.required = true ∧ Entries.get? field.extras "const" = none) ∧
    field.freeze.type = field.type := by
  unfold freeze constant?
  cases Entries.get? field.extras "const" <;> simp [hflavor]

theorem required_defaultToLiteral (field : Field) :
    field.defaultToLiteral.required = true ↔
      field.required = true ∧ ∀ value, field.type.values? ≠ some [value] := by
  unfold defaultToLiteral
  split
  · rename_i value hvalues _
    simp [hvalues]
  · rename_i hother
    refine ⟨fun hrequired => ⟨hrequired, fun value hvalues => ?_⟩, And.left⟩
    exact hother value hvalues hrequired

/-- A built field is required if it stays so. -/
theorem required_build {options : Options} (hflavor : options.flavor = .dataclass)
    (spec : FieldSpec) :
    (build options spec).required = true ↔ spec.StaysRequired options := by
  unfold build
  simp only
  split
  · rename_i hliteral
    rw [required_defaultToLiteral, (freeze_dataclass hflavor).1, (freeze_dataclass hflavor).2]
    constructor
    · rintro ⟨⟨hrequired, hconst⟩, hvalues⟩
      exact ⟨hrequired, hconst, fun _ => hvalues⟩
    · intro h
      exact ⟨⟨h.required, h.no_constant⟩, h.no_literal hliteral⟩
  · rename_i hliteral
    rw [(freeze_dataclass hflavor).1]
    constructor
    · rintro ⟨hrequired, hconst⟩
      exact ⟨hrequired, hconst, fun h => absurd h hliteral⟩
    · intro h
      exact ⟨h.required, h.no_constant⟩

/-! ## Texts -/

/-- The literal of a list or a dictionary starts with its bracket. -/
theorem toList_literal_of_isMutable {value : Value} (h : value.isMutable = true) :
    ∃ c rest, (Python.literal value).toList = c :: rest ∧ c ∈ ['[', '\x7b'] := by
  cases value with
  | arr items => exact ⟨_, _, Python.toList_literal_arr items, by simp⟩
  | obj fields => exact ⟨_, _, Python.toList_literal_obj fields, by simp⟩
  | _ => cases h

/-- A call is no list and no dictionary. -/
theorem literal_ne_of_isMutable {value : Value} (h : value.isMutable = true) {text : String}
    (htext : ∀ c ∈ text.toList.head?, c ∉ ['[', '\x7b']) : Python.literal value ≠ text := by
  rintro rfl
  obtain ⟨c, rest, hliteral, hc⟩ := toList_literal_of_isMutable h
  exact htext c (by rw [hliteral]; rfl) hc

variable {options : Options} {spec : FieldSpec} {value : Value}

/-- The call of a field of a dataclass whose default is a list or a dictionary. -/
theorem dataclassCall?_mutable {field : Field} (hdefault : field.default = some value)
    (hmutable : value.isMutable = true) :
    field.dataclassCall? = if field.required then none
      else some ("field(default_factory=" ++ field.factoryText value ++ ")") := by
  unfold dataclassCall? FieldSpec.factoryText
  cases Entries.get? field.extras "default_factory" with
  | some given => rfl
  | none =>
    cases value with
    | arr items => simp [hdefault]
    | obj fields => simp [hdefault]
    | _ => cases hmutable

theorem defaultLiteral_ne_none {field : Field} (hdefault : field.default = some value)
    (hmutable : value.isMutable = true) : field.defaultLiteral ≠ "None" := by
  rw [defaultLiteral, hdefault]
  exact literal_ne_of_isMutable hmutable (by simp)

/-- Such a field gets a value unless it is required and does not admit `None`. -/
theorem assigns_mutable {field : Field} (hflavor : field.flavor = .dataclass)
    (hdefault : field.default = some value) (hmutable : value.isMutable = true) (scope : Scope) :
    field.assigns scope =
      (!field.required || field.type.rendersOptional scope || field.nullable = some true) := by
  rw [assigns_dataclass hflavor, dataclassCall?_mutable hdefault hmutable, hidesNone,
    beq_eq_false_iff_ne.2 (defaultLiteral_ne_none hdefault hmutable)]
  cases field.required <;> simp

/-- What is written behind the hint of such a field. -/
theorem attribute_mutable {field : Field} (hflavor : field.flavor = .dataclass)
    (hdefault : field.default = some value) (hmutable : value.isMutable = true) (scope : Scope) :
    (field.view scope).attribute = field.hint scope ++
      (if field.required then
        if field.type.rendersOptional scope || field.nullable = some true then
          " = " ++ Python.literal value
        else ""
      else " = " ++ ("field(default_factory=" ++ field.factoryText value ++ ")")) := by
  have hannotated : field.annotated? scope = none := by
    simp [annotated?, hflavor, Flavor.supportsAnnotated]
  have hcall : field.call? scope = field.dataclassCall? := by
    rw [call?, hflavor]
  have hliteral : field.defaultLiteral = Python.literal value := by
    rw [defaultLiteral, hdefault]
    rfl
  have hshown := defaultLiteral_ne_none hdefault hmutable
  rw [dataclassCall?_mutable hdefault hmutable] at hcall
  rw [hliteral] at hshown
  cases hrequired : field.required with
  | true =>
    simp [FieldView.attribute, view, rendersDefault, hannotated, hcall, hrequired, hliteral, hshown]
  | false =>
    simp [FieldView.attribute, view, hannotated, hcall, hrequired, String.append_assoc]

/-! ## Attributes of classes -/

/-- The text of a dataclass holds the line of each attribute. -/
theorem exists_attribute_line {model : Model} {field : Field} (hfield : field ∈ model.fields)
    (hflavor : field.flavor = .dataclass) (scope : Scope) (className : String) :
    ∃ before after,
      Stretch.written (model.stretches .dataclass .base scope className) = before ++
        ("\n    " ++ field.name.getD "" ++ ": " ++ (field.view scope).attribute ++ after) := by
  have hpart : .field (field.name.getD "") field ∈ model.bodyParts .dataclass .base :=
    Model.field_mem_bodyParts.2 (.inl ⟨rfl, hfield, rfl⟩)
  have hstretch : (BodyPart.field (field.name.getD "") field).stretch .dataclass scope ∈
      model.stretches .dataclass .base scope className := by
    rw [Model.stretches, if_neg (by simp)]
    exact List.mem_cons_of_mem _ (List.mem_map_of_mem hpart)
  have htext := Stretch.exists_written_of_mem hstretch
  rwa [BodyPart.stretch, shown_of_flavor_eq hflavor] at htext

/-- The three ways in which a built field with such a default is written. -/
theorem attribute_cases {field : Field} {owner : Option Owner}
    (hflavor : options.flavor = .dataclass)
    (hfield : field = { build options spec with owner := owner })
    (hdefault : field.default = some value) (hmutable : value.isMutable = true) (scope : Scope) :
    (spec.StaysRequired options ∧ spec.AdmitsNone scope ∧ field.assigns scope = true ∧
      (field.view scope).attribute = field.hint scope ++ (" = " ++ Python.literal value)) ∨
    (spec.StaysRequired options ∧ ¬spec.AdmitsNone scope ∧ field.assigns scope = false ∧
      (field.view scope).attribute = field.hint scope ++ "") ∨
    (¬spec.StaysRequired options ∧ field.assigns scope = true ∧
      (field.view scope).attribute = field.hint scope ++
        (" = " ++ ("field(default_factory=" ++ spec.factoryText value ++ ")"))) := by
  have hdataclass : field.flavor = .dataclass := by
    rw [hfield]
    exact (Graph.flavor_build options spec).trans hflavor
  have hrequired : field.required = true ↔ spec.StaysRequired options := by
    rw [hfield]
    exact required_build hflavor spec
  have hattribute := attribute_mutable hdataclass hdefault hmutable scope
  have hassigns := assigns_mutable hdataclass hdefault hmutable scope
  by_cases hstays : spec.StaysRequired options
  · have hspec : field.toFieldSpec = spec := by
      rw [hfield]
      exact toFieldSpec_build hstays
    simp only [hspec, hstays.required, if_true, Bool.not_true, Bool.false_or]
      at hattribute hassigns
    by_cases hnone : spec.AdmitsNone scope
    · have hshown : (spec.type.rendersOptional scope || spec.nullable = some true) = true := by
        simpa [FieldSpec.AdmitsNone] using hnone
      rw [hshown] at hattribute hassigns
      exact .inl ⟨hstays, hnone, hassigns, hattribute⟩
    · have hshown : (spec.type.rendersOptional scope || spec.nullable = some true) = false := by
        simpa [FieldSpec.AdmitsNone] using hnone
      rw [hshown] at hattribute hassigns
      exact .inr (.inl ⟨hstays, hnone, hassigns, hattribute⟩)
  · have hfactory : field.factoryText value = spec.factoryText value := by
      have hextras : field.extras = spec.extras := by
        rw [hfield]
        exact (extras_build options spec).1
      rw [FieldSpec.factoryText, FieldSpec.factoryText, hextras]
    have hoptional : field.required = false := Bool.eq_false_iff.2 (mt hrequired.1 hstays)
    rw [hoptional] at hassigns
    rw [hoptional, hfactory] at hattribute
    exact .inr (.inr ⟨hstays, hassigns, hattribute⟩)

/-- **When a list or a dictionary is assigned as it is.** Take a field of a dataclass whose default
    is a list or a dictionary, as it is built and given to a model. The literal itself stands
    behind the hint exactly if the field stays required and admits `None`. Every field that does
    not stay required gets its value from a factory, and one that stays required and does not
    admit `None` gets none. The template writes the attribute like that in the class of every
    model with the field. -/
theorem assigns_mutable_iff {field : Field} {owner : Option Owner}
    (hflavor : options.flavor = .dataclass)
    (hfield : field = { build options spec with owner := owner })
    (hdefault : field.default = some value) (hmutable : value.isMutable = true) (scope : Scope) :
    ((field.view scope).attribute = field.hint scope ++ (" = " ++ Python.literal value) ↔
      spec.StaysRequired options ∧ spec.AdmitsNone scope) ∧
    ((field.view scope).attribute = field.hint scope ++
        (" = " ++ ("field(default_factory=" ++ spec.factoryText value ++ ")")) ↔
      ¬spec.StaysRequired options) ∧
    (field.assigns scope = false ↔ spec.StaysRequired options ∧ ¬spec.AdmitsNone scope) ∧
    ∀ (graph : Graph) (model : Model) (className : String), graph.scope = scope →
      model.kind = .base → field ∈ model.fields →
      (∀ other ∈ model.fields, other.flavor = .dataclass) →
      ∃ template before after,
        Entries.get? Template.Builtin.all (Flavor.dataclass.templateId .base) = some template ∧
        template.render (graph.templateValues model className) = .ok (before ++
          ("\n    " ++ field.name.getD "" ++ ": " ++ (field.view scope).attribute ++ after)) := by
  have hcall : Python.literal value ≠ "field(default_factory=" ++ spec.factoryText value ++ ")" :=
    literal_ne_of_isMutable hmutable (by simp [String.toList_append])
  have hsomething : ∀ text : String, "" ≠ " = " ++ text := by
    intro text h
    have hlist := congrArg String.toList h
    simp [String.toList_append] at hlist
  have hcases := attribute_cases hflavor hfield hdefault hmutable scope
  refine ⟨?_, ?_, ?_, ?_⟩
  · rcases hcases with ⟨hstays, hnone, -, h⟩ | ⟨hstays, hnone, -, h⟩ | ⟨hstays, -, h⟩
    · rw [h, String.append_right_inj]
      simp [hstays, hnone]
    · rw [h, String.append_right_inj]
      simp [hnone, hsomething]
    · rw [h, String.append_right_inj, String.append_right_inj]
      simp [hstays, hcall.symm]
  · rcases hcases with ⟨hstays, -, -, h⟩ | ⟨hstays, -, -, h⟩ | ⟨hstays, -, h⟩
    · rw [h, String.append_right_inj, String.append_right_inj]
      simp [hstays, hcall]
    · rw [h, String.append_right_inj]
      simp [hstays, hsomething]
    · rw [h, String.append_right_inj]
      simp [hstays]
  · rcases hcases with ⟨-, hnone, h, -⟩ | ⟨hstays, hnone, h, -⟩ | ⟨hstays, h, -⟩
    · simp [h, hnone]
    · simp [h, hstays, hnone]
    · simp [h, hstays]
  · rintro graph model className rfl - hmem hall
    obtain ⟨template, htemplate, hrender⟩ :=
      Template.Builtin.render_builtin graph model className .dataclass .base
    obtain ⟨before, after, hline⟩ :=
      exists_attribute_line hmem (hall field hmem) graph.scope className
    rw [hline] at hrender
    exact ⟨template, before, after, htemplate, hrender⟩

/-- A list of tags that may be `None` and has a default. -/
def tagsSpec (required : Bool) : FieldSpec where
  name := some "tags"
  default := some (.arr [.int 1])
  required := required
  nullable := some true
  type := .list {} (.builtin "int")

/-- The tags of the first model of a graph. -/
def tagsField (required : Bool) : Field :=
  { build { flavor := .dataclass } (tagsSpec required) with owner := some ⟨⟨0⟩, ⟨0⟩⟩ }

/-- A graph with a reference to a post. -/
def beforePost : Graph :=
  ((Graph.empty { flavor := .dataclass } {}).allocate "#/Post" "Post").2

/-- A post has tags that have to be given. -/
def postSpec : ModelSpec where
  reference := some ⟨0⟩
  fields := [tagsSpec true]

/-- Tags that have to be given are assigned as they are, also in the class of a post, and others
    come from a factory. -/
theorem assigns_mutable_iff_tags :
    ((tagsField true).view emptyScope).attribute = "Optional[List[int]] = [1]" ∧
      ((tagsField false).view emptyScope).attribute =
        "Optional[List[int]] = field(default_factory=lambda: [1])" ∧
      ∃ template before after,
        Entries.get? Template.Builtin.all (Flavor.dataclass.templateId .base) = some template ∧
        template.render (beforePost.templateValues (beforePost.nextModel ⟨0⟩ postSpec) "Post") =
          .ok (before ++ ("\n    " ++ "tags" ++ ": " ++ "Optional[List[int]] = [1]" ++ after)) := by
  have hfield : ∀ required, tagsField required =
      { build { flavor := .dataclass } (tagsSpec required) with owner := some ⟨⟨0⟩, ⟨0⟩⟩ } :=
    fun _ => rfl
  have hrequired : (tagsSpec true).StaysRequired { flavor := .dataclass } :=
    ⟨rfl, rfl, fun _ _ => nofun⟩
  refine ⟨?_, ?_, ?_⟩
  · rw [(assigns_mutable_iff rfl (hfield true) rfl rfl emptyScope).1.2 ⟨hrequired, .inr rfl⟩]
    decide +kernel
  · rw [(assigns_mutable_iff rfl (hfield false) rfl rfl emptyScope).2.1.2
      fun h => absurd h.required (by decide)]
    decide +kernel
  · have hpost := assigns_mutable_iff rfl (hfield true) rfl rfl beforePost.scope
    have hdirect := hpost.1.2 ⟨hrequired, .inr rfl⟩
    have hfields : beforePost.nextFields ⟨0⟩ postSpec = [tagsField true] := rfl
    have hmem : tagsField true ∈ (beforePost.nextModel ⟨0⟩ postSpec).fields := by
      show tagsField true ∈ orderFields .dataclass (beforePost.bindNext ⟨0⟩).scope
        (beforePost.nextFields ⟨0⟩ postSpec)
      rw [Graph.mem_orderFields, hfields]
      exact List.mem_singleton_self _
    obtain ⟨template, before, after, htemplate, hrender⟩ := hpost.2.2.2 beforePost
      (beforePost.nextModel ⟨0⟩ postSpec) "Post" rfl rfl hmem
      fun other hother => Graph.flavor_of_mem_nextModel hother
    rw [hdirect] at hrender
    exact ⟨template, before, after, htemplate, hrender⟩

end Field

end SchemaPress
