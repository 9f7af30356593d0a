import SchemaPress.Field.View
import SchemaPress.Proofs.Entries
import SchemaPress.Proofs.Graph.Grow

set_option autoImplicit false

/-! # Required fields and their defaults

Three places decide together whether an attribute of a pydantic class must be given: the default
behind the hint, the call that is assigned, and the call inside `Annotated[...]`. For a required
field the first argument of an assigned call is `...`, and inside an annotation the call holds only
details such as the alias and the bounds, with one exception: in pydantic 2 a constant stands in
front of them. A default behind the hint is left to fields that admit `None` and assign no call. -/

namespace SchemaPress

namespace CallDialect

/-! ## Details -/

/-- The arguments that a call writes whatever the extras are called. -/
def ownArguments : List String :=
  ["alias", "const", "examples", "json_schema_extra", "regex", "min_length", "max_length"] ++
    ConstraintKind.all.map ConstraintKind.argument

/-- An argument that is given by name and is not the default: calls write it by themselves, or an
    extra has its name. -/
def IsDetail (extras : Entries Value) (argument : String) : Prop :=
  ∃ name value, argument = name ++ "=" ++ value ∧ name ≠ "default" ∧ name ≠ "default_factory" ∧
    (name ∈ ownArguments ∨ Entries.has extras name = true)

theorem ne_of_mem_ownArguments {name : String} (h : name ∈ ownArguments) :
    name ≠ "default" ∧ name ≠ "default_factory" := by
  revert h
  revert name
  decide

/-- The call with the given arguments. -/
def callOf (arguments : List String) : String :=
  "Field(" ++ ", ".intercalate arguments ++ ")"

variable {dialect : CallDialect} {field : Field}

/-- The extras that a call uses keep their names, but an example may become a list. -/
theorem name_of_mem_usableExtras {entry : String × Value}
    (h : entry ∈ dialect.usableExtras field) :
    entry.1 ∈ ownArguments ∨
      (Entries.has field.extras entry.1 = true ∧ entry.1 ∉ dialect.excluded) := by
  have hpresent : ∀ other ∈ field.extras.filter (fun entry =>
      !dialect.excluded.contains entry.1 && !entry.2.isNull),
      Entries.has field.extras other.1 = true ∧ other.1 ∉ dialect.excluded := by
    intro other hother
    obtain ⟨hmem, hkept⟩ := List.mem_filter.1 hother
    refine ⟨List.any_eq_true.2 ⟨other, hmem, beq_self_eq_true _⟩, ?_⟩
    simp only [Bool.and_eq_true, Bool.not_eq_true', List.contains_eq_mem,
      decide_eq_false_iff_not] at hkept
    exact hkept.1
  have hkept : ∀ {listed : Entries Value}, entry ∈ (if field.useFieldDescription = true then
      Entries.drop listed "description" else listed) → entry ∈ listed := by
    intro listed hmem
    split at hmem
    · exact Entries.mem_of_mem_drop hmem
    · exact hmem
  have hlisted := hkept h
  split at hlisted
  · split at hlisted
    · rcases Entries.mem_put hlisted with heq | hlisted
      · exact Or.inl (heq ▸ by decide)
      · exact Or.inr (hpresent entry (Entries.mem_of_mem_drop hlisted))
    · exact Or.inr (hpresent entry hlisted)
  · exact Or.inr (hpresent entry hlisted)

/-- So do the arguments that come from extras, but what the call does not know is in one
    dictionary. -/
theorem name_of_mem_extraArguments {extras : Entries Value} {entry : String × String}
    (h : entry ∈ dialect.extraArguments extras) :
    entry.1 ∈ ownArguments ∨ ∃ extra ∈ extras, entry.1 = extra.1 := by
  have hdirect : ∀ other ∈ Entries.mapValues Python.literal
      (extras.filter fun entry => dialect.knows entry.1), ∃ extra ∈ extras, other.1 = extra.1 := by
    intro other hother
    obtain ⟨extra, hextra, rfl⟩ := List.mem_map.1 hother
    exact ⟨extra, (List.mem_filter.1 hextra).1, rfl⟩
  unfold extraArguments at h
  simp only at h
  split at h
  · exact Or.inr (hdirect entry h)
  · rcases Entries.mem_put h with heq | h
    · exact Or.inl (heq ▸ by decide)
    · exact Or.inr (hdirect entry h)

/-- The releases of pydantic. -/
def IsRelease (dialect : CallDialect) : Prop :=
  dialect = pydantic2 ∨ dialect = pydantic1

theorem IsRelease.default_mem_excluded (h : dialect.IsRelease) : "default" ∈ dialect.excluded := by
  rcases h with rfl | rfl <;> decide

theorem IsRelease.constraintArgument?_mem (h : dialect.IsRelease) {kind : ConstraintKind}
    {name : String} (hname : dialect.constraintArgument? kind = some name) :
    name ∈ ownArguments := by
  rcases h with rfl | rfl <;> cases kind <;> cases hname <;> decide

/-- Besides the arguments from extras a call has the alias, the constraints and the mark of a
    constant. -/
theorem IsRelease.name_of_mem_arguments (h : dialect.IsRelease) {entry : String × String}
    (hentry : entry ∈ dialect.arguments field) :
    entry.1 ∈ ownArguments ∨
      entry ∈ dialect.extraArguments
        (Entries.drop (dialect.usableExtras field) "default_factory") := by
  have hmarked : ∀ {unmarked : Entries String},
      entry ∈ (if (dialect.constMarker && field.frozen) = true then
        Entries.put unmarked "const" "True" else unmarked) →
      entry.1 = "const" ∨ entry ∈ unmarked := by
    intro unmarked hmem
    split at hmem
    · exact Entries.mem_put hmem
    · exact Or.inr hmem
  rcases hmarked hentry with heq | hconstrained
  · exact Or.inl (heq ▸ by decide)
  · rcases Entries.mem_overlay hconstrained with ⟨update, hupdate, heq⟩ | haliased
    · obtain ⟨⟨kind, bound⟩, -, hkind⟩ := List.mem_filterMap.1 hupdate
      obtain ⟨name, hname, rfl⟩ := Option.map_eq_some_iff.1 hkind
      exact Or.inl (heq ▸ h.constraintArgument?_mem hname)
    · split at haliased
      · rcases Entries.mem_put haliased with heq | hmem
        · exact Or.inl (heq ▸ by decide)
        · exact Or.inr hmem
      · exact Or.inr haliased

/-- Everything that a call says apart from the default is a detail. -/
theorem IsRelease.isDetail_of_mem_arguments (h : dialect.IsRelease) {entry : String × String}
    (hentry : entry ∈ dialect.arguments field) :
    IsDetail field.extras (entry.1 ++ "=" ++ entry.2) := by
  have hown : entry.1 ∈ ownArguments → IsDetail field.extras (entry.1 ++ "=" ++ entry.2) :=
    fun hmem => ⟨_, _, rfl, (ne_of_mem_ownArguments hmem).1, (ne_of_mem_ownArguments hmem).2,
      Or.inl hmem⟩
  rcases h.name_of_mem_arguments hentry with hmem | hmem
  · exact hown hmem
  · rcases name_of_mem_extraArguments hmem with hmem | ⟨extra, hextra, heq⟩
    · exact hown hmem
    · obtain ⟨husable, hfactory⟩ := List.mem_filter.1 hextra
      rw [bne_iff_ne, ← heq] at hfactory
      rcases name_of_mem_usableExtras husable with hmem | ⟨hhas, hexcluded⟩
      · exact hown (heq ▸ hmem)
      · rw [← heq] at hhas hexcluded
        have hdefault : entry.1 ≠ "default" := fun hname =>
          hexcluded (hname ▸ h.default_mem_excluded)
        exact ⟨_, _, rfl, hdefault, hfactory, Or.inr hhas⟩

/-! ## The call of a required field -/

/-- What stands in front of the details of a required field. -/
theorem leading?_of_required (hrequired : field.required = true) :
    dialect.leading? field none =
      if field.useAnnotated && field.flavor.supportsAnnotated then
        if dialect.defaultInAnnotation && field.frozen then some (defaultArgument field) else none
      else some "..." := by
  unfold leading?
  simp only [hrequired, Bool.not_true, Bool.false_or, if_true, Bool.and_eq_true]
  split
  · split <;> simp_all
  · rfl

/-- The call of a required field: `...` alone, or details behind what leads them. -/
theorem IsRelease.call?_of_required (h : dialect.IsRelease) {scope : Scope} {call : String}
    (hrequired : field.required = true) (hcall : dialect.call? scope field = some call) :
    call = callOf ["..."] ∨
      ∃ details ≠ [], call = callOf ((dialect.leading? field none).toList ++ details) ∧
        ∀ detail ∈ details, IsDetail field.extras detail := by
  have hfactory : dialect.factory? scope field = none := by
    rw [factory?, if_pos hrequired]
  unfold call? at hcall
  simp only [hfactory] at hcall
  split at hcall
  · split at hcall
    · exact Or.inl (Option.some.inj hcall).symm
    · cases hcall
  · rename_i hsome
    refine Or.inr ⟨_, fun hnil => hsome (by rw [hnil]; rfl), (Option.some.inj hcall).symm,
      fun detail hdetail => ?_⟩
    obtain ⟨entry, hentry, rfl⟩ := List.mem_map.1 (Text.mem_sorted.1 hdetail)
    exact h.isDetail_of_mem_arguments hentry

end CallDialect

namespace Field

open CallDialect (IsRelease IsDetail callOf defaultArgument)

/-! ## Built fields -/

/-- Building a field keeps its extras, and a field is frozen exactly if they name a constant. -/
theorem extras_build (options : Options) (spec : FieldSpec) :
    (build options spec).extras = spec.extras ∧
      (build options spec).frozen = (Entries.get? spec.extras "const").isSome := by
  have hfreeze : ∀ field : Field, field.frozen = false → field.freeze.extras = field.extras ∧
      field.freeze.frozen = (Entries.get? field.extras "const").isSome := by
    intro field hfrozen
    unfold freeze constant?
    cases Entries.get? field.extras "const" with
    | none => exact ⟨rfl, hfrozen⟩
    | some value => cases field.flavor <;> exact ⟨rfl, rfl⟩
  have hliteral : ∀ field : Field, field.defaultToLiteral.extras = field.extras ∧
      field.defaultToLiteral.frozen = field.frozen := by
    intro field
    unfold defaultToLiteral
    split <;> exact ⟨rfl, rfl⟩
  unfold build
  simp only
  split
  · rw [(hliteral _).1, (hliteral _).2]
    exact hfreeze _ rfl
  · exact hfreeze _ rfl

/-- The calls of the pydantic flavors are those of their releases. -/
theorem exists_dialect {field : Field} (h : field.flavor ≠ .dataclass) (scope : Scope) :
    ∃ dialect : CallDialect, dialect.IsRelease ∧ field.call? scope = dialect.call? scope field ∧
      (dialect.defaultInAnnotation = true ↔ field.flavor = .pydantic2) ∧
      field.flavor.supportsAnnotated = true := by
  unfold call?
  cases hflavor : field.flavor with
  | pydantic2 => exact ⟨.pydantic2, Or.inl rfl, rfl, iff_of_true rfl rfl, rfl⟩
  | pydantic1 => exact ⟨.pydantic1, Or.inr rfl, rfl, by decide, rfl⟩
  | dataclass => exact absurd hflavor h

theorem annotated?_eq_none_iff {field : Field} {scope : Scope} {call : String}
    (hsupports : field.flavor.supportsAnnotated = true) (hcall : field.call? scope = some call) :
    field.annotated? scope = none ↔ field.useAnnotated = false := by
  unfold annotated?
  cases field.useAnnotated <;> simp [hsupports, hcall]

/-! ## Required fields -/

/-- A required field gets a default behind its hint only if it admits `None`, and then only where
    no call is assigned. -/
theorem rendersDefault_of_required {field : Field} {scope : Scope}
    (hflavor : field.flavor ≠ .dataclass) (hrequired : field.required = true)
    (h : field.rendersDefault scope = true) :
    (field.type.rendersOptional scope = true ∨ field.nullable = some true) ∧
      (field.call? scope = none ∨
        (field.annotated? scope ≠ none ∧ field.flavor = .pydantic1)) := by
  simp only [rendersDefault, hrequired, Bool.not_true, Bool.false_or, Bool.and_eq_true,
    Bool.or_eq_true, decide_eq_true_eq, Bool.not_eq_true', Bool.and_eq_false_iff] at h
  obtain ⟨⟨⟨hnone, hcall⟩, hannotated⟩, -⟩ := h
  refine ⟨hnone, ?_⟩
  rcases hcall with hcall | hcall
  · rw [Option.isNone_eq_false_iff] at hcall
    refine Or.inr ⟨Option.isSome_iff_ne_none.1 hcall, ?_⟩
    cases hrelease : field.flavor with
    | pydantic1 => rfl
    | pydantic2 => simp_all [Flavor.defaultInAnnotation]
    | dataclass => exact absurd hrelease hflavor
  · exact Or.inl (Option.not_isSome_iff_eq_none.1 (by simp [hcall]))

/-- The attribute of a required field gets no default: behind the hint there is none unless the
    field admits `None` and assigns no call, and an assigned call starts with `...`. A call inside
    an annotation is `Field(...)` alone or has details, and these are led by the default exactly if
    the field is a constant of pydantic 2. -/
theorem required_field_has_no_default (scope : Scope) {options : Options}
    (hflavor : options.flavor ≠ .dataclass) {spec : FieldSpec}
    (hrequired : (build options spec).required = true) :
    let field := build options spec
    let view := field.view scope
    (view.rendersDefault = true →
      (view.optional = true ∨ view.nullable = some true) ∧
        (view.call = none ∨ (view.annotated ≠ none ∧ options.flavor = .pydantic1))) ∧
    ∀ call, view.call = some call →
      ∃ leading details, call = callOf (leading ++ details) ∧
        (∀ detail ∈ details, IsDetail spec.extras detail) ∧
        (view.annotated = none ∨ details = [] → leading = ["..."]) ∧
        (view.annotated ≠ none → details ≠ [] → leading =
          if options.flavor = .pydantic2 ∧ (Entries.get? spec.extras "const").isSome then
            [defaultArgument field]
          else []) := by
  have hfield : (build options spec).flavor = options.flavor := Graph.flavor_build options spec
  have hpydantic : (build options spec).flavor ≠ .dataclass := hfield ▸ hflavor
  refine ⟨fun hrenders => ?_, fun call hcall => ?_⟩
  · have hdefault := rendersDefault_of_required hpydantic hrequired hrenders
    rwa [hfield] at hdefault
  obtain ⟨dialect, hrelease, hdialect, hannotation, hsupports⟩ := exists_dialect hpydantic scope
  have hannotated := annotated?_eq_none_iff hsupports hcall
  obtain ⟨hextras, hfrozen⟩ := extras_build options spec
  rcases hrelease.call?_of_required hrequired (hdialect.symm.trans hcall) with
    rfl | ⟨details, hsaid, rfl, hdetails⟩
  · exact ⟨["..."], [], rfl, by simp, fun _ => rfl, fun _ hsaid => absurd rfl hsaid⟩
  · refine ⟨_, details, rfl, hextras ▸ hdetails, fun hdirect => ?_, fun hsome _ => ?_⟩
    · rw [CallDialect.leading?_of_required hrequired,
        hannotated.1 (hdirect.resolve_right hsaid)]
      rfl
    · have huse : (build options spec).useAnnotated = true := by
        rw [← Bool.not_eq_false]
        exact fun hfalse => hsome (hannotated.2 hfalse)
      have hconstant : (dialect.defaultInAnnotation && (build options spec).frozen) = true ↔
          options.flavor = .pydantic2 ∧ (Entries.get? spec.extras "const").isSome := by
        rw [Bool.and_eq_true, hannotation, hfield, hfrozen]
      rw [CallDialect.leading?_of_required hrequired, huse, hsupports, Bool.and_self, if_pos rfl]
      simp only [hconstant]
      split
      · rfl
      · rfl

/-- The scope of a document without models. -/
def emptyScope : Scope :=
  ⟨fun _ => "", fun _ => false, {}⟩

/-- A required number with a title, a default of its own and another name in documents. -/
def countSpec : FieldSpec :=
  { name := some "count", required := true, default := some (.int 5), wireName := some "n"
    type := .builtin "int", extras := [("title", .str "Count"), ("default", .int 7)] }

theorem required_field_has_no_default_count :
    (build { useAnnotated := true } countSpec).required = true ∧
      ((build { useAnnotated := true } countSpec).view emptyScope).annotated =
        some "Annotated[int, Field(alias='n', title='Count')]" ∧
      ((build { useAnnotated := true } countSpec).view emptyScope).rendersDefault = false := by
  refine ⟨rfl, by decide +kernel, ?_⟩
  rw [← Bool.not_eq_true]
  intro hrenders
  have hnone := ((required_field_has_no_default emptyScope (by decide) rfl).1 hrenders).1
  exact absurd hnone (by decide +kernel)

/-- Inside an annotation of pydantic 2 the constant of a required field is its default. -/
theorem required_constant_has_default :
    let options : Options := { useAnnotated := true }
    let spec : FieldSpec :=
      { name := some "kind", required := true, wireName := some "k", type := .builtin "str"
        extras := [("const", .str "dog")] }
    (build options spec).required = true ∧
      defaultArgument (build options spec) = "'dog'" ∧
      ((build options spec).view emptyScope).call = some (callOf ["'dog'", "alias='k'"]) ∧
      ((build options spec).view emptyScope).annotated =
        some "Annotated[Literal['dog'], Field('dog', alias='k')]" := by
  decide +kernel

end Field

end SchemaPress
