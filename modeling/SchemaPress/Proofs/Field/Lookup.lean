import SchemaPress.Model
import SchemaPress.Proofs.TypeTree.Optional

set_option autoImplicit false

/-! # Writing types while models are looked up

To write a type, the models that it mentions are looked up one by one, and a lookup can fail: a
reference may be bound to a model that is not there yet. `TypeTree.bare?` and `Field.view?` write
types and fields with such lookups, in the order in which they are made, and break off at the first
one that fails. Every node of a type is visited, so they break off exactly if some model in the type
cannot be looked up, and otherwise they give the hint and the view (`TypeTree.bare?_eq`,
`Field.view?_eq`). -/

namespace SchemaPress

/-- A scope in which the lookup of a model can fail. -/
structure LookupScope where
  className : RefId → String
  nullable? : RefId → Option Bool
  spelling : Spelling

namespace LookupScope

/-- The scope in which a model that cannot be looked up does not admit `None`. -/
def total (scope : LookupScope) : Scope where
  className := scope.className
  nullable := fun target => (scope.nullable? target).getD false
  spelling := scope.spelling

/-- Whether all models that a tree mentions can be looked up. -/
def covers (scope : LookupScope) (tree : TypeTree) : Bool :=
  tree.targets.all fun target => (scope.nullable? target).isSome

section

variable (scope : LookupScope) (m : Marks)

theorem covers_model (target : RefId) :
    scope.covers (.model m target) = (scope.nullable? target).isSome := by
  simp [covers]

theorem covers_list (item : TypeTree) : scope.covers (.list m item) = scope.covers item := by
  simp [covers]

theorem covers_set (item : TypeTree) : scope.covers (.set m item) = scope.covers item := by
  simp [covers]

theorem covers_dict (value : TypeTree) : scope.covers (.dict m value) = scope.covers value := by
  simp [covers]

theorem covers_keyedDict (key value : TypeTree) :
    scope.covers (.keyedDict m key value) = (scope.covers key && scope.covers value) := by
  simp [covers]

theorem covers_union (members : List TypeTree) :
    scope.covers (.union m members) = members.all scope.covers := by
  simp only [covers, TypeTree.targets_union, List.all_flatMap]
  rfl

end

end LookupScope

/-! ## Types -/

namespace TypeTree

mutual

/-- The hint of a tree, with its optionality beside it, if all lookups on the way succeed. -/
def bare? (scope : LookupScope) : TypeTree → Option BareHint
  | model m target => do
    let nullable ← scope.nullable? target
    return ⟨scope.className target, m.optional || nullable⟩
  | list m item => do
    let item ← item.bare? scope
    return ⟨ContainerShape.list.apply scope.spelling (item.close scope.spelling), m.optional⟩
  | set m item => do
    let item ← item.bare? scope
    return ⟨ContainerShape.set.apply scope.spelling (item.close scope.spelling), m.optional⟩
  | dict m value => do
    let value ← value.bare? scope
    return ⟨ContainerShape.applyKeyed scope.spelling "str" (value.close scope.spelling),
      m.optional⟩
  | keyedDict m key value => do
    let value ← value.bare? scope
    let key ← key.bare? scope
    return ⟨ContainerShape.applyKeyed scope.spelling (key.close scope.spelling)
      (value.close scope.spelling), m.optional⟩
  | union m members => do
    let bares ← bareAll? scope members
    return ⟨BareHint.join scope.spelling (BareHint.alternatives bares),
      m.optional || bares.any fun bare => bare.text == "None" || bare.optional⟩
  | leaf => some (leaf.bare scope.total)

/-- The hints of several trees. -/
def bareAll? (scope : LookupScope) : List TypeTree → Option (List BareHint)
  | [] => some []
  | tree :: rest => do
    let first ← tree.bare? scope
    let others ← bareAll? scope rest
    return first :: others

end

/-- The hint of a tree. -/
def hint? (scope : LookupScope) (tree : TypeTree) : Option String := do
  let bare ← tree.bare? scope
  return bare.close scope.spelling

/-- Whether the hint is optional. -/
def rendersOptional? (scope : LookupScope) (tree : TypeTree) : Option Bool := do
  let bare ← tree.bare? scope
  return bare.optional

/-- Whether the hint is `Any`, whatever its optionality. -/
def rendersAny? (scope : LookupScope) (tree : TypeTree) : Option Bool := do
  let bare ← tree.bare? scope
  return bare.text == "Any"

/-- Alternatives are looked up one after another, and none is left out. -/
theorem bareAll?_eq {scope : LookupScope} {members : List TypeTree}
    (h : ∀ member ∈ members, member.bare? scope =
      if scope.covers member then some (member.bare scope.total) else none) :
    bareAll? scope members =
      if members.all scope.covers then some (bareAll scope.total members) else none := by
  induction members with
  | nil => rfl
  | cons member rest ih =>
    rw [bareAll?, h member List.mem_cons_self,
      ih fun other hother => h other (List.mem_cons_of_mem _ hother), List.all_cons, bareAll]
    cases scope.covers member <;> cases rest.all scope.covers <;> rfl

/-- A hint is found exactly if all models of the tree can be looked up. -/
theorem bare?_eq (scope : LookupScope) (tree : TypeTree) :
    tree.bare? scope = if scope.covers tree then some (tree.bare scope.total) else none := by
  induction tree with
  | empty m => rfl
  | named m type => rfl
  | literal m values => rfl
  | model m target =>
    simp only [bare?, bare, scope.covers_model, LookupScope.total]
    cases scope.nullable? target <;> rfl
  | list m item ih =>
    rw [bare?, bare, scope.covers_list, ih]
    cases scope.covers item <;> rfl
  | set m item ih =>
    rw [bare?, bare, scope.covers_set, ih]
    cases scope.covers item <;> rfl
  | dict m value ih =>
    rw [bare?, bare, scope.covers_dict, ih]
    cases scope.covers value <;> rfl
  | keyedDict m key value ihkey ihvalue =>
    rw [bare?, bare, scope.covers_keyedDict, ihkey, ihvalue]
    cases scope.covers key <;> cases scope.covers value <;> rfl
  | union m members ih =>
    rw [bare?, bare, scope.covers_union, bareAll?_eq ih]
    cases members.all scope.covers <;> rfl

theorem hint?_eq (scope : LookupScope) (tree : TypeTree) :
    tree.hint? scope = if scope.covers tree then some (tree.hint scope.total) else none := by
  rw [hint?, bare?_eq]
  cases scope.covers tree <;> rfl

theorem rendersOptional?_eq (scope : LookupScope) (tree : TypeTree) :
    tree.rendersOptional? scope =
      if scope.covers tree then some (tree.rendersOptional scope.total) else none := by
  rw [rendersOptional?, bare?_eq]
  cases scope.covers tree <;> rfl

theorem rendersAny?_eq (scope : LookupScope) (tree : TypeTree) :
    tree.rendersAny? scope =
      if scope.covers tree then some (tree.rendersAny scope.total) else none := by
  rw [rendersAny?, bare?_eq]
  cases scope.covers tree <;> rfl

end TypeTree

/-! ## Fields -/

namespace Field

/-- Whether the hint of the type is wrapped once more to admit `None`. -/
def wrapsOptional? (scope : LookupScope) (field : Field) : Option Bool := do
  if field.hasDefaultFactory then return false
  if (← field.type.rendersOptional? scope) && !(← field.type.rendersAny? scope) then return false
  match field.nullable with
  | some nullable => return nullable
  | none => return !field.required && field.fallBackToNullable

/-- The hint of the field. -/
def hint? (scope : LookupScope) (field : Field) : Option String := do
  let inner ← field.type.hint? scope
  if inner.isEmpty then return "None"
  if ← field.wrapsOptional? scope then return optionalHint scope.spelling.unionOperator inner
  return inner

/-- The hint together with the call, where both stand in the annotation. -/
def annotation? (scope : LookupScope) (field : Field) : Option (Option String) := do
  if field.useAnnotated && field.flavor.supportsAnnotated then
    match field.call? scope.total with
    | some call => return some ("Annotated[" ++ (← field.hint? scope) ++ ", " ++ call ++ "]")
    | none => return none
  else return none

/-- The view of a field. -/
def view? (scope : LookupScope) (field : Field) : Option FieldView := do
  let hint ← field.hint? scope
  let annotated ← field.annotation? scope
  let call := field.call? scope.total
  let optional ← field.type.rendersOptional? scope
  return {
    name := field.name.getD ""
    wireName := field.wireName
    hint := hint
    call := call
    annotated := annotated
    required := field.required
    nullable := field.nullable
    optional := optional
    defaultLiteral := field.defaultLiteral
    rendersDefault := (!field.required || optional || field.nullable = some true) &&
      !(annotated.isNone && call.isSome) &&
      !(annotated.isSome && field.flavor.defaultInAnnotation) &&
      !(field.stripDefaultNone && field.defaultLiteral == "None")
    stripDefaultNone := field.stripDefaultNone
    docstring := field.docstring? }

/-- Whether the attribute is given a value. -/
def assigns? (scope : LookupScope) (field : Field) : Option Bool := do
  let view ← field.view? scope
  return view.assigns

section

variable {scope : LookupScope} {field : Field}

theorem wrapsOptional?_of_covers (h : scope.covers field.type = true) :
    field.wrapsOptional? scope = some (field.wrapsOptional scope.total) := by
  unfold wrapsOptional? wrapsOptional
  rw [TypeTree.rendersOptional?_eq, TypeTree.rendersAny?_eq, h]
  cases field.hasDefaultFactory with
  | true => rfl
  | false =>
    cases field.type.rendersOptional scope.total <;> cases field.type.rendersAny scope.total <;>
      cases field.nullable <;> rfl

theorem hint?_of_covers (h : scope.covers field.type = true) :
    field.hint? scope = some (field.hint scope.total) := by
  unfold hint? hint
  rw [TypeTree.hint?_eq, h, wrapsOptional?_of_covers h]
  simp only [if_true, Option.bind_eq_bind, Option.bind_some]
  cases (field.type.hint scope.total).isEmpty <;> cases field.wrapsOptional scope.total <;> rfl

theorem annotation?_of_covers (h : scope.covers field.type = true) :
    field.annotation? scope = some (field.annotated? scope.total) := by
  unfold annotation? annotated?
  rw [hint?_of_covers h]
  cases field.useAnnotated && field.flavor.supportsAnnotated with
  | false => rfl
  | true => cases field.call? scope.total <;> rfl

end

/-- A field can be viewed exactly if all models in its type can be looked up. -/
theorem view?_eq (scope : LookupScope) (field : Field) :
    field.view? scope =
      if scope.covers field.type then some (field.view scope.total) else none := by
  cases h : scope.covers field.type with
  | true =>
    unfold view?
    rw [hint?_of_covers h, annotation?_of_covers h, TypeTree.rendersOptional?_eq, h]
    rfl
  | false =>
    -- the hint comes first, and it needs all models
    unfold view? hint?
    rw [TypeTree.hint?_eq, h]
    rfl

theorem assigns?_eq (scope : LookupScope) (field : Field) :
    field.assigns? scope =
      if scope.covers field.type then some (field.assigns scope.total) else none := by
  rw [assigns?, view?_eq]
  cases scope.covers field.type <;> rfl

end Field

/-! ## The order of fields -/

/-- The fields of a dataclass by whether they are given a value, which is found out once for each of
    them before the first one is moved. A single field is not looked at. -/
def orderFields? (flavor : Flavor) (scope : LookupScope) (fields : List Field) :
    Option (List Field) :=
  match flavor with
  | .dataclass =>
    if fields.length < 2 then some fields
    else do
      let keys ← fields.mapM (·.assigns? scope)
      let keyed := keys.zip fields
      return (keyed.filter (!·.1)).map (·.2) ++ (keyed.filter (·.1)).map (·.2)
  | _ => some fields

theorem mapM_assigns? (scope : LookupScope) (fields : List Field) :
    fields.mapM (·.assigns? scope) =
      if fields.all fun field => scope.covers field.type then
        some (fields.map (·.assigns scope.total)) else none := by
  induction fields with
  | nil => rfl
  | cons field rest ih =>
    rw [List.mapM_cons, ih, Field.assigns?_eq, List.all_cons, List.map_cons]
    cases scope.covers field.type <;> cases rest.all fun field => scope.covers field.type <;> rfl

/-- What is kept by a key that was found out before is what is kept by finding it out. -/
theorem map_snd_filter_zip {α : Type} (key : α → Bool) (p : Bool → Bool) (members : List α) :
    (((members.map key).zip members).filter fun entry => p entry.1).map (·.2) =
      members.filter fun member => p (key member) := by
  induction members with
  | nil => rfl
  | cons member rest ih =>
    rw [List.map_cons, List.zip_cons_cons, List.filter_cons, List.filter_cons]
    cases p (key member) <;> simp [ih]

/-- Fields can be put in order if they are no fields of a dataclass, or are less than two, or if all
    models in their types can be looked up. -/
theorem orderFields?_eq (flavor : Flavor) (scope : LookupScope) (fields : List Field) :
    orderFields? flavor scope fields =
      if flavor ≠ .dataclass || fields.length < 2 ||
          fields.all fun field => scope.covers field.type then
        some (orderFields flavor scope.total fields) else none := by
  unfold orderFields? orderFields
  cases flavor with
  | pydantic2 => rfl
  | pydantic1 => rfl
  | dataclass =>
    by_cases hlength : fields.length < 2
    · -- nothing is moved in a list of at most one field
      have hsame : fields.filter (!·.assigns scope.total) ++ fields.filter (·.assigns scope.total) =
          fields := by
        rcases fields with _ | ⟨field, _ | ⟨second, rest⟩⟩
        · rfl
        · cases hassigns : field.assigns scope.total <;> simp [hassigns]
        · rw [List.length_cons, List.length_cons] at hlength
          omega
      simp [hlength, hsame]
    · simp only [hlength, if_false, mapM_assigns?]
      cases fields.all fun field => scope.covers field.type with
      | false => rfl
      | true =>
        simp only [if_true, Option.bind_eq_bind, Option.bind_some,
          map_snd_filter_zip (Field.assigns scope.total) (!·),
          map_snd_filter_zip (Field.assigns scope.total) (·)]
        simp

end SchemaPress
