import SchemaPress.Module
import SchemaPress.Proofs.Field.Written

set_option autoImplicit false

/-! # The parts of a class

What is written for a model, listed once. The body of a class is a list of parts: its description,
a `pass`, its settings, its attributes with what is said about them, and its methods
(`Model.bodyParts`). A class is its head with its comment and then these parts, except that a
dataclass for a single type is only another name for it (`Model.stretches`). Everything about the
text of a class is read off from this list. -/

namespace SchemaPress

open Template (showValue indentText replaceText)

/-! ## Code and docstrings -/

/-- A stretch of a class: code, or a text that stands there as a docstring. -/
inductive Stretch
  | code (s : String)
  | docstring (text : String)
  deriving DecidableEq, Repr

namespace Stretch

/-- The stretch as it is written. -/
def text : Stretch → String
  | code s => s
  | docstring text => "\n    \"\"\"\n    " ++ indentText 4 text ++ "\n    \"\"\""

/-- Stretches as they are written, one after the other. -/
def written (stretches : List Stretch) : String :=
  String.join (stretches.map text)

@[simp]
theorem written_nil : written [] = "" :=
  rfl

@[simp]
theorem written_cons (stretch : Stretch) (rest : List Stretch) :
    written (stretch :: rest) = stretch.text ++ written rest :=
  String.join_cons

@[simp]
theorem written_append (front back : List Stretch) :
    written (front ++ back) = written front ++ written back := by
  induction front with
  | nil => simp
  | cons stretch rest ih => simp [ih, String.append_assoc]

theorem written_flatMap {α : Type} (f : α → List Stretch) (items : List α) :
    written (items.flatMap f) = String.join (items.map fun item => written (f item)) := by
  induction items with
  | nil => rfl
  | cons item rest ih =>
    rw [List.flatMap_cons, written_append, ih, List.map_cons, String.join_cons]

@[simp]
theorem text_code (s : String) : (code s).text = s :=
  rfl

/-- Every stretch stands somewhere in the text. -/
theorem exists_written_of_mem {stretch : Stretch} {stretches : List Stretch}
    (h : stretch ∈ stretches) :
    ∃ before after, written stretches = before ++ (stretch.text ++ after) := by
  obtain ⟨front, back, rfl⟩ := List.append_of_mem h
  exact ⟨written front, written back, by rw [written_append, written_cons]⟩

end Stretch

/-! ## Parts -/

/-- What the templates of a flavor show of a field. Those of dataclasses do not look at
    annotations. -/
def Field.shown (flavor : Flavor) (scope : Scope) (field : Field) : FieldView :=
  if flavor = .dataclass then { field.view scope with annotated := none } else field.view scope

theorem Field.shown_of_flavor_eq {flavor : Flavor} {field : Field} (h : field.flavor = flavor)
    (scope : Scope) : field.shown flavor scope = field.view scope := by
  subst h
  unfold shown
  split
  · rename_i hdataclass
    simp [view, annotated?, hdataclass, Flavor.supportsAnnotated]
  · rfl

/-- A part of the body of a class. -/
inductive BodyPart
  | docstring (text : String)
  | pass
  | settings (parameters : Entries String)
  | field (name : String) (member : Field)
  | untyped (name : String)
  | method (text : String)

namespace BodyPart

/-- The parameters of a configuration as arguments of `ConfigDict`. -/
def dictText (parameters : Entries String) : String :=
  "\n    model_config = ConfigDict(" ++
    String.join (parameters.map fun parameter =>
      "\n        " ++ parameter.1 ++ "=" ++ parameter.2 ++ ",") ++ "\n    )"

/-- The parameters of a configuration as attributes of a class of their own. -/
def innerClassText (parameters : Entries String) : String :=
  "\n\n    class Config:" ++
    String.join (parameters.map fun parameter =>
      "\n        " ++ parameter.1 ++ " = " ++ parameter.2)

/-- The part as it stands in the text of the class. -/
def stretch (flavor : Flavor) (scope : Scope) : BodyPart → Stretch
  | docstring text => .docstring text
  | pass => .code "\n    pass"
  | settings parameters =>
    .code (if flavor = .pydantic2 then dictText parameters else innerClassText parameters)
  | field name member => .code ("\n    " ++ name ++ ": " ++ (member.shown flavor scope).attribute)
  | untyped name => .code ("\n    " ++ name ++ ": Any")
  | method text => .code ("\n\n    " ++ indentText 4 text)

/-- Parts as they are written, one after the other. -/
def written (flavor : Flavor) (scope : Scope) (parts : List BodyPart) : String :=
  Stretch.written (parts.map (stretch flavor scope))

/-- The name of an attribute and what is shown of it. -/
def field? (flavor : Flavor) (scope : Scope) : BodyPart → Option (String × FieldView)
  | field name member => some (name, member.shown flavor scope)
  | _ => none

section

variable (flavor : Flavor) (scope : Scope)

@[simp]
theorem written_nil : written flavor scope [] = "" :=
  rfl

@[simp]
theorem written_cons (part : BodyPart) (rest : List BodyPart) :
    written flavor scope (part :: rest) =
      (part.stretch flavor scope).text ++ written flavor scope rest :=
  Stretch.written_cons _ _

@[simp]
theorem written_append (front back : List BodyPart) :
    written flavor scope (front ++ back) =
      written flavor scope front ++ written flavor scope back := by
  simp [written]

theorem written_flatMap {α : Type} (f : α → List BodyPart) (items : List α) :
    written flavor scope (items.flatMap f) =
      String.join (items.map fun item => written flavor scope (f item)) := by
  rw [written, List.map_flatMap, Stretch.written_flatMap]
  rfl

theorem text_settings_pydantic2 (parameters : Entries String) :
    ((settings parameters).stretch .pydantic2 scope).text = dictText parameters := by
  rw [stretch, if_pos rfl, Stretch.text_code]

theorem text_settings_of_ne {flavor : Flavor} (h : flavor ≠ .pydantic2)
    (parameters : Entries String) :
    ((settings parameters).stretch flavor scope).text = innerClassText parameters := by
  rw [stretch, if_neg h, Stretch.text_code]

end

end BodyPart

namespace Model

/-- Whether the class has a description to show. -/
def isDescribed (model : Model) : Bool :=
  match model.description with
  | some text => !text.isEmpty
  | none => false

/-- Whether the class has a configuration to show. -/
def isConfigured (model : Model) : Bool :=
  match model.config with
  | some config => !config.parameters.isEmpty
  | none => false

/-- Whether there is nothing to write into the body of a class but methods. Dataclasses show no
    configuration. -/
def isBare (flavor : Flavor) (model : Model) : Bool :=
  model.fields.isEmpty && !model.isDescribed && (flavor = .dataclass || !model.isConfigured)

/-- A text as a docstring; an empty one is left out. -/
def docstringParts : Option String → List BodyPart
  | some text => if text.isEmpty then [] else [.docstring text]
  | none => []

/-- The statement of an otherwise empty body. A class that wraps a type always has its
    attribute. -/
def passParts (flavor : Flavor) (kind : ModelKind) (model : Model) : List BodyPart :=
  if kind = .base ∧ model.isBare flavor = true then [.pass] else []

theorem passParts_root (flavor : Flavor) (model : Model) : model.passParts flavor .root = [] :=
  if_neg fun h => nomatch h.1

/-- What is written about a configuration; one without parameters is left out. -/
def settingsParts (model : Model) : List BodyPart :=
  match model.config with
  | some config => if config.parameters.isEmpty then [] else [.settings config.parameters]
  | none => []

/-- All attributes, each with its docstring. -/
def fieldParts (model : Model) : List BodyPart :=
  model.fields.flatMap fun field =>
    .field (field.name.getD "") field :: docstringParts field.docstring?

/-- The single attribute of a class that wraps a type. -/
def rootPart (name : String) (model : Model) : BodyPart :=
  match model.fields with
  | [] => .untyped name
  | field :: _ => .field name field

/-- The name of that attribute. -/
def rootName : Flavor → String
  | .pydantic1 => "__root__"
  | _ => "root"

/-- The attributes of a class, with what is said about them. -/
def attributeParts (flavor : Flavor) (kind : ModelKind) (model : Model) : List BodyPart :=
  match kind with
  | .base => model.fieldParts
  | .root => [model.rootPart (rootName flavor)]

/-- The parts of the body of a class before its methods. -/
def frontParts (flavor : Flavor) (kind : ModelKind) (model : Model) : List BodyPart :=
  docstringParts model.description ++ model.passParts flavor kind ++
    match flavor with
    | .pydantic2 => model.settingsParts ++ model.attributeParts flavor kind
    | .pydantic1 => model.attributeParts flavor kind ++ model.settingsParts
    | .dataclass => model.attributeParts flavor kind

/-- The parts of the body of a class, in order. -/
def bodyParts (flavor : Flavor) (kind : ModelKind) (model : Model) : List BodyPart :=
  model.frontParts flavor kind ++ model.methods.map .method

/-! ## Whole classes -/

/-- The decorators, each on a line. -/
def decoratorText (model : Model) : String :=
  String.join (model.decorators.map fun decorator => decorator ++ "\n")

/-- The head of a class, up to its colon. Dataclasses leave out the brackets if there are no base
    classes. -/
def headLine (flavor : Flavor) (scope : Scope) (model : Model) (className : String) : String :=
  model.decoratorText ++ "class " ++ className ++
    (if flavor = .dataclass ∧ (model.baseHint scope).isEmpty then ""
      else "(" ++ model.baseHint scope ++ ")") ++ ":"

/-- The comment behind the head of a class. -/
def commentText (model : Model) : String :=
  match Entries.get? model.extras.templateValues "comment" with
  | some comment => "  # " ++ showValue comment
  | none => ""

/-- The description of another name for a type, as a comment. -/
def remarkText (model : Model) : String :=
  match model.description with
  | some text =>
    if text.isEmpty then "" else "# " ++ replaceText "\n" "\n# " text ++ "\n"
  | none => ""

/-- The type behind another name. -/
def aliasedText (scope : Scope) (model : Model) : String :=
  match model.fields with
  | [] => "Any"
  | field :: _ => field.hint scope

/-- What the built-in template for a flavor and a kind writes, in stretches. -/
def stretches (flavor : Flavor) (kind : ModelKind) (scope : Scope) (model : Model)
    (className : String) : List Stretch :=
  if flavor = .dataclass ∧ kind = .root then
    [.code (model.remarkText ++ className ++ " = " ++ model.aliasedText scope)]
  else
    .code (model.headLine flavor scope className ++ model.commentText) ::
      (model.bodyParts flavor kind).map (BodyPart.stretch flavor scope)

/-- The text of such a class is its head, its comment and its body. -/
theorem written_stretches {flavor : Flavor} {kind : ModelKind}
    (h : ¬(flavor = .dataclass ∧ kind = .root)) (scope : Scope) (model : Model)
    (className : String) :
    Stretch.written (model.stretches flavor kind scope className) =
      model.headLine flavor scope className ++
        (model.commentText ++ BodyPart.written flavor scope (model.bodyParts flavor kind)) := by
  rw [stretches, if_neg h, Stretch.written_cons, Stretch.text_code, String.append_assoc]
  rfl

/-! ## What is among the parts -/

section

variable {flavor : Flavor} {kind : ModelKind} {model : Model} {part : BodyPart}

theorem mem_docstringParts {shown : Option String} :
    part ∈ docstringParts shown ↔
      ∃ text, shown = some text ∧ text ≠ "" ∧ part = .docstring text := by
  cases shown with
  | none => simp [docstringParts]
  | some text => by_cases hempty : text = "" <;> simp [docstringParts, hempty]

theorem mem_passParts :
    part ∈ model.passParts flavor kind ↔
      (kind = .base ∧ model.isBare flavor = true) ∧ part = .pass := by
  unfold passParts
  split <;> simp_all

theorem mem_settingsParts :
    part ∈ model.settingsParts ↔
      ∃ config, model.config = some config ∧ config.parameters ≠ [] ∧
        part = .settings config.parameters := by
  unfold settingsParts
  cases model.config with
  | none => simp
  | some config => by_cases hempty : config.parameters = [] <;> simp [hempty]

theorem mem_attributeParts :
    part ∈ model.attributeParts flavor kind ↔
      (kind = .base ∧ ∃ field ∈ model.fields,
        part = .field (field.name.getD "") field ∨ part ∈ docstringParts field.docstring?) ∨
      (kind = .root ∧ model.fields = [] ∧ part = .untyped (rootName flavor)) ∨
      kind = .root ∧ ∃ field, model.fields.head? = some field ∧
        part = .field (rootName flavor) field := by
  cases kind with
  | base => simp [attributeParts, fieldParts]
  | root =>
    rw [attributeParts, rootPart, List.mem_singleton]
    cases model.fields <;> simp

/-- Which parts there are before the methods. -/
theorem mem_frontParts :
    part ∈ model.frontParts flavor kind ↔
      (∃ text, model.description = some text ∧ text ≠ "" ∧ part = .docstring text) ∨
      ((kind = .base ∧ model.isBare flavor = true) ∧ part = .pass) ∨
      (flavor ≠ .dataclass ∧ ∃ config, model.config = some config ∧ config.parameters ≠ [] ∧
        part = .settings config.parameters) ∨
      (kind = .base ∧ ∃ field ∈ model.fields, part = .field (field.name.getD "") field ∨
        ∃ text, field.docstring? = some text ∧ text ≠ "" ∧ part = .docstring text) ∨
      (kind = .root ∧ model.fields = [] ∧ part = .untyped (rootName flavor)) ∨
      kind = .root ∧ ∃ field, model.fields.head? = some field ∧
        part = .field (rootName flavor) field := by
  have hparts : part ∈ model.frontParts flavor kind ↔
      part ∈ docstringParts model.description ∨ part ∈ model.passParts flavor kind ∨
        flavor ≠ .dataclass ∧ part ∈ model.settingsParts ∨
        part ∈ model.attributeParts flavor kind := by
    unfold frontParts
    cases flavor <;> simp [or_comm]
  simp only [hparts, mem_docstringParts, mem_passParts, mem_settingsParts, mem_attributeParts]

theorem mem_bodyParts :
    part ∈ model.bodyParts flavor kind ↔
      part ∈ model.frontParts flavor kind ∨ ∃ text ∈ model.methods, part = .method text := by
  simp [bodyParts, eq_comm]

/-- The docstrings in a body are the description and, if the fields have names, what they say. -/
theorem docstring_mem_bodyParts {text : String} :
    .docstring text ∈ model.bodyParts flavor kind ↔ text ≠ "" ∧
      (model.description = some text ∨
        kind = .base ∧ ∃ field ∈ model.fields, field.docstring? = some text) := by
  rw [mem_bodyParts, mem_frontParts]
  grind

/-- `pass` is written into a body that is otherwise empty, and nowhere else. -/
theorem pass_mem_bodyParts :
    .pass ∈ model.bodyParts flavor kind ↔ kind = .base ∧ model.isBare flavor = true := by
  rw [mem_bodyParts, mem_frontParts]
  grind

/-- The settings in a body are those of the configuration; dataclasses have none. -/
theorem settings_mem_bodyParts {parameters : Entries String} :
    .settings parameters ∈ model.bodyParts flavor kind ↔ flavor ≠ .dataclass ∧
      ∃ config, model.config = some config ∧ config.parameters ≠ [] ∧
        parameters = config.parameters := by
  rw [mem_bodyParts, mem_frontParts]
  grind

/-- The attributes in a body are all fields, each under its name, or the first one of a class that
    wraps a type. -/
theorem field_mem_bodyParts {name : String} {field : Field} :
    .field name field ∈ model.bodyParts flavor kind ↔
      kind = .base ∧ field ∈ model.fields ∧ name = field.name.getD "" ∨
        kind = .root ∧ model.fields.head? = some field ∧ name = rootName flavor := by
  rw [mem_bodyParts, mem_frontParts]
  grind

/-- An attribute without a type stands in a class that should wrap one and has none. -/
theorem untyped_mem_bodyParts {name : String} :
    .untyped name ∈ model.bodyParts flavor kind ↔
      kind = .root ∧ model.fields = [] ∧ name = rootName flavor := by
  rw [mem_bodyParts, mem_frontParts]
  grind

/-- No part before the methods is a method. -/
theorem method_not_mem_frontParts (text : String) :
    .method text ∉ model.frontParts flavor kind := by
  rw [mem_frontParts]
  grind

end

end Model

end SchemaPress
