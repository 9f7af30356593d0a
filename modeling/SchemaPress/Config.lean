import SchemaPress.Extras
import SchemaPress.Field
import SchemaPress.Text.Cut

set_option autoImplicit false

/-! # Class configuration

The parameters of a pydantic class: `model_config = ConfigDict(...)` or `class Config`. Some
follow from the model, and what the extras say explicitly wins. -/

namespace SchemaPress

/-- What the configuration of a class depends on. -/
structure ConfigInput where
  kind : ModelKind
  extras : ModelExtras
  fields : List Field
  bases : List TypeTree

/-- Whether a pattern looks ahead or behind: whether it holds `(?=`, `(?!`, `(?<=` or `(?<!`. -/
def looksAround (pattern : String) : Bool :=
  ["(?=", "(?!", "(?<=", "(?<!"].any fun mark => Text.occursIn mark.toList pattern.toList

namespace ConfigInput

/-- Whether some type at any depth is one that validators do not know. -/
def hasCustomType (input : ConfigInput) : Bool :=
  (input.fields.map (·.type) ++ input.bases).any fun type =>
    type.nodes.any fun node => node.marks.custom

/-- Whether the pattern of some field looks ahead or behind. -/
def hasLookaround (input : ConfigInput) : Bool :=
  input.fields.any fun field =>
    match field.pattern? with
    | some pattern => looksAround pattern
    | none => false

/-- Whether further fields are allowed, if anything is said about them. -/
def extraPolicy? (input : ConfigInput) : Option Bool :=
  let asked := input.extras.allowExtraFields = some true
  match input.extras.additionalProperties with
  | some admitted => some (admitted || asked)
  | none => if asked then some true else none

end ConfigInput

/-- The configuration of a class: its parameters in order, and the imports it needs. -/
structure Config where
  parameters : Entries String
  imports : List Import
  deriving DecidableEq, Repr

namespace Config

/-- The value of a parameter. -/
def get? (config : Config) (name : String) : Option String :=
  Entries.get? config.parameters name

end Config

/-- The parameters that have been found so far, in any order. -/
structure ConfigDraft where
  parameters : Entries String := []
  imports : List Import := []
  deriving DecidableEq, Repr

namespace ConfigDraft

/-- Sets a parameter to an expression. -/
def set (draft : ConfigDraft) (name expression : String) : ConfigDraft :=
  { draft with parameters := Entries.put draft.parameters name expression }

/-- Sets a parameter to a truth value. -/
def setTruth (draft : ConfigDraft) (name : String) (value : Bool) : ConfigDraft :=
  draft.set name (Python.truth value)

/-- Asks for an import. -/
def require (draft : ConfigDraft) (item : Import) : ConfigDraft :=
  { draft with imports := Import.addNew draft.imports [item] }

/-- Sets `extra` as the policy on further fields says. -/
def setPolicy (draft : ConfigDraft) (policy : Option Bool) (allow forbid : String) :
    ConfigDraft :=
  match policy with
  | some true => draft.set "extra" allow
  | some false => draft.set "extra" forbid
  | none => draft

/-- A switch of the extras that becomes a parameter, perhaps with the opposite truth value. -/
structure Passage where
  switch : String
  parameter : String
  inverted : Bool := false

/-- Sets parameters from the switches of the extras. -/
def setSwitches (draft : ConfigDraft) (extras : ModelExtras) (passages : List Passage) :
    ConfigDraft :=
  passages.foldl
    (fun draft passage =>
      match extras.switch? passage.switch with
      | some value => draft.setTruth passage.parameter (value != passage.inverted)
      | none => draft)
    draft

/-- The expression of an explicit parameter: a text is an expression as it stands. -/
def expression : Value → String
  | .str text => text
  | other => Python.literal other

/-- Sets the explicit parameters of the extras. -/
def setExplicit (draft : ConfigDraft) (extras : ModelExtras) : ConfigDraft :=
  (extras.config.getD []).foldl (fun draft entry => draft.set entry.1 (expression entry.2)) draft

/-- Keeps the known parameters, in their order; without any there is no configuration. -/
def finish? (draft : ConfigDraft) (known : List String) : Option Config :=
  let parameters := known.filterMap fun name =>
    (Entries.get? draft.parameters name).map fun value => (name, value)
  if parameters.isEmpty then none else some ⟨parameters, draft.imports⟩

end ConfigDraft

namespace Config

/-- The parameters of `ConfigDict` in pydantic 2, in order. -/
def parameters2 : List String :=
  ["extra", "title", "populate_by_name", "allow_extra_fields", "from_attributes", "frozen",
    "arbitrary_types_allowed", "protected_namespaces", "regex_engine", "use_enum_values",
    "coerce_numbers_to_str"]

/-- The switches that pydantic 2 knows under their old or their new names. -/
def passages2 : List ConfigDraft.Passage :=
  [⟨"allow_population_by_field_name", "populate_by_name", false⟩,
    ⟨"populate_by_name", "populate_by_name", false⟩,
    ⟨"allow_mutation", "frozen", true⟩,
    ⟨"frozen", "frozen", false⟩]

/-- The parameters of `class Config` in pydantic 1, in order. -/
def parameters1 : List String :=
  ["extra", "title", "allow_population_by_field_name", "allow_extra_fields", "allow_mutation",
    "arbitrary_types_allowed", "orm_mode"]

/-- The switches that pydantic 1 knows. -/
def passages1 : List ConfigDraft.Passage :=
  [⟨"allow_population_by_field_name", "allow_population_by_field_name", false⟩,
    ⟨"allow_mutation", "allow_mutation", false⟩]

/-- The configuration in pydantic 2. -/
def derive2? (input : ConfigInput) : Option Config :=
  let draft : ConfigDraft := {}
  let draft :=
    if input.kind = .base then draft.setPolicy input.extraPolicy? "'allow'" "'forbid'" else draft
  let draft := draft.setSwitches input.extras passages2
  let draft :=
    if input.hasCustomType then draft.setTruth "arbitrary_types_allowed" true else draft
  let draft :=
    if input.hasLookaround then draft.set "regex_engine" "\"python-re\"" else draft
  ((draft.setExplicit input.extras).require .configDict).finish? parameters2

/-- The configuration in pydantic 1. -/
def derive1? (input : ConfigInput) : Option Config :=
  let draft : ConfigDraft := {}
  let draft :=
    if input.kind = .base ∧ input.extraPolicy?.isSome then
      (draft.setPolicy input.extraPolicy? "Extra.allow" "Extra.forbid").require .extra
    else draft
  let draft := draft.setSwitches input.extras passages1
  let draft :=
    if input.hasCustomType then draft.setTruth "arbitrary_types_allowed" true else draft
  (draft.setExplicit input.extras).finish? parameters1

/-- The configuration of a class in a flavor, if it has one. -/
def derive? (flavor : Flavor) (input : ConfigInput) : Option Config :=
  match flavor with
  | .pydantic2 => derive2? input
  | .pydantic1 => derive1? input
  | .dataclass => none

end Config

end SchemaPress
