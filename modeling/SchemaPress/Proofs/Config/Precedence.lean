import SchemaPress.Proofs.Config
import SchemaPress.Proofs.Entries
import SchemaPress.Proofs.Field.Written
import SchemaPress.Proofs.TypeTree.Nodes

set_option autoImplicit false

/-! # Which value a parameter of a class receives

Parameters come from six sources, and a later one is written over an earlier one: the policy on
further fields, the switches of the extras under their old and their new names, types that
validators do not know, patterns that look around, and what the extras say explicitly. `Follows` and
`Receives` say what comes out of that as rules, each with the sources that must be silent for it to
apply. Put together, the steps of a draft compute exactly the rules (`exists_draft2`,
`exists_draft1`). The last step keeps the parameters that the flavor knows, in the order of its
table (`parameters_by_precedence`). -/

namespace SchemaPress

/-! ## Rules -/

namespace ConfigInput

variable (input : ConfigInput)

/-- A switch of the extras has a truth value. -/
def Switched (name : String) (value : Bool) : Prop :=
  Entries.get? input.extras.rest name = some (.bool value)

/-- Objects may have further fields. -/
def Admits : Prop :=
  input.extras.additionalProperties = some true ∨ input.extras.allowExtraFields = some true

/-- Objects may not have further fields. -/
def Forbids : Prop :=
  input.extras.additionalProperties = some false ∧ input.extras.allowExtraFields ≠ some true

/-- Some node at any depth of a field or of a base is a type that validators do not know. -/
def MentionsCustom : Prop :=
  ∃ tree, (tree ∈ input.bases ∨ ∃ field ∈ input.fields, field.type = tree) ∧
    ∃ node ∈ tree.preorder, node.marks.custom = true

/-- The pattern of some field looks ahead or behind. -/
def LooksAround : Prop :=
  ∃ field ∈ input.fields, ∃ pattern, field.pattern? = some pattern ∧
    ∃ mark ∈ ["(?=", "(?!", "(?<=", "(?<!"], mark.toList <:+: pattern.toList

/-- What a parameter is if nothing is said about it explicitly. -/
inductive Follows : Flavor → String → String → Prop
  | allow2 : input.kind = .base → input.Admits → Follows .pydantic2 "extra" "'allow'"
  | forbid2 : input.kind = .base → input.Forbids → Follows .pydantic2 "extra" "'forbid'"
  | allow1 : input.kind = .base → input.Admits → Follows .pydantic1 "extra" "Extra.allow"
  | forbid1 : input.kind = .base → input.Forbids → Follows .pydantic1 "extra" "Extra.forbid"
  | populate {value : Bool} : input.Switched "populate_by_name" value →
      Follows .pydantic2 "populate_by_name" (Python.truth value)
  | populateOld {value : Bool} : (∀ b, ¬ input.Switched "populate_by_name" b) →
      input.Switched "allow_population_by_field_name" value →
      Follows .pydantic2 "populate_by_name" (Python.truth value)
  | frozen {value : Bool} : input.Switched "frozen" value →
      Follows .pydantic2 "frozen" (Python.truth value)
  | frozenOld {value : Bool} : (∀ b, ¬ input.Switched "frozen" b) →
      input.Switched "allow_mutation" value → Follows .pydantic2 "frozen" (Python.truth !value)
  | population1 {value : Bool} : input.Switched "allow_population_by_field_name" value →
      Follows .pydantic1 "allow_population_by_field_name" (Python.truth value)
  | mutation1 {value : Bool} : input.Switched "allow_mutation" value →
      Follows .pydantic1 "allow_mutation" (Python.truth value)
  | custom {flavor : Flavor} : flavor ≠ .dataclass → input.MentionsCustom →
      Follows flavor "arbitrary_types_allowed" "True"
  | lookaround : input.LooksAround → Follows .pydantic2 "regex_engine" "\"python-re\""

/-- What the extras say explicitly about a parameter. -/
def explicit? (name : String) : Option Value :=
  Entries.get? (Entries.merged (input.extras.config.getD [])) name

/-- What a parameter is: what is said explicitly, where a text is an expression as it stands, or
    else what follows from the model. -/
inductive Receives (flavor : Flavor) (name : String) : String → Prop
  | text {text : String} : input.explicit? name = some (.str text) → Receives flavor name text
  | value {value : Value} : input.explicit? name = some value → (∀ text, value ≠ .str text) →
      Receives flavor name (Python.literal value)
  | derived {expression : String} : input.explicit? name = none →
      input.Follows flavor name expression → Receives flavor name expression

end ConfigInput

/-- The parameters that the classes of a flavor know, in order. -/
def Config.known : Flavor → List String
  | .pydantic2 => Config.parameters2
  | .pydantic1 => Config.parameters1
  | .dataclass => []

/-! ## Conditions -/

namespace ConfigInput

variable {input : ConfigInput}

theorem switch?_eq_some_iff {name : String} {value : Bool} :
    input.extras.switch? name = some value ↔ input.Switched name value := by
  unfold ModelExtras.switch? Switched
  rw [Option.bind_eq_some_iff]
  constructor
  · rintro ⟨found, hfound, hvalue⟩
    cases found <;> cases hvalue
    exact hfound
  · intro hfound
    exact ⟨_, hfound, rfl⟩

theorem switch?_eq_none_iff {name : String} :
    input.extras.switch? name = none ↔ ∀ value, ¬ input.Switched name value := by
  simp only [← switch?_eq_some_iff, Option.eq_none_iff_forall_ne_some, ne_eq]

theorem hasCustomType_iff : input.hasCustomType = true ↔ input.MentionsCustom := by
  simp only [hasCustomType, MentionsCustom, List.any_eq_true, List.mem_append, List.mem_map,
    TypeTree.nodes_eq]
  simp only [or_comm]

theorem hasLookaround_iff : input.hasLookaround = true ↔ input.LooksAround := by
  simp only [hasLookaround, LooksAround, List.any_eq_true]
  refine exists_congr fun field => and_congr_right fun _ => ?_
  cases field.pattern? with
  | none => simp
  | some pattern =>
    simp only [looksAround, List.any_eq_true, Text.occursIn_iff, Option.some.injEq, exists_eq_left']

theorem extraPolicy?_eq_true_iff : input.extraPolicy? = some true ↔ input.Admits := by
  unfold extraPolicy? Admits
  by_cases hasked : input.extras.allowExtraFields = some true
  · cases input.extras.additionalProperties <;> simp [hasked]
  · cases input.extras.additionalProperties <;> simp [hasked]

theorem extraPolicy?_eq_false_iff : input.extraPolicy? = some false ↔ input.Forbids := by
  unfold extraPolicy? Forbids
  by_cases hasked : input.extras.allowExtraFields = some true
  · cases input.extras.additionalProperties <;> simp [hasked]
  · cases input.extras.additionalProperties <;> simp [hasked]

/-- What a draft holds for a parameter before anything is said explicitly. -/
def derived? (passages : List ConfigDraft.Passage) (allow forbid : String) (engine : Bool)
    (input : ConfigInput) (name : String) : Option String :=
  (if name = "regex_engine" ∧ engine then some "\"python-re\"" else none).or <|
    (if name = "arbitrary_types_allowed" ∧ input.hasCustomType then some "True" else none).or <|
      ((ConfigDraft.switched? input.extras passages name).map Python.truth).or <|
        if name = "extra" ∧ input.kind = .base then
          input.extraPolicy?.map fun admitted => if admitted then allow else forbid
        else none

/-- Where the value of a parameter can come from. -/
theorem derived?_cases {passages : List ConfigDraft.Passage} {allow forbid : String}
    {engine : Bool} {name expression : String}
    (h : input.derived? passages allow forbid engine name = some expression) :
    (name = "regex_engine" ∧ engine = true ∧ expression = "\"python-re\"") ∨
      (name = "arbitrary_types_allowed" ∧ input.MentionsCustom ∧ expression = "True") ∨
      (∃ value, ConfigDraft.switched? input.extras passages name = some value ∧
        expression = Python.truth value) ∨
      (name = "extra" ∧ input.kind = .base ∧
        (input.Admits ∧ expression = allow ∨ input.Forbids ∧ expression = forbid)) := by
  unfold derived? at h
  rcases Option.or_eq_some_iff.1 h with h | ⟨-, h⟩
  · obtain ⟨⟨hname, hengine⟩, hexpression⟩ := Option.ite_none_right_eq_some.1 h
    exact .inl ⟨hname, hengine, (Option.some.inj hexpression).symm⟩
  rcases Option.or_eq_some_iff.1 h with h | ⟨-, h⟩
  · obtain ⟨⟨hname, hcustom⟩, hexpression⟩ := Option.ite_none_right_eq_some.1 h
    exact .inr (.inl ⟨hname, hasCustomType_iff.1 hcustom, (Option.some.inj hexpression).symm⟩)
  rcases Option.or_eq_some_iff.1 h with h | ⟨-, h⟩
  · obtain ⟨value, hvalue, rfl⟩ := Option.map_eq_some_iff.1 h
    exact .inr (.inr (.inl ⟨value, hvalue, rfl⟩))
  · obtain ⟨⟨hname, hbase⟩, hpolicy⟩ := Option.ite_none_right_eq_some.1 h
    obtain ⟨admitted, hadmitted, rfl⟩ := Option.map_eq_some_iff.1 hpolicy
    refine .inr (.inr (.inr ⟨hname, hbase, ?_⟩))
    cases admitted with
    | true => exact .inl ⟨extraPolicy?_eq_true_iff.1 hadmitted, rfl⟩
    | false => exact .inr ⟨extraPolicy?_eq_false_iff.1 hadmitted, rfl⟩

/-- In pydantic 2 the steps of a draft follow the rules. -/
theorem follows_pydantic2_iff {name expression : String} :
    input.Follows .pydantic2 name expression ↔
      input.derived? Config.passages2 "'allow'" "'forbid'" input.hasLookaround name =
        some expression := by
  constructor
  · intro h
    unfold derived?
    rw [ConfigDraft.switched?_passages2]
    cases h with
    | allow2 hbase hadmits => simp [hbase, extraPolicy?_eq_true_iff.2 hadmits]
    | forbid2 hbase hforbids => simp [hbase, extraPolicy?_eq_false_iff.2 hforbids]
    | populate hnew => simp [switch?_eq_some_iff.2 hnew]
    | populateOld hnew hold => simp [switch?_eq_none_iff.2 hnew, switch?_eq_some_iff.2 hold]
    | frozen hnew => simp [switch?_eq_some_iff.2 hnew]
    | frozenOld hnew hold => simp [switch?_eq_none_iff.2 hnew, switch?_eq_some_iff.2 hold]
    | custom _ hcustom => simp [hasCustomType_iff.2 hcustom]
    | lookaround hlook => simp [hasLookaround_iff.2 hlook]
  · intro h
    rcases derived?_cases h with ⟨rfl, hlook, rfl⟩ | ⟨rfl, hcustom, rfl⟩ | ⟨value, hvalue, rfl⟩ |
      ⟨rfl, hbase, ⟨hadmits, rfl⟩ | ⟨hforbids, rfl⟩⟩
    · exact .lookaround (hasLookaround_iff.1 hlook)
    · exact .custom (by decide) hcustom
    · rw [ConfigDraft.switched?_passages2] at hvalue
      split at hvalue
      · rename_i hname
        subst hname
        rcases Option.or_eq_some_iff.1 hvalue with hnew | ⟨hnew, hold⟩
        · exact .populate (switch?_eq_some_iff.1 hnew)
        · exact .populateOld (switch?_eq_none_iff.1 hnew) (switch?_eq_some_iff.1 hold)
      · obtain ⟨rfl, hvalue⟩ := Option.ite_none_right_eq_some.1 hvalue
        rcases Option.or_eq_some_iff.1 hvalue with hnew | ⟨hnew, hold⟩
        · exact .frozen (switch?_eq_some_iff.1 hnew)
        · obtain ⟨mutable, hmutable, rfl⟩ := Option.map_eq_some_iff.1 hold
          exact .frozenOld (switch?_eq_none_iff.1 hnew) (switch?_eq_some_iff.1 hmutable)
    · exact .allow2 hbase hadmits
    · exact .forbid2 hbase hforbids

/-- So do they in pydantic 1. -/
theorem follows_pydantic1_iff {name expression : String} :
    input.Follows .pydantic1 name expression ↔
      input.derived? Config.passages1 "Extra.allow" "Extra.forbid" false name =
        some expression := by
  constructor
  · intro h
    unfold derived?
    rw [ConfigDraft.switched?_passages1]
    cases h with
    | allow1 hbase hadmits => simp [hbase, extraPolicy?_eq_true_iff.2 hadmits]
    | forbid1 hbase hforbids => simp [hbase, extraPolicy?_eq_false_iff.2 hforbids]
    | population1 hswitch => simp [switch?_eq_some_iff.2 hswitch]
    | mutation1 hswitch => simp [switch?_eq_some_iff.2 hswitch]
    | custom _ hcustom => simp [hasCustomType_iff.2 hcustom]
  · intro h
    rcases derived?_cases h with ⟨-, hengine, -⟩ | ⟨rfl, hcustom, rfl⟩ | ⟨value, hvalue, rfl⟩ |
      ⟨rfl, hbase, ⟨hadmits, rfl⟩ | ⟨hforbids, rfl⟩⟩
    · cases hengine
    · exact .custom (by decide) hcustom
    · rw [ConfigDraft.switched?_passages1] at hvalue
      obtain ⟨rfl | rfl, hvalue⟩ := Option.ite_none_right_eq_some.1 hvalue
      · exact .population1 (switch?_eq_some_iff.1 hvalue)
      · exact .mutation1 (switch?_eq_some_iff.1 hvalue)
    · exact .allow1 hbase hadmits
    · exact .forbid1 hbase hforbids

/-- What is said explicitly comes first. -/
theorem receives_iff {flavor : Flavor} {name : String} {derived : Option String}
    (h : ∀ expression, input.Follows flavor name expression ↔ derived = some expression)
    (expression : String) :
    input.Receives flavor name expression ↔
      ((input.explicit? name).map ConfigDraft.expression).or derived = some expression := by
  constructor
  · intro hreceives
    cases hreceives with
    | text hexplicit => simp [hexplicit, ConfigDraft.expression]
    | @value value hexplicit hother =>
      have hliteral : ConfigDraft.expression value = Python.literal value := by
        cases value with
        | str text => exact absurd rfl (hother text)
        | _ => rfl
      simp [hexplicit, hliteral]
    | derived hnone hfollows => simp [hnone, (h expression).1 hfollows]
  · intro hor
    rcases Option.or_eq_some_iff.1 hor with hexplicit | ⟨hnone, hderived⟩
    · obtain ⟨value, hvalue, rfl⟩ := Option.map_eq_some_iff.1 hexplicit
      cases value with
      | str text => exact .text hvalue
      | _ => exact .value hvalue (by simp)
    · exact .derived (Option.map_eq_none_iff.1 hnone) ((h expression).2 hderived)

end ConfigInput

/-! ## Configurations -/

namespace Config

open ConfigDraft (get?_setIf get?_setPolicy get?_setSwitches get?_setExplicit)

/-- In pydantic 2 a configuration is finished from a draft that follows the rules. -/
theorem exists_draft2 (input : ConfigInput) :
    ∃ draft : ConfigDraft, derive2? input = draft.finish? parameters2 ∧ ∀ name expression,
      Entries.get? draft.parameters name = some expression ↔
        input.Receives .pydantic2 name expression := by
  refine ⟨_, rfl, fun name expression => ?_⟩
  rw [ConfigInput.receives_iff fun _ => ConfigInput.follows_pydantic2_iff]
  have hpolicy : Entries.get? (if input.kind = .base then
        ({} : ConfigDraft).setPolicy input.extraPolicy? "'allow'" "'forbid'"
      else {}).parameters name =
      if name = "extra" ∧ input.kind = .base then
        input.extraPolicy?.map fun admitted => if admitted then "'allow'" else "'forbid'"
      else none := by
    by_cases hbase : input.kind = .base
    · simp only [hbase, if_true, get?_setPolicy, and_true]
      exact Option.or_none
    · simp only [hbase, if_false, and_false]
      rfl
  simp only [ConfigDraft.require, get?_setExplicit, ConfigDraft.setTruth, get?_setIf,
    get?_setSwitches, hpolicy]
  rfl

/-- So it is in pydantic 1. -/
theorem exists_draft1 (input : ConfigInput) :
    ∃ draft : ConfigDraft, derive1? input = draft.finish? parameters1 ∧ ∀ name expression,
      Entries.get? draft.parameters name = some expression ↔
        input.Receives .pydantic1 name expression := by
  refine ⟨_, rfl, fun name expression => ?_⟩
  rw [ConfigInput.receives_iff fun _ => ConfigInput.follows_pydantic1_iff]
  have hpolicy : Entries.get? (if input.kind = .base ∧ input.extraPolicy?.isSome then
      (({} : ConfigDraft).setPolicy input.extraPolicy? "Extra.allow" "Extra.forbid").require .extra
      else {}).parameters name =
      if name = "extra" ∧ input.kind = .base then
        input.extraPolicy?.map fun admitted => if admitted then "Extra.allow" else "Extra.forbid"
      else none := by
    by_cases hbase : input.kind = .base
    · cases hpolicy : input.extraPolicy? with
      | none => simp [Entries.get?]
      | some admitted =>
        simp only [hbase, Option.isSome_some, and_self, if_true, ConfigDraft.require,
          get?_setPolicy, and_true]
        exact Option.or_none
    · simp only [hbase, false_and, if_false, and_false]
      rfl
  simp only [get?_setExplicit, ConfigDraft.setTruth, get?_setIf, get?_setSwitches, hpolicy]
  simp only [ConfigInput.derived?, Bool.false_eq_true, and_false, if_false, Option.none_or]
  rfl

theorem nodup_known (flavor : Flavor) : (known flavor).Nodup := by
  cases flavor <;> decide

/-- In every flavor a configuration is finished from a draft that follows the rules. -/
theorem exists_draft (flavor : Flavor) (input : ConfigInput) :
    ∃ draft : ConfigDraft, derive? flavor input = draft.finish? (known flavor) ∧
      ∀ name ∈ known flavor, ∀ expression,
        Entries.get? draft.parameters name = some expression ↔
          input.Receives flavor name expression := by
  cases flavor with
  | pydantic2 =>
    obtain ⟨draft, hderive, hdraft⟩ := exists_draft2 input
    exact ⟨draft, hderive, fun name _ => hdraft name⟩
  | pydantic1 =>
    obtain ⟨draft, hderive, hdraft⟩ := exists_draft1 input
    exact ⟨draft, hderive, fun name _ => hdraft name⟩
  | dataclass => exact ⟨{}, rfl, by simp [known]⟩

/-- A class has no configuration exactly if no parameter that the flavor knows receives a value.
    Otherwise its parameters are some of those that the flavor knows, in the order of the table and
    each once, and they are exactly those that receive a value, with that value. -/
theorem parameters_by_precedence (flavor : Flavor) (input : ConfigInput) :
    (derive? flavor input = none ↔
      ∀ name ∈ known flavor, ∀ expression, ¬ input.Receives flavor name expression) ∧
    ∀ config, derive? flavor input = some config →
      (Entries.names config.parameters).Sublist (known flavor) ∧
      (Entries.names config.parameters).Nodup ∧
      ∀ name expression, config.get? name = some expression ↔
        name ∈ known flavor ∧ input.Receives flavor name expression := by
  obtain ⟨draft, hderive, hdraft⟩ := exists_draft flavor input
  refine ⟨?_, fun config hconfig => ?_⟩
  · rw [hderive, ConfigDraft.finish?_eq_none_iff]
    refine forall₂_congr fun name hname => ?_
    simp only [Option.eq_none_iff_forall_ne_some, ne_eq, hdraft name hname]
  · rw [hderive] at hconfig
    obtain ⟨hsublist, hget⟩ := draft.parameters_finish? hconfig
    refine ⟨hsublist, hsublist.nodup (nodup_known flavor), fun name expression => ?_⟩
    rw [hget, Option.ite_none_right_eq_some]
    exact and_congr_right fun hname => hdraft name hname expression

/-- A class with a pattern that looks ahead, in a list of a type that validators do not know. The
    switch that has a new name is no truth value under it, and freezing is asked for and taken
    back. -/
def badgeInput : ConfigInput where
  kind := .base
  extras :=
    { additionalProperties := some false
      config := some [("frozen", .bool false), ("title", .str "'Badge'"), ("color", .null)]
      rest := [("populate_by_name", .str "yes"), ("allow_population_by_field_name", .bool true),
        ("allow_mutation", .bool false)] }
  fields :=
    [Field.build {}
      { name := some "codes", type := .list {} (TypeTree.builtin "Code").custom
        constraints := some (ConstraintSet.empty.insert .pattern (.text "^(?=A)")) }]
  bases := []

/-- The explicit value of `frozen` wins over the switch, and the unknown parameter is dropped. -/
theorem parameters_by_precedence_badge :
    (derive? .pydantic2 badgeInput).map (·.parameters) =
      some [("extra", "'forbid'"), ("title", "'Badge'"), ("populate_by_name", "True"),
        ("frozen", "False"), ("arbitrary_types_allowed", "True"),
        ("regex_engine", "\"python-re\"")] ∧
    badgeInput.Receives .pydantic2 "populate_by_name" "True" ∧
    badgeInput.Receives .pydantic2 "frozen" "False" ∧
    ¬ ∃ expression, badgeInput.Receives .pydantic2 "from_attributes" expression := by
  have hparameters : (derive? .pydantic2 badgeInput).map (·.parameters) =
      some [("extra", "'forbid'"), ("title", "'Badge'"), ("populate_by_name", "True"),
        ("frozen", "False"), ("arbitrary_types_allowed", "True"),
        ("regex_engine", "\"python-re\"")] := by decide +kernel
  obtain ⟨config, hconfig, hlist⟩ := Option.map_eq_some_iff.1 hparameters
  obtain ⟨-, -, hget⟩ := (parameters_by_precedence .pydantic2 badgeInput).2 config hconfig
  unfold get? at hget
  rw [hlist] at hget
  refine ⟨hparameters, ((hget _ _).1 (by decide +kernel)).2,
    ((hget _ _).1 (by decide +kernel)).2, ?_⟩
  rintro ⟨expression, hreceives⟩
  have hnone := (hget "from_attributes" expression).2 ⟨by decide, hreceives⟩
  cases hnone

end Config

end SchemaPress
