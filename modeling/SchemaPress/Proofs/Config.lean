import Mathlib.Data.List.Induction
import SchemaPress.Config
import SchemaPress.Proofs.Entries

set_option autoImplicit false

/-! # What a configuration holds and imports

Parameters are set one after the other, and every step of a draft changes the value of one parameter
in one way (`get?_setPolicy`, `get?_setSwitches`, `get?_setExplicit`). Only the last step or a
policy on further fields asks for an import: `ConfigDict` in pydantic 2 (`imports_derive2?`),
`Extra` in pydantic 1 (`imports_derive1?`). A parameter `extra` that is not explicit is there
because of such a policy (`policy_of_derive1?`). -/

namespace SchemaPress

namespace ConfigDraft

variable (draft : ConfigDraft)

/-! ## Imports -/

@[simp]
theorem imports_set (name expression : String) :
    (draft.set name expression).imports = draft.imports :=
  rfl

@[simp]
theorem imports_setTruth (name : String) (value : Bool) :
    (draft.setTruth name value).imports = draft.imports :=
  rfl

@[simp]
theorem imports_setPolicy (policy : Option Bool) (allow forbid : String) :
    (draft.setPolicy policy allow forbid).imports = draft.imports := by
  unfold setPolicy
  split <;> rfl

/-- One switch sets its parameter or nothing. -/
theorem setSwitches_cons (extras : ModelExtras) (passage : Passage) (rest : List Passage) :
    draft.setSwitches extras (passage :: rest) =
      (match extras.switch? passage.switch with
        | some value => draft.setTruth passage.parameter (value != passage.inverted)
        | none => draft).setSwitches extras rest :=
  rfl

@[simp]
theorem imports_setSwitches (extras : ModelExtras) (passages : List Passage) :
    (draft.setSwitches extras passages).imports = draft.imports := by
  induction passages generalizing draft with
  | nil => rfl
  | cons passage rest ih =>
    rw [setSwitches_cons, ih]
    split <;> rfl

@[simp]
theorem imports_setExplicit (extras : ModelExtras) :
    (draft.setExplicit extras).imports = draft.imports := by
  unfold setExplicit
  induction extras.config.getD [] generalizing draft with
  | nil => rfl
  | cons entry rest ih => exact ih _

/-! ## Parameters -/

theorem get?_set (name expression other : String) :
    Entries.get? (draft.set name expression).parameters other =
      if other = name then some expression else Entries.get? draft.parameters other :=
  Entries.get?_put _ _ _ _

theorem get?_setIf (condition : Prop) [Decidable condition] (name expression other : String) :
    Entries.get? (if condition then draft.set name expression else draft).parameters other =
      (if other = name ∧ condition then some expression else none).or
        (Entries.get? draft.parameters other) := by
  by_cases hcondition : condition
  · by_cases hother : other = name
    · simp [hcondition, hother, get?_set]
    · simp [hcondition, hother, get?_set]
  · simp [hcondition]

theorem get?_setPolicy (policy : Option Bool) (allow forbid name : String) :
    Entries.get? (draft.setPolicy policy allow forbid).parameters name =
      (if name = "extra" then policy.map fun admitted => if admitted then allow else forbid
        else none).or (Entries.get? draft.parameters name) := by
  unfold setPolicy
  by_cases hname : name = "extra"
  · rcases policy with _ | _ | _ <;> simp [get?_set, hname]
  · rcases policy with _ | _ | _ <;> simp [get?_set, hname]

/-- What the last of several switches says about a parameter. -/
def switched? (extras : ModelExtras) (passages : List Passage) (name : String) : Option Bool :=
  passages.foldl
    (fun found passage =>
      (if name = passage.parameter then (extras.switch? passage.switch).map (· != passage.inverted)
        else none).or found)
    none

theorem get?_setSwitches (extras : ModelExtras) (passages : List Passage) (name : String) :
    Entries.get? (draft.setSwitches extras passages).parameters name =
      ((switched? extras passages name).map Python.truth).or
        (Entries.get? draft.parameters name) := by
  -- the switches are taken one after the other, so the last one comes first in the induction
  induction passages using List.reverseRecOn with
  | nil => rfl
  | append_singleton front passage ih =>
    have hlast : switched? extras (front ++ [passage]) name =
        (if name = passage.parameter then
          (extras.switch? passage.switch).map (· != passage.inverted) else none).or
          (switched? extras front name) := by
      simp [switched?]
    rw [hlast]
    cases hswitch : extras.switch? passage.switch with
    | none =>
      have hstep : draft.setSwitches extras (front ++ [passage]) =
          draft.setSwitches extras front := by
        simp [setSwitches, hswitch]
      simp [hstep, ih]
    | some value =>
      have hstep : draft.setSwitches extras (front ++ [passage]) =
          (draft.setSwitches extras front).setTruth passage.parameter
            (value != passage.inverted) := by
        simp [setSwitches, hswitch]
      by_cases hname : name = passage.parameter
      · simp [hstep, setTruth, get?_set, hname]
      · simp [hstep, setTruth, get?_set, hname, ih]

/-- In pydantic 2 the new name of a switch wins over the old one, and what could be changed is not
    frozen. -/
theorem switched?_passages2 (extras : ModelExtras) (name : String) :
    switched? extras Config.passages2 name =
      if name = "populate_by_name" then
        (extras.switch? "populate_by_name").or (extras.switch? "allow_population_by_field_name")
      else if name = "frozen" then
        (extras.switch? "frozen").or ((extras.switch? "allow_mutation").map (!·))
      else none := by
  by_cases hpopulate : name = "populate_by_name"
  · simp [switched?, Config.passages2, hpopulate]
  · by_cases hfrozen : name = "frozen"
    · simp [switched?, Config.passages2, hfrozen]
    · simp [switched?, Config.passages2, hpopulate, hfrozen]

/-- In pydantic 1 switches keep their names and their values. -/
theorem switched?_passages1 (extras : ModelExtras) (name : String) :
    switched? extras Config.passages1 name =
      if name = "allow_population_by_field_name" ∨ name = "allow_mutation" then extras.switch? name
      else none := by
  by_cases hpopulation : name = "allow_population_by_field_name"
  · simp [switched?, Config.passages1, hpopulation]
  · by_cases hmutation : name = "allow_mutation"
    · simp [switched?, Config.passages1, hmutation]
    · simp [switched?, Config.passages1, hpopulation, hmutation]

theorem get?_setExplicit (extras : ModelExtras) (name : String) :
    Entries.get? (draft.setExplicit extras).parameters name =
      ((Entries.get? (Entries.merged (extras.config.getD [])) name).map expression).or
        (Entries.get? draft.parameters name) := by
  unfold setExplicit
  induction extras.config.getD [] using List.reverseRecOn with
  | nil => rfl
  | append_singleton front entry ih =>
    rw [List.foldl_append, List.foldl_cons, List.foldl_nil, get?_set,
      Entries.merged_append_singleton, Entries.get?_put]
    by_cases hname : name = entry.1
    · simp [hname]
    · simp [hname, ih]

theorem finish?_eq_none_iff (known : List String) :
    draft.finish? known = none ↔ ∀ name ∈ known, Entries.get? draft.parameters name = none := by
  simp only [finish?, List.isEmpty_iff, ite_eq_left_iff, reduceCtorEq, imp_false, Classical.not_not,
    List.filterMap_eq_nil_iff, Option.map_eq_none_iff]

/-- The known parameters are kept, in their order. -/
theorem parameters_finish? {known : List String} {config : Config}
    (h : draft.finish? known = some config) :
    (Entries.names config.parameters).Sublist known ∧ ∀ name,
      config.get? name = if name ∈ known then Entries.get? draft.parameters name else none := by
  unfold finish? at h
  simp only at h
  split at h
  · cases h
  · cases h
    exact ⟨Entries.names_filterMap_sublist known _, Entries.get?_filterMap known _⟩

/-! ## The last step -/

theorem finish?_eq_some {known : List String} {config : Config}
    (h : draft.finish? known = some config) :
    config.imports = draft.imports ∧ ∀ name expression, (name, expression) ∈ config.parameters →
      Entries.get? draft.parameters name = some expression := by
  unfold finish? at h
  simp only at h
  split at h
  · exact absurd h (by simp)
  · cases h
    refine ⟨rfl, fun name expression hmem => ?_⟩
    obtain ⟨known, _, hknown⟩ := List.mem_filterMap.1 hmem
    obtain ⟨value, hvalue, hpair⟩ := Option.map_eq_some_iff.1 hknown
    cases hpair
    exact hvalue

/-- A configuration without parameters is none. -/
theorem parameters_finish?_ne_nil {known : List String} {config : Config}
    (h : draft.finish? known = some config) : config.parameters ≠ [] := by
  unfold finish? at h
  simp only at h
  split at h
  · exact absurd h (by simp)
  · rename_i hparameters
    cases h
    exact fun hnil => hparameters (List.isEmpty_iff.2 hnil)

end ConfigDraft

namespace Config

/-- A configuration in pydantic 2 is a `ConfigDict`. -/
theorem imports_derive2? {input : ConfigInput} {config : Config}
    (h : derive2? input = some config) : config.imports = [.configDict] := by
  rw [(ConfigDraft.finish?_eq_some _ h).1]
  simp only [ConfigDraft.require, ConfigDraft.imports_setExplicit, ConfigDraft.imports_set,
    ConfigDraft.imports_setTruth, ConfigDraft.imports_setSwitches, ConfigDraft.imports_setPolicy,
    apply_ite ConfigDraft.imports, ite_self]
  rfl

/-- A configuration in pydantic 1 needs `Extra` for a policy on further fields. -/
theorem imports_derive1? {input : ConfigInput} {config : Config}
    (h : derive1? input = some config) :
    config.imports =
      if input.kind = .base ∧ input.extraPolicy?.isSome then [.extra] else [] := by
  rw [(ConfigDraft.finish?_eq_some _ h).1]
  simp only [ConfigDraft.require, ConfigDraft.imports_setExplicit, ConfigDraft.imports_setTruth,
    ConfigDraft.imports_setSwitches, ConfigDraft.imports_setPolicy,
    apply_ite ConfigDraft.imports, ite_self]
  rfl

/-- A parameter `extra` in pydantic 1 is explicit or comes from a policy on further fields. -/
theorem policy_of_derive1? {input : ConfigInput} {config : Config} {expression : String}
    (h : derive1? input = some config) (hextra : ("extra", expression) ∈ config.parameters)
    (hexplicit : "extra" ∉ Entries.names (input.extras.config.getD [])) :
    input.kind = .base ∧ input.extraPolicy?.isSome = true := by
  have hget := (ConfigDraft.finish?_eq_some _ h).2 "extra" expression hextra
  have hsilent : Entries.get? (Entries.merged (input.extras.config.getD [])) "extra" = none :=
    Entries.get?_overlay_of_notMem hexplicit []
  -- of the steps before, only the policy sets this parameter
  refine Decidable.byContradiction fun hpolicy => ?_
  simp only [ConfigDraft.get?_setExplicit, hsilent, ConfigDraft.setTruth, ConfigDraft.get?_setIf,
    ConfigDraft.get?_setSwitches, ConfigDraft.switched?_passages1, if_neg hpolicy] at hget
  simp [Entries.get?] at hget

/-- A configuration has parameters, in every flavor that has configurations. -/
theorem parameters_derive?_ne_nil {flavor : Flavor} {input : ConfigInput} {config : Config}
    (h : derive? flavor input = some config) : config.parameters ≠ [] := by
  cases flavor with
  | pydantic2 => exact ConfigDraft.parameters_finish?_ne_nil _ h
  | pydantic1 => exact ConfigDraft.parameters_finish?_ne_nil _ h
  | dataclass => cases h

end Config

end SchemaPress
