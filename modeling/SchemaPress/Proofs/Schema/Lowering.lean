import SchemaPress.Proofs.TypeTree.Nodes
import SchemaPress.SchemaDocument

set_option autoImplicit false

/-! # What lowering a schema can do

Lowering is a computation on a draft that may fail. Here its successful runs are taken apart: one
level of lowering takes one of the ways of `Step`, a listed type one of those of `Naming`, and an
object, a definition and a document each say which runs they are made of. `MadeName` and `MadeType`
list the names and the types that can come up on the way. Results about lowering are proved from
these cases, not from the computations. -/

namespace SchemaPress.Schema

/-! ## Computations on a draft -/

namespace Drafting

variable {α β : Type}

/-- A sequence of two computations gives a result if both do. -/
theorem bind_ok {x : Drafting α} {f : α → Drafting β} {before after : Draft} {b : β} :
    (x >>= f) before = .ok (b, after) ↔
      ∃ a middle, x before = .ok (a, middle) ∧ f a middle = .ok (b, after) := by
  change (x before >>= fun p => f p.1 p.2) = _ ↔ _
  cases x before with
  | error failure => simp [bind, Except.bind]
  | ok p =>
    obtain ⟨a, middle⟩ := p
    constructor
    · intro h
      exact ⟨a, middle, rfl, h⟩
    · rintro ⟨_, _, hfirst, h⟩
      cases hfirst
      exact h

theorem pure_ok {a b : α} {before after : Draft} :
    (pure a : Drafting α) before = .ok (b, after) ↔ b = a ∧ after = before := by
  change Except.ok (a, before) = _ ↔ _
  simp [eq_comm]

theorem get_ok {draft before after : Draft} :
    (get : Drafting Draft) before = .ok (draft, after) ↔ draft = before ∧ after = before := by
  change Except.ok (before, before) = _ ↔ _
  simp [eq_comm]

theorem modify_ok {f : Draft → Draft} {u : PUnit} {before after : Draft} :
    (modify f : Drafting PUnit) before = .ok (u, after) ↔ after = f before := by
  change Except.ok (PUnit.unit, f before) = _ ↔ _
  simp [eq_comm]

theorem throw_ok {failure : Failure} {a : α} {before after : Draft} :
    ¬ (throw failure : Drafting α) before = .ok (a, after) := by
  change ¬ Except.error failure = _
  simp

theorem follow_ok {setting : Setting} {pointer : String} {id : RefId} {before after : Draft} :
    (liftM (setting.follow pointer) : Drafting RefId) before = .ok (id, after) ↔
      Entries.get? setting.known pointer = some id ∧ after = before := by
  unfold Setting.follow
  cases Entries.get? setting.known pointer with
  | none =>
    change Except.error _ = _ ↔ _
    simp
  | some found =>
    change Except.ok (found, before) = _ ↔ _
    simp [eq_comm]

/-- A computation for each member of a list, one after another. -/
inductive Runs (f : α → Drafting β) : List α → Draft → List β → Draft → Prop
  | nil (draft : Draft) : Runs f [] draft [] draft
  | cons {a : α} {rest : List α} {b : β} {results : List β} {before middle after : Draft} :
      f a before = .ok (b, middle) → Runs f rest middle results after →
      Runs f (a :: rest) before (b :: results) after

theorem mapM_ok {f : α → Drafting β} {members : List α} {results : List β}
    {before after : Draft} :
    (members.mapM f) before = .ok (results, after) ↔ Runs f members before results after := by
  induction members generalizing before results with
  | nil =>
    rw [List.mapM_nil, pure_ok]
    constructor
    · rintro ⟨rfl, rfl⟩
      exact .nil _
    · rintro ⟨⟩
      exact ⟨rfl, rfl⟩
  | cons a rest ih =>
    simp only [List.mapM_cons, bind_ok, pure_ok]
    constructor
    · rintro ⟨b, middle, hfirst, others, last, hrest, rfl, rfl⟩
      exact .cons hfirst (ih.1 hrest)
    · rintro (_ | ⟨hfirst, hrest⟩)
      exact ⟨_, _, hfirst, _, _, ih.2 hrest, rfl, rfl⟩

theorem forM_ok {f : α → Drafting PUnit} {members : List α} {u : PUnit} {before after : Draft}
    (h : (members.forM f) before = .ok (u, after)) :
    ∃ results, Runs f members before results after := by
  induction members generalizing before with
  | nil =>
    obtain ⟨-, rfl⟩ := pure_ok.1 h
    exact ⟨[], .nil _⟩
  | cons a rest ih =>
    obtain ⟨b, middle, hfirst, hrest⟩ := bind_ok.1 h
    obtain ⟨results, hruns⟩ := ih hrest
    exact ⟨b :: results, .cons hfirst hruns⟩

end Drafting

open Drafting

/-! ## Names and types -/

/-- The names that lowering asks for. -/
inductive MadeName : String → Prop
  | short (arena : Arena) (reference : RefId) : MadeName (arena.shortName reference)
  | item {name : String} : MadeName name → MadeName (name ++ "Item")
  | property {owner : String} (name : String) : MadeName owner →
      MadeName (owner ++ Python.className name)

/-- The types that lowering makes. -/
inductive MadeType : TypeTree → Prop
  | leaf {type : TypeTree} : type.children = [] → MadeType type
  | list {type : TypeTree} : MadeType type → MadeType (.list {} type)
  | dict {type : TypeTree} : MadeType type → MadeType (.dict {} type)
  | union {members : List TypeTree} : (∀ member ∈ members, MadeType member) →
      MadeType (.union {} members)
  | optional {type : TypeTree} : MadeType type → MadeType type.optional

namespace Setting

theorem madeName_itemName (setting : Setting) {suggested : String} (h : MadeName suggested) :
    MadeName (setting.itemName suggested) := by
  unfold itemName
  split
  · exact h
  · exact .item h

variable {setting : Setting} {lower : Lowering} {schema : Schema} {path suggested : String}
  {before after : Draft}

/-! ## What one level of lowering can do -/

/-- The ways in which a schema becomes a type. -/
inductive Step (setting : Setting) (lower : Lowering) (schema : Schema) (path suggested : String)
    (before : Draft) : TypeTree → Draft → Prop
  /-- It points to a definition. -/
  | pointer {pointer : String} {id : RefId} : schema.pointer = some pointer →
      Entries.get? setting.known pointer = some id →
      Step setting lower schema path suggested before (.model {} id) before
  /-- Its type was chosen by the user. -/
  | chosen {type : TypeTree} : schema.pointer = none → setting.chosenType? schema = some type →
      Step setting lower schema path suggested before type before
  /-- It lists its values. -/
  | choices {values : List Value} : schema.pointer = none → setting.chosenType? schema = none →
      schema.choices = some values →
      Step setting lower schema path suggested before (choiceType values) before
  /-- It has alternatives. -/
  | alternatives {members : List TypeTree} {after : Draft} : schema.pointer = none →
      setting.chosenType? schema = none → schema.choices = none → schema.alternatives.2 ≠ [] →
      Runs (fun (member, i) => lower member
        (path ++ "/" ++ schema.alternatives.1 ++ "/" ++ toString i) suggested)
        schema.alternatives.2.zipIdx before members after →
      Step setting lower schema path suggested before (.union {} members) after
  /-- It is put together from one schema only, and is what that one is. -/
  | only {single : Schema} {type : TypeTree} {after : Draft} : schema.pointer = none →
      setting.chosenType? schema = none → schema.choices = none → schema.alternatives.2 = [] →
      schema.allOf = [single] → schema.properties = [] →
      lower single (path ++ "/allOf/0") suggested before = .ok (type, after) →
      Step setting lower schema path suggested before type after
  /-- It becomes a class of its own. -/
  | object {after : Draft} : schema.pointer = none →
      setting.chosenType? schema = none → schema.choices = none → schema.alternatives.2 = [] →
      schema.isObjectModel = true → ¬ (schema.allOf.length = 1 ∧ schema.properties = []) →
      setting.lowerObject lower (before.arena.allocate path suggested).1 path schema
        { before with arena := (before.arena.allocate path suggested).2 } = .ok ((), after) →
      Step setting lower schema path suggested before
        (.model {} (before.arena.allocate path suggested).1) after
  /-- It lists its types. -/
  | types {type : TypeTree} {after : Draft} : schema.pointer = none →
      setting.chosenType? schema = none → schema.choices = none → schema.alternatives.2 = [] →
      schema.isObjectModel = false →
      setting.lowerTypes lower schema path suggested before = .ok (type, after) →
      Step setting lower schema path suggested before type after

/-- One level of lowering takes one of these ways. -/
theorem step_of_lowerStep {type : TypeTree}
    (h : setting.lowerStep lower schema path suggested before = .ok (type, after)) :
    Step setting lower schema path suggested before type after := by
  unfold lowerStep at h
  cases hpointer : schema.pointer with
  | some pointer =>
    simp only [hpointer, bind_ok, pure_ok, follow_ok] at h
    obtain ⟨id, middle, ⟨hid, rfl⟩, rfl, rfl⟩ := h
    exact .pointer hpointer hid
  | none =>
    cases hchosen : setting.chosenType? schema with
    | some chosen =>
      simp only [hpointer, hchosen, pure_ok] at h
      obtain ⟨rfl, rfl⟩ := h
      exact .chosen hpointer hchosen
    | none =>
      cases hchoices : schema.choices with
      | some values =>
        simp only [hpointer, hchosen, hchoices, pure_ok] at h
        obtain ⟨rfl, rfl⟩ := h
        exact .choices hpointer hchosen hchoices
      | none =>
        simp only [hpointer, hchosen, hchoices] at h
        by_cases halternatives : schema.alternatives.2 = []
        · simp only [halternatives, List.isEmpty_nil, Bool.not_true, Bool.false_eq_true,
            if_false] at h
          by_cases hobject : schema.isObjectModel = true
          · rw [if_pos hobject] at h
            by_cases hone : schema.allOf.length = 1 ∧ schema.properties = []
            · obtain ⟨single, hallOf⟩ := List.length_eq_one_iff.1 hone.1
              simp only [hallOf, hone.2] at h
              exact .only hpointer hchosen hchoices halternatives hallOf hone.2 h
            · have hown : ((get : Drafting Draft) >>= fun draft =>
                  modify (fun found =>
                    { found with arena := (draft.arena.allocate path suggested).2 }) >>= fun _ =>
                  setting.lowerObject lower (draft.arena.allocate path suggested).1 path schema >>=
                    fun _ => pure (.model {} (draft.arena.allocate path suggested).1))
                  before = .ok (type, after) := by
                -- all other shapes of the parts and the properties take the same way
                rcases hallOf : schema.allOf with _ | ⟨single, _ | ⟨second, rest⟩⟩
                · simp only [hallOf] at h
                  exact h
                · rcases hproperties : schema.properties with _ | ⟨first, others⟩
                  · exact absurd ⟨by rw [hallOf]; rfl, hproperties⟩ hone
                  · simp only [hallOf, hproperties] at h
                    exact h
                · simp only [hallOf] at h
                  exact h
              simp only [bind_ok, pure_ok, get_ok, modify_ok] at hown
              obtain ⟨_, _, ⟨rfl, rfl⟩, _, _, rfl, _, _, hlower, rfl, rfl⟩ := hown
              exact .object hpointer hchosen hchoices halternatives hobject hone hlower
          · rw [if_neg hobject] at h
            exact .types hpointer hchosen hchoices halternatives (by simpa using hobject) h
        · rw [if_pos (by simpa using halternatives)] at h
          simp only [bind_ok, pure_ok, mapM_ok] at h
          obtain ⟨members, _, hruns, rfl, rfl⟩ := h
          exact .alternatives hpointer hchosen hchoices halternatives hruns

/-- The ways in which a listed type of a schema becomes a type. -/
inductive Naming (setting : Setting) (lower : Lowering) (schema : Schema)
    (path suggested : String) (before : Draft) : String → TypeTree → Draft → Prop
  /-- Further properties are like some schema. -/
  | values {values : Schema} {type : TypeTree} {after : Draft} :
      schema.additional = some (.values values) →
      lower values (path ++ "/additionalProperties") suggested before = .ok (type, after) →
      Naming setting lower schema path suggested before "object" (.dict {} type) after
  /-- All items are like one schema. -/
  | each {item : Schema} {type : TypeTree} {after : Draft} : schema.items = some (.each item) →
      lower item (path ++ "/items") (setting.itemName suggested) before = .ok (type, after) →
      Naming setting lower schema path suggested before "array" (.list {} type) after
  /-- The items in their places are like several schemas. -/
  | positional {items : List Schema} {members : List TypeTree} {after : Draft} :
      schema.items = some (.positional items) →
      Runs (fun x => lower x.1 (path ++ "/items/" ++ toString x.2) (setting.itemName suggested))
        items.zipIdx before members after →
      Naming setting lower schema path suggested before "array" (.list {} (.union {} members))
        after
  /-- No schema inside the schema takes part. -/
  | plain {name : String} {type : TypeTree} :
      (name = "object" → ∀ values, schema.additional ≠ some (.values values)) →
      (name = "array" → schema.items = none) → MadeType type → type.targets = [] →
      Naming setting lower schema path suggested before name type before

theorem exists_textType_eq (setting : Setting) (schema : Schema) :
    ∃ m named, setting.textType schema = .named m named := by
  unfold textType
  cases schema.format with
  | none => exact ⟨_, _, rfl⟩
  | some format =>
    cases hregistered : setting.registry.type? format with
    | some type =>
      obtain ⟨path, -, rfl⟩ := Option.map_eq_some_iff.1 hregistered
      simp only [hregistered]
      exact ⟨_, _, rfl⟩
    | none =>
      simp only [hregistered]
      unfold formattedType
      split <;> try exact ⟨_, _, rfl⟩
      · split <;> exact ⟨_, _, rfl⟩
      · split <;> exact ⟨_, _, rfl⟩

theorem naming_of_lowerNamed {name : String} {type : TypeTree}
    (h : setting.lowerNamed lower schema path suggested name before = .ok (type, after)) :
    Naming setting lower schema path suggested before name type after := by
  unfold lowerNamed at h
  split at h
  · cases hadditional : schema.additional with
    | none =>
      simp only [hadditional, pure_ok] at h
      obtain ⟨rfl, rfl⟩ := h
      exact .plain (by simp [hadditional]) (by simp) (.dict (.leaf rfl)) rfl
    | some additional =>
      cases additional with
      | flag allowed =>
        simp only [hadditional, pure_ok] at h
        obtain ⟨rfl, rfl⟩ := h
        exact .plain (by simp [hadditional]) (by simp) (.dict (.leaf rfl)) rfl
      | values values =>
        simp only [hadditional, bind_ok, pure_ok] at h
        obtain ⟨value, _, hlower, rfl, rfl⟩ := h
        exact .values hadditional hlower
  · cases hitems : schema.items with
    | none =>
      simp only [hitems, pure_ok] at h
      obtain ⟨rfl, rfl⟩ := h
      exact .plain (by simp) (fun _ => hitems) (.list (.leaf rfl)) rfl
    | some items =>
      cases items with
      | each item =>
        simp only [hitems, bind_ok, pure_ok] at h
        obtain ⟨type, _, hlower, rfl, rfl⟩ := h
        exact .each hitems hlower
      | positional items =>
        simp only [hitems, bind_ok, pure_ok, mapM_ok] at h
        obtain ⟨members, _, hruns, rfl, rfl⟩ := h
        exact .positional hitems hruns
  · obtain ⟨rfl, rfl⟩ := pure_ok.1 h
    obtain ⟨m, named, htype⟩ := setting.exists_textType_eq schema
    rw [htype]
    exact .plain (by simp) (by simp) (.leaf rfl) rfl
  · obtain ⟨rfl, rfl⟩ := pure_ok.1 h
    exact .plain (by simp) (by simp) (.leaf rfl) rfl
  · obtain ⟨rfl, rfl⟩ := pure_ok.1 h
    unfold numberType
    split
    · exact .plain (by simp) (by simp) (.leaf rfl) rfl
    · exact .plain (by simp) (by simp) (.leaf rfl) rfl
  · obtain ⟨rfl, rfl⟩ := pure_ok.1 h
    exact .plain (by simp) (by simp) (.leaf rfl) rfl
  · obtain ⟨rfl, rfl⟩ := pure_ok.1 h
    exact .plain (by simp) (by simp) (.leaf rfl) rfl
  · exact absurd h throw_ok

/-- The type that several listed types make. -/
def joined (schema : Schema) : List TypeTree → TypeTree
  | [] =>
    if schema.typeNames = ["null"] then .noneType
    else (schema.constant.map constantType).getD .any
  | [single] => single
  | several => .union {} several

theorem runs_of_lowerTypes {type : TypeTree}
    (h : setting.lowerTypes lower schema path suggested before = .ok (type, after)) :
    ∃ members, Runs (setting.lowerNamed lower schema path suggested)
        (schema.typeNames.filter (· != "null")) before members after ∧
      type = joined schema members := by
  unfold lowerTypes at h
  obtain ⟨members, middle, hruns, h⟩ := bind_ok.1 h
  have hjoined : type = joined schema members ∧ after = middle := by
    unfold joined
    match members with
    | [] =>
      by_cases hnull : schema.typeNames = ["null"]
      · simpa only [hnull, if_true, pure_ok] using h
      · simpa only [hnull, if_false, pure_ok] using h
    | [single] => exact pure_ok.1 h
    | _ :: _ :: _ => exact pure_ok.1 h
  obtain ⟨rfl, rfl⟩ := hjoined
  exact ⟨members, mapM_ok.1 hruns, rfl⟩

theorem lower_of_lowerProperty {owner name : String} {required : List String} {field : FieldSpec}
    (h : setting.lowerProperty lower owner path required name schema before =
      .ok (field, after)) :
    lower schema (path ++ "/properties/" ++ name) (owner ++ Python.className name) before =
        .ok (field.type, after) ∧
      field = setting.propertyField required name schema field.type := by
  unfold lowerProperty at h
  simp only [bind_ok, pure_ok] at h
  obtain ⟨type, middle, hlower, rfl, rfl⟩ := h
  exact ⟨hlower, rfl⟩

/-- Following pointers changes nothing. -/
theorem pointers_of_runs_follow {pointers : List String} {ids : List RefId}
    (h : Runs (fun pointer => liftM (setting.follow pointer)) pointers before ids after) :
    ids.map some = pointers.map (Entries.get? setting.known) ∧ after = before := by
  induction h with
  | nil draft => exact ⟨rfl, rfl⟩
  | cons hfirst _ ih =>
    obtain ⟨hid, rfl⟩ := follow_ok.1 hfirst
    obtain ⟨hids, rfl⟩ := ih
    exact ⟨by rw [List.map_cons, List.map_cons, hid, hids], rfl⟩

/-- An object takes its base classes from its pointers and its fields from its parts, and then adds
    its own model. -/
theorem lowered_of_lowerObject {reference : RefId}
    (h : setting.lowerObject lower reference path schema before = .ok ((), after)) :
    ∃ (bases : List RefId) (fields : List FieldSpec) (middle : Draft),
      bases.map some = (basePointers schema).map (Entries.get? setting.known) ∧
      Runs (fun x => setting.lowerProperty lower (before.arena.shortName reference) path
        ((parts schema).flatMap Schema.required) x.1 x.2)
        ((parts schema).flatMap Schema.properties) before fields middle ∧
      after.arena = middle.arena ∧
      after.specs = middle.specs ++ [{ reference := some reference, fields := fields
                                       bases := bases
                                       description := setting.description? schema }] := by
  unfold lowerObject at h
  simp only [bind_ok, get_ok, mapM_ok] at h
  obtain ⟨_, _, ⟨rfl, rfl⟩, _, _, ⟨rfl, rfl⟩, bases, _, hbases, fields, middle, hfields, h⟩ := h
  obtain ⟨hpointers, rfl⟩ := pointers_of_runs_follow hbases
  refine ⟨bases, fields, middle, hpointers, hfields, ?_⟩
  cases hfurther : schema.admitsFurther? with
  | none =>
    simp only [hfurther, modify_ok] at h
    subst h
    exact ⟨rfl, rfl⟩
  | some allowed =>
    simp only [hfurther, bind_ok, modify_ok] at h
    obtain ⟨_, _, rfl, rfl⟩ := h
    exact ⟨rfl, rfl⟩

/-- A definition that is no object becomes a root model around its type. -/
theorem lowered_of_lowerDefinition {reference : RefId} (hobject : schema.isObjectModel = false)
    (h : setting.lowerDefinition reference path schema before = .ok ((), after)) :
    ∃ (type : TypeTree) (middle : Draft),
      setting.lowerType schema.height schema path (before.arena.shortName reference) before =
        .ok (type, middle) ∧
      after.arena = middle.arena ∧
      after.specs = middle.specs ++ [{ reference := some reference, kind := .root
                                       fields := [setting.rootField schema type]
                                       nullable := schema.isNullable
                                       description := setting.description? schema }] := by
  unfold lowerDefinition at h
  simp only [hobject, Bool.false_eq_true, if_false, bind_ok, get_ok, modify_ok] at h
  obtain ⟨_, _, ⟨rfl, rfl⟩, type, middle, hlower, rfl⟩ := h
  exact ⟨type, middle, hlower, rfl, rfl⟩

end Setting

/-! ## Documents -/

/-- Adds the model of an entry of a document. -/
def Setting.lowerEntry (setting : Setting) (entry : Entry) : Drafting Unit := do
  setting.lowerDefinition (← setting.follow entry.path) entry.path entry.schema

theorem Setting.lowered_of_lowerEntry {setting : Setting} {entry : Entry} {before after : Draft}
    (h : setting.lowerEntry entry before = .ok ((), after)) :
    ∃ reference, Entries.get? setting.known entry.path = some reference ∧
      setting.lowerDefinition reference entry.path entry.schema before = .ok ((), after) := by
  obtain ⟨reference, middle, hfollow, hdefinition⟩ := bind_ok.1 h
  obtain ⟨hknown, rfl⟩ := follow_ok.1 hfollow
  exact ⟨reference, hknown, hdefinition⟩

/-- What is the same for all schemas of a document that is lowered in a graph. -/
def settingIn (schema : Schema) (registry : TypeRegistry) (graph : Graph) : Setting where
  options := graph.options
  registry := registry
  known := (allocateEntries graph.arena [] (schema.entries graph.options)).1

/-- The draft that a document starts with: all its entries have references. -/
def draftIn (schema : Schema) (graph : Graph) : Draft where
  arena := (allocateEntries graph.arena [] (schema.entries graph.options)).2
  extras := graph.extras

/-- References are allocated by the paths and names of entries, whatever their schemas are. -/
theorem allocateEntries_congr {entries others : List Entry}
    (h : others.map (fun entry => (entry.path, entry.name)) =
      entries.map fun entry => (entry.path, entry.name)) (arena : Arena) (known : Entries RefId) :
    allocateEntries arena known others = allocateEntries arena known entries := by
  induction entries generalizing others arena known with
  | nil => rw [List.map_eq_nil_iff.1 h]
  | cons entry rest ih =>
    obtain ⟨other, others, rfl, hfirst, hrest⟩ := List.map_eq_cons_iff.1 h
    obtain ⟨hpath, hname⟩ := Prod.mk.inj hfirst
    rw [allocateEntries, allocateEntries, hpath, hname]
    exact ih hrest _ _

/-- A document is lowered entry by entry. -/
theorem lowered_of_lower {schema : Schema} {registry : TypeRegistry} {graph lowered : Graph}
    {specs : List ModelSpec} (h : schema.lower registry graph = .ok (specs, lowered)) :
    ∃ (results : List PUnit) (draft : Draft),
      Runs (schema.settingIn registry graph).lowerEntry (schema.entries graph.options)
        (schema.draftIn graph) results draft ∧
      specs = draft.specs ∧
      lowered = { graph with arena := draft.arena, extras := draft.extras } := by
  have h : (((schema.entries graph.options).forM
      (schema.settingIn registry graph).lowerEntry) (schema.draftIn graph) >>=
        fun result => pure (result.2.specs,
          { graph with arena := result.2.arena, extras := result.2.extras })) =
      .ok (specs, lowered) := h
  cases hrun : ((schema.entries graph.options).forM
      (schema.settingIn registry graph).lowerEntry) (schema.draftIn graph) with
  | error failure =>
    rw [hrun] at h
    cases h
  | ok result =>
    rw [hrun] at h
    cases h
    obtain ⟨results, hruns⟩ := forM_ok hrun
    exact ⟨results, result.2, hruns, rfl, rfl⟩

end SchemaPress.Schema
