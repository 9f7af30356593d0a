import SchemaPress.Options
import SchemaPress.Source

set_option autoImplicit false

/-! # Extras

What the user says about single models beyond the schema, and about all of them at once. -/

namespace SchemaPress

/-- What is said about one model. -/
structure ModelExtras where
  /-- The docstring of the class. -/
  description : Option String := none
  /-- Whether the schema lets objects have further fields. -/
  additionalProperties : Option Bool := none
  /-- Whether further fields are asked for. -/
  allowExtraFields : Option Bool := none
  /-- Parameters of the configuration; they win over derived ones. -/
  config : Option (Entries Value) := none
  /-- Everything else, for templates and for switches of single flavors. -/
  rest : Entries Value := []
  deriving Repr, Inhabited

namespace ModelExtras

/-- What is said by the second wins over what is said by the first. -/
def overlay (extras other : ModelExtras) : ModelExtras where
  description := other.description <|> extras.description
  additionalProperties := other.additionalProperties <|> extras.additionalProperties
  allowExtraFields := other.allowExtraFields <|> extras.allowExtraFields
  config := other.config <|> extras.config
  rest := Entries.overlay extras.rest other.rest

/-- A switch: a truth value among everything else. -/
def switch? (extras : ModelExtras) (name : String) : Option Bool :=
  (Entries.get? extras.rest name).bind Value.asBool?

/-- The values that templates see. -/
def templateValues (extras : ModelExtras) : Entries Value :=
  let known : Entries Value :=
    (extras.description.map fun text => ("description", Value.str text)).toList ++
    (extras.additionalProperties.map fun b => ("additionalProperties", Value.bool b)).toList ++
    (extras.allowExtraFields.map fun b => ("allow_extra_fields", Value.bool b)).toList ++
    (extras.config.map fun fields => ("config", Value.obj fields)).toList
  Entries.overlay known extras.rest

/-- Whether a schema's `additionalProperties` lets objects have further fields. -/
def admitsFurther? : Value → Option Bool
  | .null => none
  | .bool b => some b
  | .int _ | .float _ | .obj _ => some true
  | .str s => some !s.isEmpty
  | .arr items => some !items.isEmpty

variable {ν : Type} [Source ν]

open Decode (Slot slot) in
open Source in
/-- The slots of extras in a document. -/
def slots : List (Slot ν ModelExtras) :=
  [ slot "description" (optional? text?) fun e v => { e with description := v },
    slot "additionalProperties" (optional? value?) fun e v =>
      { e with additionalProperties := v.bind admitsFurther? },
    slot "allow_extra_fields" (optional? truth?) fun e v => { e with allowExtraFields := v },
    slot "config" (optional? (record? value?)) fun e v => { e with config := v } ]

/-- Reads extras from a document; the entries without a slot are kept, and no slot may be filled
    twice. -/
def read? (node : ν) : Option ModelExtras := do
  let slots : List (Decode.Slot ν ModelExtras) := slots
  let entries ← Source.entries? node
  guard !(Decode.repeatsSlot slots (Entries.names entries))
  let extras ← Decode.fromEntries? slots {} entries
  let others := entries.filter fun entry => !Decode.hasSlot slots entry.1
  let rest ← others.mapM fun entry =>
    ((Source.held? entry.2).bind Held.value?).map fun value => (entry.1, value)
  return { extras with rest := Entries.merged rest }

end ModelExtras

/-- What is said about models, by their names. -/
structure Extras where
  models : Entries ModelExtras := []
  deriving Repr, Inhabited

namespace Extras

/-- The name that stands for every model. -/
def everyModel : String := "#all#"

/-- What is said about exactly this name. -/
def own (extras : Extras) (name : String) : ModelExtras :=
  (Entries.get? extras.models name).getD {}

/-- Changes what is said about exactly this name. -/
def modify (extras : Extras) (name : String) (f : ModelExtras → ModelExtras) : Extras :=
  ⟨Entries.put extras.models name (f (extras.own name))⟩

/-- What is said about a model: about every model first, then about this one. -/
def forModel (extras : Extras) (name : String) : ModelExtras :=
  match Entries.get? extras.models everyModel with
  | some general => (extras.own name).overlay general
  | none => extras.own name

/-- The switches that the options set for every model. -/
def toggles (options : Options) (extras : ModelExtras) : ModelExtras :=
  let rest :=
    if options.allowPopulationByFieldName then
      Entries.put extras.rest "allow_population_by_field_name" (.bool true)
    else extras.rest
  { extras with
    rest := if options.fauxImmutability then Entries.put rest "allow_mutation" (.bool false)
      else rest
    allowExtraFields := if options.allowExtraFields then some true
      else extras.allowExtraFields }

/-- The extras with the switches of the options set for every model. -/
def applyToggles (extras : Extras) (options : Options) : Extras :=
  extras.modify everyModel (toggles options)

/-- Reads extras from a document. -/
def read? {ν : Type} [Source ν] (node : ν) : Option Extras :=
  (Source.record? ModelExtras.read? node).map mk

end Extras

end SchemaPress
