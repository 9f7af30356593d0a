import SchemaPress.Decode

set_option autoImplicit false

/-! # JSON Schemas

A schema as far as types of fields can express it. What has no place of its own is kept among the
keywords. -/

namespace SchemaPress

/-- What the items of an array are like. -/
inductive Items (α : Type)
  /-- Every item is like this. -/
  | each (item : α)
  /-- The items in their places are like these. -/
  | positional (items : List α)
  deriving Repr

/-- What further properties of an object are like. -/
inductive Additional (α : Type)
  /-- There may be some, or not. -/
  | flag (allowed : Bool)
  /-- They are like this. -/
  | values (schema : α)
  deriving Repr

/-- A schema. -/
structure Schema where
  /-- The definition that this schema points to. -/
  pointer : Option String := none
  types : Option (List String) := none
  title : Option String := none
  description : Option String := none
  format : Option String := none
  properties : List (String × Schema) := []
  required : List String := []
  items : Option (Items Schema) := none
  additional : Option (Additional Schema) := none
  /-- The values that are allowed. -/
  choices : Option (List Value) := none
  /-- The only value that is allowed. -/
  constant : Option Value := none
  default : Option Value := none
  nullable : Bool := false
  anyOf : List Schema := []
  oneOf : List Schema := []
  allOf : List Schema := []
  defs : List (String × Schema) := []
  definitions : List (String × Schema) := []
  /-- Everything else. -/
  keywords : Entries Value := []
  deriving Inhabited

namespace Schema

/-- The names of types that the schema lists. -/
def typeNames (schema : Schema) : List String :=
  schema.types.getD []

/-- Whether the schema admits null, by saying so or by listing it beside other types. -/
def isNullable (schema : Schema) : Bool :=
  schema.nullable || (1 < schema.typeNames.length && schema.typeNames.contains "null")

/-- Whether the schema becomes a class: it has properties or is put together from others. -/
def isObjectModel (schema : Schema) : Bool :=
  !schema.properties.isEmpty || !schema.allOf.isEmpty

/-- Whether the schema says nothing about values and only carries definitions. -/
def isContainerOnly (schema : Schema) : Bool :=
  schema.pointer.isNone && schema.types.isNone && schema.properties.isEmpty &&
    schema.items.isNone && schema.choices.isNone && schema.constant.isNone &&
    schema.anyOf.isEmpty && schema.oneOf.isEmpty && schema.allOf.isEmpty

/-- Whether further properties are allowed, if the schema speaks of them. -/
def admitsFurther? (schema : Schema) : Option Bool :=
  schema.additional.map fun
    | .flag allowed => allowed
    | .values _ => true

/-- The keyword of the alternatives of the schema, and the alternatives. -/
def alternatives (schema : Schema) : String × List Schema :=
  if schema.anyOf.isEmpty then ("oneOf", schema.oneOf) else ("anyOf", schema.anyOf)

/-! ## Height -/

mutual

/-- How deep schemas are nested in a schema, apart from definitions. -/
def height : Schema → Nat
  | ⟨_, _, _, _, _, properties, _, items, additional, _, _, _, _, anyOf, oneOf, allOf, _, _, _⟩ =>
    max (heightOfProperties properties)
      (max (heightOfItems items)
        (max (heightOfAdditional additional)
          (max (heightOfAll anyOf) (max (heightOfAll oneOf) (heightOfAll allOf))))) + 1

/-- The greatest height of several schemas. -/
def heightOfAll : List Schema → Nat
  | [] => 0
  | schema :: rest => max schema.height (heightOfAll rest)

/-- The greatest height of the schemas of properties. -/
def heightOfProperties : List (String × Schema) → Nat
  | [] => 0
  | (_, schema) :: rest => max schema.height (heightOfProperties rest)

/-- The greatest height of the schemas of items. -/
def heightOfItems : Option (Items Schema) → Nat
  | none => 0
  | some (.each schema) => schema.height
  | some (.positional schemas) => heightOfAll schemas

/-- The height of the schema of further properties. -/
def heightOfAdditional : Option (Additional Schema) → Nat
  | none | some (.flag _) => 0
  | some (.values schema) => schema.height

end

/-! ## Reading

Every value of a document is read at once in all the ways in which a schema can use it: as a
value, as a schema, as a list of schemas and as schemas by names. -/

/-- The ways in which a value can be read. -/
structure Reading where
  value : Value
  schema : Option Schema := none
  schemas : Option (List Schema) := none
  named : Option (Entries Schema) := none

namespace Reading

/-- Reads the type or the types. -/
def types? (reading : Reading) : Option (Option (List String)) :=
  Decode.optional?
    (fun
      | .str name => some [name]
      | other => Decode.list? Decode.text? other)
    reading.value

/-- Reads what may be null. -/
def optional? {α : Type} (read : Reading → Option α) (reading : Reading) : Option (Option α) :=
  if reading.value.isNull then some none else (read reading).map some

/-- Reads what items are like. -/
def items? (reading : Reading) : Option (Items Schema) :=
  match reading.schema with
  | some schema => some (.each schema)
  | none => reading.schemas.map .positional

/-- Reads what further properties are like. -/
def additional? (reading : Reading) : Option (Additional Schema) :=
  match reading.value with
  | .bool allowed => some (.flag allowed)
  | _ => reading.schema.map .values

end Reading

open Decode in
/-- The slots of a schema. -/
def slots : List (Slot Reading Schema) :=
  let word (name : String) (set : Schema → Option String → Schema) :=
    slot name (fun reading : Reading => Decode.optional? text? reading.value) set
  [ word "$ref" fun s v => { s with pointer := v },
    slot "type" Reading.types? fun s v => { s with types := v },
    word "title" fun s v => { s with title := v },
    word "description" fun s v => { s with description := v },
    word "format" fun s v => { s with format := v },
    slot "properties" Reading.named fun s v => { s with properties := v },
    slot "required" (fun reading : Reading => list? text? reading.value) fun s v =>
      { s with required := v },
    slot "items" (Reading.optional? Reading.items?) fun s v => { s with items := v },
    slot "additionalProperties" (Reading.optional? Reading.additional?) fun s v =>
      { s with additional := v },
    slot "enum" (fun reading : Reading => Decode.optional? (list? some) reading.value)
      fun s v => { s with choices := v },
    slot "const" (fun reading : Reading => some reading.value) fun s v =>
      { s with constant := some v },
    slot "default" (fun reading : Reading => some reading.value) fun s v =>
      { s with default := some v },
    slot "nullable" (fun reading : Reading => truth? reading.value) fun s v =>
      { s with nullable := v },
    slot "anyOf" Reading.schemas fun s v => { s with anyOf := v },
    slot "oneOf" Reading.schemas fun s v => { s with oneOf := v },
    slot "allOf" Reading.schemas fun s v => { s with allOf := v },
    slot "$defs" Reading.named fun s v => { s with defs := v },
    slot "definitions" Reading.named fun s v => { s with definitions := v } ]

/-- Puts a schema together from its fields; the fields without a slot become keywords. -/
def assemble? (fields : Entries Reading) : Option Schema :=
  (Decode.fromEntries? slots {} fields).map fun schema =>
    { schema with
      keywords := (fields.filter fun entry => !Decode.hasSlot slots entry.1).map fun entry =>
        (entry.1, entry.2.value) }

mutual

/-- Reads a value in all ways. -/
def readAll : Value → Reading
  | .arr items => { value := .arr items, schemas := (readItems items).mapM Reading.schema }
  | .obj fields =>
    let readings := readFields fields
    { value := .obj fields
      schema := assemble? readings
      named := readings.mapM fun entry => entry.2.schema.map fun schema => (entry.1, schema) }
  | other => { value := other }

/-- Reads the items of an array in all ways. -/
def readItems : List Value → List Reading
  | [] => []
  | item :: rest => readAll item :: readItems rest

/-- Reads the fields of an object in all ways. -/
def readFields : List (String × Value) → List (String × Reading)
  | [] => []
  | (name, value) :: rest => (name, readAll value) :: readFields rest

end

/-- Reads a schema from a document. -/
def read? (document : Value) : Option Schema :=
  (readAll document).schema

end Schema

end SchemaPress
