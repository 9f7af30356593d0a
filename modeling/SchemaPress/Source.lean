import SchemaPress.Held

set_option autoImplicit false

/-! # Files of settings

How a file of settings is given types. The same records are read from JSON and from YAML, and
the two formats differ in what a slot accepts: a YAML scalar is a text wherever a text is wanted,
while JSON tells texts from numbers. A source answers what a value is good for, and the readers
of records are written once for every source. -/

namespace SchemaPress

/-- A format whose values `ν` can be read into records. -/
class Source (ν : Type) where
  /-- The text, where a text is wanted. -/
  text? : ν → Option String
  /-- The truth value, where one is wanted. -/
  truth? : ν → Option Bool
  /-- Whether the value leaves a slot empty that may be empty; nothing if it fits no such slot. -/
  isAbsent? : ν → Option Bool
  /-- The items, where a list is wanted. -/
  items? : ν → Option (List ν)
  /-- The entries, where a record is wanted; names may be repeated. -/
  entries? : ν → Option (List (String × ν))
  /-- The document value, where any value is wanted. -/
  value? : ν → Option Value
  /-- What is left of an entry that is put aside. -/
  held? : ν → Option Held

namespace Source

variable {ν α : Type} [Source ν]

/-- Reads a value that may be absent. -/
def optional? (read : ν → Option α) (node : ν) : Option (Option α) := do
  if ← isAbsent? node then return none else some <$> read node

/-- Reads a list of values. -/
def list? (read : ν → Option α) (node : ν) : Option (List α) := do
  (← items? node).mapM read

/-- Reads the entries of a record; of a repeated name the last value counts. -/
def record? (read : ν → Option α) (node : ν) : Option (Entries α) := do
  let entries ← (← entries? node).mapM fun entry =>
    (read entry.2).map fun value => (entry.1, value)
  return Entries.merged entries

end Source

/-! ## JSON -/

/-- Values of JSON documents, in which repeated names stand as they are. -/
instance : Source Value where
  text? := Value.asText?
  truth? := Value.asBool?
  isAbsent? value := some value.isNull
  items?
    | .arr items => some items
    | _ => none
  entries?
    | .obj fields => some fields
    | _ => none
  value? value := some value.merge
  held? value := some (.ofValue value)

end SchemaPress
