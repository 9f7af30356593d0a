import SchemaPress.Value

set_option autoImplicit false

/-! # Decoding values into records

How a document value is given a type. A record is read from an object, where names that the
record does not know are ignored and missing ones keep their defaults, or from an array, whose
items fill the slots in the order of their declaration. -/

namespace SchemaPress.Decode

variable {α β ι : Type}

/-- Reads a text. -/
def text? : Value → Option String :=
  Value.asText?

/-- Reads a truth value. -/
def truth? : Value → Option Bool :=
  Value.asBool?

/-- Reads a value that may be null. -/
def optional? (read : Value → Option α) : Value → Option (Option α)
  | .null => some none
  | value => (read value).map some

/-- Reads a list of values. -/
def list? (read : Value → Option α) : Value → Option (List α)
  | .arr items => items.mapM read
  | _ => none

/-- Reads the entries of an object. -/
def entries? : Value → Option (Entries Value)
  | .obj fields => some fields
  | _ => none

/-- Reads one of several named choices: the name itself, or an object with the name as its only
    field and null as its value. -/
def choice? (table : List (String × α)) : Value → Option α
  | .str name => table.lookup name
  | .obj [(name, .null)] => table.lookup name
  | _ => none

/-! ## Records -/

/-- A slot of a record `α`: its name, and how an input `ι` is stored in it. -/
structure Slot (ι α : Type) where
  name : String
  store : α → ι → Option α

/-- A slot whose inputs are read by `read` and stored by `set`. -/
def slot (name : String) (read : ι → Option β) (set : α → β → α) : Slot ι α :=
  ⟨name, fun record input => (read input).map (set record)⟩

/-- Stores one named input; a name without a slot is ignored. -/
def storeNamed? (slots : List (Slot ι α)) (record : α) (entry : String × ι) : Option α :=
  match slots.find? (·.name == entry.1) with
  | some target => target.store record entry.2
  | none => some record

/-- Stores named inputs in order. -/
def fromEntries? (slots : List (Slot ι α)) (record : α) (entries : Entries ι) : Option α :=
  entries.foldlM (storeNamed? slots) record

/-- Stores inputs in the order of the slots; there may be fewer inputs than slots. -/
def fromItems? : List (Slot ι α) → α → List ι → Option α
  | _, record, [] => some record
  | [], _, _ :: _ => none
  | target :: slots, record, value :: values =>
    (target.store record value).bind fun record => fromItems? slots record values

/-- Reads a record from an object or an array. -/
def record? (slots : List (Slot Value α)) (default : α) : Value → Option α
  | .obj fields => fromEntries? slots default fields
  | .arr items => fromItems? slots default items
  | _ => none

/-- Whether a slot has the given name. -/
def hasSlot (slots : List (Slot ι α)) (name : String) : Bool :=
  slots.any (·.name == name)

/-- Whether some name of the slots occurs more than once. -/
def repeatsSlot (slots : List (Slot ι α)) (names : List String) : Bool :=
  slots.any fun target => 1 < names.count target.name

end SchemaPress.Decode
