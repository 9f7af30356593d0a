import SchemaPress.Decode

set_option autoImplicit false

/-! # Values that are put aside

The entries of a record that belong to a part of it, or to nobody, are put aside until the other
entries have been read. A value that is put aside has lost its format: only what its scalars mean
is left, and its records may have keys of any kind. -/

namespace SchemaPress

/-- A value that is put aside. -/
inductive Held
  | null
  | truth (b : Bool)
  | integer (n : Int)
  /-- A floating-point number; one that is not finite is nothing. -/
  | real (x : Option Binary64)
  | text (s : String)
  | list (items : List Held)
  /-- Entries in order, where a key may be repeated. -/
  | record (entries : List (Held × Held))
  deriving Repr, Inhabited

namespace Held

/-! ## Document values -/

mutual

/-- A document value that is put aside. -/
def ofValue : Value → Held
  | .null => .null
  | .bool b => .truth b
  | .int n => .integer n
  | .float x => .real (some x)
  | .str s => .text s
  | .arr items => .list (ofItems items)
  | .obj fields => .record (ofFields fields)

/-- Items that are put aside. -/
def ofItems : List Value → List Held
  | [] => []
  | item :: rest => ofValue item :: ofItems rest

/-- Fields that are put aside. -/
def ofFields : List (String × Value) → List (Held × Held)
  | [] => []
  | (name, value) :: rest => (.text name, ofValue value) :: ofFields rest

end

mutual

/-- The document value of a value that was put aside: its keys have to be texts, of which repeated
    ones are merged, and a number that is not finite becomes null. -/
def value? : Held → Option Value
  | .null => some .null
  | .truth b => some (.bool b)
  | .integer n => some (.int n)
  | .real (some x) => some (.float x)
  | .real none => some .null
  | .text s => some (.str s)
  | .list items => (valueItems? items).map .arr
  | .record entries => (valueFields? entries).map fun fields => .obj (Entries.merged fields)

/-- The document values of items. -/
def valueItems? : List Held → Option (List Value)
  | [] => some []
  | item :: rest => do
    let value ← item.value?
    return value :: (← valueItems? rest)

/-- The fields that entries describe. -/
def valueFields? : List (Held × Held) → Option (List (String × Value))
  | [] => some []
  | (.text name, held) :: rest => do
    let value ← held.value?
    return (name, value) :: (← valueFields? rest)
  | _ :: _ => none

end

/-! ## Slots -/

/-- Reads a truth value. -/
def truth? : Held → Option Bool
  | .truth b => some b
  | _ => none

/-- Reads a text that may be null. -/
def word? : Held → Option (Option String)
  | .null => some none
  | .text s => some (some s)
  | _ => none

/-- Whether a value says no more than that a choice was made. -/
def isEmpty : Held → Bool
  | .null | .record [] => true
  | _ => false

/-- Reads one of several named choices: the name itself, or a record whose only key is the name or
    the place of the choice and whose value is empty. -/
def choice? {α : Type} (table : List (String × α)) : Held → Option α
  | .text name => table.lookup name
  | .record [(.text name, held)] => if held.isEmpty then table.lookup name else none
  | .record [(.integer place, held)] =>
    if held.isEmpty && 0 ≤ place then table[place.toNat]?.map (·.2) else none
  | _ => none

end Held

end SchemaPress
