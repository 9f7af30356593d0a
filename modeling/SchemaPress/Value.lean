import SchemaPress.Entries
import SchemaPress.Number.Layout

set_option autoImplicit false

/-! # Document values

The values that a JSON or YAML document denotes. The fields of an object keep the order in which
the document names them. A whole number that fits 64 bits stays an integer; every other number
is a finite binary floating-point number. -/

namespace SchemaPress

/-- A document value. -/
inductive Value
  | null
  | bool (b : Bool)
  | int (n : Int)
  | float (x : Binary64)
  | str (s : String)
  | arr (items : List Value)
  | obj (fields : List (String × Value))
  deriving Repr, Inhabited

namespace Value

/-- Whether the value is null. -/
def isNull : Value → Bool
  | .null => true
  | _ => false

/-- Whether the value is an object. -/
def isObject : Value → Bool
  | .obj _ => true
  | _ => false

/-- The truth value, of a truth value only. -/
def asBool? : Value → Option Bool
  | .bool b => some b
  | _ => none

/-- The text, of a string only. -/
def asText? : Value → Option String
  | .str s => some s
  | _ => none

/-- The natural number, of an integer that is not negative only. -/
def asNat? : Value → Option Nat
  | .int n => if 0 ≤ n then some n.toNat else none
  | _ => none

/-- The field of an object with the given name. -/
def field? (value : Value) (name : String) : Option Value :=
  match value with
  | .obj fields => Entries.get? fields name
  | _ => none

/-! ## Repeated names -/

mutual

/-- The value with repeated names merged in every object: the first place and the last value of
    each name are kept. -/
def merge : Value → Value
  | .arr items => .arr (mergeItems items)
  | .obj fields => .obj (Entries.merged (mergeFields fields))
  | other => other

/-- Merges repeated names inside every item. -/
def mergeItems : List Value → List Value
  | [] => []
  | item :: rest => merge item :: mergeItems rest

/-- Merges repeated names inside every field. -/
def mergeFields : List (String × Value) → List (String × Value)
  | [] => []
  | (name, value) :: rest => (name, merge value) :: mergeFields rest

end

end Value

end SchemaPress
