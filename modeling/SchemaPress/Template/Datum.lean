import SchemaPress.Failure
import SchemaPress.Template.Shown

set_option autoImplicit false

/-! # What expressions stand for

An expression of a template stands for a document value, for nothing, for a function that
templates know, or for the loop that it is in. A variable without a value is written as nothing
and counts as false; to ask such a value for a field is an error. -/

namespace SchemaPress.Template

/-! ## Loops -/

/-- Where a loop is: the number of the item, the number of all items if it is known, and the items
    around it. -/
structure Loop where
  index : Nat
  length : Option Nat
  previous : Option Value
  next : Option Value
  deriving Repr, Inhabited

namespace Loop

/-- The fields that a loop has. -/
def fieldNames : List String :=
  ["index0", "index", "length", "revindex", "revindex0", "first", "last", "depth", "depth0",
    "previtem", "nextitem"]

/-- How many items are left from the current one on, if it is known. -/
def left (loop : Loop) : Option Nat :=
  loop.length.map (· - loop.index)

/-- A field of a loop. Every loop is its own outermost one. -/
def field? (loop : Loop) : String → Option Value
  | "index0" => some (.int loop.index)
  | "index" => some (.int (loop.index + 1))
  | "length" => loop.length.map fun n => .int n
  | "revindex" => loop.left.map fun n => .int n
  | "revindex0" => loop.left.map fun n => .int (n - 1 : Nat)
  | "first" => some (.bool (loop.index == 0))
  | "last" => some (.bool (loop.length == some (loop.index + 1)))
  | "depth" => some (.int 1)
  | "depth0" => some (.int 0)
  | "previtem" => loop.previous
  | "nextitem" => loop.next
  | _ => none

/-- The rounds of a loop over some items, which are perhaps counted before the first round. -/
def rounds (counted : Bool) (items : List Value) : List (Loop × Value) :=
  let length := if counted then some items.length else none
  items.zipIdx.map fun (item, index) =>
    let previous := if index = 0 then none else items[index - 1]?
    (⟨index, length, previous, items[index + 1]?⟩, item)

/-- The text of a loop; a question mark stands for a number of items that is not known. -/
def text (loop : Loop) : String :=
  let length := match loop.length with
    | some n => toString n
    | none => "?"
  "<loop " ++ toString loop.index ++ "/" ++ length ++ ">"

end Loop

/-! ## Data -/

/-- What an expression stands for. -/
inductive Datum
  | missing
  | value (v : Value)
  | function (name : String)
  | loop (state : Loop)
  deriving Repr, Inhabited

namespace Datum

/-- The functions that templates know. -/
def functionNames : List String := ["range", "dict", "debug", "namespace"]

/-- A value, if there is one. -/
def ofOption : Option Value → Datum
  | some v => .value v
  | none => .missing

/-- Whether there is anything. -/
def isDefined : Datum → Bool
  | .missing => false
  | _ => true

/-- Whether a document value counts as true. -/
def valueIsTrue : Value → Bool
  | .null => false
  | .bool b => b
  | .int n => n != 0
  | .float x => !x.isZero
  | .str s => !s.isEmpty
  | .arr items => !items.isEmpty
  | .obj fields => !fields.isEmpty

/-- Whether a datum counts as true. -/
def isTrue : Datum → Bool
  | .missing => false
  | .value v => valueIsTrue v
  | .function _ | .loop _ => true

/-- The text of a datum. -/
def text : Datum → String
  | .missing => ""
  | .value v => showValue v
  | .function name => "minijinja::functions::builtins::" ++ name
  | .loop state => state.text

/-- The field of a datum; only an object and a loop have some, and a missing value cannot be
    asked. -/
def field (name : String) : Datum → Except Failure Datum
  | .missing => throw .invalidTemplate
  | .value (.obj fields) => return ofOption (Entries.get? fields name)
  | .loop state => return ofOption (state.field? name)
  | _ => return .missing

/-- The place that a value names in a list: an integer, a truth value or a whole number. -/
def place? : Value → Option Int
  | .int n => some n
  | .bool b => some (if b then 1 else 0)
  | .float x => if Binary64.ofInt x.truncate == x || x.isZero then some x.truncate else none
  | _ => none

/-- The item of a list in a place, counted from the end if the place is negative. -/
def itemAt {α : Type} (items : List α) (place : Int) : Option α :=
  if 0 ≤ place then items[place.toNat]?
  else if place.natAbs ≤ items.length then items[items.length - place.natAbs]? else none

/-- The item of a list or of a text, or the field of an object, that an index names. -/
def itemOfValue (index : Value) : Value → Option Value
  | .arr items => (place? index).bind (itemAt items)
  | .str s => ((place? index).bind (itemAt s.toList)).map fun c => .str c.toString
  | .obj fields => index.asText?.bind (Entries.get? fields)
  | _ => none

/-- The item of a datum; a missing value cannot be asked. -/
def item (collection index : Datum) : Except Failure Datum :=
  match collection, index with
  | .missing, _ => throw .invalidTemplate
  | .value v, .value index => return ofOption (itemOfValue index v)
  | .loop state, .value index => return ofOption (index.asText?.bind state.field?)
  | _, _ => return .missing

/-- The items that a loop runs over: of a list, the names of an object in order, or the
    characters of a text. A missing value has none. -/
def items : Datum → Except Failure (List Value)
  | .missing | .value .null => return []
  | .value (.arr items) => return items
  | .value (.obj fields) => return (sortedByName fields).map fun (name, _) => .str name
  | .value (.str s) => return s.toList.map fun c => .str c.toString
  | .loop _ => return Loop.fieldNames.map .str
  | _ => throw .invalidTemplate

/-- Whether a loop over a datum knows the number of items beforehand; the characters of a text are
    not counted. -/
def isCounted : Datum → Bool
  | .value (.str _) => false
  | _ => true

/-- The number of items of a list, fields of an object or characters of a text. -/
def length : Datum → Except Failure Nat
  | .value (.arr items) => return items.length
  | .value (.obj fields) => return fields.length
  | .value (.str s) => return s.length
  | .loop _ => return Loop.fieldNames.length
  | _ => throw .invalidTemplate

end Datum

end SchemaPress.Template
