import SchemaPress.Python.Literal

set_option autoImplicit false

/-! # Constraints

Facts about the values of a field: bounds, lengths, patterns and uniqueness. A set of constraints
holds at most one fact of each kind, so it is a partial map from kinds to bounds. -/

namespace SchemaPress

/-- The kinds of constraints, in the order in which they are written. -/
inductive ConstraintKind
  | uniqueItems | gt | ge | lt | le | multipleOf | minItems | maxItems | minLength | maxLength
  | pattern
  deriving DecidableEq, Repr

namespace ConstraintKind

/-- Every kind, in order. -/
def all : List ConstraintKind :=
  [uniqueItems, gt, ge, lt, le, multipleOf, minItems, maxItems, minLength, maxLength, pattern]

/-- The keyword of the kind in schemas. -/
def keyword : ConstraintKind → String
  | uniqueItems => "uniqueItems"
  | gt => "exclusiveMinimum"
  | ge => "minimum"
  | lt => "exclusiveMaximum"
  | le => "maximum"
  | multipleOf => "multipleOf"
  | minItems => "minItems"
  | maxItems => "maxItems"
  | minLength => "minLength"
  | maxLength => "maxLength"
  | pattern => "pattern"

/-- The argument that carries the kind in generated code. -/
def argument : ConstraintKind → String
  | uniqueItems => "unique_items"
  | gt => "gt"
  | ge => "ge"
  | lt => "lt"
  | le => "le"
  | multipleOf => "multiple_of"
  | minItems => "min_items"
  | maxItems => "max_items"
  | minLength => "min_length"
  | maxLength => "max_length"
  | pattern => "pattern"

/-- The kind with the given keyword or argument; a pattern is also a `regex`. -/
def ofKey? (key : String) : Option ConstraintKind :=
  match all.find? fun kind => kind.keyword == key || kind.argument == key with
  | some kind => some kind
  | none => if key = "regex" then some pattern else none

/-- Whether the bound of the kind is compared with the value of the field. -/
def isComparison : ConstraintKind → Bool
  | gt | ge | lt | le => true
  | _ => false

end ConstraintKind

/-- A number of a document. -/
inductive Quantity
  | whole (n : Int)
  | real (x : Binary64)
  deriving DecidableEq, Repr

namespace Quantity

/-- The number that a value is. -/
def ofValue? : Value → Option Quantity
  | .int n => some (whole n)
  | .float x => some (real x)
  | _ => none

/-- The value that a number is. -/
def toValue : Quantity → Value
  | whole n => .int n
  | real x => .float x

/-- The nearest number of 64 bits with a sign. -/
def clampWord (n : Int) : Int :=
  max (-0x8000000000000000) (min n 0x7FFFFFFFFFFFFFFF)

/-- The number as a floating-point number. -/
def toReal : Quantity → Quantity
  | whole n => real (Binary64.ofInt n)
  | real x => real x

/-- The number as a whole one: the part after the point is cut off, and the result is held within
    the numbers of 64 bits. -/
def toWhole : Quantity → Quantity
  | whole n => whole n
  | real x => whole (clampWord x.truncate)

end Quantity

/-- What a constraint says. -/
inductive Bound
  | flag (b : Bool)
  | number (q : Quantity)
  | count (n : Nat)
  | text (s : String)
  deriving DecidableEq, Repr

namespace Bound

/-- The literal that denotes the bound. -/
def literal : Bound → String
  | flag b => Python.truth b
  | number q => Python.literal q.toValue
  | count n => toString n
  | text s => Python.quoted s

/-- A numeric bound as a floating-point number or as a whole one; other bounds are kept. -/
def coerced (asReal : Bool) : Bound → Bound
  | number q => number (if asReal then q.toReal else q.toWhole)
  | other => other

end Bound

namespace ConstraintKind

/-- The bound that a value gives to a constraint of the kind, if it is of the right sort. -/
def readBound? (kind : ConstraintKind) (value : Value) : Option Bound :=
  match kind with
  | uniqueItems => value.asBool?.map .flag
  | gt | ge | lt | le | multipleOf => (Quantity.ofValue? value).map .number
  | minItems | maxItems | minLength | maxLength => value.asNat?.map .count
  | pattern => value.asText?.map .text

end ConstraintKind

/-- A set of constraints. -/
structure ConstraintSet where
  /-- The bound of a kind, if the set constrains it. -/
  get? : ConstraintKind → Option Bound

namespace ConstraintSet

/-- The set without constraints. -/
def empty : ConstraintSet := ⟨fun _ => none⟩

instance : Inhabited ConstraintSet := ⟨empty⟩

/-- The set with one bound replaced. -/
def insert (set : ConstraintSet) (kind : ConstraintKind) (bound : Bound) : ConstraintSet :=
  ⟨fun other => if other = kind then some bound else set.get? other⟩

/-- The constraints in the order of their kinds. -/
def toList (set : ConstraintSet) : List (ConstraintKind × Bound) :=
  ConstraintKind.all.filterMap fun kind => (set.get? kind).map (kind, ·)

/-- Whether the set constrains anything. -/
def isConstraining (set : ConstraintSet) : Bool :=
  ConstraintKind.all.any fun kind => (set.get? kind).isSome

/-- The pattern, if the set has one. -/
def pattern? (set : ConstraintSet) : Option String :=
  match set.get? .pattern with
  | some (.text s) => some s
  | _ => none

/-- The constraints of both sets; where both speak, the second one does. -/
def override (set updates : ConstraintSet) : ConstraintSet :=
  ⟨fun kind => (updates.get? kind).orElse fun _ => set.get? kind⟩

/-- The constraints of two sets, either of which may be missing. -/
def merge : Option ConstraintSet → Option ConstraintSet → Option ConstraintSet
  | some a, some b => some (a.override b)
  | some a, none => some a
  | none, b => b

/-! ## Reading keywords -/

/-- Takes one keyword into the set. Unknown keywords and values of the wrong sort are ignored. -/
def readKeyword (set : ConstraintSet) (entry : String × Value) : ConstraintSet :=
  match ConstraintKind.ofKey? entry.1 with
  | some kind =>
    match kind.readBound? entry.2 with
    | some bound => set.insert kind bound
    | none => set
  | none => set

/-- Moves the value of a keyword to another one, unless that one is present. -/
def renameKeyword (source target : String) (keywords : Entries Value) : Entries Value :=
  match Entries.get? keywords source with
  | some value => Entries.putNew (Entries.drop keywords source) target value
  | none => keywords

/-- Reads constraints from keywords. Nulls count as missing. If `itemsAsLength` is set, bounds on
    the number of items are bounds on the length, unless those are given themselves. -/
def ofKeywords (itemsAsLength : Bool) (keywords : Entries Value) : ConstraintSet :=
  let present := keywords.filter fun entry => !entry.2.isNull
  let renamed :=
    if itemsAsLength then
      renameKeyword "maxItems" "maxLength" (renameKeyword "minItems" "minLength" present)
    else present
  renamed.foldl readKeyword empty

end ConstraintSet

end SchemaPress
