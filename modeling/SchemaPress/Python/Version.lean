import SchemaPress.Decode

set_option autoImplicit false

/-! # Python releases

The releases that a generated module can be written for, and what their type hints can use. -/

namespace SchemaPress.Python

/-- A release of Python, from 3.8 to 3.13. -/
inductive Version
  | v38 | v39 | v310 | v311 | v312 | v313
  deriving DecidableEq, Repr

namespace Version

instance : Inhabited Version := ⟨v312⟩

/-- The minor number of the release. -/
def minor : Version → Nat
  | v38 => 8
  | v39 => 9
  | v310 => 10
  | v311 => 11
  | v312 => 12
  | v313 => 13

/-- All releases, oldest first. -/
def all : List Version := [v38, v39, v310, v311, v312, v313]

/-- The number of the release. -/
def label (version : Version) : String :=
  "3." ++ toString version.minor

/-- The release with the given number. -/
def ofLabel? (label : String) : Option Version :=
  all.find? (·.label == label)

/-- Whether `typing` has `Annotated`. -/
def hasAnnotated (version : Version) : Bool := 9 ≤ version.minor

/-- Whether `typing` has `Literal`. -/
def hasLiteral (version : Version) : Bool := 8 ≤ version.minor

/-- Whether types can be joined by an operator. -/
def hasUnionOperator (version : Version) : Bool := 10 ≤ version.minor

/-- Whether the built-in containers take type arguments. -/
def hasNativeCollections (version : Version) : Bool := 9 ≤ version.minor

/-- The releases by their names. -/
def choices : List (String × Version) :=
  all.map fun version => (version.label, version)

end Version

end SchemaPress.Python
