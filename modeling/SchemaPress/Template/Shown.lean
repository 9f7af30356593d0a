import SchemaPress.Sorted
import SchemaPress.Text.Printable
import SchemaPress.Value

set_option autoImplicit false

/-! # Values in templates

How a value is written where a template outputs it: texts as they are, but in double quotes
inside a list or an object; objects sorted by their names. -/

namespace SchemaPress.Template

/-- The fields sorted by name. -/
def sortedByName {α : Type} (entries : Entries α) : Entries α :=
  Sorted.sort (fun a b => !decide (b.1 < a.1)) entries

mutual

/-- A value inside a list or an object. -/
def showNested : Value → String
  | .null => "None"
  | .bool b => if b then "True" else "False"
  | .int n => toString n
  | .float x => Layout.source.write x
  | .str s => Text.quotedText s
  | .arr items => "[" ++ ", ".intercalate (showItems items) ++ "]"
  | .obj fields =>
    "\x7b" ++ ", ".intercalate ((sortedByName (showFields fields)).map fun (name, text) =>
      Text.quotedText name ++ ": " ++ text) ++ "\x7d"

/-- The items of a list. -/
def showItems : List Value → List String
  | [] => []
  | item :: rest => showNested item :: showItems rest

/-- The fields of an object. -/
def showFields : List (String × Value) → List (String × String)
  | [] => []
  | (name, value) :: rest => (name, showNested value) :: showFields rest

end

/-- A value as a template writes it. -/
def showValue : Value → String
  | .str s => s
  | .float x => Layout.plain.write x
  | other => showNested other

end SchemaPress.Template
