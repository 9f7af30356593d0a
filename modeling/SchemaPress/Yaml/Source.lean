import SchemaPress.Source
import SchemaPress.Yaml.Value

set_option autoImplicit false

/-! # Files of settings in YAML

What YAML nodes are good for. A scalar is a text where a text is wanted, whatever it means
elsewhere, and a scalar that is left out is an empty list or an empty record. An entry that is
put aside keeps only what its scalars mean, and everything in it has to mean something. -/

namespace SchemaPress.Yaml

/-- What is left of a scalar that is put aside. -/
def Meaning.held : Meaning → Held
  | null => .null
  | truth b => .truth b
  | integer n => .integer n
  | real (.finite x) => .real (some x)
  | real .notFinite => .real none
  | text s => .text s

namespace Node

/-- Whether a scalar is written with no character at all. -/
def isBlank : Node → Bool
  | .scalar _ style text => style = .plain && text == ""
  | _ => false

/-- Whether a node leaves a slot empty that may be empty. A tag that asks for null has to stand
    before a spelling of it. -/
def isAbsent? : Node → Option Bool
  | .scalar tag .plain text =>
    match tag with
    | none => some (text == "" || isNullText text)
    | some tag =>
      if tag = .core "null" then if isNullText text then some true else none
      else some false
  | _ => some false

/-- The truth value of a plain scalar, or of a literal one whose tag asks for a truth value. -/
def truth? : Node → Option Bool
  | .scalar tag style text =>
    if style = .plain || (style = .literal && tag = some (.core "bool")) then Yaml.truth? text
    else none
  | _ => none

/-- The items of a sequence. -/
def items? : Node → Option (List Node)
  | .sequence _ items => some items
  | node => if node.isBlank then some [] else none

/-- The entries of a mapping, by the texts of their keys. -/
def entries? : Node → Option (List (String × Node))
  | .mapping _ entries => entries.mapM fun entry => entry.1.text?.map fun name => (name, entry.2)
  | node => if node.isBlank then some [] else none

mutual

/-- What is left of a node that is put aside. -/
def held? : Node → Option Held
  | .scalar tag style text => (meaning? tag style text).map Meaning.held
  | .sequence tag items =>
    if tag.any Tag.isForeign then none else (heldItems? items).map .list
  | .mapping tag entries =>
    if tag.any Tag.isForeign then none else (heldEntries? entries).map .record

/-- What is left of items that are put aside. -/
def heldItems? : List Node → Option (List Held)
  | [] => some []
  | item :: rest => do
    let held ← item.held?
    return held :: (← heldItems? rest)

/-- What is left of entries that are put aside. -/
def heldEntries? : List (Node × Node) → Option (List (Held × Held))
  | [] => some []
  | (key, node) :: rest => do
    let heldKey ← key.held?
    let held ← node.held?
    return (heldKey, held) :: (← heldEntries? rest)

end

/-- Nodes of YAML documents. -/
instance : Source Node where
  text? := text?
  truth? := truth?
  isAbsent? := isAbsent?
  items? := items?
  entries? := entries?
  value? := value?
  held? := held?

end Node

end SchemaPress.Yaml
