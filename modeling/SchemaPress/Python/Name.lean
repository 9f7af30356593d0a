import SchemaPress.Text.Numeral
import SchemaPress.Text.Uppercase

set_option autoImplicit false

/-! # Python names

Which texts are names, and how the names of classes and attributes are made from the names that a
document uses. Letters and numerals are those of Unicode. -/

namespace SchemaPress.Python

/-- The reserved words. -/
def keywords : List String := [
  "False", "None", "True", "and", "as", "assert", "async", "await", "break", "class", "continue",
  "def", "del", "elif", "else", "except", "finally", "for", "from", "global", "if", "import",
  "in", "is", "lambda", "nonlocal", "not", "or", "pass", "raise", "return", "try", "while",
  "with", "yield"]

/-- Whether a text is a reserved word. -/
def isKeyword (name : String) : Bool :=
  keywords.contains name

/-- Whether a character may continue a name. -/
def continuesName (c : Char) : Bool :=
  c == '_' || Text.isAlphanumeric c

/-- Whether a text is a name that can be used as it is. -/
def isIdentifier (name : String) : Bool :=
  match name.toList with
  | [] => false
  | first :: rest =>
    (first == '_' || Text.isLetter first) && rest.all continuesName && !isKeyword name

/-! ## Class names -/

/-- The words of a text: its longest runs of letters and numerals. -/
def words (cs : List Char) : List (List Char) :=
  (cs.splitBy fun a b => Text.isAlphanumeric a == Text.isAlphanumeric b).filter
    fun word => word.any Text.isAlphanumeric

/-- A word with its first character in upper case. -/
def capitalized : List Char → List Char
  | [] => []
  | first :: rest => Text.uppercase first ++ rest

/-- The class name made from a text: its words, each with a capital. A text without words, or one
    that begins with a digit, gets `Model` in front. -/
def className (raw : String) : String :=
  let joined := (words raw.toList).flatMap capitalized
  match joined with
  | [] => "Model"
  | first :: _ =>
    if first.isDigit then "Model" ++ String.ofList joined else String.ofList joined

/-! ## Attribute names -/

/-- The attribute name made from a text: characters that cannot be part of a name become `_`, a
    leading `_` or digit gets `field` in front, and a reserved word gets a `_` behind it. -/
def attributeName (raw : String) : String :=
  if isIdentifier raw && raw.toList.head? != some '_' then raw
  else
    let cleaned := raw.toList.map fun c => if continuesName c then c else '_'
    match cleaned with
    | [] => "field"
    | first :: _ =>
      let fronted :=
        if first = '_' then "field" ++ String.ofList cleaned
        else if first.isDigit then "field_" ++ String.ofList cleaned
        else String.ofList cleaned
      if isKeyword fronted then fronted ++ "_" else fronted

end SchemaPress.Python
