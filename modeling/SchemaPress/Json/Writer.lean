import SchemaPress.Text.Character
import SchemaPress.Value

set_option autoImplicit false

/-! # Writing JSON text

The compact text of a value: no blanks, fields in order, and an escape only where the grammar
asks for one. -/

namespace SchemaPress.Json

/-- The written form of one character of a string. -/
def writeChar (c : Char) : List Char :=
  match c with
  | '"' => ['\\', '"']
  | '\\' => ['\\', '\\']
  | '\n' => ['\\', 'n']
  | '\r' => ['\\', 'r']
  | '\t' => ['\\', 't']
  | c =>
    if c.toNat = 8 then ['\\', 'b']
    else if c.toNat = 12 then ['\\', 'f']
    else if c.toNat < 32 then
      ['\\', 'u', '0', '0', Text.hexDigit (c.toNat / 16), Text.hexDigit (c.toNat % 16)]
    else [c]

/-- A string in quotes. -/
def writeString (s : String) : String :=
  String.ofList ('"' :: s.toList.flatMap writeChar ++ ['"'])

mutual

/-- The compact text of a value. -/
def write : Value → String
  | .null => "null"
  | .bool b => if b then "true" else "false"
  | .int n => toString n
  | .float x => Layout.compact.write x
  | .str s => writeString s
  | .arr items => "[" ++ ",".intercalate (writeItems items) ++ "]"
  | .obj fields => "\x7b" ++ ",".intercalate (writeFields fields) ++ "\x7d"

/-- The compact texts of the items. -/
def writeItems : List Value → List String
  | [] => []
  | item :: rest => write item :: writeItems rest

/-- The compact texts of the fields. -/
def writeFields : List (String × Value) → List String
  | [] => []
  | (name, value) :: rest => (writeString name ++ ":" ++ write value) :: writeFields rest

end

end SchemaPress.Json
