import SchemaPress.Text.Character
import SchemaPress.Value

set_option autoImplicit false

/-! # Python literals

The Python expression that denotes a document value, written the way `repr` writes it. A string
stands in single quotes unless it holds single quotes and no double ones; only the backslash, the
quote in use and the control characters are escaped. -/

namespace SchemaPress.Python

/-! ## Strings -/

/-- The quote that surrounds a string. -/
def quoteFor (cs : List Char) : Char :=
  if cs.contains '\'' && !cs.contains '"' then '"' else '\''

/-- The written form of one character between the given quotes. -/
def escapeChar (quote c : Char) : List Char :=
  if c = '\\' then ['\\', '\\']
  else if c = '\n' then ['\\', 'n']
  else if c = '\r' then ['\\', 'r']
  else if c = '\t' then ['\\', 't']
  else if c = quote then ['\\', c]
  else if c.toNat < 32 ∨ c.toNat = 127 then
    ['\\', 'x', Text.hexDigit (c.toNat / 16), Text.hexDigit (c.toNat % 16)]
  else [c]

/-- The characters of a string literal. -/
def quoteChars (cs : List Char) : List Char :=
  let quote := quoteFor cs
  quote :: cs.flatMap (escapeChar quote) ++ [quote]

/-- The string literal that denotes a text. -/
def quoted (s : String) : String :=
  String.ofList (quoteChars s.toList)

/-! ## Values -/

/-- The truth values. -/
def truth (b : Bool) : String :=
  if b then "True" else "False"

mutual

/-- The literal that denotes a value. -/
def literal : Value → String
  | .null => "None"
  | .bool b => truth b
  | .int n => toString n
  | .float x => Layout.source.write x
  | .str s => quoted s
  | .arr items => "[" ++ ", ".intercalate (literalItems items) ++ "]"
  | .obj fields => "\x7b" ++ ", ".intercalate (literalFields fields) ++ "\x7d"

/-- The literals of the items. -/
def literalItems : List Value → List String
  | [] => []
  | item :: rest => literal item :: literalItems rest

/-- The entries of a dictionary display. -/
def literalFields : List (String × Value) → List String
  | [] => []
  | (name, value) :: rest => (quoted name ++ ": " ++ literal value) :: literalFields rest

end

end SchemaPress.Python
