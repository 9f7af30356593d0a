import SchemaPress.Json.Number
import SchemaPress.Text.Character

set_option autoImplicit false

/-! # Reading JSON text

A reader for the JSON grammar over the characters of a text. At most 127 containers may be
nested. Repeated names in an object are kept as they stand by `Json.read?`; `Json.parse?` merges
them. -/

namespace SchemaPress.Json

/-! ## Blanks and strings -/

/-- Whether a character may stand between tokens. -/
def isSpace (c : Char) : Bool :=
  c == ' ' || c == '\n' || c == '\t' || c == '\r'

/-- The text from the first character that is not a space. -/
def skipSpace (cs : List Char) : List Char :=
  cs.dropWhile isSpace

/-- Reads four hexadecimal digits. -/
def readHex : List Char → Option (Nat × List Char)
  | a :: b :: c :: d :: rest => do
    let value := ((← Text.hexValue? a) * 16 + (← Text.hexValue? b)) * 256 +
      ((← Text.hexValue? c) * 16 + (← Text.hexValue? d))
    return (value, rest)
  | _ => none

/-- Reads the code point behind `\u`: one unit, or a pair of surrogates. -/
def readUnicode (cs : List Char) : Option (Char × List Char) := do
  let (unit, rest) ← readHex cs
  if 0xD800 ≤ unit ∧ unit ≤ 0xDBFF then
    match rest with
    | '\\' :: 'u' :: rest =>
      let (low, rest) ← readHex rest
      guard (0xDC00 ≤ low ∧ low ≤ 0xDFFF)
      return (Char.ofNat (0x10000 + (unit - 0xD800) * 0x400 + (low - 0xDC00)), rest)
    | _ => none
  else if 0xDC00 ≤ unit ∧ unit ≤ 0xDFFF then none
  else return (Char.ofNat unit, rest)

/-- The character that an escape of one letter stands for. -/
def escaped? : Char → Option Char
  | '"' => some '"'
  | '\\' => some '\\'
  | '/' => some '/'
  | 'b' => some (Char.ofNat 8)
  | 'f' => some (Char.ofNat 12)
  | 'n' => some '\n'
  | 'r' => some '\r'
  | 't' => some '\t'
  | _ => none

/-- Reads the characters of a string up to its closing quote; `acc` holds those already read,
    last one first. -/
def readChars : (fuel : Nat) → List Char → List Char → Option (String × List Char)
  | 0, _, _ => none
  | fuel + 1, acc, cs =>
    match cs with
    | [] => none
    | '"' :: rest => some (String.ofList acc.reverse, rest)
    | '\\' :: 'u' :: rest => do
      let (c, rest) ← readUnicode rest
      readChars fuel (c :: acc) rest
    | '\\' :: letter :: rest => do
      let c ← escaped? letter
      readChars fuel (c :: acc) rest
    | c :: rest => if c.toNat < 32 ∨ c = '\\' then none else readChars fuel (c :: acc) rest

/-- Reads a string after its opening quote. -/
def readString (cs : List Char) : Option (String × List Char) :=
  readChars (cs.length + 1) [] cs

/-! ## Values -/

/-- The number of containers that may be nested, plus one. -/
def depthLimit : Nat := 128

mutual

/-- Reads a value at the start of the text. -/
def readValue : (fuel depth : Nat) → List Char → Option (Value × List Char)
  | 0, _, _ => none
  | fuel + 1, depth, cs =>
    match skipSpace cs with
    | 'n' :: 'u' :: 'l' :: 'l' :: rest => some (.null, rest)
    | 't' :: 'r' :: 'u' :: 'e' :: rest => some (.bool true, rest)
    | 'f' :: 'a' :: 'l' :: 's' :: 'e' :: rest => some (.bool false, rest)
    | '"' :: rest => (readString rest).map fun (s, rest) => (.str s, rest)
    | '[' :: rest =>
      if depth ≤ 1 then none
      else match skipSpace rest with
        | ']' :: rest => some (.arr [], rest)
        | rest => (readItems fuel (depth - 1) rest).map fun (items, rest) => (.arr items, rest)
    | '\x7b' :: rest =>
      if depth ≤ 1 then none
      else match skipSpace rest with
        | '\x7d' :: rest => some (.obj [], rest)
        | rest =>
          (readFields fuel (depth - 1) rest).map fun (fields, rest) => (.obj fields, rest)
    | cs => readNumber cs

/-- Reads the items of an array, at least one, and the closing bracket. -/
def readItems : (fuel depth : Nat) → List Char → Option (List Value × List Char)
  | 0, _, _ => none
  | fuel + 1, depth, cs => do
    let (item, rest) ← readValue fuel depth cs
    match skipSpace rest with
    | ',' :: rest =>
      let (items, rest) ← readItems fuel depth rest
      return (item :: items, rest)
    | ']' :: rest => return ([item], rest)
    | _ => none

/-- Reads the fields of an object, at least one, and the closing brace. -/
def readFields : (fuel depth : Nat) → List Char → Option (List (String × Value) × List Char)
  | 0, _, _ => none
  | fuel + 1, depth, cs =>
    match skipSpace cs with
    | '"' :: rest => do
      let (name, rest) ← readString rest
      match skipSpace rest with
      | ':' :: rest =>
        let (value, rest) ← readValue fuel depth rest
        match skipSpace rest with
        | ',' :: rest =>
          let (fields, rest) ← readFields fuel depth rest
          return ((name, value) :: fields, rest)
        | '\x7d' :: rest => return ([(name, value)], rest)
        | _ => none
      | _ => none
    | _ => none

end

/-- Reads a whole text as one value, repeated names kept as they stand. -/
def read? (text : String) : Option Value := do
  let cs := text.toList
  let (value, rest) ← readValue (2 * cs.length + 2) depthLimit cs
  guard (skipSpace rest).isEmpty
  return value

/-- Reads a whole text as one value, repeated names merged. -/
def parse? (text : String) : Option Value :=
  (read? text).map Value.merge

end SchemaPress.Json
