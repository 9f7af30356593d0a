import SchemaPress.Yaml.Scalar

set_option autoImplicit false

/-! # YAML tags

A tag says of what kind a node is. It is written as a handle and a suffix, or in full between
angle brackets, and percent escapes in it spell single bytes. They come in groups that are shaped
like characters of UTF-8, but a group need not encode any character, so a tag is kept as bytes.
A zero byte ends a tag wherever it is spelled. -/

namespace SchemaPress.Yaml

/-- The kind that a node is asked to be of, as bytes. -/
structure Tag where
  bytes : List UInt8
  deriving DecidableEq, Repr, Inhabited

/-- A tag as it is written: a handle, which is empty for a tag in full, and a suffix. -/
structure WrittenTag where
  handle : String
  suffix : List UInt8
  deriving DecidableEq, Repr, Inhabited

/-! ## Bytes of tags -/

namespace Tag

/-- The bytes that encode characters. -/
def encode (cs : List Char) : List UInt8 :=
  cs.flatMap String.utf8EncodeChar

/-- The bytes before the first zero. -/
def beforeZero (bytes : List UInt8) : List UInt8 :=
  bytes.takeWhile (· != 0)

/-- What the tags of the core schema begin with. -/
def coreStart : List UInt8 :=
  encode "tag:yaml.org,2002:".toList

/-- The tag of a kind of the core schema. -/
def core (kind : String) : Tag :=
  ⟨coreStart ++ encode kind.toList⟩

/-- Whether a tag begins with an exclamation mark. -/
def isLocal (tag : Tag) : Bool :=
  tag.bytes.head? == some 0x21

/-- Whether a tag names a kind that only an application knows: it is local and encodes a text. -/
def isForeign (tag : Tag) : Bool :=
  tag.isLocal && (String.fromUTF8? (ByteArray.mk tag.bytes.toArray)).isSome

end Tag

/-! ## Percent escapes -/

/-- Reads the byte that a percent sign and two hexadecimal digits spell. -/
def percentByte? : List Char → Option (UInt8 × List Char)
  | '%' :: high :: low :: rest => (hexNumber? [high, low]).map fun n => (n.toUInt8, rest)
  | _ => none

/-- How many bytes follow the first byte of a group. -/
def followers? (first : UInt8) : Option Nat :=
  if first < 0x80 then some 0
  else if 0xC0 ≤ first ∧ first < 0xE0 then some 1
  else if 0xE0 ≤ first ∧ first < 0xF0 then some 2
  else if 0xF0 ≤ first ∧ first < 0xF8 then some 3
  else none

/-- Reads as many bytes that follow the first one of a group. -/
def percentTail? : (count : Nat) → List Char → Option (List UInt8)
  | 0, _ => some []
  | count + 1, cs => do
    let (byte, rest) ← percentByte? cs
    if 0x80 ≤ byte ∧ byte < 0xC0 then return byte :: (← percentTail? count rest) else none

/-- Reads the bytes of one group of percent escapes. -/
def percentGroup? (cs : List Char) : Option (List UInt8) := do
  let (first, rest) ← percentByte? cs
  return first :: (← percentTail? (← followers? first) rest)

/-! ## Reading tags -/

/-- Whether a character may stand in a tag; between angle brackets three more may. -/
def isTagChar (verbatim : Bool) (c : Char) : Bool :=
  let marks :=
    [';', '/', '?', ':', '@', '&', '=', '+', '$', '.', '%', '!', '~', '*', '\'', '(', ')']
  isNameChar c || marks.contains c || (verbatim && [',', '[', ']'].contains c)

/-- Reads the bytes of a tag as far as its characters go. -/
def tagBytes? (verbatim : Bool) : (fuel : Nat) → Cursor → Option (List UInt8 × Cursor)
  | 0, cursor => some ([], cursor)
  | fuel + 1, cursor =>
    match cursor.rest with
    | [] => some ([], cursor)
    | c :: _ =>
      if c == '%' then do
        let group ← percentGroup? cursor.rest
        let (bytes, cursor) ← tagBytes? verbatim fuel (cursor.skip (3 * group.length))
        return (group ++ bytes, cursor)
      else if isTagChar verbatim c then do
        let (bytes, cursor) ← tagBytes? verbatim fuel (cursor.skip 1)
        return (Tag.encode [c] ++ bytes, cursor)
      else some ([], cursor)

/-- Reads a part of a tag that must not be left out; a zero byte ends what it stands for. -/
def tagPart? (verbatim : Bool) (cursor : Cursor) : Option (List UInt8 × Cursor) := do
  match ← tagBytes? verbatim cursor.rest.length cursor with
  | ([], _) => none
  | (bytes, cursor) => return (Tag.beforeZero bytes, cursor)

/-- Reads a tag handle: an exclamation mark, then perhaps a name and another mark. -/
def tagHandle? (cursor : Cursor) : Option (String × Cursor) :=
  match cursor.rest with
  | '!' :: rest =>
    let name := rest.takeWhile isNameChar
    let closed := (rest.drop name.length).head? == some '!'
    let handle := '!' :: name ++ (if closed then ['!'] else [])
    some (String.ofList handle, cursor.skip handle.length)
  | _ => none

/-- Whether a text is a tag handle that has both marks. -/
def isClosedHandle (handle : String) : Bool :=
  match handle.toList with
  | '!' :: rest => rest.getLast? == some '!'
  | _ => false

/-- A tag behind a single exclamation mark; the mark alone is a tag in full. -/
def WrittenTag.ofSuffix : List UInt8 → WrittenTag
  | [] => ⟨"", Tag.encode ['!']⟩
  | suffix => ⟨"!", suffix⟩

/-- Reads a tag in any of its forms, where the cursor is at its mark. -/
def tagForm? (cursor : Cursor) : Option (WrittenTag × Cursor) :=
  match cursor.rest with
  | '!' :: '<' :: _ => do
    let (suffix, cursor) ← tagPart? true (cursor.skip 2)
    if cursor.rest.head? == some '>' then return (⟨"", suffix⟩, cursor.skip 1) else none
  | _ => do
    let (handle, cursor) ← tagHandle? cursor
    if isClosedHandle handle then
      let (suffix, cursor) ← tagPart? false cursor
      return (⟨handle, suffix⟩, cursor)
    else
      let (bytes, cursor) ← tagBytes? false cursor.rest.length cursor
      let suffix := Tag.encode (handle.toList.drop 1) ++ bytes
      return (.ofSuffix (Tag.beforeZero suffix), cursor)

/-- Reads a tag, where the cursor is at its mark; a word has to end behind it. -/
def tag? (inFlow : Bool) (cursor : Cursor) : Option (WrittenTag × Cursor) := do
  let (tag, cursor) ← tagForm? cursor
  if atWordEnd cursor.rest || (inFlow && cursor.rest.head? == some ',') then return (tag, cursor)
  else none

end SchemaPress.Yaml
