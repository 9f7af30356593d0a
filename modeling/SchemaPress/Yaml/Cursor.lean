set_option autoImplicit false

/-! # Places in a YAML text

The classes of characters that YAML tells apart, and a cursor: what is left of a text together
with how many bytes, lines and columns lie before it. -/

namespace SchemaPress.Yaml

/-! ## Characters -/

/-- Whether a character may stand in a text at all. -/
def isAllowed (c : Char) : Bool :=
  let n := c.toNat
  n == 0x09 || n == 0x0A || n == 0x0D || (0x20 ≤ n && n ≤ 0x7E) || n == 0x85 ||
    (0xA0 ≤ n && n ≤ 0xFFFD) || 0x10000 ≤ n

/-- Whether a character ends a line. -/
def isBreak (c : Char) : Bool :=
  c == '\n' || c == '\r' || c == '\x85' || c == '\u2028' || c == '\u2029'

/-- Whether a character separates words within a line. -/
def isSpacing (c : Char) : Bool :=
  c == ' ' || c == '\t'

/-- Whether a character belongs to a word, so that it neither separates words nor ends a line. -/
def isWordChar (c : Char) : Bool :=
  !(isSpacing c || isBreak c)

/-- Whether a character may stand in the name of an anchor, a directive or a tag handle. -/
def isNameChar (c : Char) : Bool :=
  c.isAlphanum || c == '_' || c == '-'

/-- Whether a word ends here: at the end of the text, before spacing or before a line break. -/
def atWordEnd : List Char → Bool
  | [] => true
  | c :: _ => !isWordChar c

/-- Whether a line ends here. -/
def atLineEnd : List Char → Bool
  | [] => true
  | c :: _ => isBreak c

/-- What a line break contributes to a text: the three common ones are a line feed. -/
def breakText : List Char → String
  | [] => ""
  | c :: _ => if c == '\u2028' || c == '\u2029' then c.toString else "\n"

/-! ## Cursors -/

/-- A place in a text; `index` counts the bytes before it in UTF-8. -/
structure Cursor where
  rest : List Char
  index : Nat := 0
  line : Nat := 0
  column : Nat := 0
  deriving Repr, Inhabited

/-- The number of bytes of some characters in UTF-8. -/
def byteCount (cs : List Char) : Nat :=
  cs.foldl (fun count c => count + c.utf8Size) 0

namespace Cursor

/-- The cursor behind the next `count` characters, none of which ends a line. -/
def skip (cursor : Cursor) (count : Nat) : Cursor :=
  { cursor with
    rest := cursor.rest.drop count
    index := cursor.index + byteCount (cursor.rest.take count)
    column := cursor.column + count }

/-- The cursor behind the longest run of characters of a class within the line. -/
def skipWhile (cursor : Cursor) (p : Char → Bool) : Cursor :=
  cursor.skip (cursor.rest.takeWhile p).length

/-- The cursor at the start of the next line, where the rest begins with a line break. -/
def skipBreak (cursor : Cursor) : Cursor :=
  let (rest, width) := match cursor.rest with
    | '\r' :: '\n' :: rest => (rest, 2)
    | c :: rest => (rest, c.utf8Size)
    | [] => ([], 0)
  { rest, index := cursor.index + width, line := cursor.line + 1, column := 0 }

/-- The cursor at the end of a comment, if one begins here. -/
def skipComment (cursor : Cursor) : Cursor :=
  if cursor.rest.head? == some '#' then cursor.skipWhile (!isBreak ·) else cursor

/-- The cursor behind spacing, an optional comment and the line break, if nothing else is left of
    the line. -/
def finishLine? (cursor : Cursor) : Option Cursor :=
  let cursor := (cursor.skipWhile isSpacing).skipComment
  match cursor.rest with
  | [] => some cursor
  | c :: _ => if isBreak c then some cursor.skipBreak else none

/-- Whether a line begins here with three marks that are a word of their own. -/
def atMarks (cursor : Cursor) (mark : Char) : Bool :=
  cursor.column == 0 && cursor.rest.take 3 == [mark, mark, mark] && atWordEnd (cursor.rest.drop 3)

/-- Whether a document begins or ends here. -/
def atDocumentMark (cursor : Cursor) : Bool :=
  cursor.atMarks '-' || cursor.atMarks '.'

end Cursor

end SchemaPress.Yaml
