import SchemaPress.Yaml.Tag

set_option autoImplicit false

/-! # YAML tokens

A YAML text as a list of tokens. Indentation becomes tokens of its own: a block collection is
opened where a line goes deeper and closed where a line comes back. Whether a word is the key of
a mapping shows only at the colon behind it, so a possible key is remembered with its place, and
the tokens that mark it are put in front of it once the colon is found. -/

namespace SchemaPress.Yaml

/-- The tokens of a text. -/
inductive Token
  | versionDirective (major minor : Nat)
  | tagDirective (handle : String) (start : List UInt8)
  | documentStart
  | documentEnd
  | blockSequenceStart
  | blockMappingStart
  | blockEnd
  | flowSequenceStart
  | flowSequenceEnd
  | flowMappingStart
  | flowMappingEnd
  | flowEntry
  | blockEntry
  | key
  | value
  | aliasTo (name : String)
  | anchor (name : String)
  | tag (tag : WrittenTag)
  | scalar (style : ScalarStyle) (text : String)
  deriving DecidableEq, Repr, Inhabited

/-! ## Names and directives -/

/-- Reads the name of an anchor or an alias, where the cursor is at its mark. -/
def anchorName? (cursor : Cursor) : Option (String × Cursor) :=
  let name := (cursor.rest.drop 1).takeWhile isNameChar
  let after := cursor.skip (1 + name.length)
  let stops := atWordEnd after.rest ||
    after.rest.head?.any fun c => ['?', ':', ',', ']', '\x7d', '%', '@', '\x60'].contains c
  if name.isEmpty || !stops then none else some (String.ofList name, after)

/-- Reads a number of at most nine digits. -/
def versionNumber? (cursor : Cursor) : Option (Nat × Cursor) :=
  let digits := cursor.rest.takeWhile Char.isDigit
  if digits.isEmpty || 9 < digits.length then none
  else
    some (digits.foldl (fun n c => n * 10 + (c.toNat - '0'.toNat)) 0, cursor.skip digits.length)

/-- Reads the line of a directive, where the cursor is at the percent sign. -/
def directive? (cursor : Cursor) : Option (Token × Cursor) := do
  let name := (cursor.rest.drop 1).takeWhile isNameChar
  let cursor := cursor.skip (1 + name.length)
  guard (atWordEnd cursor.rest)
  let cursor := cursor.skipWhile isSpacing
  let (token, cursor) ← (match String.ofList name with
    | "YAML" => do
      let (major, cursor) ← versionNumber? cursor
      guard (cursor.rest.head? == some '.')
      let (minor, cursor) ← versionNumber? (cursor.skip 1)
      return (.versionDirective major minor, cursor)
    | "TAG" => do
      let (handle, cursor) ← tagHandle? cursor
      guard (handle == "!" || isClosedHandle handle)
      guard (cursor.rest.head?.any isSpacing)
      let cursor := cursor.skipWhile isSpacing
      let (start, cursor) ← tagPart? true cursor
      guard (atWordEnd cursor.rest)
      return (.tagDirective handle start, cursor)
    | _ => none : Option (Token × Cursor))
  return (token, ← cursor.finishLine?)

/-! ## Reading tokens -/

/-- A place where a key may have begun: the number of tokens before it, and whether only a key may
    stand there. -/
structure PossibleKey where
  place : Cursor
  tokensBefore : Nat
  required : Bool
  deriving Inhabited

/-- The state between two tokens. The tokens are in reverse. `key` belongs to the innermost pair
    of brackets or braces that is open and `outerKeys` to those around it; `indent` and
    `outerIndents` are the columns of the open block collections. -/
structure Tokenizer where
  cursor : Cursor
  tokens : List Token := []
  key : Option PossibleKey := none
  outerKeys : List (Option PossibleKey) := []
  indent : Option Nat := none
  outerIndents : List (Option Nat) := []
  keyAllowed : Bool := true
  deriving Inhabited

namespace Tokenizer

/-- Whether a bracket or a brace is open. -/
def inFlow (t : Tokenizer) : Bool :=
  !t.outerKeys.isEmpty

/-- Adds a token behind `width` characters. -/
def emit (t : Tokenizer) (token : Token) (width : Nat) : Tokenizer :=
  { t with tokens := token :: t.tokens, cursor := t.cursor.skip width }

/-- Puts a token behind the first `position` ones. -/
def insert (t : Tokenizer) (token : Token) (position : Nat) : Tokenizer :=
  { t with tokens := t.tokens.insertIdx (t.tokens.length - position) token }

/-! ### Possible keys -/

/-- Whether a possible key can no longer be one: a key ends in the line in which it begins and
    within 1024 bytes. -/
def isStale (t : Tokenizer) (key : PossibleKey) : Bool :=
  key.place.line < t.cursor.line || key.place.index + 1024 < t.cursor.index

/-- Forgets a possible key that is stale; a required one must not be. -/
def freshKey? (t : Tokenizer) : Option PossibleKey → Option (Option PossibleKey)
  | none => some none
  | some key =>
    if t.isStale key then if key.required then none else some none
    else some (some key)

/-- Forgets all possible keys that are stale. -/
def dropStaleKeys? (t : Tokenizer) : Option Tokenizer := do
  return { t with key := ← t.freshKey? t.key, outerKeys := ← t.outerKeys.mapM t.freshKey? }

/-- Forgets the innermost possible key; a required one must not be. -/
def dropKey? (t : Tokenizer) : Option Tokenizer :=
  if t.key.any (·.required) then none else some { t with key := none }

/-- Remembers that a key may begin here. -/
def saveKey? (t : Tokenizer) : Option Tokenizer :=
  if t.keyAllowed then do
    let t ← t.dropKey?
    let required := !t.inFlow && t.indent == some t.cursor.column
    return { t with key := some { place := t.cursor, tokensBefore := t.tokens.length, required } }
  else some t

/-! ### Indentation -/

/-- Opens a block collection at a column, unless one is open there, with its token behind the
    first `position` ones. -/
def openBlock (t : Tokenizer) (column position : Nat) (token : Token) : Tokenizer :=
  if !t.inFlow && t.indent.all (· < column) then
    { t.insert token position with
      indent := some column
      outerIndents := t.indent :: t.outerIndents }
  else t

/-- Closes the block collections, `depth` at most, that do not satisfy `stays`. -/
def closeBlocksWhile (stays : Nat → Bool) : (depth : Nat) → Tokenizer → Tokenizer
  | 0, t => t
  | depth + 1, t =>
    match t.indent with
    | none => t
    | some column =>
      if stays column then t
      else
        closeBlocksWhile stays depth { t with
          tokens := .blockEnd :: t.tokens
          indent := t.outerIndents.head?.getD none
          outerIndents := t.outerIndents.tail }

/-- Closes the block collections that are deeper than the cursor. -/
def closeDeeper (t : Tokenizer) : Tokenizer :=
  if t.inFlow then t
  else closeBlocksWhile (· ≤ t.cursor.column) (t.outerIndents.length + 1) t

/-- Closes all block collections. -/
def closeAll (t : Tokenizer) : Tokenizer :=
  if t.inFlow then t else closeBlocksWhile (fun _ => false) (t.outerIndents.length + 1) t

/-! ### Kinds of tokens -/

/-- Skips spacing, comments and line breaks. A line break outside brackets and braces allows a
    key; a tab is no spacing where a key may begin. A byte order mark that begins a line is no
    part of any token, but it takes up the first column. -/
def skipGaps : (fuel : Nat) → Tokenizer → Tokenizer
  | 0, t => t
  | fuel + 1, t =>
    let marked := t.cursor.column == 0 && t.cursor.rest.head? == some '\ufeff'
    let start := if marked then t.cursor.skip 1 else t.cursor
    let spacing := fun c => c == ' ' || (c == '\t' && (t.inFlow || !t.keyAllowed))
    let cursor := (start.skipWhile spacing).skipComment
    match cursor.rest with
    | [] => { t with cursor }
    | c :: _ =>
      if isBreak c then
        skipGaps fuel { t with
          cursor := cursor.skipBreak
          keyAllowed := t.keyAllowed || !t.inFlow }
      else { t with cursor }

/-- The start or the end of a document. -/
def documentMark? (t : Tokenizer) (token : Token) : Option Tokenizer := do
  let t ← t.closeAll.dropKey?
  return { t with keyAllowed := false }.emit token 3

/-- A directive line. -/
def directiveLine? (t : Tokenizer) : Option Tokenizer := do
  let t ← t.closeAll.dropKey?
  let (token, cursor) ← directive? t.cursor
  return { t with keyAllowed := false, tokens := token :: t.tokens, cursor }

/-- An opening bracket or brace. -/
def openFlow? (t : Tokenizer) (token : Token) : Option Tokenizer := do
  let t ← t.saveKey?
  return { t with key := none, outerKeys := t.key :: t.outerKeys, keyAllowed := true }.emit token 1

/-- A closing bracket or brace. -/
def closeFlow? (t : Tokenizer) (token : Token) : Option Tokenizer := do
  let t ← t.dropKey?
  let t := match t.outerKeys with
    | [] => t
    | key :: outerKeys => { t with key, outerKeys }
  return { t with keyAllowed := false }.emit token 1

/-- A comma between the entries of a flow collection. -/
def flowComma? (t : Tokenizer) : Option Tokenizer := do
  let t ← t.dropKey?
  return { t with keyAllowed := true }.emit .flowEntry 1

/-- The dash before an item of a block sequence. -/
def blockDash? (t : Tokenizer) : Option Tokenizer := do
  guard (t.inFlow || t.keyAllowed)
  let t ← (t.openBlock t.cursor.column t.tokens.length .blockSequenceStart).dropKey?
  return { t with keyAllowed := true }.emit .blockEntry 1

/-- The question mark before a key. -/
def keyMark? (t : Tokenizer) : Option Tokenizer := do
  guard (t.inFlow || t.keyAllowed)
  let t ← (t.openBlock t.cursor.column t.tokens.length .blockMappingStart).dropKey?
  return { t with keyAllowed := !t.inFlow }.emit .key 1

/-- The colon before a value. If a key may have begun before it, that was one. -/
def valueMark? (t : Tokenizer) : Option Tokenizer :=
  match t.key with
  | some key =>
    let t := t.insert .key key.tokensBefore
    let t := t.openBlock key.place.column key.tokensBefore .blockMappingStart
    some ({ t with key := none, keyAllowed := false }.emit .value 1)
  | none => do
    guard (t.inFlow || t.keyAllowed)
    let t := t.openBlock t.cursor.column t.tokens.length .blockMappingStart
    return { t with keyAllowed := !t.inFlow }.emit .value 1

/-- An anchor or an alias. -/
def anchorMark? (t : Tokenizer) (token : String → Token) : Option Tokenizer := do
  let t ← t.saveKey?
  let (name, cursor) ← anchorName? t.cursor
  return { t with keyAllowed := false, tokens := token name :: t.tokens, cursor }

/-- A tag. -/
def tagMark? (t : Tokenizer) : Option Tokenizer := do
  let t ← t.saveKey?
  let (tag, cursor) ← tag? t.inFlow t.cursor
  return { t with keyAllowed := false, tokens := .tag tag :: t.tokens, cursor }

/-- A block scalar. -/
def block? (t : Tokenizer) (folded : Bool) : Option Tokenizer := do
  let t ← t.dropKey?
  let (text, cursor) ← blockScalar? folded t.indent t.cursor
  let style : ScalarStyle := if folded then .folded else .literal
  return { t with keyAllowed := true, tokens := .scalar style text :: t.tokens, cursor }

/-- A quoted scalar. -/
def quoted? (t : Tokenizer) (quote : Char) : Option Tokenizer := do
  let t ← t.saveKey?
  let (text, cursor) ← quotedScalar? quote t.cursor
  return { t with keyAllowed := false, tokens := .scalar .quoted text :: t.tokens, cursor }

/-- A plain scalar. -/
def plain? (t : Tokenizer) : Option Tokenizer := do
  let t ← t.saveKey?
  let least := match t.indent with
    | some column => column + 1
    | none => 0
  let (text, lineEnds, cursor) ← plainScalar? t.inFlow least t.cursor
  return { t with keyAllowed := lineEnds, tokens := .scalar .plain text :: t.tokens, cursor }

/-- Whether a plain scalar may begin with the first of some characters. -/
def startsPlain (inFlow : Bool) : List Char → Bool
  | [] => false
  | c :: rest =>
    let marks := ['-', '?', ':', ',', '[', ']', '\x7b', '\x7d', '#', '&', '*', '!', '|', '>', '\'',
      '"', '%', '@', '\x60']
    (isWordChar c && !marks.contains c) || (c == '-' && !rest.head?.any isSpacing) ||
      (!inFlow && (c == '?' || c == ':') && !atWordEnd rest)

/-- Reads the token at the cursor, which is at a character that is no spacing. -/
def token? (t : Tokenizer) : Option Tokenizer :=
  let alone := atWordEnd (t.cursor.rest.drop 1)
  if t.cursor.column == 0 && t.cursor.rest.head? == some '%' then t.directiveLine?
  else if t.cursor.atMarks '-' then t.documentMark? .documentStart
  else if t.cursor.atMarks '.' then t.documentMark? .documentEnd
  else match t.cursor.rest.head? with
    | some '[' => t.openFlow? .flowSequenceStart
    | some '\x7b' => t.openFlow? .flowMappingStart
    | some ']' => t.closeFlow? .flowSequenceEnd
    | some '\x7d' => t.closeFlow? .flowMappingEnd
    | some ',' => t.flowComma?
    | some '*' => t.anchorMark? .aliasTo
    | some '&' => t.anchorMark? .anchor
    | some '!' => t.tagMark?
    | some '\'' => t.quoted? '\''
    | some '"' => t.quoted? '"'
    | some c =>
      if c == '-' && alone then t.blockDash?
      else if c == '?' && (t.inFlow || alone) then t.keyMark?
      else if c == ':' && (t.inFlow || alone) then t.valueMark?
      else if (c == '|' || c == '>') && !t.inFlow then t.block? (c == '>')
      else if startsPlain t.inFlow t.cursor.rest then t.plain?
      else none
    | none => none

/-- Reads the tokens up to the end of the text. -/
def run? : (fuel : Nat) → Tokenizer → Option (List Token)
  | 0, _ => none
  | fuel + 1, t => do
    let t ← (skipGaps (t.cursor.rest.length + 1) t).dropStaleKeys?
    let t := t.closeDeeper
    if t.cursor.rest.isEmpty then
      let t ← t.closeAll.dropKey?
      return t.tokens.reverse
    else run? fuel (← t.token?)

end Tokenizer

/-- The tokens of a text. -/
def tokens? (text : String) : Option (List Token) :=
  let start : Cursor := { rest := text.toList }
  if start.rest.all isAllowed then Tokenizer.run? (start.rest.length + 1) { cursor := start }
  else none

end SchemaPress.Yaml
