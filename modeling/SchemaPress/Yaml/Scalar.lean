import SchemaPress.Text.Character
import SchemaPress.Yaml.Cursor

set_option autoImplicit false

/-! # Texts of scalars

How the text of a scalar is read off a YAML document: plain words that run over several lines,
texts between single or double quotes, and literal or folded blocks of lines. -/

namespace SchemaPress.Yaml

/-- How a scalar is written. -/
inductive ScalarStyle
  | plain | quoted | literal | folded
  deriving DecidableEq, Repr, Inhabited

/-! ## Gaps between words -/

/-- What lies between two words of a scalar: the spacing before the first line break, and the
    line breaks. -/
structure Gap where
  spacing : List Char := []
  breaks : List String := []
  deriving Repr, Inhabited

namespace Gap

/-- What a gap contributes to the text: within a line the spacing itself, a single line break as
    one space, and of several line breaks all but the first. -/
def text (gap : Gap) : String :=
  match gap.breaks with
  | [] => String.ofList gap.spacing
  | ["\n"] => " "
  | "\n" :: more => String.join more
  | breaks => String.join breaks

/-- Reads the rest of a gap. A tab behind a line break has to be at column `indent` or later. -/
def read (indent : Nat) : (fuel : Nat) → Gap → Cursor → Option (Gap × Cursor)
  | 0, gap, cursor => some (gap, cursor)
  | fuel + 1, gap, cursor =>
    match cursor.rest with
    | [] => some (gap, cursor)
    | c :: _ =>
      if isBreak c then
        read indent fuel { gap with breaks := gap.breaks ++ [breakText cursor.rest] }
          cursor.skipBreak
      else if isSpacing c then
        if gap.breaks.isEmpty then
          read indent fuel { gap with spacing := gap.spacing ++ [c] } (cursor.skip 1)
        else if c == '\t' && cursor.column < indent then none
        else read indent fuel gap (cursor.skip 1)
      else some (gap, cursor)

end Gap

/-! ## Plain scalars -/

/-- Whether a character ends a plain word within brackets or braces. -/
def isFlowMark (c : Char) : Bool :=
  c == ',' || c == '[' || c == ']' || c == '\x7b' || c == '\x7d'

/-- Reads the rest of a plain word. Within brackets or braces a colon may not stand directly
    before another mark. -/
def plainWord? (inFlow : Bool) : List Char → Option (List Char)
  | [] => some []
  | c :: rest =>
    if !isWordChar c then some []
    else if inFlow && c == ':' && rest.head?.any (fun d => isFlowMark d || d == '?') then none
    else if c == ':' && atWordEnd rest then some []
    else if inFlow && isFlowMark c then some []
    else (plainWord? inFlow rest).map (c :: ·)

/-- Reads the words of a plain scalar. `gap` lies before the next word; the answer has the gap
    behind the last one. Outside brackets and braces, lines continue at column `indent` or
    later. -/
def plainWords? (inFlow : Bool) (indent : Nat) :
    (fuel : Nat) → String → Gap → Cursor → Option (String × Gap × Cursor)
  | 0, text, gap, cursor => some (text, gap, cursor)
  | fuel + 1, text, gap, cursor =>
    if cursor.atDocumentMark || cursor.rest.head? == some '#' then some (text, gap, cursor)
    else do
      let word ← plainWord? inFlow cursor.rest
      if word.isEmpty then return (text, gap, cursor)
      let text := text ++ gap.text ++ String.ofList word
      let (gap, cursor) ← Gap.read indent cursor.rest.length {} (cursor.skip word.length)
      if gap.breaks.isEmpty && gap.spacing.isEmpty then return (text, gap, cursor)
      if !inFlow && cursor.column < indent then return (text, gap, cursor)
      plainWords? inFlow indent fuel text gap cursor

/-- Reads a plain scalar: its text, whether a line ends behind it, and what is left. -/
def plainScalar? (inFlow : Bool) (indent : Nat) (cursor : Cursor) :
    Option (String × Bool × Cursor) :=
  (plainWords? inFlow indent (cursor.rest.length + 1) "" {} cursor).map fun (text, gap, cursor) =>
    (text, !gap.breaks.isEmpty, cursor)

/-! ## Quoted scalars -/

/-- The character that a letter behind a backslash stands for. -/
def escaped? : Char → Option Char
  | '0' => some '\x00'
  | 'a' => some '\x07'
  | 'b' => some '\x08'
  | 't' => some '\t'
  | '\t' => some '\t'
  | 'n' => some '\n'
  | 'v' => some '\x0b'
  | 'f' => some '\x0c'
  | 'r' => some '\r'
  | 'e' => some '\x1b'
  | ' ' => some ' '
  | '"' => some '"'
  | '/' => some '/'
  | '\\' => some '\\'
  | 'N' => some '\x85'
  | '_' => some '\xa0'
  | 'L' => some '\u2028'
  | 'P' => some '\u2029'
  | _ => none

/-- How many hexadecimal digits follow a letter behind a backslash. -/
def escapeWidth? : Char → Option Nat
  | 'x' => some 2
  | 'u' => some 4
  | 'U' => some 8
  | _ => none

/-- The number that hexadecimal digits write. -/
def hexNumber? (digits : List Char) : Option Nat :=
  digits.foldlM (fun n digit => (Text.hexValue? digit).map (n * 16 + ·)) 0

/-- The character with a code, unless the code is a surrogate or beyond the last character. -/
def charOfCode? (code : Nat) : Option Char :=
  if code.isValidChar then some (Char.ofNat code) else none

/-- Where a run of characters between quotes stops. -/
inductive RunEnd
  | quote | escapedBreak | gap
  deriving DecidableEq, Repr

/-- Reads a run of characters between quotes: its text, and how and where it stops. -/
def quotedRun? (quote : Char) : (fuel : Nat) → String → Cursor → Option (String × RunEnd × Cursor)
  | 0, _, _ => none
  | fuel + 1, text, cursor =>
    match cursor.rest with
    | [] => some (text, .gap, cursor)
    | c :: after =>
      if !isWordChar c then some (text, .gap, cursor)
      else if c == quote then
        if quote == '\'' && after.head? == some '\'' then
          quotedRun? quote fuel (text.push '\'') (cursor.skip 2)
        else some (text, .quote, cursor)
      else if quote == '"' && c == '\\' then
        match after with
        | [] => none
        | mark :: digits =>
          if isBreak mark then some (text, .escapedBreak, (cursor.skip 1).skipBreak)
          else match escapeWidth? mark with
            | some width => do
              guard (width ≤ digits.length)
              let char ← (hexNumber? (digits.take width)).bind charOfCode?
              quotedRun? quote fuel (text.push char) (cursor.skip (2 + width))
            | none => do
              let char ← escaped? mark
              quotedRun? quote fuel (text.push char) (cursor.skip 2)
      else quotedRun? quote fuel (text.push c) (cursor.skip 1)

/-- Reads the rest of a quoted scalar. No document may begin or end within it. -/
def quotedRest? (quote : Char) : (fuel : Nat) → String → Cursor → Option (String × Cursor)
  | 0, _, _ => none
  | fuel + 1, text, cursor =>
    if cursor.atDocumentMark || cursor.rest.isEmpty then none
    else do
      let (text, stop, cursor) ← quotedRun? quote (cursor.rest.length + 1) text cursor
      if cursor.rest.head? == some quote then return (text, cursor.skip 1)
      let start : Gap := if stop = .escapedBreak then { breaks := [""] } else {}
      let (gap, cursor) ← Gap.read 0 cursor.rest.length start cursor
      quotedRest? quote fuel (text ++ gap.text) cursor

/-- Reads a quoted scalar, where the cursor is at the opening quote. -/
def quotedScalar? (quote : Char) (cursor : Cursor) : Option (String × Cursor) :=
  quotedRest? quote (cursor.rest.length + 1) "" (cursor.skip 1)

/-! ## Block scalars -/

/-- What becomes of the line breaks at the end of a block. -/
inductive Chomping
  | strip | clip | keep
  deriving DecidableEq, Repr

/-- The header of a block: its chomping, and its indentation if it is written. -/
structure BlockHeader where
  chomping : Chomping := .clip
  increment : Option Nat := none
  deriving Repr

namespace BlockHeader

/-- Reads a chomping indicator. -/
def chomping? : Char → Option Chomping
  | '+' => some .keep
  | '-' => some .strip
  | _ => none

/-- Reads an indentation indicator; zero is refused. -/
def increment? (cs : List Char) : Option (Option Nat) :=
  match cs.head? with
  | none => some none
  | some c =>
    if c == '0' then none
    else if c.isDigit then some (some (c.toNat - '0'.toNat))
    else some none

/-- Reads the indicators in either order, and how many there are. -/
def read? (cs : List Char) : Option (BlockHeader × Nat) :=
  match cs.head?.bind chomping? with
  | some chomping => do
    let increment ← increment? (cs.drop 1)
    return ({ chomping, increment }, if increment.isSome then 2 else 1)
  | none => do
    match ← increment? cs with
    | none => return ({}, 0)
    | some increment =>
      match (cs.drop 1).head?.bind chomping? with
      | some chomping => return ({ chomping, increment }, 2)
      | none => return ({ increment := some increment }, 1)

end BlockHeader

/-- Reads the empty lines of a block: the deepest column reached, the line breaks, and the cursor
    at the first line that is not empty. With an indentation given, at most that many spaces are
    taken from a line. Tabs do not indent. -/
def blankLines? (indent : Option Nat) :
    (fuel : Nat) → Nat → List String → Cursor → Option (Nat × List String × Cursor)
  | 0, deepest, breaks, cursor => some (deepest, breaks, cursor)
  | fuel + 1, deepest, breaks, cursor =>
    let spaces := (cursor.rest.takeWhile (· == ' ')).length
    let cursor := cursor.skip (match indent with
      | none => spaces
      | some width => min spaces (width - cursor.column))
    let deepest := max deepest cursor.column
    if indent.all (cursor.column < ·) && cursor.rest.head? == some '\t' then none
    else match cursor.rest with
      | [] => some (deepest, breaks, cursor)
      | c :: _ =>
        if isBreak c then
          blankLines? indent fuel deepest (breaks ++ [breakText cursor.rest]) cursor.skipBreak
        else some (deepest, breaks, cursor)

/-- What is known between two lines of a block: the text so far, the break behind the last line,
    the breaks of the empty lines behind it, and whether that line began with spacing. -/
structure BlockLines where
  text : String := ""
  lastBreak : String := ""
  emptyLines : List String := []
  spaced : Bool := false
  deriving Inhabited

/-- What stands between the last line and the next one. In a folded block the break between two
    lines that do not begin with spacing becomes a space, or nothing before empty lines. -/
def BlockLines.joint (lines : BlockLines) (folded nextSpaced : Bool) : String :=
  let first :=
    if folded && lines.lastBreak == "\n" && !lines.spaced && !nextSpaced then
      if lines.emptyLines.isEmpty then " " else ""
    else lines.lastBreak
  first ++ String.join lines.emptyLines

/-- Reads the lines of a block that stand at its indentation. -/
def blockLines? (folded : Bool) (indent : Nat) :
    (fuel : Nat) → BlockLines → Cursor → Option (BlockLines × Cursor)
  | 0, lines, cursor => some (lines, cursor)
  | fuel + 1, lines, cursor =>
    match cursor.rest with
    | [] => some (lines, cursor)
    | c :: _ =>
      if cursor.column != indent then some (lines, cursor)
      else do
        let content := cursor.rest.takeWhile (!isBreak ·)
        let text := lines.text ++ lines.joint folded (isSpacing c) ++ String.ofList content
        let cursor := cursor.skip content.length
        let lastBreak := breakText cursor.rest
        let cursor := if cursor.rest.isEmpty then cursor else cursor.skipBreak
        let (_, emptyLines, cursor) ←
          blankLines? (some indent) (cursor.rest.length + 1) 0 [] cursor
        blockLines? folded indent fuel { text, lastBreak, emptyLines, spaced := isSpacing c } cursor

/-- Reads a block scalar, where the cursor is at its mark and the enclosing block is indented by
    `parent`, or by nothing. -/
def blockScalar? (folded : Bool) (parent : Option Nat) (cursor : Cursor) :
    Option (String × Cursor) := do
  let cursor := cursor.skip 1
  let (header, width) ← BlockHeader.read? cursor.rest
  let cursor ← (cursor.skip width).finishLine?
  let given := header.increment.map (parent.getD 0 + ·)
  let (deepest, emptyLines, cursor) ← blankLines? given (cursor.rest.length + 1) 0 [] cursor
  let least := match parent with
    | some column => column + 1
    | none => 1
  let indent := given.getD (max deepest least)
  let (lines, cursor) ← blockLines? folded indent (cursor.rest.length + 1) { emptyLines } cursor
  let ending := match header.chomping with
    | .strip => ""
    | .clip => lines.lastBreak
    | .keep => lines.lastBreak ++ String.join lines.emptyLines
  return (lines.text ++ ending, cursor)

end SchemaPress.Yaml
