import SchemaPress.Text.Character
import SchemaPress.Value

set_option autoImplicit false

/-! # Segments of templates

The written form of a template is cut into segments: text, and what stands between a pair of
braces as tokens. Names are written in ASCII. A minus sign beside a brace removes the blanks on
its side, a plus sign keeps them. -/

namespace SchemaPress.Template

/-! ## Tokens between braces -/

/-- A token between braces. -/
inductive Token
  | word (s : String)
  | literal (value : Value)
  | mark (c : Char)
  deriving Repr, Inhabited

/-- Whether a character separates tokens. -/
def isGap (c : Char) : Bool :=
  c == ' ' || c == '\t' || c == '\n' || c == '\x0c' || c == '\r'

/-- Whether a character may stand in a name; a digit may not begin one. -/
def isNameChar (c : Char) : Bool :=
  c == '_' || c.isAlphanum

/-- The character that a backslash and a letter stand for. -/
def unescape? : Char → Option Char
  | 'n' => some '\n'
  | 'r' => some '\r'
  | 't' => some '\t'
  | 'b' => some '\x08'
  | 'f' => some '\x0c'
  | '\\' => some '\\'
  | '/' => some '/'
  | '"' => some '"'
  | '\'' => some '\''
  | _ => none

/-- Reads a text up to its closing quote. -/
def readQuoted (quote : Char) : List Char → Option (List Char × List Char)
  | [] => none
  | '\\' :: c :: rest => do
    let plain ← unescape? c
    let (text, rest) ← readQuoted quote rest
    return (plain :: text, rest)
  | c :: rest =>
    if c = quote then some ([], rest)
    else do
      let (text, rest) ← readQuoted quote rest
      return (c :: text, rest)

/-- Reads a natural number of at most 128 bits; there are no fractions. -/
def readNumber (cs : List Char) : Option (Nat × List Char) :=
  let digits := cs.takeWhile Char.isDigit
  let rest := cs.drop digits.length
  let number := digits.foldl (fun n d => 10 * n + (d.toNat - '0'.toNat)) 0
  if rest.head? == some '.' || 0xFFFFFFFFFFFFFFFFFFFFFFFFFFFFFFFF < number then none
  else some (number, rest)

/-- The characters that stand for themselves between braces. -/
def marks : List Char := ".[](),|=-+*/%<>!~:".toList

/-- Whether the blanks behind a closing brace are removed, and what follows it, where one begins
    here; `closer` stands before the brace. -/
def closeBrace? (closer : Char) : List Char → Option (Bool × List Char)
  | c :: rest =>
    if [closer, '\x7d'].isPrefixOf (c :: rest) then some (false, rest.drop 1)
    else if (c == '-' || c == '+') && [closer, '\x7d'].isPrefixOf rest then
      some (c == '-', rest.drop 2)
    else none
  | [] => none

/-- Reads tokens up to the closing brace. The result also says whether the blanks behind it are
    removed. -/
def readTokens (closer : Char) : Nat → List Char → Option (List Token × Bool × List Char)
  | 0, _ => none
  | fuel + 1, cs =>
    let cs := cs.dropWhile isGap
    match closeBrace? closer cs with
    | some (trims, rest) => some ([], trims, rest)
    | none =>
      match cs with
      | [] => none
      | c :: rest =>
        if c = '"' ∨ c = '\'' then do
          let (text, rest) ← readQuoted c rest
          let (tokens, last) ← readTokens closer fuel rest
          return (.literal (.str (String.ofList text)) :: tokens, last)
        else if c.isDigit then do
          let (number, rest) ← readNumber cs
          let (tokens, last) ← readTokens closer fuel rest
          return (.literal (.int number) :: tokens, last)
        else if isNameChar c then do
          let name := cs.takeWhile isNameChar
          let (tokens, last) ← readTokens closer fuel (cs.drop name.length)
          return (.word (String.ofList name) :: tokens, last)
        else if marks.contains c then do
          let (tokens, last) ← readTokens closer fuel rest
          return (.mark c :: tokens, last)
        else none

/-! ## Segments -/

/-- A piece of a template: text, or what stands between a pair of braces. -/
inductive Segment
  | text (cs : List Char)
  | output (tokens : List Token)
  | tag (tokens : List Token)
  deriving Repr, Inhabited

/-- The text before the next opening pair of braces, and the rest. -/
def readText : List Char → List Char × List Char
  | [] => ([], [])
  | c :: rest =>
    if c = '\x7b' ∧ (rest.head? = some '\x7b' ∨ rest.head? = some '%' ∨ rest.head? = some '#') then
      ([], c :: rest)
    else
      let (text, rest) := readText rest
      (c :: text, rest)

/-- Skips a comment. The result also says whether a minus sign stands at its end. -/
def skipComment : List Char → Option (Bool × List Char)
  | [] => none
  | '-' :: '#' :: '\x7d' :: rest => some (true, rest)
  | '#' :: '\x7d' :: rest => some (false, rest)
  | _ :: rest => skipComment rest

/-- The segment of a text, unless the text is empty. -/
def textSegment (cs : List Char) : List Segment :=
  if cs.isEmpty then [] else [.text cs]

/-- Whether the blanks before an opening brace are removed, and what follows its sign. -/
def openBrace : List Char → Bool × List Char
  | '-' :: rest => (true, rest)
  | '+' :: rest => (false, rest)
  | rest => (false, rest)

/-- Cuts a template into segments. -/
def readSegments : Nat → Bool → List Char → Option (List Segment)
  | 0, _, _ => none
  | fuel + 1, trimmed, cs =>
    let (text, rest) := readText (if trimmed then Text.trimStart cs else cs)
    match rest with
    | [] => some (textSegment text)
    | _ :: kind :: rest =>
      let (trims, inside) := openBrace rest
      let text := textSegment (if trims then Text.trimEnd text else text)
      if kind = '#' then do
        let (trimmed, rest) ← skipComment rest
        return text ++ (← readSegments fuel trimmed rest)
      else do
        let closer := if kind = '%' then '%' else '\x7d'
        let (tokens, trimmed, rest) ← readTokens closer (inside.length + 1) inside
        let segment := if kind = '%' then Segment.tag tokens else .output tokens
        return text ++ segment :: (← readSegments fuel trimmed rest)
    | _ => none

end SchemaPress.Template
