set_option autoImplicit false

/-! # Cutting texts

Cutting a text at a character, cutting off its last line end, and cutting names such as
`package.module.Symbol` at their last dot. -/

namespace SchemaPress.Text

/-! ## Separators and line ends -/

/-- The characters before and after the first occurrence of a separator, if there is one. -/
def cutFirst (separator : Char) : List Char → Option (List Char × List Char)
  | [] => none
  | c :: rest =>
    if c = separator then some ([], rest)
    else (cutFirst separator rest).map fun (front, back) => (c :: front, back)

/-- The pieces between the occurrences of a separator; there is always at least one. -/
def splitAll (separator : Char) : List Char → List (List Char)
  | [] => [[]]
  | c :: rest =>
    if c = separator then [] :: splitAll separator rest
    else
      match splitAll separator rest with
      | [] => [[c]]
      | piece :: pieces => (c :: piece) :: pieces

/-- Whether a text occurs in another one. -/
def occursIn (needle : List Char) : List Char → Bool
  | [] => needle.isEmpty
  | c :: rest => needle.isPrefixOf (c :: rest) || occursIn needle rest

/-- The characters without a line end behind them: a newline, then a carriage return. -/
def dropLineEnd (cs : List Char) : List Char :=
  let rest := match cs.reverse with
    | '\n' :: before => before
    | all => all
  match rest with
  | '\r' :: before => before.reverse
  | all => all.reverse

/-! ## Dotted names -/

/-- The characters before and after the last dot, if there is one. -/
def splitLastDot (cs : List Char) : Option (List Char × List Char) :=
  if cs.contains '.' then
    let back := cs.reverse.takeWhile (· != '.')
    some ((cs.reverse.drop (back.length + 1)).reverse, back.reverse)
  else none

/-- What stands before and after the last dot of a name, if there is one. -/
def cutLastDot (name : String) : Option (String × String) :=
  (splitLastDot name.toList).map fun (front, back) => (String.ofList front, String.ofList back)

/-- The last segment of a name. -/
def lastSegment (name : String) : String :=
  match cutLastDot name with
  | some (_, back) => back
  | none => name

/-- The name with its last segment replaced. -/
def withLastSegment (name segment : String) : String :=
  match cutLastDot name with
  | some (front, _) => front ++ "." ++ segment
  | none => segment

end SchemaPress.Text
