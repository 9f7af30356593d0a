import SchemaPress.Template
import SchemaPress.Template.Token
import SchemaPress.Text.Cut

set_option autoImplicit false

/-! # Reading templates

The written form of templates: `{{ value }}` for outputs, `{% for … %}`, `{% if … %}` and
`{% set … %}` for parts, and `{# … #}` for comments. One line end behind the whole text does not
count. Words such as `if` and `in` are names wherever a value is expected, so that only the place
of a word tells what it means. -/

namespace SchemaPress.Template

/-- How deep parts, expressions and the values in them may be nested. -/
def maxNesting : Nat := 150

/-! ## Expressions

`room` counts the levels of nesting that are left. An expression takes one level and every value
in it another one, so that a pair of parentheses takes two and a pair of brackets one. -/

/-- The constant that a word names. -/
def constant? : String → Option Value
  | "true" | "True" => some (.bool true)
  | "false" | "False" => some (.bool false)
  | "none" | "None" => some .null
  | _ => none

/-- The value of a word: a constant or a variable. -/
def wordValue (word : String) : Expr :=
  match constant? word with
  | some value => .constant value
  | none => .name word

/-- Whether a token behind the name of a test begins an argument of it. -/
def startsArgument : Token → Bool
  | .word word => word ∉ ["and", "or", "else", "is"]
  | .literal _ | .mark '+' | .mark '-' | .mark '[' => true
  | .mark _ => false

mutual

/-- Reads an expression on a level of its own. -/
def readExpr (room : Nat) : (fuel : Nat) → List Token → Option (Expr × List Token)
  | 0, _ => none
  | fuel + 1, tokens =>
    match room with
    | 0 => none
    | inner + 1 => readDisjunction inner fuel tokens

/-- Reads operands joined by `or`. -/
def readDisjunction (room : Nat) : (fuel : Nat) → List Token → Option (Expr × List Token)
  | 0, _ => none
  | fuel + 1, tokens => do
    let (left, rest) ← readConjunction room fuel tokens
    match rest with
    | .word "or" :: rest =>
      let (right, rest) ← readDisjunction room fuel rest
      return (.or left right, rest)
    | _ => return (left, rest)

/-- Reads operands joined by `and`. -/
def readConjunction (room : Nat) : (fuel : Nat) → List Token → Option (Expr × List Token)
  | 0, _ => none
  | fuel + 1, tokens => do
    let (left, rest) ← readNegation room fuel tokens
    match rest with
    | .word "and" :: rest =>
      let (right, rest) ← readConjunction room fuel rest
      return (.and left right, rest)
    | _ => return (left, rest)

/-- Reads an operand that may be negated. -/
def readNegation (room : Nat) : (fuel : Nat) → List Token → Option (Expr × List Token)
  | 0, _ => none
  | fuel + 1, .word "not" :: rest => do
    let (operand, rest) ← readNegation room fuel rest
    return (.not operand, rest)
  | fuel + 1, tokens => do
    let (operand, rest) ← readAccess room fuel tokens
    readFilters room fuel operand rest

/-- Reads a value with the fields and items that are asked of it. -/
def readAccess (room : Nat) : (fuel : Nat) → List Token → Option (Expr × List Token)
  | 0, _ => none
  | fuel + 1, tokens => do
    let (operand, rest) ← readPrimary room fuel tokens
    readSteps room fuel operand rest

/-- Reads a variable, a constant or an expression in parentheses. -/
def readPrimary (room : Nat) : (fuel : Nat) → List Token → Option (Expr × List Token)
  | 0, _ => none
  | fuel + 1, tokens =>
    match room, tokens with
    | 0, _ => none
    | room + 1, .mark '(' :: rest => do
      match ← readExpr room fuel rest with
      | (inner, .mark ')' :: rest) => return (inner, rest)
      | _ => none
    | _, .word word :: rest => some (wordValue word, rest)
    | _, .literal value :: rest => some (.constant value, rest)
    | _, .mark '-' :: .literal (.int n) :: rest => some (.constant (.int (-n)), rest)
    | _, _ => none

/-- Reads the fields, items and results that are asked of an operand. -/
def readSteps (room : Nat) : (fuel : Nat) → Expr → List Token → Option (Expr × List Token)
  | 0, _, _ => none
  | fuel + 1, operand, .mark '.' :: rest =>
    match rest with
    | .word name :: rest => readSteps room fuel (.field operand name) rest
    | _ => none
  | fuel + 1, operand, .mark '[' :: rest => do
    match ← readExpr room fuel rest with
    | (index, .mark ']' :: rest) => readSteps room fuel (.item operand index) rest
    | _ => none
  | fuel + 1, operand, .mark '(' :: rest => do
    let (arguments, rest) ← readArguments room fuel rest
    readSteps room fuel (.call operand arguments) rest
  | _, operand, rest => some (operand, rest)

/-- Reads the filters and tests behind an operand. -/
def readFilters (room : Nat) : (fuel : Nat) → Expr → List Token → Option (Expr × List Token)
  | 0, _, _ => none
  | fuel + 1, operand, .mark '|' :: rest =>
    match rest with
    | .word name :: .mark '(' :: rest => do
      let (arguments, rest) ← readArguments room fuel rest
      readFilters room fuel (.filter operand name arguments) rest
    | .word name :: rest => readFilters room fuel (.filter operand name []) rest
    | _ => none
  | fuel + 1, operand, .word "is" :: .word "not" :: rest => do
    let (test, rest) ← readTest room fuel operand rest
    readFilters room fuel (.not test) rest
  | fuel + 1, operand, .word "is" :: rest => do
    let (test, rest) ← readTest room fuel operand rest
    readFilters room fuel test rest
  | _, operand, rest => some (operand, rest)

/-- Reads the name of a test and its arguments; a single one needs no parentheses. -/
def readTest (room : Nat) : (fuel : Nat) → Expr → List Token → Option (Expr × List Token)
  | 0, _, _ => none
  | fuel + 1, operand, .word name :: rest =>
    match rest with
    | .mark '(' :: rest => do
      let (arguments, rest) ← readArguments room fuel rest
      return (.test operand name arguments, rest)
    | next :: _ =>
      if startsArgument next then do
        let (argument, rest) ← readAccess room fuel rest
        return (.test operand name [argument], rest)
      else some (.test operand name [], rest)
    | [] => some (.test operand name [], [])
  | _, _, _ => none

/-- Reads arguments and the closing parenthesis. -/
def readArguments (room : Nat) : (fuel : Nat) → List Token → Option (List Expr × List Token)
  | 0, _ => none
  | _, .mark ')' :: rest => some ([], rest)
  | fuel + 1, tokens => do
    let (first, rest) ← readExpr room fuel tokens
    match rest with
    | .mark ',' :: rest =>
      let (arguments, rest) ← readArguments room fuel rest
      return (first :: arguments, rest)
    | .mark ')' :: rest => return ([first], rest)
    | _ => none

end

/-- How often the readers of expressions call each other at most on some tokens. -/
def readerCalls (tokens : List Token) : Nat :=
  7 * tokens.length + 7

/-- The expression that tokens are as a whole. -/
def wholeExpr? (room : Nat) (tokens : List Token) : Option Expr :=
  match readExpr room (readerCalls tokens) tokens with
  | some (expr, []) => some expr
  | _ => none

/-- The expression that tokens are as a whole, on the level of the part around it. -/
def itemsExpr? (room : Nat) (tokens : List Token) : Option Expr :=
  match readDisjunction room (readerCalls tokens) tokens with
  | some (expr, []) => some expr
  | _ => none

/-! ## Targets -/

/-- The names that no loop and no assignment may give a value. -/
def reservedNames : List String :=
  ["true", "True", "false", "False", "none", "None", "loop", "self"]

/-- Reads a name that is given a value. -/
def readName : List Token → Option (String × List Token)
  | .word name :: rest => if reservedNames.contains name then none else some (name, rest)
  | _ => none

/-- Whether the targets of a loop end before some tokens. -/
def endsTargets : List Token → Bool
  | [] | .mark ')' :: _ | .word "in" :: _ => true
  | _ => false

mutual

/-- Reads what a loop binds its items to: a name, or several targets behind commas. -/
def readTarget : (fuel : Nat) → List Token → Option (Target × List Token)
  | 0, _ => none
  | fuel + 1, tokens => do
    let (targets, closed, rest) ← readTargets fuel tokens
    match targets, closed with
    | [target], false => return (target, rest)
    | _, _ => return (.several targets, rest)

/-- Reads targets behind commas; the result also says whether there is a comma. -/
def readTargets : (fuel : Nat) → List Token → Option (List Target × Bool × List Token)
  | 0, _ => none
  | fuel + 1, tokens =>
    if endsTargets tokens then some ([], false, tokens)
    else do
      let (target, rest) ← readSingleTarget fuel tokens
      match rest with
      | .mark ',' :: rest =>
        let (targets, _, rest) ← readTargets fuel rest
        return (target :: targets, true, rest)
      | _ => return ([target], false, rest)

/-- Reads a name or targets in parentheses. -/
def readSingleTarget : (fuel : Nat) → List Token → Option (Target × List Token)
  | 0, _ => none
  | fuel + 1, .mark '(' :: rest => do
    match ← readTarget fuel rest with
    | (target, .mark ')' :: rest) => return (target, rest)
    | _ => none
  | _, tokens => (readName tokens).map fun (name, rest) => (.name name, rest)

end

/-- Reads the head of a loop behind its first word. The items take no level of their own. -/
def loopHead? (room : Nat) (tokens : List Token) : Option (Target × Expr) := do
  match ← readTarget (3 * tokens.length + 3) tokens with
  | (target, .word "in" :: rest) => return (target, ← itemsExpr? room rest)
  | _ => none

/-! ## Parts -/

mutual

/-- Reads parts up to a tag that closes or continues the part around them. -/
def readParts (room : Nat) : (fuel : Nat) → List Segment → Option (List Part × List Segment)
  | 0, _ => none
  | _, [] => some ([], [])
  | fuel + 1, .text cs :: rest => do
    let (parts, rest) ← readParts room fuel rest
    return (.text (String.ofList cs) :: parts, rest)
  | fuel + 1, .output tokens :: rest => do
    let value ← wholeExpr? room tokens
    let (parts, rest) ← readParts room fuel rest
    return (.output value :: parts, rest)
  | fuel + 1, .tag (.word keyword :: tokens) :: rest =>
    if ["for", "if", "set"].contains keyword then
      match room with
      | 0 => none
      | inner + 1 => do
        let (part, rest) ← readTag inner fuel keyword tokens rest
        let (parts, rest) ← readParts room fuel rest
        return (part :: parts, rest)
    else some ([], .tag (.word keyword :: tokens) :: rest)
  | _, segments => some ([], segments)

/-- Reads the part that a tag begins, behind the first word of the tag. -/
def readTag (room : Nat) : (fuel : Nat) → (keyword : String) → List Token → List Segment →
    Option (Part × List Segment)
  | fuel + 1, "for", tokens, rest => readLoop room fuel tokens rest
  | fuel + 1, "if", tokens, rest => readChoice room fuel tokens rest
  | _ + 1, "set", tokens, rest => do
    match ← readName tokens with
    | (name, .mark '=' :: tokens) => return (.assign name (← wholeExpr? room tokens), rest)
    | _ => none
  | _, _, _, _ => none

/-- Reads a loop behind the first word of its tag. -/
def readLoop (room : Nat) : (fuel : Nat) → List Token → List Segment →
    Option (Part × List Segment)
  | 0, _, _ => none
  | fuel + 1, tokens, rest => do
    let (target, items) ← loopHead? room tokens
    let (body, rest) ← readParts room fuel rest
    match rest with
    | .tag [.word "endfor"] :: rest => return (.each target items body [], rest)
    | .tag [.word "else"] :: rest =>
      match ← readParts room fuel rest with
      | (otherwise, .tag [.word "endfor"] :: rest) =>
        return (.each target items body otherwise, rest)
      | _ => none
    | _ => none

/-- Reads a choice behind the first word of its tag. -/
def readChoice (room : Nat) : (fuel : Nat) → List Token → List Segment →
    Option (Part × List Segment)
  | 0, _, _ => none
  | fuel + 1, tokens, rest => do
    let condition ← wholeExpr? room tokens
    let (yes, rest) ← readParts room fuel rest
    match rest with
    | .tag [.word "endif"] :: rest => return (.choice condition yes [], rest)
    | .tag (.word "elif" :: tokens) :: rest =>
      let (other, rest) ← readChoice room fuel tokens rest
      return (.choice condition yes [other], rest)
    | .tag [.word "else"] :: rest =>
      match ← readParts room fuel rest with
      | (no, .tag [.word "endif"] :: rest) => return (.choice condition yes no, rest)
      | _ => none
    | _ => none

end

end SchemaPress.Template

namespace SchemaPress

/-- Reads a template from its written form. -/
def Template.read? (source : String) : Option Template := do
  let cs := Text.dropLineEnd source.toList
  let segments ← Template.readSegments (cs.length + 1) false cs
  match ← Template.readParts Template.maxNesting (4 * segments.length + 4) segments with
  | (template, []) => return template
  | _ => none

end SchemaPress
