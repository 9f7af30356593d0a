import SchemaPress.Failure
import SchemaPress.Json.Number
import SchemaPress.Text.Character
import SchemaPress.TypeRegistry

set_option autoImplicit false

/-! # Type expressions

Types as they are written in documents that define models: names such as `int` or `pkg.Symbol`,
perhaps with arguments in brackets, and values inside `Literal[...]`. -/

namespace SchemaPress

/-- A type expression. -/
inductive TypeExpr
  /-- A name with arguments, of which there may be none. -/
  | named (head : String) (arguments : List TypeExpr)
  /-- A value. -/
  | constant (content : Value)
  deriving Repr, Inhabited

namespace TypeExpr

/-! ## Reading -/

/-- What kept an expression from being read, and the characters that were left. -/
structure SyntaxError where
  rest : List Char
  fault : TypeSyntaxFault

/-- Whether a character can be part of a name. -/
def isNameChar (c : Char) : Bool :=
  !Text.isBlank c && c != '[' && c != ']' && c != ','

/-- Whether a character can be part of a number. -/
def isNumberChar (c : Char) : Bool :=
  c.isDigit || c == '-' || c == '+' || c == '.' || c == 'e' || c == 'E'

/-- Reads the characters of a text up to its closing quote; a backslash takes the next character
    as it is. -/
def readText (quote : Char) : List Char → Except SyntaxError (List Char × List Char)
  | [] => throw ⟨[], .unterminatedString⟩
  | ['\\'] => throw ⟨[], .unterminatedString⟩
  | '\\' :: c :: rest => do
    let (text, rest) ← readText quote rest
    return (c :: text, rest)
  | c :: rest =>
    if c = quote then return ([], rest)
    else do
      let (text, rest) ← readText quote rest
      return (c :: text, rest)

/-- Reads a number, which has to be one of a document. -/
def readNumber (cs : List Char) : Except SyntaxError (Value × List Char) :=
  match Json.number? (cs.takeWhile isNumberChar) with
  | some value => return (value, cs.dropWhile isNumberChar)
  | none => throw ⟨cs.dropWhile isNumberChar, .invalidNumber⟩

mutual

/-- Reads an expression and the blanks before it, and those behind a name. -/
def readExpr : Nat → List Char → Except SyntaxError (TypeExpr × List Char)
  | 0, cs => throw ⟨cs, .unexpectedEnd⟩
  | fuel + 1, cs =>
    match Text.trimStart cs with
    | [] => throw ⟨[], .unexpectedEnd⟩
    | c :: rest =>
      if c = '\'' ∨ c = '"' then do
        let (text, rest) ← readText c rest
        return (.constant (.str (String.ofList text)), rest)
      else if c.isDigit ∨ c = '-' then do
        let (value, rest) ← readNumber (c :: rest)
        return (.constant value, rest)
      else
        let name := (c :: rest).takeWhile isNameChar
        if name.isEmpty then throw ⟨c :: rest, .expectedName⟩
        else
          match Text.trimStart ((c :: rest).dropWhile isNameChar) with
          | '[' :: inner => do
            let (arguments, rest) ← readArguments fuel inner
            return (.named (String.ofList name) arguments, rest)
          | rest => return (.named (String.ofList name) [], rest)

/-- Reads arguments up to the closing bracket; there is at least one. -/
def readArguments : Nat → List Char → Except SyntaxError (List TypeExpr × List Char)
  | 0, cs => throw ⟨cs, .unexpectedEnd⟩
  | fuel + 1, cs => do
    let (first, rest) ← readExpr fuel cs
    match Text.trimStart rest with
    | ',' :: rest =>
      let (others, rest) ← readArguments fuel rest
      return (first :: others, rest)
    | ']' :: rest => return ([first], rest)
    | rest => throw ⟨rest, .expectedSeparator⟩

end

/-- Reads an expression that fills all the characters, blanks aside. -/
def readWhole (cs : List Char) : Except SyntaxError TypeExpr := do
  let (expr, rest) ← readExpr (2 * cs.length + 2) cs
  match Text.trimStart rest with
  | [] => return expr
  | rest => throw ⟨rest, .trailingInput⟩

/-- The number of bytes that characters take in UTF-8. -/
def byteLength (cs : List Char) : Nat :=
  cs.foldr (fun c length => c.utf8Size + length) 0

/-- Reads a type expression; a failure names the byte where the reader stopped. -/
def read (text : String) : Except Failure TypeExpr :=
  match readWhole text.toList with
  | .ok expr => return expr
  | .error failure =>
    throw (.typeSyntax text (byteLength text.toList - byteLength failure.rest) failure.fault)

/-! ## Meaning -/

/-- The value that an expression stands for inside `Literal[...]`. -/
def literalValue? : TypeExpr → Option Value
  | .constant value => some value
  | .named "True" [] => some (.bool true)
  | .named "False" [] => some (.bool false)
  | .named "None" [] => some .null
  | .named _ _ => none

/-- The values inside `Literal[...]`. -/
def literalValues : List TypeExpr → Except TypeMeaningFault (List Value)
  | [] => return []
  | expr :: rest =>
    match literalValue? expr with
    | some value => do return value :: (← literalValues rest)
    | none => throw .unsupportedLiteral

/-- What the names of a document stand for. -/
structure Names where
  /-- Models by their names and paths. -/
  models : Entries RefId
  /-- Types declared by the user. -/
  registry : TypeRegistry

/-- The type that a name stands for: a model, a declared type, `Any`, `None`, a symbol of a module
    if the name has a dot, or else a built-in type. -/
def Names.resolve (names : Names) (name : String) : TypeTree :=
  match Entries.get? names.models name with
  | some target => .model {} target
  | none =>
    match names.registry.type? name with
    | some type => type
    | none =>
      if name = "Any" then .any
      else if name = "None" then .noneType
      else if name.toList.contains '.' then .imported (Import.ofPath name)
      else .builtin name

/-- The type that a name with arguments stands for, given what the arguments stand for. -/
def apply (names : Names) (name : String) (arguments : List TypeExpr)
    (types : List (Except TypeMeaningFault TypeTree)) : Except TypeMeaningFault TypeTree :=
  if name = "Literal" ∧ !arguments.isEmpty then do
    return .literal {} (← literalValues arguments)
  else if name = "Union" ∧ !arguments.isEmpty then do
    return .union {} (← types.mapM id)
  else if name = "Dict" ∨ name = "dict" ∨ name = "Mapping" then
    match types with
    | [] => return .dict {} .any
    | [value] => do return .dict {} (← value)
    | [key, value] => do
      let key ← key
      return .keyedDict {} key (← value)
    | _ => throw (.unexpectedArguments name)
  else
    match types with
    | [] => return names.resolve name
    | [item] =>
      if name = "List" ∨ name = "list" ∨ name = "Sequence" then do return .list {} (← item)
      else if name = "Set" ∨ name = "set" ∨ name = "FrozenSet" then do return .set {} (← item)
      else if name = "Optional" then do return (← item).optional
      else throw (.unexpectedArguments name)
    | _ => throw (.unexpectedArguments name)

mutual

/-- The type that an expression stands for. -/
def toType (names : Names) : TypeExpr → Except TypeMeaningFault TypeTree
  | .constant _ => throw .strayLiteral
  | .named name arguments => apply names name arguments (toTypes names arguments)

/-- The types that several expressions stand for. -/
def toTypes (names : Names) : List TypeExpr → List (Except TypeMeaningFault TypeTree)
  | [] => []
  | expr :: rest => toType names expr :: toTypes names rest

end

/-- Reads the type that a text stands for. -/
def readType (names : Names) (text : String) : Except Failure TypeTree := do
  let expr ← read text
  match expr.toType names with
  | .ok type => return type
  | .error fault => throw (.typeMeaning text fault)

end TypeExpr

end SchemaPress
