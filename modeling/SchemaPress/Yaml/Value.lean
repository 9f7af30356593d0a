import SchemaPress.Value
import SchemaPress.Yaml.Node

set_option autoImplicit false

/-! # Values of YAML nodes

What a scalar means: a plain one may be null, a truth value or a number, and a tag of the core
schema asks for one kind. A document value follows from a node: every scalar is a possible key
of a mapping, by its text. -/

namespace SchemaPress.Yaml

/-! ## Kinds of plain scalars -/

/-- Whether a text is a spelling of null. -/
def isNullText (text : String) : Bool :=
  ["null", "Null", "NULL", "~"].contains text

/-- Reads a truth value. -/
def truth? (text : String) : Option Bool :=
  if ["true", "True", "TRUE"].contains text then some true
  else if ["false", "False", "FALSE"].contains text then some false
  else none

/-- The value of a digit in bases up to sixteen. -/
def digit? (base : Nat) (c : Char) : Option Nat :=
  (Text.hexValue? c).filter (· < base)

/-- Reads digits in a base, at least one. -/
def digits? (base : Nat) (cs : List Char) : Option Nat :=
  if cs.isEmpty then none
  else cs.foldlM (fun n c => (digit? base c).map (n * base + ·)) 0

/-- Reads a natural number in base sixteen, eight or two by its mark, or else in base ten. -/
def magnitude? : List Char → Option Nat
  | '0' :: 'x' :: rest => digits? 16 rest
  | '0' :: 'o' :: rest => digits? 8 rest
  | '0' :: 'b' :: rest => digits? 2 rest
  | cs => digits? 10 cs

/-- Whether a text has a leading zero before further digits, which makes it no number. -/
def isPadded (cs : List Char) : Bool :=
  let unsigned := match cs with
    | '-' :: rest => rest
    | '+' :: rest => rest
    | _ => cs
  match unsigned with
  | '0' :: rest => !rest.isEmpty && rest.all Char.isDigit
  | _ => false

/-- Reads an integer. -/
def integer? (cs : List Char) : Option Int :=
  if isPadded cs then none
  else match cs with
    | '-' :: rest => (magnitude? rest).map fun n => -(n : Int)
    | '+' :: rest => (magnitude? rest).map fun n => (n : Int)
    | _ => (magnitude? cs).map fun n => (n : Int)

/-- The number that decimal digits write. -/
def decimal (digits : List Char) : Nat :=
  digits.foldl (fun n c => n * 10 + (c.toNat - '0'.toNat)) 0

/-- Reads an exponent part, which may be missing. -/
def exponent? : List Char → Option Int
  | [] => some 0
  | mark :: rest =>
    if mark == 'e' || mark == 'E' then
      let (negative, digits) := match rest with
        | '-' :: digits => (true, digits)
        | '+' :: digits => (false, digits)
        | digits => (false, digits)
      if digits.isEmpty || !digits.all Char.isDigit then none
      else some (if negative then -(decimal digits : Int) else decimal digits)
    else none

/-- A floating-point number, finite or not. -/
inductive Real
  | finite (x : Binary64)
  | notFinite
  deriving Repr

/-- Reads a decimal number: digits with a point before, between or behind them, and an exponent.
    A number beyond the largest finite one is refused. -/
def decimalNumber? (cs : List Char) : Option Binary64 :=
  let (negative, unsigned) := match cs with
    | '-' :: rest => (true, rest)
    | '+' :: rest => (false, rest)
    | _ => (false, cs)
  let whole := unsigned.takeWhile Char.isDigit
  let (fraction, rest) := match unsigned.drop whole.length with
    | '.' :: rest => (rest.takeWhile Char.isDigit, rest.dropWhile Char.isDigit)
    | rest => ([], rest)
  if whole.isEmpty && fraction.isEmpty then none
  else (exponent? rest).bind fun exponent =>
    Binary64.ofDecimal negative (decimal (whole ++ fraction)) (exponent - fraction.length)

/-- Reads a floating-point number. -/
def real? (text : String) : Option Real :=
  if [".inf", ".Inf", ".INF", "+.inf", "+.Inf", "+.INF", "-.inf", "-.Inf", "-.INF", ".nan", ".NaN",
      ".NAN"].contains text then some .notFinite
  else (decimalNumber? text.toList).map .finite

/-! ## Values of scalars -/

/-- What a scalar means. -/
inductive Meaning
  | null
  | truth (b : Bool)
  | integer (n : Int)
  | real (x : Real)
  | text (s : String)
  deriving Repr

/-- What an integer means; one that needs more than 64 bits is refused. -/
def integerMeaning? (n : Int) : Option Meaning :=
  if -0x8000000000000000 ≤ n ∧ n ≤ 0xFFFFFFFFFFFFFFFF then some (.integer n) else none

/-- Whether an integer fits 128 bits. -/
def fitsWide (n : Int) : Bool :=
  -0x80000000000000000000000000000000 ≤ n && n ≤ 0xFFFFFFFFFFFFFFFFFFFFFFFFFFFFFFFF

/-- Reads an integer that fits 128 bits. -/
def wideInteger? (cs : List Char) : Option Int :=
  (integer? cs).filter fitsWide

/-- What a plain scalar without tag means. -/
def plainMeaning? (text : String) : Option Meaning :=
  if text == "" || isNullText text then some .null
  else if let some b := truth? text then some (.truth b)
  else if let some n := wideInteger? text.toList then integerMeaning? n
  else if isPadded text.toList then some (.text text)
  else match real? text with
    | some x => some (.real x)
    | none => some (.text text)

/-- What a scalar means. A tag that only an application knows is refused, and a local one that
    encodes no text does not count before a plain scalar. -/
def meaning? (tag : Option Tag) (style : ScalarStyle) (text : String) : Option Meaning :=
  match tag with
  | none => if style = .plain then plainMeaning? text else some (.text text)
  | some tag =>
    if tag.isForeign then none
    else if tag = .core "bool" then (truth? text).map .truth
    else if tag = .core "int" then (wideInteger? text.toList).bind integerMeaning?
    else if tag = .core "float" then (real? text).map .real
    else if tag = .core "null" then if isNullText text then some .null else none
    else if tag.isLocal && style = .plain then plainMeaning? text
    else some (.text text)

namespace Meaning

/-- The document value of a scalar. A number that is not finite becomes null. -/
def value : Meaning → Value
  | null => .null
  | truth b => .bool b
  | integer n => .int n
  | real (.finite x) => .float x
  | real .notFinite => .null
  | text s => .str s

end Meaning

/-! ## Values of nodes -/

/-- The text of a scalar. -/
def Node.text? : Node → Option String
  | .scalar _ _ text => some text
  | _ => none

mutual

/-- The document value of a node. Numbers that are not finite become null. -/
def Node.value? : Node → Option Value
  | .scalar tag style text => (meaning? tag style text).map Meaning.value
  | .sequence tag items =>
    if tag.any Tag.isForeign then none else (itemValues? items).map .arr
  | .mapping tag entries =>
    if tag.any Tag.isForeign then none
    else (entryValues? entries).map fun fields => .obj (Entries.merged fields)

/-- The document values of items. -/
def itemValues? : List Node → Option (List Value)
  | [] => some []
  | item :: rest => do
    let value ← item.value?
    return value :: (← itemValues? rest)

/-- The fields that entries describe. -/
def entryValues? : List (Node × Node) → Option (List (String × Value))
  | [] => some []
  | (key, node) :: rest => do
    let name ← key.text?
    let value ← node.value?
    return (name, value) :: (← entryValues? rest)

end

/-- The value that a text denotes; a text without document denotes null. -/
def parse? (text : String) : Option Value := do
  match ← Node.parse? text with
  | none => return .null
  | some node => node.value?

end SchemaPress.Yaml
