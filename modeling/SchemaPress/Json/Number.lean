import SchemaPress.Value

set_option autoImplicit false

/-! # JSON numbers

A whole number that fits 64 bits is read as an integer. Every other number is read in three
rounded steps: the leading digits that fit 64 bits are taken as the significand, the significand
is rounded to a binary number, and that is multiplied or divided by the binary number nearest to
the remaining power of ten. Negative zero is a floating-point number, and a number beyond the
largest finite one is refused. -/

namespace SchemaPress.Json

/-- The largest significand that is kept exactly. -/
def maxSignificand : Nat := 0xFFFFFFFFFFFFFFFF

/-- The value of a decimal digit. -/
def digitValue (c : Char) : Nat :=
  c.toNat - '0'.toNat

/-- Appends digits to a significand while it fits 64 bits; the number of digits appended. -/
def absorb (significand : Nat) : List Char → Nat × Nat
  | [] => (significand, 0)
  | digit :: rest =>
    let next := significand * 10 + digitValue digit
    if next ≤ maxSignificand then
      let (final, count) := absorb next rest
      (final, count + 1)
    else (significand, 0)

/-- The binary number nearest to a power of ten. -/
def powerOfTen (k : Nat) : Binary64 :=
  (Binary64.ofDecimal false 1 k).getD (Binary64.zero false)

/-- Scales a binary number by a power of ten, at most `10 ^ 308` at a time; a number that is
    divided more often than `fuel` times has become zero. -/
def scale : (fuel : Nat) → Binary64 → Int → Option Binary64
  | 0, x, _ => some x
  | fuel + 1, x, exponent =>
    if exponent.natAbs ≤ 308 then
      if 0 ≤ exponent then x.mul? (powerOfTen exponent.natAbs)
      else x.div? (powerOfTen exponent.natAbs)
    else if x.isZero then some x
    else if 0 ≤ exponent then none
    else (x.div? (powerOfTen 308)).bind fun y => scale fuel y (exponent + 308)

/-- The number `± significand * 10 ^ exponent`. -/
def decimalNumber (negative : Bool) (significand : Nat) (exponent : Int) : Option Value :=
  (scale 4 (Binary64.ofInt significand) exponent).map fun x =>
    .float (if negative then x.neg else x)

/-- The number without fraction and exponent. -/
def wholeNumber (negative : Bool) (significand : Nat) : Value :=
  if !negative then .int significand
  else if 0 < significand ∧ significand ≤ 0x8000000000000000 then .int (-(significand : Int))
  else .float (Binary64.ofInt significand).neg

/-- Reads an optional exponent part: the sign and the digits behind the mark. -/
def readExponent : List Char → Option (Option Int × List Char)
  | mark :: rest =>
    if mark == 'e' || mark == 'E' then
      let (negative, unsigned) := match rest with
        | '+' :: tail => (false, tail)
        | '-' :: tail => (true, tail)
        | tail => (false, tail)
      let digits := unsigned.takeWhile Char.isDigit
      if digits.isEmpty then none
      else
        let size : Int := digits.foldl (fun acc d => acc * 10 + digitValue d) 0
        some (some (if negative then -size else size), unsigned.dropWhile Char.isDigit)
    else some (none, mark :: rest)
  | [] => some (none, [])

/-- Reads an optional fraction part: the digits behind the point. -/
def readFraction : List Char → Option (Option (List Char) × List Char)
  | '.' :: rest =>
    let digits := rest.takeWhile Char.isDigit
    if digits.isEmpty then none else some (some digits, rest.dropWhile Char.isDigit)
  | rest => some (none, rest)

/-- Whether digits may stand before the point: at least one, and no zero before others. -/
def wholeDigitsOk : List Char → Bool
  | [] => false
  | ['0'] => true
  | first :: _ => first != '0'

/-- Reads a number without sign. -/
def readUnsigned (negative : Bool) (cs : List Char) : Option (Value × List Char) := do
  let digits := cs.takeWhile Char.isDigit
  guard (wholeDigitsOk digits)
  let (significand, kept) := absorb 0 digits
  let dropped : Int := digits.length - kept
  let (fraction, rest) ← readFraction (cs.dropWhile Char.isDigit)
  let (exponent, rest) ← readExponent rest
  match fraction, exponent with
  | none, none =>
    if dropped = 0 then return (wholeNumber negative significand, rest)
    else return (← decimalNumber negative significand dropped, rest)
  | _, _ =>
    let (significand, places) := absorb significand (fraction.getD [])
    let value ← decimalNumber negative significand (dropped - places + exponent.getD 0)
    return (value, rest)

/-- Reads a number at the start of the text. -/
def readNumber : List Char → Option (Value × List Char)
  | '-' :: rest => readUnsigned true rest
  | cs => readUnsigned false cs

/-- Reads a text that is a number and nothing else. -/
def number? (cs : List Char) : Option Value :=
  match readNumber cs with
  | some (value, []) => some value
  | _ => none

end SchemaPress.Json
