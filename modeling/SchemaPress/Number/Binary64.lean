set_option autoImplicit false

/-! # Finite binary floating-point numbers

A finite number of the 64-bit binary format, held exactly: a sign, a significand and a power of
two. Every operation computes with exact integers and rounds once to the nearest number of the
format, a tie going to the even significand; a result beyond the largest finite number is `none`.

No machine arithmetic is involved, so every value here can be computed with in a proof. -/

namespace SchemaPress

/-- The number `± significand * 2 ^ exponent`. -/
structure Binary64 where
  negative : Bool
  significand : Nat
  exponent : Int
  deriving DecidableEq, Repr, Inhabited

namespace Binary64

/-! ## The format -/

/-- The number of significant bits. -/
def precision : Nat := 53

/-- The least number of 53 bits. -/
def leastFull : Nat := 0x10000000000000

/-- The exponent of the smallest positive number. -/
def minExponent : Int := -1074

/-- The exponent of the largest numbers. -/
def maxExponent : Int := 971

/-- The numbers of the format: at most 53 bits, all of them in use above the smallest exponent. -/
def Canonical (x : Binary64) : Prop :=
  x.significand < 2 * leastFull ∧ minExponent ≤ x.exponent ∧ x.exponent ≤ maxExponent ∧
    (leastFull ≤ x.significand ∨ x.exponent = minExponent)

instance (x : Binary64) : Decidable x.Canonical :=
  inferInstanceAs (Decidable (_ ∧ _))

/-- Zero with the given sign. -/
def zero (negative : Bool) : Binary64 :=
  ⟨negative, 0, minExponent⟩

/-- Whether the number is zero, of either sign. -/
def isZero (x : Binary64) : Bool :=
  x.significand == 0

/-- The number with the opposite sign. -/
def neg (x : Binary64) : Binary64 :=
  { x with negative := !x.negative }

/-- The magnitude as a fraction of two naturals. -/
def magnitude (x : Binary64) : Nat × Nat :=
  if 0 ≤ x.exponent then (x.significand * Nat.pow 2 x.exponent.toNat, 1)
  else (x.significand, Nat.pow 2 (-x.exponent).toNat)

/-! ## Rounding -/

/-- The quotient rounded to the nearest natural, a tie going to the even one. -/
def roundQuotient (num den : Nat) : Nat :=
  let quotient := num / den
  let twice := 2 * (num % den)
  if twice < den then quotient
  else if den < twice then quotient + 1
  else quotient + quotient % 2

/-- The quotient scaled by a power of two and rounded. -/
def roundScaled (num den : Nat) (exponent : Int) : Nat :=
  if 0 ≤ exponent then roundQuotient num (den * Nat.pow 2 exponent.toNat)
  else roundQuotient (num * Nat.pow 2 (-exponent).toNat) den

/-- The exponent at which the fraction has 53 bits before the point, not below the smallest. -/
def fittingExponent (num den : Nat) : Int :=
  let guess : Int := (num.log2 : Int) - (den.log2 : Int) - 52
  let scaled := if 0 ≤ guess then (num, den * Nat.pow 2 guess.toNat)
    else (num * Nat.pow 2 (-guess).toNat, den)
  let exact := if scaled.1 < scaled.2 * leastFull then guess - 1 else guess
  if exact < minExponent then minExponent else exact

/-- The number nearest to `± num / den`, or nothing beyond the largest finite number. -/
def ofFraction (negative : Bool) (num den : Nat) : Option Binary64 :=
  if num = 0 then some (zero negative)
  else
    let exponent := fittingExponent num den
    let rounded := roundScaled num den exponent
    let result : Binary64 :=
      if rounded < 2 * leastFull then ⟨negative, rounded, exponent⟩
      else ⟨negative, leastFull, exponent + 1⟩
    if result.exponent ≤ maxExponent then some result else none

/-- The number nearest to an integer of at most 64 bits. -/
def ofInt (n : Int) : Binary64 :=
  (ofFraction (n < 0) n.natAbs 1).getD (zero false)

/-- The number nearest to the product. -/
def mul? (x y : Binary64) : Option Binary64 :=
  let (xn, xd) := x.magnitude
  let (yn, yd) := y.magnitude
  ofFraction (x.negative != y.negative) (xn * yn) (xd * yd)

/-- The number nearest to the quotient by a number other than zero. -/
def div? (x y : Binary64) : Option Binary64 :=
  let (xn, xd) := x.magnitude
  let (yn, yd) := y.magnitude
  ofFraction (x.negative != y.negative) (xn * yd) (xd * yn)

/-- The number nearest to `± digits * 10 ^ scale`. Far outside the range of the format the answer
    is known from the number of digits alone. -/
def ofDecimal (negative : Bool) (digits : Nat) (scale : Int) : Option Binary64 :=
  let length : Int := (Nat.toDigits 10 digits).length
  if digits = 0 then some (zero negative)
  else if 400 < length + scale then none
  else if length + scale < -400 then some (zero negative)
  else if 0 ≤ scale then ofFraction negative (digits * Nat.pow 10 scale.toNat) 1
  else ofFraction negative digits (Nat.pow 10 (-scale).toNat)

/-! ## Integers -/

/-- The integer part: the number rounded toward zero. -/
def truncate (x : Binary64) : Int :=
  let (num, den) := x.magnitude
  if x.negative then -((num / den : Nat) : Int) else ((num / den : Nat) : Int)

end Binary64

end SchemaPress
