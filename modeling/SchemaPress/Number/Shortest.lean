import SchemaPress.Number.Binary64

set_option autoImplicit false

/-! # Shortest decimals

The decimal with the fewest digits that reads back as a given binary number: the first grid
`10 ^ k` (from coarse to fine) that has a point among the reals which round to the number. Of two
such points the nearer is taken; a format says which one if both are equally near. -/

namespace SchemaPress

/-- The digits `d₁ d₂ …` and the exponent `p` of the decimal `d₁.d₂… * 10 ^ p`. -/
structure Decimal where
  digits : List Char
  exponent : Int
  deriving DecidableEq, Repr

/-- Which of two equally near points of a grid is taken. -/
inductive Tie
  /-- The larger one. -/
  | away
  /-- The one whose last digit is even. -/
  | even
  deriving DecidableEq, Repr

/-- Whether the point above `under` is taken if `under` is equally near. -/
def Tie.takesOver (tie : Tie) (under : Nat) : Bool :=
  match tie with
  | .away => true
  | .even => under % 2 == 1

namespace Decimal

/-- The reals that round to a positive binary number: all strictly between `low / den` and
    `high / den`, the ends too when `closed` holds; `mid / den` is the number itself. -/
structure Rounding where
  low : Nat
  mid : Nat
  high : Nat
  den : Nat
  closed : Bool

/-- The reals that round to the magnitude of the number. Below a power of two the spacing is half
    of the spacing above. -/
def rounding (x : Binary64) : Rounding :=
  let m := x.significand
  let below := if m = Binary64.leastFull ∧ x.exponent ≠ Binary64.minExponent then 1 else 2
  let closed := m % 2 == 0
  if 0 ≤ x.exponent then
    let unit := Nat.pow 2 x.exponent.toNat
    ⟨(4 * m - below) * unit, 4 * m * unit, (4 * m + 2) * unit, 4, closed⟩
  else
    ⟨4 * m - below, 4 * m, 4 * m + 2, 4 * Nat.pow 2 (-x.exponent).toNat, closed⟩

/-- Whether `num / scale` lies among the reals that round to the number. -/
def Rounding.admits (r : Rounding) (num scale : Nat) : Bool :=
  let point := num * r.den
  if r.closed then r.low * scale ≤ point && point ≤ r.high * scale
  else r.low * scale < point && point < r.high * scale

/-- The exponent `p` with `10 ^ p ≤ num / den < 10 ^ (p + 1)`, for a positive fraction. -/
def leadingExponent (num den : Nat) : Int :=
  if den ≤ num then ((Nat.toDigits 10 (num / den)).length : Int) - 1
  else
    let guess := (Nat.toDigits 10 den).length - (Nat.toDigits 10 num).length
    if den ≤ num * Nat.pow 10 (guess - 1) then -((guess - 1 : Nat) : Int)
    else if den ≤ num * Nat.pow 10 guess then -(guess : Int)
    else -(guess + 1 : Nat)

/-- The grid point `point * 10 ^ k` as a fraction. -/
def gridPoint (point : Nat) (k : Int) : Nat × Nat :=
  if 0 ≤ k then (point * Nat.pow 10 k.toNat, 1) else (point, Nat.pow 10 (-k).toNat)

/-- The point of the grid `10 ^ k` that stands for the number, if one does. -/
def nearestOnGrid (tie : Tie) (r : Rounding) (k : Int) : Option Nat :=
  let (stepNum, stepDen) := gridPoint 1 k
  let step := r.den * stepNum
  let under := r.mid * stepDen / step
  let twice := 2 * (r.mid * stepDen % step)
  let admits (point : Nat) : Bool :=
    let (num, scale) := gridPoint point k
    r.admits num scale
  let takesOver := step < twice || (step == twice && tie.takesOver under)
  match admits under, admits (under + 1) with
  | true, true => some (if takesOver then under + 1 else under)
  | true, false => some under
  | false, true => some (under + 1)
  | false, false => none

/-- The decimal of a positive natural scaled by `10 ^ k`, without trailing zeros. -/
def ofScaled (point : Nat) (k : Int) : Decimal :=
  let digits := Nat.toDigits 10 point
  let kept := (digits.reverse.dropWhile (· == '0')).reverse
  ⟨kept, (digits.length : Int) - 1 + k⟩

/-- The first of the grids with `places`, `places + 1`, … digits that has a point for the number;
    with `fuel` grids tried, the number itself cut to the last grid. -/
def searchGrids (tie : Tie) (r : Rounding) (leading : Int) : (fuel places : Nat) → Decimal
  | 0, places =>
    let k := leading - places
    let (stepNum, stepDen) := gridPoint 1 k
    ofScaled (r.mid * stepDen / (r.den * stepNum)) k
  | fuel + 1, places =>
    let k := leading - places
    match nearestOnGrid tie r k with
    | some point => ofScaled point k
    | none => searchGrids tie r leading fuel (places + 1)

/-- The shortest decimal of the magnitude of a number other than zero. -/
def shortest (tie : Tie) (x : Binary64) : Decimal :=
  let r := rounding x
  searchGrids tie r (leadingExponent r.mid r.den) 17 0

end Decimal

end SchemaPress
