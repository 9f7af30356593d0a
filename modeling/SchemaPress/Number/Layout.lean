import SchemaPress.Number.Shortest

set_option autoImplicit false

/-! # Layouts of decimals

How a shortest decimal is written: positionally while its leading exponent stays within bounds,
with an exponent mark outside of them. A positional decimal always shows a fraction. -/

namespace SchemaPress

/-- The decisions of a format of numbers. -/
structure Layout where
  /-- The lowest leading exponent that is written positionally; `none` sets no bound. -/
  lowest : Option Int
  /-- The highest leading exponent that is written positionally; `none` sets no bound. -/
  highest : Option Int
  /-- What stands before an exponent that is not negative. -/
  plus : List Char
  /-- Which of two equally near decimals is written. -/
  tie : Tie
  deriving DecidableEq, Repr

namespace Layout

/-- Numbers of source text: positional from `1e-4` up to, but not including, `1e16`. -/
def source : Layout := ⟨some (-4), some 15, [], .away⟩

/-- Numbers of compact documents: positional from `1e-5` up to, but not including, `1e16`, above
    which the exponent has a sign; a tie goes to the even digit. -/
def compact : Layout := ⟨some (-5), some 15, ['+'], .even⟩

/-- Numbers of rendered text: always positional. -/
def plain : Layout := ⟨none, none, [], .away⟩

/-- Whether a decimal with the given leading exponent is written positionally. -/
def positional (layout : Layout) (exponent : Int) : Bool :=
  (layout.lowest.all (· ≤ exponent)) && (layout.highest.all (exponent ≤ ·))

/-- The digits with the point placed after the leading exponent. -/
def writePositional (d : Decimal) : List Char :=
  if 0 ≤ d.exponent then
    let whole := d.exponent.toNat + 1
    let front := d.digits.take whole
    let back := d.digits.drop whole
    front ++ List.replicate (whole - front.length) '0' ++ ['.'] ++
      (if back.isEmpty then ['0'] else back)
  else
    ['0', '.'] ++ List.replicate ((-d.exponent).toNat - 1) '0' ++ d.digits

/-- The digits with the point after the first one and the exponent behind a mark. -/
def writeScaled (layout : Layout) (d : Decimal) : List Char :=
  let mantissa := match d.digits with
    | [] => ['0']
    | [digit] => [digit]
    | digit :: rest => digit :: '.' :: rest
  let sign := if d.exponent < 0 then ['-'] else layout.plus
  mantissa ++ ['e'] ++ sign ++ Nat.toDigits 10 d.exponent.natAbs

/-- The text of a finite number. -/
def write (layout : Layout) (x : Binary64) : String :=
  let sign := if x.negative then ['-'] else []
  let body :=
    if x.isZero then ['0', '.', '0']
    else
      let d := Decimal.shortest layout.tie x
      if layout.positional d.exponent then writePositional d else layout.writeScaled d
  String.ofList (sign ++ body)

end Layout

end SchemaPress
