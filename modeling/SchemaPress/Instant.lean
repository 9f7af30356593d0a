set_option autoImplicit false

/-! # Instants

Seconds since the start of 1970 as a date and a time of day in the proleptic Gregorian
calendar. -/

namespace SchemaPress

/-- A moment, in seconds since the start of 1970. -/
structure Instant where
  seconds : Int
  deriving DecidableEq, Repr

namespace Instant

/-- The first second of the calendar, at the start of the year -262143. -/
def first : Int := -8334601228800

/-- The last second of the calendar, at the end of the year 262142. -/
def last : Int := 8210266876799

/-- The moment that is a number of seconds after the start of 1970, if the calendar reaches it. -/
def ofSeconds? (seconds : Int) : Option Instant :=
  if first ≤ seconds ∧ seconds ≤ last then some ⟨seconds⟩ else none

/-- A day of the calendar. -/
structure Date where
  year : Int
  month : Nat
  day : Nat
  deriving DecidableEq, Repr

/-- The day that is a number of days after the first of January 1970. Years are counted from
    March, in cycles of 400 years or 146097 days. -/
def dateOfDays (days : Int) : Date :=
  let shifted := days + 719468
  let cycle := shifted.fdiv 146097
  let dayOfCycle := (shifted.fmod 146097).toNat
  let yearOfCycle :=
    (dayOfCycle - dayOfCycle / 1460 + dayOfCycle / 36524 - dayOfCycle / 146096) / 365
  let dayOfYear := dayOfCycle - (365 * yearOfCycle + yearOfCycle / 4 - yearOfCycle / 100)
  let monthFromMarch := (5 * dayOfYear + 2) / 153
  let month := if monthFromMarch < 10 then monthFromMarch + 3 else monthFromMarch - 9
  { year := 400 * cycle + yearOfCycle + (if month ≤ 2 then 1 else 0)
    month := month
    day := dayOfYear - (153 * monthFromMarch + 2) / 5 + 1 }

/-- A number with zeros in front of it, up to a width. -/
def padded (width n : Nat) : String :=
  let digits := toString n
  String.ofList (List.replicate (width - digits.length) '0') ++ digits

/-- A year: four digits, with a sign if it has not exactly four. -/
def writeYear (year : Int) : String :=
  if 0 ≤ year ∧ year ≤ 9999 then padded 4 year.toNat
  else (if year < 0 then "-" else "+") ++ padded 4 year.natAbs

/-- The moment in coordinated universal time, such as `2024-02-29T00:00:00+00:00`. -/
def write (instant : Instant) : String :=
  let date := dateOfDays (instant.seconds.fdiv 86400)
  let second := (instant.seconds.fmod 86400).toNat
  writeYear date.year ++ "-" ++ padded 2 date.month ++ "-" ++ padded 2 date.day ++ "T" ++
    padded 2 (second / 3600) ++ ":" ++ padded 2 (second / 60 % 60) ++ ":" ++
    padded 2 (second % 60) ++ "+00:00"

end Instant

end SchemaPress
