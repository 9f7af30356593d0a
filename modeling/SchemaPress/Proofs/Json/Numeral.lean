import Mathlib.Data.List.TakeWhile
import SchemaPress.Json.Number
import SchemaPress.Proofs.Text.Cut

set_option autoImplicit false

/-! # The texts that are numbers

A number is written as a sign, digits without a leading zero, a fraction and an exponent, of which
only the digits have to be there (`Numeral.Valid`). Such a text denotes an integer or a
floating-point number, or nothing if it lies beyond the largest finite one (`Numeral.value?`). The
reader of numbers accepts exactly these texts, and gives what they denote
(`number?_eq_some_iff`). -/

namespace SchemaPress.Json

/-! ## Numerals -/

/-- At least one digit, and nothing else. -/
def IsDigits (cs : List Char) : Prop :=
  cs ≠ [] ∧ ∀ c ∈ cs, c.isDigit = true

theorem IsDigits.head?_ne {cs : List Char} (h : IsDigits cs) {c : Char} (hc : c.isDigit = false) :
    cs.head? ≠ some c := by
  intro hhead
  rw [h.2 c (List.mem_of_head? hhead)] at hc
  cases hc

/-- The exponent of a number, as it is written. -/
structure Exponent where
  mark : Char
  sign : Option Char
  digits : List Char

namespace Exponent

def text (exponent : Exponent) : List Char :=
  exponent.mark :: (exponent.sign.toList ++ exponent.digits)

structure Valid (exponent : Exponent) : Prop where
  mark : exponent.mark = 'e' ∨ exponent.mark = 'E'
  sign : exponent.sign = none ∨ exponent.sign = some '+' ∨ exponent.sign = some '-'
  digits : IsDigits exponent.digits

/-- The power of ten that an exponent stands for. -/
def size (exponent : Exponent) : Int :=
  let magnitude := exponent.digits.foldl (fun (acc : Int) d => acc * 10 + digitValue d) 0
  if exponent.sign = some '-' then -magnitude else magnitude

end Exponent

/-- A number, as it is written. -/
structure Numeral where
  negative : Bool
  /-- The digits before the point. -/
  whole : List Char
  /-- The digits behind the point, if there is one. -/
  fraction : Option (List Char)
  exponent : Option Exponent

/-- The point and the digits behind it. -/
def fractionText : Option (List Char) → List Char
  | some digits => '.' :: digits
  | none => []

def exponentText : Option Exponent → List Char
  | some exponent => exponent.text
  | none => []

/-- The value that the parts of a number stand for. The leading digits that fit 64 bits are the
    significand; if they are all of the digits, and without fraction and exponent, they are a whole
    number. -/
def valueOf (negative : Bool) (whole : List Char) (fraction : Option (List Char))
    (exponent : Option Int) : Option Value :=
  let leading := absorb 0 whole
  let dropped : Int := whole.length - leading.2
  if fraction.isNone ∧ exponent.isNone ∧ dropped = 0 then some (wholeNumber negative leading.1)
  else
    let significand := absorb leading.1 (fraction.getD [])
    decimalNumber negative significand.1 (dropped - significand.2 + exponent.getD 0)

namespace Numeral

/-- The text of a number behind its sign. -/
def unsignedText (numeral : Numeral) : List Char :=
  numeral.whole ++ (fractionText numeral.fraction ++ exponentText numeral.exponent)

def text (numeral : Numeral) : List Char :=
  if numeral.negative then '-' :: numeral.unsignedText else numeral.unsignedText

structure Valid (numeral : Numeral) : Prop where
  whole : IsDigits numeral.whole
  /-- A zero stands alone before the point. -/
  leading : numeral.whole.head? = some '0' → numeral.whole = ['0']
  fraction : ∀ digits ∈ numeral.fraction, IsDigits digits
  exponent : ∀ exponent ∈ numeral.exponent, exponent.Valid

/-- The value of a number. -/
def value? (numeral : Numeral) : Option Value :=
  valueOf numeral.negative numeral.whole numeral.fraction (numeral.exponent.map Exponent.size)

end Numeral

/-! ## Exponents -/

/-- Reads the digits of an exponent behind its sign. -/
def readPower (negative : Bool) (unsigned : List Char) : Option (Option Int × List Char) :=
  let digits := unsigned.takeWhile Char.isDigit
  let size : Int := digits.foldl (fun acc d => acc * 10 + digitValue d) 0
  if digits.isEmpty then none
  else some (some (if negative then -size else size), unsigned.dropWhile Char.isDigit)

/-- The sign in front of digits, if there is one. -/
inductive Signed : Option Char → List Char → Prop
  | plus (digits : List Char) : Signed (some '+') digits
  | minus (digits : List Char) : Signed (some '-') digits
  | unsigned {digits : List Char} : digits.head? ≠ some '+' → digits.head? ≠ some '-' →
      Signed none digits

theorem exists_signed (cs : List Char) :
    ∃ sign digits, cs = Option.toList sign ++ digits ∧ Signed sign digits := by
  cases cs with
  | nil => exact ⟨none, [], rfl, .unsigned (by simp) (by simp)⟩
  | cons c rest =>
    by_cases hplus : c = '+'
    · exact ⟨some '+', rest, by simp [hplus], .plus rest⟩
    · by_cases hminus : c = '-'
      · exact ⟨some '-', rest, by simp [hminus], .minus rest⟩
      · exact ⟨none, c :: rest, rfl, .unsigned (by simpa using hplus) (by simpa using hminus)⟩

theorem readExponent_signed {mark : Char} (hmark : mark = 'e' ∨ mark = 'E') {sign : Option Char}
    {digits : List Char} (hsign : Signed sign digits) :
    readExponent (mark :: (sign.toList ++ digits)) =
      readPower (decide (sign = some '-')) digits := by
  have hmark : (mark == 'e' || mark == 'E') = true := by simpa using hmark
  cases hsign with
  | plus => simp [readExponent, readPower, hmark]
  | minus => simp [readExponent, readPower, hmark]
  | unsigned hplus hminus =>
    have hplus : ∀ tail, digits ≠ '+' :: tail := by
      rintro tail rfl
      exact hplus rfl
    have hminus : ∀ tail, digits ≠ '-' :: tail := by
      rintro tail rfl
      exact hminus rfl
    rw [Option.toList_none, List.nil_append, readExponent, if_pos hmark]
    · rfl
    · exact hplus
    · exact hminus

theorem readPower_eq_some_iff {negative : Bool} {cs : List Char} {size : Option Int} :
    readPower negative cs = some (size, []) ↔ IsDigits cs ∧
      size = some (let magnitude : Int := cs.foldl (fun acc d => acc * 10 + digitValue d) 0
        if negative then -magnitude else magnitude) := by
  unfold readPower IsDigits
  constructor
  · intro h
    cases hsome : (cs.takeWhile Char.isDigit).isEmpty with
    | true => simp [hsome] at h
    | false =>
      simp only [hsome, Bool.false_eq_true, if_false, Option.some.injEq, Prod.mk.injEq] at h
      obtain ⟨hsize, hdrop⟩ := h
      have hall : cs.takeWhile Char.isDigit = cs := by
        simpa [hdrop] using List.takeWhile_append_dropWhile (p := Char.isDigit) (l := cs)
      rw [hall] at hsome hsize
      exact ⟨⟨by simpa using hsome, hall ▸ fun _ => List.mem_takeWhile_imp⟩, hsize.symm⟩
  · rintro ⟨⟨hsome, hdigits⟩, rfl⟩
    obtain ⟨htake, hdrop⟩ := Text.takeWhile_append_stop hdigits List.takeWhile_nil
    rw [List.append_nil] at htake hdrop
    simp [htake, hdrop, hsome]

/-- An exponent that is read to its end. -/
theorem readExponent_eq_some_iff {cs : List Char} {size : Option Int} :
    readExponent cs = some (size, []) ↔
      ∃ exponent : Option Exponent, (∀ part ∈ exponent, part.Valid) ∧
        cs = exponentText exponent ∧ size = exponent.map Exponent.size := by
  constructor
  · intro h
    cases cs with
    | nil =>
      cases h
      exact ⟨none, by simp, rfl, rfl⟩
    | cons mark rest =>
      by_cases hmark : mark = 'e' ∨ mark = 'E'
      · obtain ⟨sign, digits, rfl, hsign⟩ := exists_signed rest
        rw [readExponent_signed hmark hsign, readPower_eq_some_iff] at h
        refine ⟨some ⟨mark, sign, digits⟩, ?_, rfl, ?_⟩
        · rintro _ ⟨⟩
          exact ⟨hmark, by cases hsign <;> simp, h.1⟩
        · simpa [Exponent.size] using h.2
      · -- what is no exponent is left, and there is something left here
        have hmark : ¬ (mark == 'e' || mark == 'E') = true := by simpa using hmark
        simp [readExponent, hmark] at h
  · rintro ⟨exponent, hvalid, rfl, rfl⟩
    cases exponent with
    | none => rfl
    | some part =>
      have hpart := hvalid part rfl
      have hsign : Signed part.sign part.digits := by
        rcases hpart.sign with h | h | h <;> rw [h]
        · exact .unsigned (hpart.digits.head?_ne (by decide)) (hpart.digits.head?_ne (by decide))
        · exact .plus _
        · exact .minus _
      rw [exponentText, Exponent.text, readExponent_signed hpart.mark hsign, readPower_eq_some_iff]
      exact ⟨hpart.digits, by simp [Exponent.size]⟩

/-! ## Fractions -/

/-- A fraction is read as far as it goes. -/
theorem readFraction_eq_some_iff {cs rest : List Char} {fraction : Option (List Char)} :
    readFraction cs = some (fraction, rest) ↔ cs = fractionText fraction ++ rest ∧
      (∀ digits ∈ fraction, IsDigits digits ∧ rest.takeWhile Char.isDigit = []) ∧
      (fraction = none → rest.head? ≠ some '.') := by
  have hnone : ∀ cs : List Char, cs.head? ≠ some '.' → readFraction cs = some (none, cs) := by
    intro cs hcs
    rw [readFraction]
    rintro tail rfl
    exact hcs rfl
  constructor
  · intro h
    by_cases hpoint : cs.head? = some '.'
    · obtain ⟨tail, rfl⟩ := List.head?_eq_some_iff.1 hpoint
      rw [readFraction] at h
      cases hsome : (tail.takeWhile Char.isDigit).isEmpty with
      | true => simp [hsome] at h
      | false =>
        simp only [hsome, Bool.false_eq_true, if_false, Option.some.injEq, Prod.mk.injEq] at h
        obtain ⟨rfl, rfl⟩ := h
        refine ⟨by simp [fractionText], ?_, nofun⟩
        rintro _ ⟨⟩
        exact ⟨⟨by simpa using hsome, fun _ => List.mem_takeWhile_imp⟩,
          Text.takeWhile_dropWhile Char.isDigit tail⟩
    · rw [hnone cs hpoint] at h
      cases h
      exact ⟨rfl, nofun, fun _ => hpoint⟩
  · rintro ⟨rfl, hdigits, hpoint⟩
    cases fraction with
    | none => exact hnone rest (hpoint rfl)
    | some digits =>
      obtain ⟨⟨hsome, hall⟩, hrest⟩ := hdigits digits rfl
      obtain ⟨htake, hdrop⟩ := Text.takeWhile_append_stop hall hrest
      simp [fractionText, readFraction, htake, hdrop, hsome]

/-! ## Whole numbers -/

theorem wholeDigitsOk_iff {cs : List Char} :
    wholeDigitsOk cs = true ↔ cs ≠ [] ∧ (cs.head? = some '0' → cs = ['0']) := by
  unfold wholeDigitsOk
  split <;> simp_all

theorem head?_exponentText {exponent : Option Exponent} (h : ∀ part ∈ exponent, part.Valid) :
    (exponentText exponent).head? ≠ some '.' ∧
      (exponentText exponent).takeWhile Char.isDigit = [] := by
  cases exponent with
  | none => simp [exponentText]
  | some part =>
    rcases (h part rfl).mark with hmark | hmark <;> simp [exponentText, Exponent.text, hmark]

/-- The parts of a number are read one after another. -/
theorem readUnsigned_eq {cs : List Char} (h : wholeDigitsOk (cs.takeWhile Char.isDigit) = true)
    (negative : Bool) :
    readUnsigned negative cs =
      (readFraction (cs.dropWhile Char.isDigit)).bind fun behind =>
        (readExponent behind.2).bind fun last =>
          (valueOf negative (cs.takeWhile Char.isDigit) behind.1 last.1).bind fun value =>
            some (value, last.2) := by
  have hguard : (guard (wholeDigitsOk (cs.takeWhile Char.isDigit)) : Option Unit) = some () :=
    if_pos h
  unfold readUnsigned
  change (guard (wholeDigitsOk (cs.takeWhile Char.isDigit)) : Option Unit).bind _ = _
  rw [hguard]
  rcases readFraction (cs.dropWhile Char.isDigit) with _ | ⟨fraction, behind⟩
  · rfl
  · rcases hexponent : readExponent behind with _ | ⟨size, rest⟩
    · simp [hexponent]
    · cases fraction <;> cases size <;> simp [hexponent, valueOf, absorb]
      split <;> rfl

theorem readUnsigned_eq_none {cs : List Char}
    (h : wholeDigitsOk (cs.takeWhile Char.isDigit) = false) (negative : Bool) :
    readUnsigned negative cs = none := by
  have hguard : (guard (wholeDigitsOk (cs.takeWhile Char.isDigit)) : Option Unit) = none :=
    if_neg (by simp [h])
  unfold readUnsigned
  change (guard (wholeDigitsOk (cs.takeWhile Char.isDigit)) : Option Unit).bind _ = _
  rw [hguard]
  rfl

/-- What is read behind a sign. -/
theorem readUnsigned_eq_some_iff {negative : Bool} {cs : List Char} {value : Value} :
    readUnsigned negative cs = some (value, []) ↔
      ∃ numeral : Numeral, numeral.negative = negative ∧ numeral.Valid ∧
        numeral.unsignedText = cs ∧ numeral.value? = some value := by
  constructor
  · intro h
    cases hwhole : wholeDigitsOk (cs.takeWhile Char.isDigit) with
    | false =>
      rw [readUnsigned_eq_none hwhole] at h
      cases h
    | true =>
      rw [readUnsigned_eq hwhole] at h
      simp only [Option.bind_eq_some_iff, Option.some.injEq, Prod.mk.injEq] at h
      obtain ⟨⟨fraction, behind⟩, hfraction, ⟨size, rest⟩, hexponent, _, hvalue, rfl, rfl⟩ := h
      obtain ⟨exponent, hvalid, hlast, rfl⟩ := readExponent_eq_some_iff.1 hexponent
      obtain ⟨hbehind, hdigits, -⟩ := readFraction_eq_some_iff.1 hfraction
      obtain ⟨hsome, hzero⟩ := wholeDigitsOk_iff.1 hwhole
      refine ⟨⟨negative, cs.takeWhile Char.isDigit, fraction, exponent⟩, rfl,
        ⟨⟨hsome, fun _ => List.mem_takeWhile_imp⟩, hzero, fun digits h => (hdigits digits h).1,
          hvalid⟩, ?_, hvalue⟩
      rw [Numeral.unsignedText, ← hlast, ← hbehind, List.takeWhile_append_dropWhile]
  · rintro ⟨numeral, rfl, hvalid, rfl, hvalue⟩
    obtain ⟨hpoint, hlast⟩ := head?_exponentText hvalid.exponent
    have hbehind : (fractionText numeral.fraction ++ exponentText numeral.exponent).takeWhile
        Char.isDigit = [] := by
      cases numeral.fraction with
      | none => exact hlast
      | some digits => simp [fractionText]
    obtain ⟨htake, hdrop⟩ := Text.takeWhile_append_stop hvalid.whole.2 hbehind
    have hwhole := wholeDigitsOk_iff.2 ⟨hvalid.whole.1, hvalid.leading⟩
    have hfraction := readFraction_eq_some_iff.2 ⟨rfl,
      fun digits h => ⟨hvalid.fraction digits h, hlast⟩, fun _ => hpoint⟩
    have hexponent := readExponent_eq_some_iff.2 ⟨numeral.exponent, hvalid.exponent, rfl, rfl⟩
    rw [← htake] at hwhole
    rw [Numeral.value?] at hvalue
    rw [Numeral.unsignedText, readUnsigned_eq hwhole, htake, hdrop, hfraction, Option.bind_some,
      hexponent, Option.bind_some, hvalue, Option.bind_some]

theorem Numeral.Valid.head?_unsignedText {numeral : Numeral} (h : numeral.Valid) :
    numeral.unsignedText.head? ≠ some '-' := by
  have hdigits := h.whole.head?_ne (show '-'.isDigit = false by decide)
  cases hwhole : numeral.whole with
  | nil => exact absurd hwhole h.whole.1
  | cons digit digits => simpa [unsignedText, hwhole] using hdigits

/-- A text is read as a number exactly if it is one, and the number is the one that it denotes. -/
theorem number?_eq_some_iff {cs : List Char} {value : Value} :
    number? cs = some value ↔
      ∃ numeral : Numeral, numeral.Valid ∧ numeral.text = cs ∧ numeral.value? = some value := by
  have hwhole : number? cs = some value ↔ readNumber cs = some (value, []) := by
    unfold number?
    constructor
    · intro h
      split at h
      · cases h
        assumption
      · cases h
    · intro h
      rw [h]
  rw [hwhole]
  by_cases hminus : cs.head? = some '-'
  · obtain ⟨rest, rfl⟩ := List.head?_eq_some_iff.1 hminus
    rw [readNumber, readUnsigned_eq_some_iff]
    refine exists_congr fun numeral => ?_
    constructor
    · rintro ⟨hnegative, hvalid, rfl, hvalue⟩
      exact ⟨hvalid, by simp [Numeral.text, hnegative], hvalue⟩
    · rintro ⟨hvalid, htext, hvalue⟩
      cases hnegative : numeral.negative with
      | true => exact ⟨rfl, hvalid, by simpa [Numeral.text, hnegative] using htext, hvalue⟩
      | false =>
        rw [Numeral.text, hnegative, if_neg (by simp)] at htext
        exact absurd (congrArg List.head? htext) hvalid.head?_unsignedText
  · have hunsigned : readNumber cs = readUnsigned false cs := by
      rw [readNumber]
      rintro rest rfl
      exact hminus rfl
    rw [hunsigned, readUnsigned_eq_some_iff]
    refine exists_congr fun numeral => ?_
    constructor
    · rintro ⟨hnegative, hvalid, rfl, hvalue⟩
      exact ⟨hvalid, by simp [Numeral.text, hnegative], hvalue⟩
    · rintro ⟨hvalid, htext, hvalue⟩
      cases hnegative : numeral.negative with
      | false => exact ⟨rfl, hvalid, by simpa [Numeral.text, hnegative] using htext, hvalue⟩
      | true =>
        rw [Numeral.text, hnegative, if_pos rfl] at htext
        exact absurd (congrArg List.head? htext.symm) hminus

end SchemaPress.Json
