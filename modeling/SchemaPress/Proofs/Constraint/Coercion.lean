import Mathlib.Data.Rat.Floor
import SchemaPress.Constraint

set_option autoImplicit false

/-! # Bounds as whole numbers

A field that holds no floating-point numbers gets its bounds as whole numbers: the part after the
point is cut off, which rounds a bound toward zero (`Binary64.truncate_towardZero`). It makes a
difference for one integer at most, the integer part itself, whether integers are compared with the
bound as it is given or with its integer part (`truncated_bound_iff`). -/

namespace SchemaPress

/-- An integer is a number rounded toward zero. -/
def TowardZero (b : ℚ) (m : Int) : Prop :=
  (0 ≤ b → m = ⌊b⌋) ∧ (b ≤ 0 → m = ⌈b⌉)

/-! ## The numbers that bounds are -/

namespace Binary64

/-- The rational number that a floating-point number is. -/
def toRat (x : Binary64) : ℚ :=
  (if x.negative then -1 else 1) * (x.significand * 2 ^ x.exponent)

/-- The magnitude is the number without its sign. -/
theorem magnitude_eq (x : Binary64) :
    (x.magnitude.1 : ℚ) / x.magnitude.2 = x.significand * 2 ^ x.exponent := by
  have hpow : ∀ k : Nat, ((Nat.pow 2 k : Nat) : ℚ) = 2 ^ k := fun k => Nat.cast_pow 2 k
  unfold magnitude
  split
  · rename_i hexponent
    obtain ⟨k, hk⟩ := Int.eq_ofNat_of_zero_le hexponent
    rw [hk, Int.toNat_natCast, zpow_natCast, Nat.cast_mul, hpow, Nat.cast_one, div_one]
  · rename_i hexponent
    obtain ⟨k, hk⟩ : ∃ k : Nat, x.exponent = -(k : Int) := ⟨(-x.exponent).toNat, by omega⟩
    rw [hk, neg_neg, Int.toNat_natCast, zpow_neg, zpow_natCast, hpow, div_eq_mul_inv]

/-- The integer part is the number rounded toward zero. -/
theorem truncate_towardZero (x : Binary64) : TowardZero x.toRat x.truncate := by
  have hvalue := x.magnitude_eq
  have hnonneg : (0 : ℚ) ≤ x.significand * 2 ^ x.exponent :=
    mul_nonneg (Nat.cast_nonneg _) (zpow_nonneg (by norm_num) _)
  have hfloor : ((x.magnitude.1 / x.magnitude.2 : Nat) : Int) =
      ⌊(x.significand : ℚ) * 2 ^ x.exponent⌋ := by
    rw [← hvalue, Rat.floor_natCast_div_natCast]
    exact Int.natCast_ediv _ _
  unfold TowardZero toRat truncate
  generalize (x.significand : ℚ) * 2 ^ x.exponent = r at hnonneg hfloor
  cases x.negative with
  | true =>
    simp only [if_true, neg_one_mul, hfloor, Int.ceil_neg, implies_true, and_true]
    intro hzero
    obtain rfl : r = 0 := le_antisymm (neg_nonneg.1 hzero) hnonneg
    simp
  | false =>
    simp only [Bool.false_eq_true, if_false, one_mul, hfloor, implies_true, true_and]
    intro hzero
    obtain rfl : r = 0 := le_antisymm hzero hnonneg
    simp

end Binary64

namespace Quantity

/-- The rational number that a number of a document is. -/
def toRat : Quantity → ℚ
  | whole n => n
  | real x => x.toRat

/-- The integer part has 64 bits with a sign, where it has to be computed. -/
def FitsWord : Quantity → Prop
  | whole _ => True
  | real x => -0x8000000000000000 ≤ x.truncate ∧ x.truncate ≤ 0x7FFFFFFFFFFFFFFF

/-- As a whole number, a number that fits is rounded toward zero. -/
theorem toWhole_towardZero {q : Quantity} (h : q.FitsWord) :
    ∃ m, q.toWhole = whole m ∧ TowardZero q.toRat m := by
  cases q with
  | whole n => exact ⟨n, rfl, by simp [toRat, TowardZero]⟩
  | real x =>
    obtain ⟨hmin, hmax⟩ := h
    refine ⟨x.truncate, ?_, x.truncate_towardZero⟩
    rw [toWhole, clampWord, min_eq_left hmax, max_eq_right hmin]

end Quantity

/-! ## Comparisons -/

namespace ConstraintKind

/-- An integer satisfies a comparison with a bound. -/
def Admits (b : ℚ) (n : Int) : ConstraintKind → Prop
  | gt => b < n
  | ge => b ≤ n
  | lt => n < b
  | le => n ≤ b
  | _ => True

/-- Rounding toward zero moves a bound of the kind to the other side of an integer. -/
def MovedPast (b : ℚ) : ConstraintKind → Prop
  | gt | le => b < 0
  | ge | lt => 0 < b
  | _ => False

/-- A comparison with a number rounded toward zero differs from the one with the number itself for
    the rounded number only, and only where rounding moves the bound past it. -/
theorem admits_towardZero_iff {kind : ConstraintKind} {b : ℚ} {m : Int} (h : TowardZero b m)
    (n : Int) :
    (kind.Admits b n ↔ kind.Admits m n) ↔ ¬(n = m ∧ b ≠ m ∧ kind.MovedPast b) := by
  have hle := Int.floor_le_ceil b
  have hceil := Int.ceil_le_floor_add_one b
  rcases lt_trichotomy b 0 with hneg | rfl | hpos
  · -- below zero the integer part is the ceiling, and the number is whole if its floor is that too
    have hm := h.2 hneg.le
    have hwhole : b = m ↔ ⌊b⌋ = m := by
      rw [hm]
      exact ⟨fun h => by rw [h]; simp, fun h => le_antisymm (Int.le_ceil b) (h ▸ Int.floor_le b)⟩
    cases kind <;> simp only [Admits, MovedPast, hneg, not_lt_of_gt hneg, ← Int.floor_lt,
      ← Int.ceil_le, ← Int.lt_ceil, ← Int.le_floor, Int.floor_intCast, Int.ceil_intCast, ne_eq,
      hwhole] <;> grind
  · obtain rfl : m = 0 := by simpa using h.1 le_rfl
    simp
  · have hm := h.1 hpos.le
    have hwhole : b = m ↔ ⌈b⌉ = m := by
      rw [hm]
      exact ⟨fun h => by rw [h]; simp, fun h => le_antisymm (h ▸ Int.le_ceil b) (Int.floor_le b)⟩
    cases kind <;> simp only [Admits, MovedPast, hpos, not_lt_of_gt hpos, ← Int.floor_lt,
      ← Int.ceil_le, ← Int.lt_ceil, ← Int.le_floor, Int.floor_intCast, Int.ceil_intCast, ne_eq,
      hwhole] <;> grind

end ConstraintKind

/-! ## Bounds of fields without floating-point numbers -/

open ConstraintKind in
/-- A bound whose integer part fits 64 bits is written, for a field without floating-point numbers,
    as the whole number that it is rounded to toward zero. An integer satisfies the bound that is
    written exactly if it satisfies the bound as it was given, with one exception: a bound with a
    fraction that is moved past its integer part, that is a lower bound `ge` or an upper bound `lt`
    above zero and a lower bound `gt` or an upper bound `le` below zero. There the integer part
    itself, and no other integer, satisfies only one of the two. -/
theorem truncated_bound_iff (kind : ConstraintKind) {q : Quantity} (hfits : q.FitsWord) :
    ∃ m : Int, (Bound.number q).coerced false = .number (.whole m) ∧
      ((Bound.number q).coerced false).literal = toString m ∧ TowardZero q.toRat m ∧
      ∀ n : Int, (kind.Admits q.toRat n ↔ kind.Admits (Quantity.whole m).toRat n) ↔
        ¬(n = m ∧ q.toRat ≠ m ∧ kind.MovedPast q.toRat) := by
  obtain ⟨m, hwhole, hzero⟩ := Quantity.toWhole_towardZero hfits
  have hcoerced : (Bound.number q).coerced false = .number (.whole m) :=
    congrArg Bound.number hwhole
  refine ⟨m, hcoerced, ?_, hzero, admits_towardZero_iff hzero⟩
  rw [hcoerced]
  rfl

/-- The number 2.5. -/
def twoAndHalf : Binary64 := ⟨false, 0x14000000000000, -51⟩

theorem toRat_twoAndHalf : twoAndHalf.toRat = 5 / 2 := by
  norm_num [Binary64.toRat, twoAndHalf]

open ConstraintKind in
/-- An upper bound of 2.5 keeps its meaning, and a lower one keeps it for all integers but 2. -/
theorem truncated_bound_iff_twoAndHalf :
    (Quantity.real twoAndHalf).FitsWord ∧
    (Bound.number (.real twoAndHalf)).coerced false = .number (.whole 2) ∧
    (∀ n : Int, le.Admits (5 / 2) n ↔ le.Admits 2 n) ∧
    ∀ n : Int, n ≠ 2 → (ge.Admits (5 / 2) n ↔ ge.Admits 2 n) := by
  have hfits : (Quantity.real twoAndHalf).FitsWord := by
    constructor <;> decide
  have hcoerced : (Bound.number (.real twoAndHalf)).coerced false = .number (.whole 2) := rfl
  have hupper := truncated_bound_iff le hfits
  have hlower := truncated_bound_iff ge hfits
  simp only [hcoerced, Bound.number.injEq, Quantity.whole.injEq, exists_eq_left', Quantity.toRat,
    toRat_twoAndHalf, Int.cast_ofNat] at hupper hlower
  refine ⟨hfits, hcoerced, fun n => ?_, fun n hn => ?_⟩
  · refine (hupper.2.2 n).2 fun h => ?_
    exact absurd h.2.2 (by norm_num [MovedPast])
  · exact (hlower.2.2 n).2 fun h => hn h.1

open ConstraintKind in
/-- As a whole number, a lower bound of 2.5 is satisfied by 2. -/
theorem minimum_lowered_twoAndHalf :
    ge.isComparison = true ∧ twoAndHalf.Canonical ∧
    ge.readBound? (.float twoAndHalf) = some (.number (.real twoAndHalf)) ∧
    (Bound.number (.real twoAndHalf)).coerced false = .number (.whole 2) ∧
    ¬ ge.Admits (Quantity.real twoAndHalf).toRat 2 ∧ ge.Admits (Quantity.whole 2).toRat 2 := by
  refine ⟨rfl, by decide, rfl, rfl, ?_, ?_⟩
  · norm_num [Quantity.toRat, toRat_twoAndHalf, Admits]
  · norm_num [Quantity.toRat, Admits]

end SchemaPress
