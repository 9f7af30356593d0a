import SchemaPress.Json.Number

set_option autoImplicit false

/-! # Integers are read back

The decimal digits of an integer that fits 64 bits are read as that integer
(`number?_toString`): they start with no zero that is not the whole number, and the significand
has room for all of them. -/

namespace SchemaPress.Json

/-! ## Digits -/

theorem le_ofDigitChars (digits : List Char) (significand : Nat) :
    significand ≤ Nat.ofDigitChars 10 digits significand := by
  induction digits generalizing significand with
  | nil => exact Nat.le_refl _
  | cons digit rest ih =>
    rw [Nat.ofDigitChars_cons]
    exact Nat.le_trans (by omega) (ih _)

/-- All digits are kept if the number that they denote fits. -/
theorem absorb_eq {digits : List Char} {significand : Nat}
    (h : Nat.ofDigitChars 10 digits significand ≤ maxSignificand) :
    absorb significand digits = (Nat.ofDigitChars 10 digits significand, digits.length) := by
  induction digits generalizing significand with
  | nil => rfl
  | cons digit rest ih =>
    rw [Nat.ofDigitChars_cons, Nat.mul_comm] at h
    change Nat.ofDigitChars 10 rest (significand * 10 + digitValue digit) ≤ _ at h
    have hnext := Nat.le_trans (le_ofDigitChars rest _) h
    rw [absorb, if_pos hnext, ih h, Nat.ofDigitChars_cons, Nat.mul_comm]
    rfl

/-- The digits of a positive number start with no zero. -/
theorem toDigits_eq_cons {n : Nat} (h : 0 < n) :
    ∃ first rest, Nat.toDigits 10 n = first :: rest ∧ first ≠ '0' := by
  induction n using Nat.strongRecOn with
  | ind n ih =>
    by_cases hsmall : n < 10
    · refine ⟨n.digitChar, [], Nat.toDigits_of_lt_base hsmall, ?_⟩
      have hdigit : ∀ k < 10, 0 < k → Nat.digitChar k ≠ '0' := by decide
      exact hdigit n hsmall h
    · obtain ⟨first, rest, hdigits, hfirst⟩ := ih (n / 10) (by omega) (by omega)
      refine ⟨first, rest ++ [(n % 10).digitChar], ?_, hfirst⟩
      rw [Nat.toDigits_of_base_le (by decide) (Nat.le_of_not_lt hsmall), hdigits]
      rfl

theorem wholeDigitsOk_toDigits (n : Nat) : wholeDigitsOk (Nat.toDigits 10 n) = true := by
  by_cases h : n = 0
  · subst h
    decide
  · obtain ⟨first, rest, hdigits, hfirst⟩ := toDigits_eq_cons (Nat.pos_of_ne_zero h)
    rw [hdigits]
    unfold wholeDigitsOk
    split
    · contradiction
    · rfl
    · rename_i heq
      cases heq
      simpa using hfirst

/-! ## Whole numbers -/

/-- The digits of a number that fits are read as a whole number. -/
theorem readUnsigned_toDigits (negative : Bool) {n : Nat} (h : n ≤ maxSignificand) :
    readUnsigned negative (Nat.toDigits 10 n) = some (wholeNumber negative n, []) := by
  have hdigit : ∀ c ∈ Nat.toDigits 10 n, c.isDigit = true := fun c hc =>
    Nat.isDigit_of_mem_toDigits (by decide) (by decide) hc
  have htake : (Nat.toDigits 10 n ++ []).takeWhile Char.isDigit = Nat.toDigits 10 n ++ [] :=
    List.takeWhile_append_of_pos hdigit
  have hdrop : (Nat.toDigits 10 n ++ []).dropWhile Char.isDigit = [] :=
    List.dropWhile_append_of_pos hdigit
  rw [List.append_nil] at htake hdrop
  have hvalue : Nat.ofDigitChars 10 (Nat.toDigits 10 n) 0 = n :=
    Nat.ofDigitChars_toDigits (by decide) (by decide)
  have habsorb : absorb 0 (Nat.toDigits 10 n) = (n, (Nat.toDigits 10 n).length) := by
    rw [absorb_eq (by rwa [hvalue]), hvalue]
  have hdigits : (guard (wholeDigitsOk (Nat.toDigits 10 n)) : Option Unit) = some () :=
    if_pos (wholeDigitsOk_toDigits n)
  unfold readUnsigned
  rw [htake, hdrop]
  change (guard (wholeDigitsOk (Nat.toDigits 10 n)) : Option Unit).bind _ = _
  rw [hdigits]
  simp [habsorb, readFraction, readExponent]

/-- An integer that fits 64 bits is read back from its decimal form. -/
theorem number?_toString {n : Int} (hmin : -9223372036854775808 ≤ n)
    (hmax : n ≤ 18446744073709551615) : number? (toString n).toList = some (.int n) := by
  rw [Int.toString_eq_repr, Int.repr_eq_if]
  split
  · rename_i hsign
    have hfits : n.toNat ≤ maxSignificand := by
      have : maxSignificand = 18446744073709551615 := rfl
      omega
    have hhead : ∀ rest, Nat.toDigits 10 n.toNat ≠ '-' :: rest := by
      intro rest h
      have hdigit := Nat.isDigit_of_mem_toDigits (by decide) (by decide)
        (h ▸ List.mem_cons_self : '-' ∈ Nat.toDigits 10 n.toNat)
      exact absurd hdigit (by decide)
    rw [Nat.toList_repr, number?, readNumber]
    · rw [readUnsigned_toDigits false hfits]
      simp [wholeNumber, Int.toNat_of_nonneg hsign]
    · exact hhead
  · rename_i hsign
    have hfits : (-n).toNat ≤ maxSignificand := by
      have : maxSignificand = 18446744073709551615 := rfl
      omega
    have hwhole : wholeNumber true (-n).toNat = .int n := by
      rw [wholeNumber, if_neg (by decide), if_pos (by omega)]
      congr 1
      omega
    rw [String.toList_append, Nat.toList_repr, number?,
      show "-".toList ++ Nat.toDigits 10 (-n).toNat = '-' :: Nat.toDigits 10 (-n).toNat from rfl,
      readNumber, readUnsigned_toDigits true hfits, hwhole]

end SchemaPress.Json
