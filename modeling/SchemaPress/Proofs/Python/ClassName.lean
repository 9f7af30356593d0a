import Mathlib.Data.List.Pairwise
import Mathlib.Data.List.SplitBy
import SchemaPress.Python.Name

set_option autoImplicit false

/-! # Class names have no dots

A class name that is made from a text is put together from words, which hold letters and numerals
only, with capitals in front. No character has a dot in its upper case, so a class name is never
a dotted name. -/

namespace SchemaPress

namespace Text

/-- Only the code point of the dot stands for a dot. -/
theorem ofNat_ne_dot {code : Nat} (h : code ≠ 46) : Char.ofNat code ≠ '.' := by
  intro hdot
  by_cases hvalid : code.isValidChar
  · have hchar : Char.ofNat code = Char.ofNatAux code hvalid := dif_pos hvalid
    exact h (congrArg Char.toNat (hchar.symm.trans hdot))
  · -- what is no code point gives the character zero
    have hchar : Char.ofNat code = Char.ofNat 0 := dif_neg hvalid
    exact absurd (hchar.symm.trans hdot) (by decide)

theorem dot_not_mem_caseExpansions : ∀ expansion ∈ caseExpansions, 46 ∉ expansion.2 := by
  decide +kernel

/-- No run of characters moves to the dot. -/
theorem dot_not_in_caseRuns : ∀ run ∈ caseRuns,
    46 < (run.first : Int) + run.offset ∨ (run.last : Int) + run.offset < 46 := by
  decide +kernel

theorem dot_not_mem_uppercase {c : Char} (h : c ≠ '.') : '.' ∉ uppercase c := by
  unfold uppercase
  cases hcodes : caseExpansions.lookup c.toNat with
  | some codes =>
    obtain ⟨front, back, htable, -⟩ := List.lookup_eq_some_iff.1 hcodes
    have hnot := dot_not_mem_caseExpansions (c.toNat, codes) (by simp [htable])
    intro hdot
    obtain ⟨code, hcode, heq⟩ := List.mem_map.1 hdot
    refine ofNat_ne_dot ?_ heq
    rintro rfl
    exact hnot hcode
  | none =>
    cases hrun : caseRuns.find? (·.covers c.toNat) with
    | some run =>
      have hcovers := List.find?_some hrun
      simp only [CaseRun.covers, Bool.and_eq_true, decide_eq_true_eq] at hcovers
      have hmoved := dot_not_in_caseRuns run (List.mem_of_find?_eq_some hrun)
      have hne : Char.ofNat ((c.toNat : Int) + run.offset).toNat ≠ '.' :=
        ofNat_ne_dot (by omega)
      simpa using hne.symm
    | none => simpa using h.symm

end Text

namespace Python

/-- Two characters that are both alphanumeric, or both not. -/
def Agree (a b : Char) : Prop :=
  Text.isAlphanumeric a = Text.isAlphanumeric b

instance : Trans Agree Agree Agree := ⟨Eq.trans⟩

instance : Std.Symm Agree := ⟨fun _ _ => Eq.symm⟩

/-- A word holds letters and numerals only. -/
theorem isAlphanumeric_of_mem_words {cs word : List Char} (h : word ∈ words cs) :
    ∀ c ∈ word, Text.isAlphanumeric c = true := by
  obtain ⟨hword, hany⟩ := List.mem_filter.1 h
  obtain ⟨letter, hletter, halphanumeric⟩ := List.any_eq_true.1 hany
  -- neighbours in a word agree, hence all its characters do
  have hchain : word.IsChain Agree :=
    (List.isChain_of_mem_splitBy hword).imp fun _ _ hab => beq_iff_eq.1 hab
  have hrefl : ∀ c ∈ word, Agree c c := fun _ _ => rfl
  intro c hc
  exact (hchain.pairwise.forall_of_forall hrefl hc hletter).trans halphanumeric

theorem dot_not_mem_capitalized {word : List Char} (h : '.' ∉ word) :
    '.' ∉ capitalized word := by
  cases word with
  | nil => exact List.not_mem_nil
  | cons first rest =>
    rw [List.mem_cons, not_or] at h
    rw [capitalized, List.mem_append, not_or]
    exact ⟨Text.dot_not_mem_uppercase (Ne.symm h.1), h.2⟩

/-- A class name has no dot. -/
theorem dot_not_mem_className (raw : String) : '.' ∉ (className raw).toList := by
  have hjoined : '.' ∉ (words raw.toList).flatMap capitalized := by
    intro hdot
    obtain ⟨word, hword, hdot⟩ := List.mem_flatMap.1 hdot
    refine dot_not_mem_capitalized (fun hdot => ?_) hdot
    exact absurd (isAlphanumeric_of_mem_words hword '.' hdot) (by decide +kernel)
  unfold className
  cases hwords : (words raw.toList).flatMap capitalized with
  | nil => simp
  | cons first rest =>
    rw [hwords] at hjoined
    simp only
    split
    · simpa using hjoined
    · simpa using hjoined

end Python

end SchemaPress
