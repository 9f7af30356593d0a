import Mathlib.Data.List.Nodup
import SchemaPress.Reference

set_option autoImplicit false

/-! # Fresh names

The candidates for a display name are all different, and there is one more of them than there are
names that are taken. So one of them is free (`freshName_spec`). -/

namespace SchemaPress

theorem numbered_injective (name : String) {a b : Nat}
    (h : name ++ toString a = name ++ toString b) : a = b := by
  have hdigits : Nat.toDigits 10 a = Nat.toDigits 10 b := by
    simpa using congrArg String.toList h
  calc
    a = Nat.ofDigitChars 10 (Nat.toDigits 10 a) 0 := Nat.ofDigitChars_ten_toDigits.symm
    _ = Nat.ofDigitChars 10 (Nat.toDigits 10 b) 0 := by rw [hdigits]
    _ = b := Nat.ofDigitChars_ten_toDigits

/-- The candidates for a name are all different. -/
theorem nodup_nameCandidates (name : String) (count : Nat) : (nameCandidates name count).Nodup := by
  refine List.nodup_cons.2 ⟨?_, ?_⟩
  · intro hmem
    obtain ⟨i, -, hname⟩ := List.mem_map.1 hmem
    have hdigits : Nat.toDigits 10 (i + 1) = [] := by
      simpa using congrArg String.toList hname
    exact Nat.toDigits_ne_nil hdigits
  · refine List.nodup_range.map fun i j hij => ?_
    exact Nat.succ.inj (numbered_injective name hij)

/-- A number adds no dot to a name. -/
theorem dot_mem_of_mem_nameCandidates {name candidate : String} {count : Nat}
    (h : candidate ∈ nameCandidates name count) (hdot : '.' ∈ candidate.toList) :
    '.' ∈ name.toList := by
  rcases List.mem_cons.1 h with rfl | h
  · exact hdot
  · obtain ⟨i, -, rfl⟩ := List.mem_map.1 h
    rw [String.toList_append, List.mem_append] at hdot
    refine hdot.resolve_right fun hnumber => ?_
    have hdigit : '.' ∈ Nat.toDigits 10 (i + 1) := by simpa using hnumber
    exact absurd (Nat.isDigit_of_mem_toDigits (by decide) (by decide) hdigit) (by decide)

/-- A fresh name is a candidate that is not taken. -/
theorem freshName_spec (taken : List String) (name : String) :
    freshName taken name ∉ taken ∧
      freshName taken name ∈ nameCandidates name taken.length := by
  unfold freshName
  cases hfind : (nameCandidates name taken.length).find? fun c => !taken.contains c with
  | some candidate =>
    have hfree := List.find?_some hfind
    exact ⟨by simpa using hfree, List.mem_of_find?_eq_some hfind⟩
  | none =>
    -- there is one candidate more than there are taken names
    have hsubset : nameCandidates name taken.length ⊆ taken := by
      intro candidate hcandidate
      have htaken := List.find?_eq_none.1 hfind candidate hcandidate
      simpa using htaken
    have hlength := (nodup_nameCandidates name taken.length).length_le_of_subset hsubset
    rw [nameCandidates, List.length_cons, List.length_map, List.length_range] at hlength
    exact absurd hlength (Nat.not_succ_le_self _)

end SchemaPress
