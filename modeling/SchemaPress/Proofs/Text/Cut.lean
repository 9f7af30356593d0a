import SchemaPress.Text.Cut

set_option autoImplicit false

/-! # Where texts are cut

A run of characters of a kind ends at the first one of another kind. A name is cut at its last dot:
what stands behind it has no dot, and the two parts give the name back. So a name is known from what
stands before its last dot and its last segment (`eq_of_lastSegment_eq`). -/

namespace SchemaPress.Text

/-! ## Runs of characters -/

/-- Characters of a kind up to the first one that is not. -/
theorem takeWhile_append_stop {p : Char → Bool} {front rest : List Char}
    (hfront : ∀ c ∈ front, p c = true) (hrest : rest.takeWhile p = []) :
    (front ++ rest).takeWhile p = front ∧ (front ++ rest).dropWhile p = rest := by
  rw [List.takeWhile_append_of_pos hfront, List.dropWhile_append_of_pos hfront, hrest]
  refine ⟨List.append_nil _, ?_⟩
  simpa [hrest] using List.takeWhile_append_dropWhile (p := p) (l := rest)

/-- The rest behind the characters of a kind does not start with another one. -/
theorem takeWhile_dropWhile (p : Char → Bool) (cs : List Char) :
    (cs.dropWhile p).takeWhile p = [] := by
  induction cs with
  | nil => rfl
  | cons c rest ih => by_cases h : p c <;> simp [h, ih]

/-! ## Dotted names -/

theorem splitLastDot_eq_none_iff {cs : List Char} : splitLastDot cs = none ↔ '.' ∉ cs := by
  unfold splitLastDot
  by_cases hdot : '.' ∈ cs
  · simp [hdot]
  · simp [hdot]

theorem splitLastDot_append {front back : List Char} (h : '.' ∉ back) :
    splitLastDot (front ++ '.' :: back) = some (front, back) := by
  have hback : ∀ c ∈ back.reverse, (c != '.') = true := by
    intro c hc
    rw [bne_iff_ne]
    rintro rfl
    exact h (List.mem_reverse.1 hc)
  have hreverse : (front ++ '.' :: back).reverse = back.reverse ++ ('.' :: front.reverse) := by
    simp
  have htake : (front ++ '.' :: back).reverse.takeWhile (· != '.') = back.reverse := by
    rw [hreverse]
    exact (takeWhile_append_stop hback (List.takeWhile_cons_of_neg (by simp))).1
  have hdrop : (front ++ '.' :: back).reverse.drop (back.length + 1) = front.reverse := by
    rw [hreverse, ← List.length_reverse, ← List.drop_drop, List.drop_left]
    rfl
  unfold splitLastDot
  simp only [htake, List.length_reverse, hdrop, List.reverse_reverse]
  exact if_pos (by simp)

/-- A name is cut at its last dot. -/
theorem splitLastDot_eq_some_iff {cs front back : List Char} :
    splitLastDot cs = some (front, back) ↔ cs = front ++ '.' :: back ∧ '.' ∉ back := by
  constructor
  · intro h
    have hdot : '.' ∈ cs := by
      refine Decidable.not_not.1 fun hdot => ?_
      rw [splitLastDot_eq_none_iff.2 hdot] at h
      cases h
    -- read backwards, the last dot is the first one
    obtain ⟨behind, before, hsplit, hbehind⟩ :=
      List.eq_append_cons_of_mem (List.mem_reverse.2 hdot)
    have hcs : cs = before.reverse ++ '.' :: behind.reverse := by
      rw [← List.reverse_reverse cs, hsplit]
      simp
    have hnot : '.' ∉ behind.reverse := fun hmem => hbehind (List.mem_reverse.1 hmem)
    rw [hcs, splitLastDot_append hnot] at h
    cases h
    exact ⟨hcs, hnot⟩
  · rintro ⟨rfl, hback⟩
    exact splitLastDot_append hback

/-- What stands before the last dot of a name. -/
def package? (name : String) : Option String :=
  (cutLastDot name).map Prod.fst

/-- The last segment of a name has no dot. -/
theorem dot_not_mem_lastSegment (name : String) : '.' ∉ (lastSegment name).toList := by
  unfold lastSegment cutLastDot
  cases hsplit : splitLastDot name.toList with
  | none => exact splitLastDot_eq_none_iff.1 hsplit
  | some parts =>
    have hback := (splitLastDot_eq_some_iff.1 hsplit).2
    simpa using hback

/-- A name without a dot is its own last segment. -/
theorem lastSegment_eq_self {name : String} (h : '.' ∉ name.toList) : lastSegment name = name := by
  unfold lastSegment cutLastDot
  rw [splitLastDot_eq_none_iff.2 h]
  rfl

/-- A name is put together from its package and its last segment. -/
theorem toList_eq_of_package? (name : String) :
    name.toList = (match package? name with
      | some front => front.toList ++ ['.']
      | none => []) ++ (lastSegment name).toList := by
  unfold package? lastSegment cutLastDot
  cases hsplit : splitLastDot name.toList with
  | none => rfl
  | some parts =>
    obtain ⟨hname, -⟩ := splitLastDot_eq_some_iff.1 hsplit
    simpa using hname

/-- Names with the same package and the same last segment are the same. -/
theorem eq_of_lastSegment_eq {name other : String} (hpackage : package? name = package? other)
    (hsegment : lastSegment name = lastSegment other) : name = other := by
  apply String.toList_inj.1
  rw [toList_eq_of_package? name, toList_eq_of_package? other, hpackage, hsegment]

end SchemaPress.Text
