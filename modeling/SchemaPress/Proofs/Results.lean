set_option autoImplicit false

/-! # Computations that may fail

A sequence of computations gives a result if each of them does, and a computation for every member
of a list if it gives one for each. -/

namespace SchemaPress

variable {ε α β : Type}

theorem bind_eq_ok_iff {x : Except ε α} {f : α → Except ε β} {b : β} :
    (x >>= f) = .ok b ↔ ∃ a, x = .ok a ∧ f a = .ok b := by
  cases x with
  | error failure => simp [bind, Except.bind]
  | ok a => simp [bind, Except.bind]

theorem pure_eq_ok_iff {a b : α} : (pure a : Except ε α) = .ok b ↔ a = b := by
  simp [pure, Except.pure]

/-- Results for all members of a list, in order. -/
theorem map_eq_of_mapM_eq_ok {f : α → Except ε β} {members : List α} {results : List β}
    (h : members.mapM f = .ok results) : members.map f = results.map .ok := by
  induction members generalizing results with
  | nil =>
    rw [List.mapM_nil, pure_eq_ok_iff] at h
    rw [← h]
    rfl
  | cons member rest ih =>
    simp only [List.mapM_cons, bind_eq_ok_iff, pure_eq_ok_iff] at h
    obtain ⟨first, hfirst, others, hothers, rfl⟩ := h
    rw [List.map_cons, List.map_cons, hfirst, ih hothers]

theorem exists_of_mapM_eq_ok {f : α → Except ε β} {members : List α} {results : List β}
    (h : members.mapM f = .ok results) {result : β} (hresult : result ∈ results) :
    ∃ member ∈ members, f member = .ok result := by
  have hmem : Except.ok result ∈ members.map f :=
    map_eq_of_mapM_eq_ok h ▸ List.mem_map_of_mem hresult
  exact List.mem_map.1 hmem

/-- What can be seen of a result is there. -/
theorem exists_of_toOption_map {result : Except ε α} {view : α → β} {b : β}
    (h : result.toOption.map view = some b) : ∃ a, result = .ok a ∧ view a = b := by
  cases result with
  | error failure => cases h
  | ok a => exact ⟨a, rfl, Option.some.inj h⟩

end SchemaPress
