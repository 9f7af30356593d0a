set_option autoImplicit false

/-! # Sorted lists

Lists that are kept in order by insertion. The order is given by a test that tells which of two
different elements comes first. -/

namespace SchemaPress.Sorted

variable {α : Type}

/-- Inserts an element into a sorted list, behind the elements that it does not come before. -/
def insert (before : α → α → Bool) (x : α) : List α → List α
  | [] => [x]
  | head :: rest =>
    if before x head then x :: head :: rest else head :: insert before x rest

/-- The elements in order. -/
def sort (before : α → α → Bool) (xs : List α) : List α :=
  xs.foldr (insert before) []

/-- Inserts an element into a sorted list that may hold it already. -/
def insertUnique [DecidableEq α] (before : α → α → Bool) (x : α) : List α → List α
  | [] => [x]
  | head :: rest =>
    if before x head then x :: head :: rest
    else if x = head then head :: rest
    else head :: insertUnique before x rest

/-- The elements in order, each once. -/
def sortUnique [DecidableEq α] (before : α → α → Bool) (xs : List α) : List α :=
  xs.foldr (insertUnique before) []

variable {before : α → α → Bool}

/-! ## Elements -/

theorem perm_insert (x : α) (xs : List α) : (insert before x xs).Perm (x :: xs) := by
  induction xs with
  | nil => exact .refl _
  | cons head rest ih =>
    rw [insert]
    split
    · exact .refl _
    · exact (ih.cons head).trans (.swap x head rest)

theorem mem_insert {x y : α} {xs : List α} : y ∈ insert before x xs ↔ y = x ∨ y ∈ xs := by
  rw [(perm_insert x xs).mem_iff, List.mem_cons]

theorem perm_sort (xs : List α) : (sort before xs).Perm xs := by
  induction xs with
  | nil => exact .refl _
  | cons head rest ih => exact (perm_insert head _).trans (ih.cons head)

theorem mem_sort {x : α} {xs : List α} : x ∈ sort before xs ↔ x ∈ xs :=
  (perm_sort xs).mem_iff

section

variable [DecidableEq α]

theorem mem_insertUnique {x y : α} {xs : List α} :
    y ∈ insertUnique before x xs ↔ y = x ∨ y ∈ xs := by
  induction xs with
  | nil => simp [insertUnique]
  | cons head rest ih =>
    rw [insertUnique]
    split
    · exact List.mem_cons
    · split
      · rename_i hsame
        subst hsame
        simp
      · rw [List.mem_cons, ih, List.mem_cons]
        exact or_left_comm

theorem mem_sortUnique {x : α} {xs : List α} : x ∈ sortUnique before xs ↔ x ∈ xs := by
  induction xs with
  | nil => exact Iff.rfl
  | cons head rest ih =>
    rw [List.mem_cons, ← ih]
    exact mem_insertUnique

end

/-! ## Order -/

/-- A new element that can be compared with all others keeps the list in strict order. -/
theorem pairwise_insert (htrans : ∀ a b c, before a b → before b c → before a c) {x : α}
    {xs : List α} (hcompare : ∀ y ∈ xs, before x y ∨ before y x)
    (h : xs.Pairwise fun a b => before a b) :
    (insert before x xs).Pairwise fun a b => before a b := by
  induction xs with
  | nil => simp [insert]
  | cons head rest ih =>
    have hrest := List.pairwise_cons.1 h
    rw [insert]
    split
    · rename_i hbefore
      refine List.pairwise_cons.2 ⟨fun y hy => ?_, h⟩
      rcases List.mem_cons.1 hy with rfl | hy
      · exact hbefore
      · exact htrans x head y hbefore (hrest.1 y hy)
    · rename_i hbefore
      refine List.pairwise_cons.2
        ⟨fun y hy => ?_, ih (fun y hy => hcompare y (List.mem_cons_of_mem _ hy)) hrest.2⟩
      rcases mem_insert.1 hy with rfl | hy
      · exact (hcompare head List.mem_cons_self).resolve_left hbefore
      · exact hrest.1 y hy

/-- Different elements are sorted strictly. -/
theorem pairwise_sort (htrans : ∀ a b c, before a b → before b c → before a c)
    (hcompare : ∀ a b, a ≠ b → before a b ∨ before b a) {xs : List α} (h : xs.Nodup) :
    (sort before xs).Pairwise fun a b => before a b := by
  induction xs with
  | nil => exact .nil
  | cons head rest ih =>
    obtain ⟨hhead, hrest⟩ := List.nodup_cons.1 h
    refine pairwise_insert htrans (fun y hy => hcompare head y ?_) (ih hrest)
    rintro rfl
    exact hhead (mem_sort.1 hy)

/-- An element that is inserted once at most keeps the list in strict order. -/
theorem pairwise_insertUnique [DecidableEq α]
    (htrans : ∀ a b c, before a b → before b c → before a c)
    (hcompare : ∀ a b, a ≠ b → before a b ∨ before b a) (x : α) {xs : List α}
    (h : xs.Pairwise fun a b => before a b) :
    (insertUnique before x xs).Pairwise fun a b => before a b := by
  induction xs with
  | nil => simp [insertUnique]
  | cons head rest ih =>
    have hrest := List.pairwise_cons.1 h
    rw [insertUnique]
    split
    · rename_i hbefore
      refine List.pairwise_cons.2 ⟨fun y hy => ?_, h⟩
      rcases List.mem_cons.1 hy with rfl | hy
      · exact hbefore
      · exact htrans x head y hbefore (hrest.1 y hy)
    · rename_i hbefore
      split
      · exact h
      · rename_i hne
        refine List.pairwise_cons.2 ⟨fun y hy => ?_, ih hrest.2⟩
        rcases mem_insertUnique.1 hy with rfl | hy
        · exact (hcompare y head hne).resolve_left hbefore
        · exact hrest.1 y hy

/-- A list without repetitions, whatever was sorted. -/
theorem pairwise_sortUnique [DecidableEq α]
    (htrans : ∀ a b c, before a b → before b c → before a c)
    (hcompare : ∀ a b, a ≠ b → before a b ∨ before b a) (xs : List α) :
    (sortUnique before xs).Pairwise fun a b => before a b := by
  induction xs with
  | nil => exact .nil
  | cons head rest ih => exact pairwise_insertUnique htrans hcompare head ih

end SchemaPress.Sorted

namespace SchemaPress.Text

/-! ## Texts, in the order of their code points -/

/-- The texts in ascending order. -/
def sorted (texts : List String) : List String :=
  Sorted.sort (fun a b => decide (a < b)) texts

/-- The texts in strictly ascending order, each once. -/
def sortedUnique (texts : List String) : List String :=
  Sorted.sortUnique (fun a b => decide (a < b)) texts

theorem mem_sorted {text : String} {texts : List String} : text ∈ sorted texts ↔ text ∈ texts :=
  Sorted.mem_sort

theorem mem_sortedUnique {text : String} {texts : List String} :
    text ∈ sortedUnique texts ↔ text ∈ texts :=
  Sorted.mem_sortUnique

theorem pairwise_sortedUnique (texts : List String) : (sortedUnique texts).Pairwise (· < ·) := by
  refine (Sorted.pairwise_sortUnique (fun a b c hab hbc => ?_) (fun a b hne => ?_) texts).imp
    of_decide_eq_true
  · exact decide_eq_true (String.lt_trans (of_decide_eq_true hab) (of_decide_eq_true hbc))
  · rw [decide_eq_true_iff, decide_eq_true_iff]
    by_cases hlt : a < b
    · exact Or.inl hlt
    · exact Or.inr (Std.lt_of_le_of_ne (String.not_lt.1 hlt) (Ne.symm hne))

end SchemaPress.Text
