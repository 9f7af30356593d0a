import SchemaPress.Entries

set_option autoImplicit false

/-! # Looking up names in entries

What each operation on entries does to the value of a name (`get?`), to the entries that are there,
and to the names, which stay distinct. -/

namespace SchemaPress.Entries

variable {α β : Type}

/-! ## Values -/

theorem get?_cons (key : String) (value : α) (rest : Entries α) (name : String) :
    get? ((key, value) :: rest) name = if name = key then some value else get? rest name := by
  by_cases h : name = key
  · simp [get?, h]
  · simp [get?, List.lookup_cons, beq_false_of_ne h, h]

theorem get?_append_of_ne {front back : Entries α} {name : String}
    (h : ∀ entry ∈ front, entry.1 ≠ name) :
    get? (front ++ back) name = get? back name := by
  induction front with
  | nil => rfl
  | cons entry rest ih =>
    obtain ⟨key, value⟩ := entry
    have hkey : name ≠ key := (h (key, value) List.mem_cons_self).symm
    rw [List.cons_append, get?_cons, if_neg hkey]
    exact ih fun other hother => h other (List.mem_cons_of_mem _ hother)

theorem has_eq_isSome (entries : Entries α) (name : String) :
    has entries name = (get? entries name).isSome := by
  unfold has get?
  rw [Bool.eq_iff_iff, List.lookup_isSome_iff, List.any_eq_true]
  simp only [beq_iff_eq]
  exact ⟨fun ⟨entry, hentry, hname⟩ => ⟨entry, hentry, hname.symm⟩,
    fun ⟨entry, hentry, hname⟩ => ⟨entry, hentry, hname.symm⟩⟩

theorem get?_put (entries : Entries α) (name : String) (value : α) (other : String) :
    get? (put entries name value) other =
      if other = name then some value else get? entries other := by
  induction entries with
  | nil => rw [put, get?_cons]
  | cons entry rest ih =>
    obtain ⟨key, old⟩ := entry
    rw [put]
    split
    · rename_i hkey
      rw [beq_iff_eq] at hkey
      subst hkey
      rw [get?_cons, get?_cons]
      split <;> rfl
    · rename_i hkey
      rw [beq_iff_eq] at hkey
      rw [get?_cons, get?_cons, ih]
      split
      · rename_i hother
        rw [if_neg (hother ▸ hkey)]
      · rfl

/-- A name that is known keeps its value. -/
theorem get?_putNew (entries : Entries α) (name : String) (value : α) (other : String) :
    get? (putNew entries name value) other =
      (get? entries other).or (if other = name then some value else none) := by
  unfold putNew
  rw [has_eq_isSome]
  split
  · rename_i hknown
    cases hother : get? entries other with
    | some old => rfl
    | none =>
      have hne : other ≠ name := by
        rintro rfl
        simp [hother] at hknown
      rw [if_neg hne]
      rfl
  · have hnew := get?_cons name value [] other
    unfold get? at hnew ⊢
    rw [List.lookup_append, hnew]
    rfl

/-- A name is looked up in the part of the entries that a test on names selects. -/
theorem get?_filter (entries : Entries α) (p : String → Bool) (name : String) :
    get? (entries.filter fun entry => p entry.1) name =
      if p name = true then get? entries name else none := by
  induction entries with
  | nil => simp [get?]
  | cons entry rest ih =>
    obtain ⟨key, value⟩ := entry
    by_cases hname : name = key
    · subst hname
      by_cases hp : p name = true <;> simp [hp, get?_cons, ih]
    · by_cases hp : p key = true <;> simp [hp, get?_cons, ih, hname]

theorem get?_drop (entries : Entries α) (name other : String) :
    get? (drop entries name) other = if other = name then none else get? entries other := by
  unfold drop
  rw [get?_filter entries (· != name)]
  by_cases hname : other = name <;> simp [hname]

theorem get?_mapValues (f : α → β) (entries : Entries α) (name : String) :
    get? (mapValues f entries) name = (get? entries name).map f := by
  induction entries with
  | nil => rfl
  | cons entry rest ih =>
    show get? ((entry.1, f entry.2) :: mapValues f rest) name = _
    rw [get?_cons, get?_cons, ih]
    split <;> rfl

theorem get?_overlay_of_notMem {updates : Entries α} {name : String} (h : name ∉ names updates)
    (entries : Entries α) : get? (overlay entries updates) name = get? entries name := by
  induction updates generalizing entries with
  | nil => rfl
  | cons update rest ih =>
    obtain ⟨hne, hrest⟩ := not_or.1 (mt List.mem_cons.2 h)
    show get? (overlay (put entries update.1 update.2) rest) name = _
    rw [ih hrest, get?_put, if_neg hne]

theorem merged_append_singleton (entries : Entries α) (entry : String × α) :
    merged (entries ++ [entry]) = put (merged entries) entry.1 entry.2 := by
  simp [merged, overlay]

/-- Where entries are listed by a table, a name has the value that the table gives it. -/
theorem get?_filterMap (table : List String) (value? : String → Option α) (name : String) :
    get? (table.filterMap fun key => (value? key).map fun value => (key, value)) name =
      if name ∈ table then value? name else none := by
  induction table with
  | nil => rfl
  | cons key rest ih =>
    by_cases hkey : name = key
    · subst hkey
      cases hvalue : value? name with
      | none => simp [hvalue, ih]
      | some value => simp [hvalue, get?_cons]
    · cases hvalue : value? key with
      | none => simp [hvalue, ih, hkey]
      | some value => simp [hvalue, get?_cons, ih, hkey]

/-! ## Members -/

theorem mem_of_mem_drop {entries : Entries α} {name : String} {entry : String × α}
    (h : entry ∈ drop entries name) : entry ∈ entries :=
  (List.mem_filter.1 h).1

theorem mem_put {entries : Entries α} {name : String} {value : α} {entry : String × α}
    (h : entry ∈ put entries name value) : entry.1 = name ∨ entry ∈ entries := by
  induction entries with
  | nil =>
    rw [put, List.mem_singleton] at h
    exact Or.inl (by rw [h])
  | cons head rest ih =>
    rw [put] at h
    split at h
    · rcases List.mem_cons.1 h with rfl | h
      · exact Or.inl rfl
      · exact Or.inr (List.mem_cons_of_mem _ h)
    · rcases List.mem_cons.1 h with rfl | h
      · exact Or.inr List.mem_cons_self
      · exact (ih h).imp_right (List.mem_cons_of_mem _)

theorem mem_overlay {entries updates : Entries α} {entry : String × α}
    (h : entry ∈ overlay entries updates) :
    (∃ update ∈ updates, entry.1 = update.1) ∨ entry ∈ entries := by
  induction updates generalizing entries with
  | nil => exact Or.inr h
  | cons update rest ih =>
    rcases ih h with ⟨other, hother, heq⟩ | h
    · exact Or.inl ⟨other, List.mem_cons_of_mem _ hother, heq⟩
    · exact (mem_put h).imp_left fun heq => ⟨update, List.mem_cons_self, heq⟩

/-- Writing to a name leaves the entries alone that a test selects, if the name fails it. -/
theorem filter_put {p : String → Bool} {name : String} (h : p name = false)
    (entries : Entries α) (value : α) :
    (put entries name value).filter (fun entry => p entry.1) =
      entries.filter fun entry => p entry.1 := by
  induction entries with
  | nil => simp [put, h]
  | cons entry rest ih =>
    rw [put]
    split
    · rename_i hname
      rw [beq_iff_eq] at hname
      simp [hname, h]
    · rw [List.filter_cons, List.filter_cons, ih]

theorem filter_drop {p : String → Bool} {name : String} (h : p name = false)
    (entries : Entries α) :
    (drop entries name).filter (fun entry => p entry.1) =
      entries.filter fun entry => p entry.1 := by
  unfold drop
  rw [List.filter_filter]
  refine List.filter_congr fun entry _ => ?_
  by_cases hname : entry.1 = name <;> simp [hname, h]

theorem drop_eq_self {entries : Entries α} {name : String} (h : get? entries name = none) :
    drop entries name = entries := by
  refine List.filter_eq_self.2 fun entry hentry => ?_
  rw [bne_iff_ne]
  have hnone := List.lookup_eq_none_iff.1 h entry hentry
  rw [bne_iff_ne] at hnone
  exact hnone.symm

/-! ## Distinct names -/

theorem mem_of_get? {entries : Entries α} {name : String} {value : α}
    (h : get? entries name = some value) : (name, value) ∈ entries := by
  induction entries with
  | nil => cases h
  | cons entry rest ih =>
    rw [get?_cons] at h
    split at h
    · rename_i hname
      cases h
      exact hname ▸ List.mem_cons_self
    · exact List.mem_cons_of_mem _ (ih h)

theorem get?_eq_some_iff_mem {entries : Entries α} (h : (names entries).Nodup) {name : String}
    {value : α} : get? entries name = some value ↔ (name, value) ∈ entries := by
  refine ⟨mem_of_get?, fun hmem => ?_⟩
  induction entries with
  | nil => cases hmem
  | cons entry rest ih =>
    obtain ⟨hfresh, hrest⟩ := List.nodup_cons.1 h
    rw [get?_cons]
    rcases List.mem_cons.1 hmem with rfl | hmem
    · exact if_pos rfl
    · have hne : name ≠ entry.1 := fun heq => hfresh (List.mem_map.2 ⟨_, hmem, heq⟩)
      rw [if_neg hne, ih hrest hmem]

theorem nodup_filter {entries : Entries α} (h : (names entries).Nodup)
    (p : String × α → Bool) : (names (entries.filter p)).Nodup :=
  h.sublist (List.filter_sublist.map _)

theorem nodup_put {entries : Entries α} (h : (names entries).Nodup) (name : String) (value : α) :
    (names (put entries name value)).Nodup := by
  induction entries with
  | nil => simp [put, names]
  | cons entry rest ih =>
    obtain ⟨hfresh, hrest⟩ := List.nodup_cons.1 h
    rw [put]
    split
    · rename_i hname
      rw [beq_iff_eq] at hname
      exact List.nodup_cons.2 ⟨hname ▸ hfresh, hrest⟩
    · rename_i hname
      rw [beq_iff_eq] at hname
      refine List.nodup_cons.2 ⟨fun hmem => ?_, ih hrest⟩
      obtain ⟨other, hother, heq⟩ := List.mem_map.1 hmem
      rcases mem_put hother with hput | hold
      · exact hname (heq.symm.trans hput)
      · exact hfresh (List.mem_map.2 ⟨other, hold, heq⟩)

theorem nodup_overlay {entries : Entries α} (h : (names entries).Nodup) (updates : Entries α) :
    (names (overlay entries updates)).Nodup := by
  induction updates generalizing entries with
  | nil => exact h
  | cons update rest ih => exact ih (nodup_put h update.1 update.2)

theorem nodup_mapValues {entries : Entries α} (h : (names entries).Nodup) (f : α → β) :
    (names (mapValues f entries)).Nodup := by
  have hnames : names (mapValues f entries) = names entries := by
    simp [names, mapValues]
  rwa [hnames]

theorem names_filterMap_sublist (table : List String) (value? : String → Option α) :
    (names (table.filterMap fun key => (value? key).map fun value => (key, value))).Sublist
      table := by
  induction table with
  | nil => exact List.Sublist.slnil
  | cons key rest ih =>
    cases hvalue : value? key with
    | none =>
      simp only [List.filterMap_cons, hvalue, Option.map_none]
      exact ih.cons key
    | some value =>
      simp only [List.filterMap_cons, hvalue, Option.map_some]
      exact ih.cons_cons key

end SchemaPress.Entries
