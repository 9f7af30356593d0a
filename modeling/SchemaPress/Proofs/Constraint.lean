import SchemaPress.Constraint
import SchemaPress.Proofs.Entries

set_option autoImplicit false

/-! # Which bound is read from keywords

A kind of constraint has two spellings, and the last entry that can be read under one of them gives
the bound (`get?_foldl_readKeyword`). Where bounds on the number of items count as bounds on the
length, they move to the keyword of the length, behind all other entries, unless that keyword is
taken (`get?_ofKeywords_length`). Only the keyword is looked at: a length that is spelled as an
argument does not keep its place free of a bound on items. That is the one way in which a length
can be overruled (`length_kept_iff`). -/

namespace SchemaPress

namespace ConstraintKind

/-- The names under which a kind is read. -/
theorem ofKey?_eq_some_iff {key : String} {kind : ConstraintKind} :
    ofKey? key = some kind ↔
      key = kind.keyword ∨ key = kind.argument ∨ (key = "regex" ∧ kind = pattern) := by
  constructor
  · intro h
    unfold ofKey? at h
    cases hfind : all.find? fun kind => kind.keyword == key || kind.argument == key with
    | some found =>
      rw [hfind] at h
      cases h
      have hnamed := List.find?_some hfind
      rw [Bool.or_eq_true, beq_iff_eq, beq_iff_eq] at hnamed
      exact hnamed.imp Eq.symm fun hargument => Or.inl hargument.symm
    | none =>
      rw [hfind] at h
      simp only [Option.ite_none_right_eq_some, Option.some.injEq] at h
      exact Or.inr (Or.inr ⟨h.1, h.2.symm⟩)
  · rintro (rfl | rfl | ⟨rfl, rfl⟩)
    · cases kind <;> rfl
    · cases kind <;> rfl
    · rfl

/-- Null is no bound. -/
theorem readBound?_null (kind : ConstraintKind) : kind.readBound? .null = none := by
  cases kind <;> rfl

end ConstraintKind

/-! ## The two ends of a range of lengths -/

/-- The ends of a range. -/
inductive RangeEnd
  | lower | upper
  deriving DecidableEq, Repr

namespace RangeEnd

/-- The bound on the length at this end. -/
def length : RangeEnd → ConstraintKind
  | lower => .minLength
  | upper => .maxLength

/-- The bound on the number of items at this end. -/
def items : RangeEnd → ConstraintKind
  | lower => .minItems
  | upper => .maxItems

theorem readBound?_length (side : RangeEnd) (value : Value) :
    side.length.readBound? value = value.asNat?.map .count := by
  cases side <;> rfl

theorem ofKey?_eq_length_iff {side : RangeEnd} {key : String} :
    ConstraintKind.ofKey? key = some side.length ↔
      key = side.length.keyword ∨ key = side.length.argument := by
  rw [ConstraintKind.ofKey?_eq_some_iff]
  cases side <;> simp [length]

end RangeEnd

namespace ConstraintSet

/-! ## The last reading wins -/

/-- The bound that an entry gives to a kind. -/
def reading? (kind : ConstraintKind) (entry : String × Value) : Option Bound :=
  if ConstraintKind.ofKey? entry.1 = some kind then kind.readBound? entry.2 else none

/-- The bounds that entries give to a kind, in order. -/
def readings (kind : ConstraintKind) (entries : Entries Value) : List Bound :=
  entries.filterMap (reading? kind)

theorem get?_readKeyword (kind : ConstraintKind) (set : ConstraintSet) (entry : String × Value) :
    (set.readKeyword entry).get? kind = (reading? kind entry).or (set.get? kind) := by
  unfold readKeyword reading?
  cases hkey : ConstraintKind.ofKey? entry.1 with
  | none => rfl
  | some found =>
    by_cases hkind : kind = found
    · subst hkind
      cases hbound : kind.readBound? entry.2 <;> simp [hbound, insert]
    · have hother : some found ≠ some kind := fun h => hkind (Option.some.inj h).symm
      rw [if_neg hother]
      cases hbound : found.readBound? entry.2 <;> simp [hbound, insert, hkind]

theorem get?_foldl_readKeyword (kind : ConstraintKind) (entries : Entries Value)
    (set : ConstraintSet) :
    (entries.foldl readKeyword set).get? kind =
      (readings kind entries).getLast?.or (set.get? kind) := by
  induction entries generalizing set with
  | nil => rfl
  | cons entry rest ih =>
    rw [List.foldl_cons, ih, get?_readKeyword]
    unfold readings
    cases hentry : reading? kind entry with
    | none => rw [List.filterMap_cons_none hentry, Option.none_or]
    | some bound =>
      rw [List.filterMap_cons_some hentry, List.getLast?_cons]
      cases (List.filterMap (reading? kind) rest).getLast? <;> rfl

/-! ## Renamed keywords -/

/-- Entries that a kind does not read can be left out. -/
theorem readings_filter {kind : ConstraintKind} {p : String × Value → Bool}
    (h : ∀ entry, p entry = false → reading? kind entry = none) (entries : Entries Value) :
    readings kind (entries.filter p) = readings kind entries := by
  induction entries with
  | nil => rfl
  | cons entry rest ih =>
    unfold readings at ih ⊢
    cases hp : p entry with
    | true => rw [List.filter_cons_of_pos hp, List.filterMap_cons, List.filterMap_cons, ih]
    | false =>
      rw [List.filter_cons_of_neg (by simp [hp]), ih, List.filterMap_cons_none (h entry hp)]

/-- Moving a keyword adds what is read under its new name, behind all others, unless that name is
    taken. -/
theorem readings_renameKeyword {kind : ConstraintKind} {source target : String}
    (hsource : ConstraintKind.ofKey? source ≠ some kind) (hne : target ≠ source)
    (keywords : Entries Value) :
    readings kind (renameKeyword source target keywords) = readings kind keywords ++
      (if Entries.has keywords target then none
        else (Entries.get? keywords source).bind fun value =>
          reading? kind (target, value)).toList := by
  unfold renameKeyword
  cases hvalue : Entries.get? keywords source with
  | none => simp
  | some value =>
    have hdrop : readings kind (Entries.drop keywords source) = readings kind keywords := by
      refine readings_filter (fun entry hentry => if_neg ?_) keywords
      have hname : entry.1 = source := by simpa using hentry
      rwa [hname]
    have hhas : Entries.has (Entries.drop keywords source) target =
        Entries.has keywords target := by
      rw [Entries.has_eq_isSome, Entries.has_eq_isSome, Entries.get?_drop, if_neg hne]
    simp only [Entries.putNew, hhas, Option.bind_some]
    split
    · rw [hdrop, Option.toList_none, List.append_nil]
    · rw [← hdrop]
      unfold readings
      rw [List.filterMap_append]
      cases hbound : reading? kind (target, value) <;> simp [hbound]

/-- A kind that knows neither name is read as before. -/
theorem readings_renameKeyword_of_ne {kind : ConstraintKind} {source target : String}
    (hsource : ConstraintKind.ofKey? source ≠ some kind)
    (htarget : ConstraintKind.ofKey? target ≠ some kind) (hne : target ≠ source)
    (keywords : Entries Value) :
    readings kind (renameKeyword source target keywords) = readings kind keywords := by
  have hnone : ∀ value, reading? kind (target, value) = none := fun _ => if_neg htarget
  simp [readings_renameKeyword hsource hne, hnone]

/-- Renaming does not touch the other names. -/
theorem get?_renameKeyword {source target name : String} (hsource : name ≠ source)
    (htarget : name ≠ target) (keywords : Entries Value) :
    Entries.get? (renameKeyword source target keywords) name = Entries.get? keywords name := by
  unfold renameKeyword
  cases Entries.get? keywords source with
  | none => rfl
  | some value =>
    rw [Entries.get?_putNew, if_neg htarget, Option.or_none, Entries.get?_drop, if_neg hsource]

/-! ## Bounds on items as bounds on the length -/

/-- The entries that are not null. -/
def present (keywords : Entries Value) : Entries Value :=
  keywords.filter fun entry => !entry.2.isNull

/-- The bound on items that moves to the length. -/
def moved? (side : RangeEnd) (keywords : Entries Value) : Option Bound :=
  if Entries.has (present keywords) side.length.keyword then none
  else (Entries.get? (present keywords) side.items.keyword).bind side.length.readBound?

theorem readings_present (kind : ConstraintKind) (keywords : Entries Value) :
    readings kind (present keywords) = readings kind keywords := by
  refine readings_filter (fun entry hentry => ?_) keywords
  obtain ⟨key, value⟩ := entry
  cases value with
  | null => simp [reading?, ConstraintKind.readBound?_null]
  | _ => simp [Value.isNull] at hentry

/-- The bound on a length: one on items that moves there, or else the last one that is read. -/
theorem get?_ofKeywords_length (side : RangeEnd) (keywords : Entries Value) :
    (ofKeywords true keywords).get? side.length =
      (moved? side keywords).or (readings side.length keywords).getLast? := by
  have hrenamed : readings side.length (renameKeyword "maxItems" "maxLength"
        (renameKeyword "minItems" "minLength" (present keywords))) =
      readings side.length keywords ++ (moved? side keywords).toList := by
    cases side with
    | lower =>
      rw [readings_renameKeyword_of_ne (by decide) (by decide) (by decide),
        readings_renameKeyword (by decide) (by decide), readings_present]
      rfl
    | upper =>
      -- the first renaming is about other names than the second
      have hlength := get?_renameKeyword (by decide : "maxLength" ≠ "minItems")
        (by decide : "maxLength" ≠ "minLength") (present keywords)
      have hitems := get?_renameKeyword (by decide : "maxItems" ≠ "minItems")
        (by decide : "maxItems" ≠ "minLength") (present keywords)
      rw [readings_renameKeyword (by decide) (by decide),
        readings_renameKeyword_of_ne (by decide) (by decide) (by decide), readings_present,
        Entries.has_eq_isSome, hlength, hitems, ← Entries.has_eq_isSome]
      rfl
  have hkeywords : ofKeywords true keywords = (renameKeyword "maxItems" "maxLength"
      (renameKeyword "minItems" "minLength" (present keywords))).foldl readKeyword empty := rfl
  rw [hkeywords, get?_foldl_readKeyword, hrenamed, List.getLast?_append]
  cases moved? side keywords <;> simp [empty]

theorem isNull_of_asNat? {value : Value} {count : Nat} (h : value.asNat? = some count) :
    value.isNull = false := by
  cases value with
  | null => simp [Value.asNat?] at h
  | _ => rfl

theorem get?_present {keywords : Entries Value} (hnames : (Entries.names keywords).Nodup)
    {name : String} {value : Value} : Entries.get? (present keywords) name = some value ↔
      Entries.get? keywords name = some value ∧ value.isNull = false := by
  have hpresent : (Entries.names (present keywords)).Nodup := Entries.nodup_filter hnames _
  rw [Entries.get?_eq_some_iff_mem hpresent, Entries.get?_eq_some_iff_mem hnames]
  unfold present
  rw [List.mem_filter, Bool.not_eq_true']

theorem has_present_eq_false_iff {keywords : Entries Value}
    (hnames : (Entries.names keywords).Nodup) {name : String} :
    Entries.has (present keywords) name = false ↔
      ∀ value, Entries.get? keywords name = some value → value.isNull = true := by
  rw [Entries.has_eq_isSome, Option.isSome_eq_false_iff, Option.isNone_iff_eq_none,
    Option.eq_none_iff_forall_ne_some]
  simp only [ne_eq, get?_present hnames, not_and, Bool.not_eq_false]

/-- A bound on items is a count that the keywords give. -/
theorem bind_get?_present_eq_some_iff {keywords : Entries Value}
    (hnames : (Entries.names keywords).Nodup) {name : String} {side : RangeEnd} {bound : Bound} :
    (Entries.get? (present keywords) name).bind side.length.readBound? = some bound ↔
      ∃ count, (Entries.get? keywords name).bind Value.asNat? = some count ∧
        bound = .count count := by
  simp only [Option.bind_eq_some_iff, get?_present hnames, side.readBound?_length,
    Option.map_eq_some_iff]
  constructor
  · rintro ⟨value, ⟨hvalue, -⟩, count, hcount, rfl⟩
    exact ⟨count, ⟨value, hvalue, hcount⟩, rfl⟩
  · rintro ⟨count, ⟨value, hvalue, hcount⟩, rfl⟩
    exact ⟨value, ⟨hvalue, isNull_of_asNat? hcount⟩, count, hcount, rfl⟩

/-! ## Lengths that are overruled -/

/-- The keywords give a single bound on the length: under one of its spellings there is a count,
    and under the other one there is none. -/
structure GivesLength (side : RangeEnd) (keywords : Entries Value) (key : String)
    (count : Nat) : Prop where
  spelled : key = side.length.keyword ∨ key = side.length.argument
  given : (Entries.get? keywords key).bind Value.asNat? = some count
  alone : ∀ other, other = side.length.keyword ∨ other = side.length.argument → other ≠ key →
    (Entries.get? keywords other).bind Value.asNat? = none

/-- A bound on items overrules a length: the length is spelled as an argument, and its keyword is
    missing or null, so that the bound on items takes the keyword. -/
structure Overrules (side : RangeEnd) (keywords : Entries Value) (key : String)
    (count : Nat) : Prop where
  argument : key = side.length.argument
  free : ∀ value, Entries.get? keywords side.length.keyword = some value → value.isNull = true
  bounded : (Entries.get? keywords side.items.keyword).bind Value.asNat? = some count

section Lengths

variable {side : RangeEnd} {keywords : Entries Value} {key : String} {count : Nat}

/-- The last length that is read is the only one. -/
theorem GivesLength.getLast?_readings (h : GivesLength side keywords key count)
    (hnames : (Entries.names keywords).Nodup) :
    (readings side.length keywords).getLast? = some (.count count) := by
  obtain ⟨value, hvalue, hcount⟩ := Option.bind_eq_some_iff.1 h.given
  have hbound : Bound.count count ∈ readings side.length keywords := by
    refine List.mem_filterMap.2 ⟨(key, value), Entries.mem_of_get? hvalue, ?_⟩
    unfold reading?
    rw [if_pos (RangeEnd.ofKey?_eq_length_iff.2 h.spelled), side.readBound?_length, hcount]
    rfl
  have honly : ∀ bound ∈ readings side.length keywords, bound = .count count := by
    intro bound hmem
    obtain ⟨⟨other, found⟩, hentry, hread⟩ := List.mem_filterMap.1 hmem
    unfold reading? at hread
    split at hread
    · rename_i hother
      rw [RangeEnd.ofKey?_eq_length_iff] at hother
      rw [← Entries.get?_eq_some_iff_mem hnames] at hentry
      rw [side.readBound?_length] at hread
      by_cases hkey : other = key
      · subst hkey
        cases hentry.symm.trans hvalue
        rw [hcount] at hread
        exact (Option.some.inj hread).symm
      · have hnone := h.alone other hother hkey
        rw [hentry, Option.bind_some] at hnone
        rw [hnone] at hread
        cases hread
    · cases hread
  cases hlast : (readings side.length keywords).getLast? with
  | none =>
    rw [List.getLast?_eq_none_iff.1 hlast] at hbound
    cases hbound
  | some bound => rw [honly bound (List.mem_of_getLast? hlast)]

/-- A bound on items moves to the length exactly if it overrules it. -/
theorem GivesLength.moved?_eq_some_iff (h : GivesLength side keywords key count)
    (hnames : (Entries.names keywords).Nodup) {bound : Bound} :
    moved? side keywords = some bound ↔
      ∃ other, Overrules side keywords key other ∧ bound = .count other := by
  unfold moved?
  constructor
  · intro hmoved
    rw [Option.ite_none_left_eq_some, Bool.not_eq_true, has_present_eq_false_iff hnames,
      bind_get?_present_eq_some_iff hnames] at hmoved
    obtain ⟨hfree, other, hbounded, rfl⟩ := hmoved
    refine ⟨other, ⟨h.spelled.resolve_left fun hkey => ?_, hfree, hbounded⟩, rfl⟩
    -- the keyword is not free if the length stands there
    obtain ⟨value, hvalue, hcount⟩ := Option.bind_eq_some_iff.1 h.given
    have hnull := hfree value (hkey ▸ hvalue)
    rw [isNull_of_asNat? hcount] at hnull
    cases hnull
  · rintro ⟨other, hoverrules, rfl⟩
    rw [if_neg (by simpa using (has_present_eq_false_iff hnames).2 hoverrules.free)]
    exact (bind_get?_present_eq_some_iff hnames).2 ⟨other, hoverrules.bounded, rfl⟩

end Lengths

/-- A single bound on the length is the one that is read, unless it is spelled as an argument and
    another bound on items takes its keyword; then that bound is read. -/
theorem length_kept_iff (side : RangeEnd) (keywords : Entries Value)
    (hnames : (Entries.names keywords).Nodup) (key : String) (count : Nat)
    (h : GivesLength side keywords key count) :
    ((ofKeywords true keywords).get? side.length = some (.count count) ↔
        ∀ other, Overrules side keywords key other → other = count) ∧
      ∀ other, Overrules side keywords key other →
        (ofKeywords true keywords).get? side.length = some (.count other) := by
  rw [get?_ofKeywords_length, h.getLast?_readings hnames]
  cases hmoved : moved? side keywords with
  | none =>
    have hnot : ∀ other, ¬ Overrules side keywords key other := by
      intro other hoverrules
      have hsome := (h.moved?_eq_some_iff hnames).2 ⟨other, hoverrules, rfl⟩
      rw [hmoved] at hsome
      cases hsome
    exact ⟨⟨fun _ other hother => absurd hother (hnot other), fun _ => rfl⟩,
      fun other hother => absurd hother (hnot other)⟩
  | some bound =>
    obtain ⟨moved, hoverrules, rfl⟩ := (h.moved?_eq_some_iff hnames).1 hmoved
    have hunique : ∀ other, Overrules side keywords key other → other = moved :=
      fun other hother => Option.some.inj (hother.bounded.symm.trans hoverrules.bounded)
    rw [Option.some_or]
    refine ⟨⟨fun heq other hother => ?_, fun hsame => ?_⟩, fun other hother => ?_⟩
    · cases heq
      exact hunique other hother
    · rw [hsame moved hoverrules]
    · rw [hunique other hother]

/-- Lengths in both spellings, each beside a bound on items. -/
def tagKeywords : Entries Value :=
  [("min_length", .int 5), ("maxItems", .int 9), ("minItems", .int 2), ("maxLength", .int 4)]

/-- The length that is spelled as a keyword is kept, the other one is overruled. -/
theorem length_kept_iff_tags :
    GivesLength .lower tagKeywords "min_length" 5 ∧ Overrules .lower tagKeywords "min_length" 2 ∧
      GivesLength .upper tagKeywords "maxLength" 4 ∧
      (ofKeywords true tagKeywords).get? .minLength = some (.count 2) ∧
      (ofKeywords true tagKeywords).get? .maxLength = some (.count 4) := by
  have hnames : (Entries.names tagKeywords).Nodup := by decide
  have hlower : GivesLength .lower tagKeywords "min_length" 5 := by
    refine ⟨Or.inr rfl, by decide, ?_⟩
    rintro other (rfl | rfl) hother
    · decide
    · exact absurd rfl hother
  have hoverrules : Overrules .lower tagKeywords "min_length" 2 := by
    refine ⟨rfl, fun value hvalue => ?_, by decide⟩
    cases hvalue
  have hupper : GivesLength .upper tagKeywords "maxLength" 4 := by
    refine ⟨Or.inl rfl, by decide, ?_⟩
    rintro other (rfl | rfl) hother
    · exact absurd rfl hother
    · decide
  have hkept : ∀ other, Overrules .upper tagKeywords "maxLength" other → other = 4 :=
    fun other hother => absurd hother.argument (by decide)
  exact ⟨hlower, hoverrules, hupper,
    (length_kept_iff .lower tagKeywords hnames "min_length" 5 hlower).2 2 hoverrules,
    (length_kept_iff .upper tagKeywords hnames "maxLength" 4 hupper).1.2 hkept⟩

end ConstraintSet

end SchemaPress
