import SchemaPress.Text.Numeral
import SchemaPress.Text.Uppercase

set_option autoImplicit false

/-! # Letters and their capitals

Only letters have capitals; every other character is its own upper case (`Capital.eq_self`). A
capital begins with a letter and goes on with letters, apart from those of a few letters that are
written with combining marks (`markedLetters`). No capital holds a small letter of ASCII. Each of
these facts is one look at the tables, carried over to characters by `Capital`, which says where the
upper case of a character can come from. -/

namespace SchemaPress.Text

/-! ## Codes and characters -/

theorem toNat_ofNat {code : Nat} (h : code.isValidChar) : (Char.ofNat code).toNat = code := by
  have hchar : Char.ofNat code = Char.ofNatAux code h := dif_pos h
  rw [hchar]
  rfl

theorem isAlpha_iff {c : Char} :
    c.isAlpha = true ↔ (65 ≤ c.toNat ∧ c.toNat ≤ 90) ∨ (97 ≤ c.toNat ∧ c.toNat ≤ 122) := by
  have hcodes : c.isAlpha = (decide (65 ≤ c.val ∧ c.val ≤ 90) ||
      (decide (97 ≤ c.val) && decide (c.val ≤ 122))) := rfl
  rw [hcodes]
  simp [UInt32.le_iff_toNat_le, ← Char.toNat_val]

/-- The combining marks that occur in capitals. -/
def combiningMarks : List Nat := [0x300, 0x301, 0x308, 0x30A, 0x30C, 0x313, 0x331, 0x342]

/-- Where the ranges of letters and numerals lie: in ASCII there are two of letters, all codes of
    letters are characters, and none of the ranges reaches the marks. -/
theorem bounds_of_ranges :
    (∀ range ∈ alphabeticRanges,
      (128 ≤ range.1 ∨ range = (65, 90) ∨ range = (97, 122)) ∧
        (range.2 < 0xD800 ∨ (0xDFFF < range.1 ∧ range.2 < 0x110000)) ∧
          (range.2 < 0x300 ∨ 0x342 < range.1)) ∧
      ∀ range ∈ numericRanges, range.2 < 0x300 ∨ 0x342 < range.1 := by
  decide +kernel

/-- In ASCII the table of letters agrees with the test that comes before it. -/
theorem isLetter_eq (c : Char) : isLetter c = inRanges alphabeticRanges c.toNat := by
  have hascii : alphabeticRanges = (65, 90) :: (97, 122) :: alphabeticRanges.drop 2 := rfl
  unfold isLetter
  split
  · rw [Bool.eq_iff_iff, isAlpha_iff, inRanges_eq_true_iff]
    constructor
    · rintro (h | h)
      · exact ⟨(65, 90), hascii ▸ List.mem_cons_self, h⟩
      · exact ⟨(97, 122), hascii ▸ List.mem_cons_of_mem _ List.mem_cons_self, h⟩
    · rintro ⟨range, hrange, hlow, hhigh⟩
      rcases (bounds_of_ranges.1 range hrange).1 with hfar | rfl | rfl
      · omega
      · exact Or.inl ⟨hlow, hhigh⟩
      · exact Or.inr ⟨hlow, hhigh⟩
  · rfl

/-- Every code of the table of letters is a character. -/
theorem toNat_ofNat_letter {code : Nat} (h : inRanges alphabeticRanges code = true) :
    (Char.ofNat code).toNat = code := by
  obtain ⟨range, hrange, hlow, hhigh⟩ := (inRanges_eq_true_iff _ _).1 h
  have hvalid : code.isValidChar := by
    have hbounds := (bounds_of_ranges.1 range hrange).2.1
    unfold Nat.isValidChar
    omega
  exact toNat_ofNat hvalid

theorem isLetter_ofNat {code : Nat} (h : inRanges alphabeticRanges code = true) :
    isLetter (Char.ofNat code) = true := by
  rw [isLetter_eq, toNat_ofNat_letter h, h]

/-- No combining mark is a letter or a numeral. -/
theorem isAlphanumeric_mark {code : Nat} (h : code ∈ combiningMarks) :
    0x300 ≤ (Char.ofNat code).toNat ∧ isAlphanumeric (Char.ofNat code) = false := by
  have hmarks : ∀ code ∈ combiningMarks, 0x300 ≤ code ∧ code ≤ 0x342 := by decide
  obtain ⟨hlow, hhigh⟩ := hmarks code h
  have houtside : ∀ ranges : List (Nat × Nat),
      (∀ range ∈ ranges, range.2 < 0x300 ∨ 0x342 < range.1) → inRanges ranges code = false := by
    intro ranges hranges
    rw [Bool.eq_false_iff, ne_eq, inRanges_eq_true_iff]
    rintro ⟨range, hrange, hspan⟩
    have hapart := hranges range hrange
    omega
  have hletters := houtside alphabeticRanges fun range hrange =>
    (bounds_of_ranges.1 range hrange).2.2
  have hnumerals := houtside numericRanges bounds_of_ranges.2
  have hcode : (Char.ofNat code).toNat = code := toNat_ofNat (Or.inl (by omega))
  refine ⟨hcode.symm ▸ hlow, ?_⟩
  unfold isAlphanumeric isNumeral
  rw [isLetter_eq, hcode, if_neg (by omega), hletters, hnumerals]
  rfl

/-! ## The tables -/

/-- The tables of letters, each with its last code. -/
def letterTables : List (Nat × List (Nat × Nat)) := [
  (0xB10, alphabetic41), (0x12BE, alphabeticB13), (0x2DBE, alphabetic12C0),
  (0x104D3, alphabetic2DC0), (0x113CA, alphabetic104D8), (0x1B2FB, alphabetic113CC),
  (0x33479, alphabetic1BC00)]

theorem alphabeticRanges_eq : alphabeticRanges = letterTables.flatMap (·.2) := by
  simp [alphabeticRanges, letterTables]

/-- Whether the codes from `low` to `high` are letters that lie in one range. -/
def areLetters (low high : Nat) : Bool :=
  letterTables.any fun table => high.ble table.1 &&
    table.2.any fun range => range.1.ble low && high.ble range.2

/-- The letters whose capital is written with combining marks. -/
def markedLetters : List Nat := [
  0x1F0, 0x390, 0x3B0, 0x1E96, 0x1E97, 0x1E98, 0x1E99, 0x1F50, 0x1F52, 0x1F54, 0x1F56, 0x1FB6,
  0x1FB7, 0x1FC6, 0x1FC7, 0x1FD2, 0x1FD3, 0x1FD6, 0x1FD7, 0x1FE2, 0x1FE3, 0x1FE4, 0x1FE6, 0x1FE7,
  0x1FF6, 0x1FF7]

theorem inRanges_of_areLetters {low high code : Nat} (h : areLetters low high = true)
    (hlow : low ≤ code) (hhigh : code ≤ high) : inRanges alphabeticRanges code = true := by
  obtain ⟨table, htable, hany⟩ := List.any_eq_true.1 h
  obtain ⟨range, hrange, hspan⟩ := List.any_eq_true.1 (Bool.and_eq_true_iff.1 hany).2
  rw [Bool.and_eq_true, Nat.ble_eq, Nat.ble_eq] at hspan
  have hmem : range ∈ alphabeticRanges :=
    alphabeticRanges_eq ▸ List.mem_flatMap.2 ⟨table, htable, hrange⟩
  exact (inRanges_eq_true_iff _ _).2 ⟨range, hmem, by omega, by omega⟩

/-- Letters with a capital of several characters, which are letters and combining marks. -/
theorem letters_of_mem_caseExpansions : ∀ expansion ∈ caseExpansions,
    areLetters expansion.1 expansion.1 = true ∧
      ∀ code ∈ expansion.2, areLetters code code = true ∨ code ∈ combiningMarks := by
  decide +kernel

/-- A capital of several characters does not begin with a combining mark, has marks only if its
    letter is listed for them, and holds no small letter of ASCII. -/
theorem marks_of_mem_caseExpansions : ∀ expansion ∈ caseExpansions,
    (2 ≤ expansion.2.length ∧ ∀ code ∈ expansion.2.head?, code ∉ combiningMarks) ∧
      (expansion.1 ∈ markedLetters ↔ ∃ code ∈ expansion.2, code ∈ combiningMarks) ∧
        ∀ code ∈ expansion.2, code < 0xD800 ∧ (code < 97 ∨ 122 < code) := by
  decide +kernel

theorem markedLetters_subset : ∀ code ∈ markedLetters, code ∈ caseExpansions.map (·.1) := by
  decide +kernel

/-- Runs are letters. Nearly all of them move into one range of letters; the others do so character
    by character. -/
theorem letters_of_mem_caseRuns : ∀ run ∈ caseRuns,
    areLetters run.first run.last = true ∧
      (areLetters (run.first + run.offset).toNat (run.last + run.offset).toNat = true ∨
        ∀ distance < run.last + 1 - run.first, distance % run.step = 0 →
          areLetters ((run.first + distance : Nat) + run.offset).toNat
            ((run.first + distance : Nat) + run.offset).toNat = true) := by
  decide +kernel

/-- No run moves to a small letter of ASCII, and the capitals `F`, `N` and `T` belong to one small
    letter each. -/
theorem offset_of_mem_caseRuns : ∀ run ∈ caseRuns,
    ((run.last : Int) + run.offset < 97 ∨ 122 < (run.first : Int) + run.offset) ∧
      ∀ code ∈ ([70, 78, 84] : List Nat), run.offset = -32 ∨
        (run.last : Int) + run.offset < code ∨ (code : Int) < run.first + run.offset := by
  decide +kernel

/-! ## Upper case -/

/-- Where the upper case of a character comes from: from the table of expansions, from a run of
    characters that move together, or from the character itself. -/
inductive Capital (c : Char) : List Char → Prop
  | expanded {codes : List Nat} : (c.toNat, codes) ∈ caseExpansions →
      Capital c (codes.map Char.ofNat)
  | moved {run : CaseRun} : run ∈ caseRuns → run.covers c.toNat = true →
      c.toNat ∉ caseExpansions.map (·.1) →
      Capital c [Char.ofNat ((c.toNat : Int) + run.offset).toNat]
  | kept : c.toNat ∉ caseExpansions.map (·.1) →
      (∀ run ∈ caseRuns, run.covers c.toNat = false) → Capital c [c]

theorem capital_uppercase (c : Char) : Capital c (uppercase c) := by
  unfold uppercase
  cases hcodes : caseExpansions.lookup c.toNat with
  | some codes =>
    obtain ⟨front, back, htable, -⟩ := List.lookup_eq_some_iff.1 hcodes
    exact .expanded (by simp [htable])
  | none =>
    have hnone : c.toNat ∉ caseExpansions.map (·.1) := by
      intro hmem
      obtain ⟨expansion, hexpansion, hcode⟩ := List.mem_map.1 hmem
      have hne := List.lookup_eq_none_iff.1 hcodes expansion hexpansion
      rw [hcode, bne_self_eq_false] at hne
      cases hne
    cases hrun : caseRuns.find? (·.covers c.toNat) with
    | some run =>
      have hcovers : run.covers c.toNat = true := by simpa using List.find?_some hrun
      exact .moved (List.mem_of_find?_eq_some hrun) hcovers hnone
    | none => exact .kept hnone fun run hmem => by simpa using List.find?_eq_none.1 hrun run hmem

/-- The codes of a run are letters, and so are those that they move to. -/
theorem letters_of_covers {run : CaseRun} (hrun : run ∈ caseRuns) {code : Nat}
    (h : run.covers code = true) : inRanges alphabeticRanges code = true ∧
      inRanges alphabeticRanges ((code : Int) + run.offset).toNat = true := by
  simp only [CaseRun.covers, Bool.and_eq_true, decide_eq_true_eq, beq_iff_eq] at h
  obtain ⟨⟨hfirst, hlast⟩, hstep⟩ := h
  obtain ⟨hletters, hmoved⟩ := letters_of_mem_caseRuns run hrun
  refine ⟨inRanges_of_areLetters hletters hfirst hlast, ?_⟩
  rcases hmoved with hmoved | hmoved
  · exact inRanges_of_areLetters hmoved (by omega) (by omega)
  · have hcode := hmoved (code - run.first) (by omega) hstep
    rw [Nat.add_sub_cancel' hfirst] at hcode
    exact inRanges_of_areLetters hcode (Nat.le_refl _) (Nat.le_refl _)

namespace Capital

variable {c : Char} {capital : List Char}

/-- Only letters have capitals. -/
theorem eq_self (h : Capital c capital) (hletter : isLetter c = false) : capital = [c] := by
  rw [isLetter_eq] at hletter
  cases h with
  | expanded hcodes =>
    have hcode := (letters_of_mem_caseExpansions _ hcodes).1
    rw [inRanges_of_areLetters hcode (Nat.le_refl _) (Nat.le_refl _)] at hletter
    cases hletter
  | moved hrun hcovers _ =>
    rw [(letters_of_covers hrun hcovers).1] at hletter
    cases hletter
  | kept _ _ => rfl

/-- The capital of a letter begins with a letter. -/
theorem exists_first (h : Capital c capital) (hletter : isLetter c = true) :
    ∃ first rest, capital = first :: rest ∧ isLetter first = true := by
  cases h with
  | @expanded codes hcodes =>
    obtain ⟨⟨hlength, hfirst⟩, -⟩ := marks_of_mem_caseExpansions _ hcodes
    cases codes with
    | nil => simp at hlength
    | cons code rest =>
      refine ⟨_, _, List.map_cons, isLetter_ofNat ?_⟩
      have hcode := (letters_of_mem_caseExpansions _ hcodes).2 code List.mem_cons_self
      exact inRanges_of_areLetters (hcode.resolve_right (hfirst code rfl)) (Nat.le_refl _)
        (Nat.le_refl _)
  | moved hrun hcovers _ => exact ⟨_, _, rfl, isLetter_ofNat (letters_of_covers hrun hcovers).2⟩
  | kept _ _ => exact ⟨c, [], rfl, hletter⟩

theorem exists_cons (h : Capital c capital) : ∃ first rest, capital = first :: rest := by
  cases hletter : isLetter c with
  | true =>
    obtain ⟨first, rest, hcapital, -⟩ := h.exists_first hletter
    exact ⟨first, rest, hcapital⟩
  | false => exact ⟨c, [], h.eq_self hletter⟩

/-- The capital of a letter without marks has letters only. -/
theorem isLetter_of_mem (h : Capital c capital) (hletter : isLetter c = true)
    (hmarked : c.toNat ∉ markedLetters) : ∀ d ∈ capital, isLetter d = true := by
  cases h with
  | expanded hcodes =>
    intro d hd
    obtain ⟨code, hcode, rfl⟩ := List.mem_map.1 hd
    have hnot : code ∉ combiningMarks := fun hmark =>
      hmarked ((marks_of_mem_caseExpansions _ hcodes).2.1.2 ⟨code, hcode, hmark⟩)
    have hcode := ((letters_of_mem_caseExpansions _ hcodes).2 code hcode).resolve_right hnot
    exact isLetter_ofNat (inRanges_of_areLetters hcode (Nat.le_refl _) (Nat.le_refl _))
  | moved hrun hcovers _ =>
    intro d hd
    rw [List.mem_singleton.1 hd]
    exact isLetter_ofNat (letters_of_covers hrun hcovers).2
  | kept _ _ =>
    intro d hd
    rw [List.mem_singleton.1 hd, hletter]

/-- A marked letter has a combining mark in its capital. -/
theorem exists_mark (h : Capital c capital) (hmarked : c.toNat ∈ markedLetters) :
    ∃ code ∈ combiningMarks, Char.ofNat code ∈ capital := by
  cases h with
  | expanded hcodes =>
    obtain ⟨-, hmarks, -⟩ := marks_of_mem_caseExpansions _ hcodes
    obtain ⟨code, hcode, hmark⟩ := hmarks.1 hmarked
    exact ⟨code, hmark, List.mem_map.2 ⟨code, hcode, rfl⟩⟩
  | moved _ _ hnone => exact absurd (markedLetters_subset _ hmarked) hnone
  | kept hnone _ => exact absurd (markedLetters_subset _ hmarked) hnone

/-- No capital holds a small letter of ASCII. -/
theorem not_small (h : Capital c capital) : ∀ d ∈ capital, d.toNat < 97 ∨ 122 < d.toNat := by
  cases h with
  | expanded hcodes =>
    intro d hd
    obtain ⟨code, hcode, rfl⟩ := List.mem_map.1 hd
    obtain ⟨-, -, hcapital⟩ := marks_of_mem_caseExpansions _ hcodes
    obtain ⟨hvalid, hsmall⟩ := hcapital code hcode
    rwa [toNat_ofNat (Or.inl hvalid)]
  | @moved run hrun hcovers _ =>
    intro d hd
    have hsmall := (offset_of_mem_caseRuns run hrun).1
    rw [List.mem_singleton.1 hd, toNat_ofNat_letter (letters_of_covers hrun hcovers).2]
    simp only [CaseRun.covers, Bool.and_eq_true, decide_eq_true_eq] at hcovers
    omega
  | kept _ hruns =>
    intro d hd
    rw [List.mem_singleton.1 hd]
    have hcovers := hruns ⟨0x61, 0x7A, 1, -32⟩ List.mem_cons_self
    simp only [CaseRun.covers, Nat.mod_one, BEq.rfl, Bool.and_true, Bool.and_eq_false_iff,
      decide_eq_false_iff_not] at hcovers
    omega

/-- Where the capital is `F`, `N` or `T` alone, the character is that letter, small or not. -/
theorem eq_or_small {letter : Char} (h : Capital c [letter])
    (hletter : letter.toNat ∈ [70, 78, 84]) :
    c.toNat = letter.toNat ∨ c.toNat = letter.toNat + 32 := by
  generalize hcapital : [letter] = capital at h
  cases h with
  | expanded hcodes =>
    have hlength := (marks_of_mem_caseExpansions _ hcodes).1.1
    rw [← List.length_map Char.ofNat, ← hcapital] at hlength
    simp at hlength
  | @moved run hrun hcovers _ =>
    have hsource := (offset_of_mem_caseRuns run hrun).2 letter.toNat hletter
    have hlarge : 70 ≤ letter.toNat := by
      simp only [List.mem_cons, List.not_mem_nil, or_false] at hletter
      omega
    have hcode : letter.toNat = ((c.toNat : Int) + run.offset).toNat := by
      rw [← toNat_ofNat_letter (letters_of_covers hrun hcovers).2, List.singleton_inj.1 hcapital]
    simp only [CaseRun.covers, Bool.and_eq_true, decide_eq_true_eq] at hcovers
    rcases hsource with hoffset | hfar
    · rw [hoffset] at hcode
      omega
    · omega
  | kept _ _ => exact Or.inl (congrArg Char.toNat (List.singleton_inj.1 hcapital)).symm

end Capital

end SchemaPress.Text
