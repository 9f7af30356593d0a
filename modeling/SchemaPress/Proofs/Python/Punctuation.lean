import SchemaPress.Proofs.Python.Literal

set_option autoImplicit false

/-! # Punctuation of expressions

A scanner that knows brackets, separators and strings, and checks one thing: between two of them,
where an operand belongs, there is one. It does not match brackets and knows no names, so it can be
run over any piece of an expression. A piece is `Whole` if an operand ends where it ends, and
`Broken` if an operand is missing in it or is still missing at its end. Pieces that are put together
by separators are whole exactly if all of them are (`Separates.whole`, `Separates.broken`), and the
literal of every value is whole (`whole_literal`). -/

namespace SchemaPress.Python

/-! ## The scanner -/

/-- What a character means outside of strings. -/
inductive Sign
  | blank | quote | square | round | curly | closing | separator | plain
  deriving DecidableEq, Repr

/-- The meaning of a character. -/
def sign (c : Char) : Sign :=
  if Text.isBlank c then .blank
  else if c = '\'' ∨ c = '"' then .quote
  else if c = '[' then .square
  else if c = '(' then .round
  else if c = '\x7b' then .curly
  else if c = ']' ∨ c = ')' ∨ c = '\x7d' then .closing
  else if c = ',' ∨ c = '|' ∨ c = ':' then .separator
  else .plain

/-- Where the scanner stands. -/
inductive Place
  /-- An operand has to follow. -/
  | operand
  /-- An operand may follow, or the bracket is closed again. -/
  | opened
  /-- In a word, which a bracket may follow. -/
  | word
  /-- Behind an operand. -/
  | behind
  /-- In a string. -/
  | text (quote : Char)
  /-- In a string, behind a backslash. -/
  | escaped (quote : Char)
  deriving DecidableEq, Repr

namespace Place

/-- Takes one character, unless an operand is missing or not separated from the one before. A
    bracket behind a word has arguments, other square and curly brackets may be empty. -/
def next (place : Place) (c : Char) : Option Place :=
  match place with
  | .operand =>
    match sign c with
    | .blank => some .operand
    | .quote => some (.text c)
    | .square | .curly => some .opened
    | .plain => some .word
    | .round | .closing | .separator => none
  | .opened =>
    match sign c with
    | .blank => some .opened
    | .quote => some (.text c)
    | .square | .curly => some .opened
    | .closing => some .behind
    | .plain => some .word
    | .round | .separator => none
  | .word =>
    match sign c with
    | .blank | .closing => some .behind
    | .square | .separator => some .operand
    | .round => some .opened
    | .plain => some .word
    | .quote | .curly => none
  | .behind =>
    match sign c with
    | .blank | .closing => some .behind
    | .separator => some .operand
    | _ => none
  | .text quote =>
    if c = '\\' then some (.escaped quote)
    else if c = quote then some .behind else some (.text quote)
  | .escaped quote => some (.text quote)

/-- Takes characters one after another. -/
def scan : Place → List Char → Option Place
  | place, [] => some place
  | place, c :: cs =>
    match place.next c with
    | some later => later.scan cs
    | none => none

/-- An operand ends here. -/
def Ended (place : Place) : Prop :=
  place = .word ∨ place = .behind

theorem scan_append (place : Place) (front back : List Char) :
    place.scan (front ++ back) = (place.scan front).bind (·.scan back) := by
  induction front generalizing place with
  | nil => rfl
  | cons c cs ih =>
    rw [List.cons_append, scan, scan]
    cases place.next c with
    | none => rfl
    | some later => exact ih later

theorem scan_cons {place later : Place} {c : Char} (h : place.next c = some later)
    (cs : List Char) : place.scan (c :: cs) = later.scan cs := by
  rw [scan, h]

theorem scan_cons_none {place : Place} {c : Char} (h : place.next c = none) (cs : List Char) :
    place.scan (c :: cs) = none := by
  rw [scan, h]

theorem Ended.next_separator {place : Place} (h : place.Ended) {c : Char}
    (hc : sign c = .separator) : place.next c = some .operand := by
  rcases h with rfl | rfl
  · simp [next, hc]
  · simp [next, hc]

theorem Ended.next_closing {place : Place} (h : place.Ended) {c : Char}
    (hc : sign c = .closing) : place.next c = some .behind := by
  rcases h with rfl | rfl
  · simp [next, hc]
  · simp [next, hc]

end Place

/-! ## Whole and broken pieces -/

/-- A piece of an expression at whose end an operand ends. -/
def Whole (cs : List Char) : Prop :=
  ∃ place : Place, Place.operand.scan cs = some place ∧ place.Ended

/-- A piece of an expression in which an operand is missing, perhaps at its end. -/
def Broken (cs : List Char) : Prop :=
  Place.operand.scan cs = none ∨ Place.operand.scan cs = some .operand

theorem Whole.not_broken {cs : List Char} (h : Whole cs) : ¬ Broken cs := by
  obtain ⟨place, hscan, hended⟩ := h
  rintro (hnone | hoperand)
  · rw [hscan] at hnone
    cases hnone
  · rw [hscan] at hoperand
    cases hoperand
    rcases hended with h | h <;> cases h

theorem broken_nil : Broken [] :=
  Or.inr rfl

/-- A word: some characters, none of which means anything but itself. -/
def IsWord (cs : List Char) : Prop :=
  cs ≠ [] ∧ ∀ c ∈ cs, sign c = .plain

instance (cs : List Char) : Decidable (IsWord cs) :=
  decidable_of_iff (cs ≠ [] ∧ cs.all (sign · = .plain)) (by simp [IsWord])

theorem scan_word {cs : List Char} (h : ∀ c ∈ cs, sign c = .plain) :
    Place.word.scan cs = some .word := by
  induction cs with
  | nil => rfl
  | cons c cs ih =>
    have hc : Place.word.next c = some .word := by simp [Place.next, h c List.mem_cons_self]
    rw [Place.scan_cons hc]
    exact ih fun d hd => h d (List.mem_cons_of_mem _ hd)

theorem IsWord.scan {cs : List Char} (h : IsWord cs) : Place.operand.scan cs = some .word := by
  obtain ⟨hne, hplain⟩ := h
  cases cs with
  | nil => exact absurd rfl hne
  | cons c cs =>
    have hc : Place.operand.next c = some .word := by
      simp [Place.next, hplain c List.mem_cons_self]
    rw [Place.scan_cons hc]
    exact scan_word fun d hd => hplain d (List.mem_cons_of_mem _ hd)

theorem IsWord.whole {cs : List Char} (h : IsWord cs) : Whole cs :=
  ⟨.word, h.scan, Or.inl rfl⟩

/-! ## Pieces between separators -/

/-- Characters that stand between operands: an operand has to come before them and behind them. -/
structure Separates (mark : List Char) : Prop where
  ended : ∀ place : Place, place.Ended → place.scan mark = some .operand
  missing : Place.operand.scan mark = none

theorem separates_comma : Separates [',', ' '] where
  ended := by
    rintro place (rfl | rfl)
    · decide
    · decide
  missing := by decide

theorem separates_bar : Separates [' ', '|', ' '] where
  ended := by
    rintro place (rfl | rfl)
    · decide
    · decide
  missing := by decide

section

variable {mark : List Char} {pieces : List (List Char)}

/-- Whole pieces between separators are whole. -/
theorem Separates.whole (hmark : Separates mark) (hne : pieces ≠ [])
    (h : ∀ piece ∈ pieces, Whole piece) : Whole (mark.intercalate pieces) := by
  induction pieces with
  | nil => exact absurd rfl hne
  | cons first rest ih =>
    obtain ⟨place, hscan, hended⟩ := h first List.mem_cons_self
    cases rest with
    | nil => simpa using ⟨place, hscan, hended⟩
    | cons second others =>
      have hrest := ih (by simp) fun piece hpiece => h piece (List.mem_cons_of_mem _ hpiece)
      rw [List.intercalate_cons_cons]
      unfold Whole
      rw [List.append_assoc, Place.scan_append, hscan, Option.bind_some, Place.scan_append,
        hmark.ended place hended]
      exact hrest

/-- A broken piece between separators breaks the whole. -/
theorem Separates.broken (hmark : Separates mark) (h : ∀ piece ∈ pieces, Whole piece ∨ Broken piece)
    (hbroken : ∃ piece ∈ pieces, Broken piece) : Broken (mark.intercalate pieces) := by
  induction pieces with
  | nil => simp at hbroken
  | cons first rest ih =>
    cases rest with
    | nil => simpa using hbroken
    | cons second others =>
      rw [List.intercalate_cons_cons]
      unfold Broken
      rw [List.append_assoc, Place.scan_append]
      rcases h first List.mem_cons_self with ⟨place, hscan, hended⟩ | hnone | hoperand
      · -- the first piece is whole, so the broken one comes later
        have hrest : ∃ piece ∈ second :: others, Broken piece := by
          obtain ⟨piece, hpiece, hpieceBroken⟩ := hbroken
          rcases List.mem_cons.1 hpiece with rfl | hpiece
          · exact absurd hpieceBroken (Whole.not_broken ⟨place, hscan, hended⟩)
          · exact ⟨piece, hpiece, hpieceBroken⟩
        rw [hscan, Option.bind_some, Place.scan_append, hmark.ended place hended]
        exact ih (fun piece hpiece => h piece (List.mem_cons_of_mem _ hpiece)) hrest
      · rw [hnone]
        exact Or.inl rfl
      · rw [hoperand, Option.bind_some, Place.scan_append, hmark.missing]
        exact Or.inl rfl

end

/-! ## Pieces in brackets -/

/-- A word with arguments in brackets. -/
theorem Whole.bracketed {word cs : List Char} (hword : IsWord word) (h : Whole cs) :
    Whole (word ++ '[' :: (cs ++ [']'])) := by
  obtain ⟨place, hscan, hended⟩ := h
  have hopen : Place.word.next '[' = some .operand := by decide
  have hclose : place.next ']' = some .behind := hended.next_closing (by decide)
  refine ⟨.behind, ?_, Or.inr rfl⟩
  rw [Place.scan_append, hword.scan, Option.bind_some, Place.scan_cons hopen, Place.scan_append,
    hscan, Option.bind_some, Place.scan_cons hclose]
  rfl

/-- A bracket behind a word is not closed where an operand is missing. -/
theorem Broken.bracketed {word cs : List Char} (hword : IsWord word) (h : Broken cs) :
    Broken (word ++ '[' :: (cs ++ [']'])) := by
  have hopen : Place.word.next '[' = some .operand := by decide
  unfold Broken
  rw [Place.scan_append, hword.scan, Option.bind_some, Place.scan_cons hopen, Place.scan_append]
  rcases h with hnone | hoperand
  · rw [hnone]
    exact Or.inl rfl
  · rw [hoperand, Option.bind_some, Place.scan_cons_none (by decide)]
    exact Or.inl rfl

/-- What is whole where an operand has to follow is whole where one may follow. -/
theorem Whole.scan_opened {cs : List Char} (h : Whole cs) :
    ∃ place : Place, Place.opened.scan cs = some place ∧ place.Ended := by
  induction cs with
  | nil =>
    obtain ⟨place, hscan, hended⟩ := h
    cases hscan
    rcases hended with h | h <;> cases h
  | cons c cs ih =>
    by_cases hblank : sign c = .blank
    · have hopened : Place.opened.next c = some .opened := by simp [Place.next, hblank]
      have hoperand : Place.operand.next c = some .operand := by simp [Place.next, hblank]
      rw [Place.scan_cons hopened]
      refine ih ?_
      unfold Whole at h
      rwa [Place.scan_cons hoperand] at h
    · -- other characters that begin an operand are taken in the same way
      have hsame : ∀ later, Place.operand.next c = some later →
          Place.opened.next c = some later := by
        intro later
        cases hsign : sign c <;> simp_all [Place.next]
      obtain ⟨place, hscan, hended⟩ := h
      rw [Place.scan] at hscan
      cases hnext : Place.operand.next c with
      | none =>
        rw [hnext] at hscan
        cases hscan
      | some later =>
        rw [hnext] at hscan
        exact ⟨place, by rw [Place.scan_cons (hsame later hnext)]; exact hscan, hended⟩

/-- A display between brackets that do not follow a word, or the arguments of a call. -/
theorem scan_display {closing : Char} (hclosing : sign closing = .closing)
    {pieces : List (List Char)} (h : ∀ piece ∈ pieces, Whole piece) :
    Place.opened.scan (joined pieces ++ [closing]) = some .behind := by
  cases pieces with
  | nil =>
    have hclose : Place.opened.next closing = some .behind := by simp [Place.next, hclosing]
    exact Place.scan_cons hclose []
  | cons first rest =>
    obtain ⟨place, hscan, hended⟩ := (separates_comma.whole (by simp) h).scan_opened
    rw [joined, Place.scan_append, hscan, Option.bind_some,
      Place.scan_cons (hended.next_closing hclosing)]
    rfl

/-! ## Numbers -/

/-- A character of a number. -/
def IsNumeric (c : Char) : Prop :=
  c.isDigit = true ∨ c = '.' ∨ c = '-' ∨ c = 'e'

theorem sign_of_isDigit {c : Char} (h : c.isDigit = true) : sign c = .plain := by
  have hblank : Text.isBlank c = false := Text.isBlank_of_isDigit h
  have hne : ∀ d : Char, d.isDigit = false → c ≠ d := by
    rintro d hd rfl
    rw [h] at hd
    cases hd
  simp [sign, hblank, hne]

theorem IsNumeric.sign {c : Char} (h : IsNumeric c) : sign c = .plain := by
  rcases h with h | rfl | rfl | rfl
  · exact sign_of_isDigit h
  · decide
  · decide
  · decide

theorem isNumeric_toDigits (n : Nat) : ∀ c ∈ Nat.toDigits 10 n, IsNumeric c := fun c hc =>
  Or.inl (isDigit_toDigits n c hc)

theorem isNumeric_ofScaled (point : Nat) (k : Int) :
    ∀ c ∈ (Decimal.ofScaled point k).digits, IsNumeric c := by
  intro c hc
  have hkept := (List.dropWhile_sublist _).subset (List.mem_reverse.1 hc)
  exact isNumeric_toDigits point c (List.mem_reverse.1 hkept)

theorem isNumeric_shortest (tie : Tie) (x : Binary64) :
    ∀ c ∈ (Decimal.shortest tie x).digits, IsNumeric c := by
  have hsearch : ∀ (r : Decimal.Rounding) (leading : Int) (fuel places : Nat),
      ∀ c ∈ (Decimal.searchGrids tie r leading fuel places).digits, IsNumeric c := by
    intro r leading fuel
    induction fuel with
    | zero => exact fun places => isNumeric_ofScaled _ _
    | succ fuel ih =>
      intro places
      rw [Decimal.searchGrids]
      cases Decimal.nearestOnGrid tie r (leading - places) with
      | some point => exact isNumeric_ofScaled _ _
      | none => exact ih (places + 1)
  exact hsearch _ _ _ _

theorem isNumeric_writePositional {d : Decimal} (h : ∀ c ∈ d.digits, IsNumeric c) :
    ∀ c ∈ Layout.writePositional d, IsNumeric c := by
  have hzero : IsNumeric '0' := Or.inl (by decide)
  have hpoint : IsNumeric '.' := Or.inr (Or.inl rfl)
  intro c hc
  unfold Layout.writePositional at hc
  split at hc
  · simp only [List.mem_append, List.mem_singleton, List.mem_replicate] at hc
    rcases hc with ((hc | ⟨-, rfl⟩) | rfl) | hc
    · exact h c (List.mem_of_mem_take hc)
    · exact hzero
    · exact hpoint
    · split at hc
      · exact List.mem_singleton.1 hc ▸ hzero
      · exact h c (List.mem_of_mem_drop hc)
  · simp only [List.mem_append, List.mem_cons, List.not_mem_nil, or_false,
      List.mem_replicate] at hc
    rcases hc with ((rfl | rfl) | ⟨-, rfl⟩) | hc
    · exact hzero
    · exact hpoint
    · exact hzero
    · exact h c hc

theorem isNumeric_writeScaled {d : Decimal} (h : ∀ c ∈ d.digits, IsNumeric c) :
    ∀ c ∈ Layout.source.writeScaled d, IsNumeric c := by
  intro c hc
  unfold Layout.writeScaled at hc
  simp only [List.mem_append, List.mem_singleton] at hc
  rcases hc with ((hc | rfl) | hc) | hc
  · split at hc
    · exact Or.inl (List.mem_singleton.1 hc ▸ by decide)
    · rename_i digit hdigits
      exact h c (hdigits ▸ hc)
    · rename_i digit rest hne hdigits
      rcases List.mem_cons.1 hc with rfl | hc
      · exact h c (hdigits ▸ List.mem_cons_self)
      · rcases List.mem_cons.1 hc with rfl | hc
        · exact Or.inr (Or.inl rfl)
        · exact h c (hdigits ▸ List.mem_cons_of_mem _ hc)
  · exact Or.inr (Or.inr (Or.inr rfl))
  · split at hc
    · exact Or.inr (Or.inr (Or.inl (List.mem_singleton.1 hc)))
    · exact absurd hc List.not_mem_nil
  · exact isNumeric_toDigits _ c hc

/-- A floating-point number is written as a word. -/
theorem isWord_write (x : Binary64) : IsWord (Layout.source.write x).toList := by
  have hsigned : ∀ body : List Char, body ≠ [] → (∀ c ∈ body, IsNumeric c) →
      IsWord ((if x.negative then ['-'] else []) ++ body) := by
    intro body hne hnumeric
    refine ⟨by simp [hne], fun c hc => ?_⟩
    rcases List.mem_append.1 hc with hc | hc
    · split at hc
      · rw [List.mem_singleton.1 hc]
        decide
      · exact absurd hc List.not_mem_nil
    · exact (hnumeric c hc).sign
  have hdigits := isNumeric_shortest Layout.source.tie x
  have hzero : ∀ c ∈ ['0', '.', '0'], IsNumeric c := by
    simp [IsNumeric]
  unfold Layout.write
  rw [String.toList_ofList]
  dsimp only
  by_cases hx : x.isZero = true
  · rw [if_pos hx]
    exact hsigned _ (by simp) hzero
  · rw [if_neg hx]
    by_cases hpositional :
        Layout.source.positional (Decimal.shortest Layout.source.tie x).exponent = true
    · rw [if_pos hpositional]
      refine hsigned _ ?_ (isNumeric_writePositional hdigits)
      unfold Layout.writePositional
      split <;> simp
    · rw [if_neg hpositional]
      exact hsigned _ (by simp [Layout.writeScaled]) (isNumeric_writeScaled hdigits)

/-! ## Literals -/

/-- In a string, the written form of a character leads to no other place. -/
theorem scan_escapeChar {quote : Char} (hquote : IsQuote quote) (c : Char) :
    (Place.text quote).scan (escapeChar quote c) = some (.text quote) := by
  have hbackslash : (Place.text quote).next '\\' = some (.escaped quote) := by
    simp [Place.next]
  have hescaped : ∀ d cs, (Place.text quote).scan ('\\' :: d :: cs) =
      (Place.text quote).scan cs := by
    intro d cs
    rw [Place.scan_cons hbackslash]
    rfl
  have hother : ∀ {d : Char}, d ≠ '\\' → d ≠ quote →
      ∀ cs, (Place.text quote).scan (d :: cs) = (Place.text quote).scan cs := by
    intro d hd hne cs
    exact Place.scan_cons (by simp [Place.next, hd, hne]) cs
  unfold escapeChar
  split_ifs with hslash hnewline hreturn htab hc hcode
  · exact hescaped _ _
  · exact hescaped _ _
  · exact hescaped _ _
  · exact hescaped _ _
  · exact hescaped _ _
  · -- hexadecimal digits are no quotes
    have hhex : ∀ n < 16, Text.hexDigit n ≠ '\\' ∧ ¬ IsQuote (Text.hexDigit n) := by decide
    have hdigit : ∀ n < 16, ∀ cs, (Place.text quote).scan (Text.hexDigit n :: cs) =
        (Place.text quote).scan cs := fun n hn =>
      hother (hhex n hn).1 fun heq => (hhex n hn).2 (heq ▸ hquote)
    rw [hescaped, hdigit _ (by omega), hdigit _ (by omega)]
    rfl
  · exact hother hslash hc []

theorem scan_escaped {quote : Char} (hquote : IsQuote quote) (cs : List Char) :
    (Place.text quote).scan (cs.flatMap (escapeChar quote)) = some (.text quote) := by
  induction cs with
  | nil => rfl
  | cons c cs ih =>
    rw [List.flatMap_cons, Place.scan_append, scan_escapeChar hquote, Option.bind_some, ih]

/-- A string literal is whole. -/
theorem whole_quoted (s : String) : Whole (quoted s).toList := by
  have hquote := isQuote_quoteFor s.toList
  have hopen : Place.operand.next (quoteFor s.toList) = some (.text (quoteFor s.toList)) := by
    rcases hquote with h | h <;> rw [h] <;> decide
  have hclose : (Place.text (quoteFor s.toList)).next (quoteFor s.toList) = some .behind := by
    simp [Place.next, hquote.ne_backslash]
  refine ⟨.behind, ?_, Or.inr rfl⟩
  rw [← List.append_nil (quoted s).toList, toList_quoted, Place.scan_cons hopen,
    Place.scan_append, scan_escaped hquote, Option.bind_some, Place.scan_cons hclose]
  rfl

/-- The entry of a dictionary display is whole if its value is. -/
theorem whole_entryText {entry : String × Value} (h : Whole (literal entry.2).toList) :
    Whole (entryText entry) := by
  obtain ⟨place, hscan, hended⟩ := whole_quoted entry.1
  have hcolon : place.next ':' = some .operand := hended.next_separator (by decide)
  have hspace : Place.operand.next ' ' = some .operand := by decide
  unfold Whole entryText
  rw [Place.scan_append, hscan, Option.bind_some, Place.scan_cons hcolon, Place.scan_cons hspace]
  exact h

/-- The literal of every value is whole. -/
theorem whole_literal (value : Value) : Whole (literal value).toList := by
  match value with
  | .null => exact IsWord.whole (by decide)
  | .bool true => exact IsWord.whole (by decide)
  | .bool false => exact IsWord.whole (by decide)
  | .int n =>
    refine IsWord.whole ?_
    rw [toList_literal_int]
    have hplain : ∀ n, ∀ c ∈ Nat.toDigits 10 n, sign c = .plain := fun n c hc =>
      (isNumeric_toDigits n c hc).sign
    split
    · exact ⟨Nat.toDigits_ne_nil, hplain _⟩
    · exact ⟨by simp, List.forall_mem_cons.2 ⟨by decide, hplain _⟩⟩
  | .float x => exact (isWord_write x).whole
  | .str s => exact whole_quoted s
  | .arr items =>
    have hitems : ∀ piece ∈ items.map fun item => (literal item).toList, Whole piece := by
      intro piece hpiece
      obtain ⟨item, hitem, rfl⟩ := List.mem_map.1 hpiece
      exact whole_literal item
    have hopen : Place.operand.next '[' = some .opened := by decide
    refine ⟨.behind, ?_, Or.inr rfl⟩
    rw [toList_literal_arr, Place.scan_cons hopen]
    exact scan_display (by decide) hitems
  | .obj fields =>
    have hfields : ∀ piece ∈ fields.map entryText, Whole piece := by
      intro piece hpiece
      obtain ⟨entry, hentry, rfl⟩ := List.mem_map.1 hpiece
      exact whole_entryText (whole_literal entry.2)
    have hopen : Place.operand.next '\x7b' = some .opened := by decide
    refine ⟨.behind, ?_, Or.inr rfl⟩
    rw [toList_literal_obj, Place.scan_cons hopen]
    exact scan_display (by decide) hfields
termination_by sizeOf value
decreasing_by
  · have := List.sizeOf_lt_of_mem hitem
    simp only [Value.arr.sizeOf_spec]
    omega
  · have := List.sizeOf_lt_of_mem hentry
    cases entry
    simp only [Value.obj.sizeOf_spec, Prod.mk.sizeOf_spec] at this ⊢
    omega

end SchemaPress.Python
