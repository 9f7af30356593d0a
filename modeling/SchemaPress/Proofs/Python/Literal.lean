import Mathlib.Tactic.SplitIfs
import SchemaPress.Proofs.Json.Number
import SchemaPress.Python.Literal

set_option autoImplicit false

/-! # Python literals denote their values

A reader of the literals of the language: the three constants, integers, strings between quotes of
either kind, list displays and dictionary displays. Blanks may stand before every part, and a
display may end with a comma. The reader knows nothing about the way literals are written here:
which quote was chosen and which characters were escaped it has to find out from the text.

The literal of a value without floating-point numbers is read back as that value, and what follows
it is left, as long as that does not go on with a number or a constant (`readValue_literal`). So
different values have different literals, and a string literal ends where it was meant to, whatever
the string holds and whatever follows. -/

namespace SchemaPress.Python

/-! ## The reader -/

/-- Whether a character can be part of a number or of a constant. -/
def isWordChar (c : Char) : Bool :=
  c.isAlphanum || c == '_'

/-- Whether a character may stand between parts. -/
def isBlank (c : Char) : Bool :=
  c == ' ' || c == '\t'

/-- Drops the blanks before a part. -/
def skipBlanks (cs : List Char) : List Char :=
  cs.dropWhile isBlank

/-- The character that a letter or a sign denotes behind a backslash. -/
def unescaped? : Char → Option Char
  | '\\' => some '\\'
  | '\'' => some '\''
  | '"' => some '"'
  | 'n' => some '\n'
  | 'r' => some '\r'
  | 't' => some '\t'
  | _ => none

/-- Reads the characters of a string up to its closing quote; the end of a line is none of
    them. -/
def readChars (quote : Char) : List Char → Option (List Char × List Char)
  | [] => none
  | '\\' :: 'x' :: high :: low :: rest => do
    let high ← Text.hexValue? high
    let low ← Text.hexValue? low
    let (text, rest) ← readChars quote rest
    return (Char.ofNat (16 * high + low) :: text, rest)
  | '\\' :: c :: rest => do
    let c ← unescaped? c
    let (text, rest) ← readChars quote rest
    return (c :: text, rest)
  | c :: rest =>
    if c = quote then some ([], rest)
    else if c = '\\' ∨ c = '\n' ∨ c = '\r' then none
    else do
      let (text, rest) ← readChars quote rest
      return (c :: text, rest)

/-- Whether a string can start with the character. -/
def IsQuote (c : Char) : Prop :=
  c = '\'' ∨ c = '"'

instance (c : Char) : Decidable (IsQuote c) :=
  inferInstanceAs (Decidable (_ ∨ _))

/-- Reads a string in its quotes. -/
def readString? : List Char → Option (String × List Char)
  | [] => none
  | quote :: rest =>
    if IsQuote quote then do
      let (text, rest) ← readChars quote rest
      return (String.ofList text, rest)
    else none

/-- The number that digits denote; a number that is not zero does not start with one. -/
def natural? (word : List Char) : Option Nat :=
  if word.all Char.isDigit && Json.wholeDigitsOk word then some (Nat.ofDigitChars 10 word 0)
  else none

/-- The value of a constant or a number without sign. -/
def wordValue? (word : List Char) : Option Value :=
  if word = ['N', 'o', 'n', 'e'] then some .null
  else if word = ['T', 'r', 'u', 'e'] then some (.bool true)
  else if word = ['F', 'a', 'l', 's', 'e'] then some (.bool false)
  else (natural? word).map fun n : Nat => .int n

/-- Reads the longest word and takes its value. -/
def readWord (value? : List Char → Option Value) (cs : List Char) : Option (Value × List Char) :=
  (value? (cs.takeWhile isWordChar)).map fun value => (value, cs.dropWhile isWordChar)

/-- Reads parts that are separated by commas, up to the closing bracket; at most `fuel` of
    them. -/
def readParts {α : Type} (readPart : List Char → Option (α × List Char)) (closing : Char) :
    (fuel : Nat) → List Char → Option (List α × List Char)
  | 0, _ => none
  | fuel + 1, cs =>
    match skipBlanks cs with
    | [] => none
    | c :: rest =>
      if c = closing then some ([], rest)
      else do
        let (first, rest) ← readPart (c :: rest)
        match skipBlanks rest with
        | [] => none
        | c :: rest =>
          if c = closing then some ([first], rest)
          else if c = ',' then do
            let (others, rest) ← readParts readPart closing fuel rest
            return (first :: others, rest)
          else none

/-- Reads a name and the value behind the colon. -/
def readEntry (readPart : List Char → Option (Value × List Char)) (cs : List Char) :
    Option ((String × Value) × List Char) := do
  let (name, rest) ← readString? cs
  match skipBlanks rest with
  | ':' :: rest => do
    let (value, rest) ← readPart rest
    return ((name, value), rest)
  | _ => none

/-- Reads a value that is nested at most `fuel` deep. -/
def readValue : (fuel : Nat) → List Char → Option (Value × List Char)
  | 0, _ => none
  | fuel + 1, cs =>
    match skipBlanks cs with
    | [] => none
    | c :: rest =>
      if IsQuote c then do
        let (text, rest) ← readString? (c :: rest)
        return (.str text, rest)
      else if c = '[' then do
        let (items, rest) ← readParts (readValue fuel) ']' rest.length rest
        return (.arr items, rest)
      else if c = '\x7b' then do
        let (fields, rest) ← readParts (readEntry (readValue fuel)) '\x7d' rest.length rest
        return (.obj fields, rest)
      else if c = '-' then
        readWord (fun word => (natural? word).map fun n : Nat => .int (-n)) rest
      else readWord wordValue? (c :: rest)

/-- The value that a literal denotes; nothing may follow it. -/
def denoted? (literal : String) : Option Value := do
  let (value, rest) ← readValue literal.length literal.toList
  if rest = [] then some value else none

example : (denoted? "[ \"\\x41'\" ,7, ]").map literal = some "[\"A'\", 7]" := by decide +kernel

/-- The values without floating-point numbers. -/
inductive FloatFree : Value → Prop
  | null : FloatFree .null
  | bool (b : Bool) : FloatFree (.bool b)
  | int (n : Int) : FloatFree (.int n)
  | str (s : String) : FloatFree (.str s)
  | arr {items : List Value} : (∀ item ∈ items, FloatFree item) → FloatFree (.arr items)
  | obj {fields : List (String × Value)} :
      (∀ entry ∈ fields, FloatFree entry.2) → FloatFree (.obj fields)

/-! ## Strings -/

theorem isQuote_quoteFor (cs : List Char) : IsQuote (quoteFor cs) := by
  unfold quoteFor
  split
  · exact Or.inr rfl
  · exact Or.inl rfl

theorem IsQuote.ne_backslash {quote : Char} (h : IsQuote quote) : quote ≠ '\\' := by
  rcases h with rfl | rfl <;> decide

/-- A sign or a letter behind a backslash. -/
theorem readChars_unescaped {quote c d : Char} {cs text rest : List Char}
    (hc : unescaped? c = some d) (h : readChars quote cs = some (text, rest)) :
    readChars quote ('\\' :: c :: cs) = some (d :: text, rest) := by
  rw [readChars]
  · simp [hc, h]
  · rintro high low rest rfl -
    cases hc

/-- The code of a character behind a backslash. -/
theorem readChars_hex {quote : Char} {code : Nat} (hcode : code < 256) {cs text rest : List Char}
    (h : readChars quote cs = some (text, rest)) :
    readChars quote
        ('\\' :: 'x' :: Text.hexDigit (code / 16) :: Text.hexDigit (code % 16) :: cs) =
      some (Char.ofNat code :: text, rest) := by
  have hsum : 16 * (code / 16) + code % 16 = code := Nat.div_add_mod code 16
  simp [readChars, Text.hexValue?_hexDigit (show code / 16 < 16 by omega),
    Text.hexValue?_hexDigit (show code % 16 < 16 by omega), h, hsum]

theorem readChars_plain {quote c : Char} {cs text rest : List Char} (hquote : c ≠ quote)
    (hplain : ¬(c = '\\' ∨ c = '\n' ∨ c = '\r')) (h : readChars quote cs = some (text, rest)) :
    readChars quote (c :: cs) = some (c :: text, rest) := by
  have hbackslash : c ≠ '\\' := fun hc => hplain (Or.inl hc)
  rw [readChars, if_neg hquote, if_neg hplain, h]
  · rfl
  · exact fun _ _ _ hc _ => hbackslash hc
  · exact fun _ _ hc _ => hbackslash hc

theorem readChars_quote {quote : Char} (hquote : quote ≠ '\\') (rest : List Char) :
    readChars quote (quote :: rest) = some ([], rest) := by
  rw [readChars, if_pos rfl]
  · exact fun _ _ _ hc _ => hquote hc
  · exact fun _ _ hc _ => hquote hc

/-- One written character is read back. -/
theorem readChars_escapeChar {quote : Char} (hquote : IsQuote quote) (c : Char)
    {cs text rest : List Char} (h : readChars quote cs = some (text, rest)) :
    readChars quote (escapeChar quote c ++ cs) = some (c :: text, rest) := by
  unfold escapeChar
  split_ifs with hbackslash hnewline hreturn htab hc hcode
  · subst hbackslash
    exact readChars_unescaped rfl h
  · subst hnewline
    exact readChars_unescaped rfl h
  · subst hreturn
    exact readChars_unescaped rfl h
  · subst htab
    exact readChars_unescaped rfl h
  · subst hc
    have hsame : unescaped? c = some c := by
      rcases hquote with rfl | rfl <;> rfl
    exact readChars_unescaped hsame h
  · have hread := readChars_hex (show c.toNat < 256 by omega) h
    rwa [Char.ofNat_toNat] at hread
  · exact readChars_plain hc (by rintro (h | h | h) <;> contradiction) h

theorem readChars_escaped {quote : Char} (hquote : IsQuote quote) (cs rest : List Char) :
    readChars quote (cs.flatMap (escapeChar quote) ++ quote :: rest) = some (cs, rest) := by
  induction cs with
  | nil => exact readChars_quote hquote.ne_backslash rest
  | cons c cs ih =>
    rw [List.flatMap_cons, List.append_assoc]
    exact readChars_escapeChar hquote c ih

theorem toList_quoted (s : String) (rest : List Char) :
    (quoted s).toList ++ rest = quoteFor s.toList ::
      (s.toList.flatMap (escapeChar (quoteFor s.toList)) ++ quoteFor s.toList :: rest) := by
  simp [quoted, quoteChars]

/-- A string literal is read up to its own closing quote, whatever follows it. -/
theorem readString?_quoted (s : String) (rest : List Char) :
    readString? ((quoted s).toList ++ rest) = some (s, rest) := by
  have hquote := isQuote_quoteFor s.toList
  rw [toList_quoted, readString?, if_pos hquote, readChars_escaped hquote]
  simp

/-! ## Words -/

/-- What may follow a number or a constant. -/
def Ends (rest : List Char) : Prop :=
  rest.takeWhile isWordChar = []

theorem ends_nil : Ends [] := rfl

theorem ends_cons {c : Char} (h : isWordChar c = false) (cs : List Char) : Ends (c :: cs) :=
  List.takeWhile_cons_of_neg (by simp [h])

/-- The longest word stops where the word does. -/
theorem readWord_append {value? : List Char → Option Value} {value : Value} {word rest : List Char}
    (hword : ∀ c ∈ word, isWordChar c = true) (hvalue : value? word = some value)
    (hrest : Ends rest) : readWord value? (word ++ rest) = some (value, rest) := by
  have htake : (word ++ rest).takeWhile isWordChar = word := by
    rw [List.takeWhile_append_of_pos hword, hrest, List.append_nil]
  have hdrop : (word ++ rest).dropWhile isWordChar = rest := by
    rw [List.dropWhile_append_of_pos hword]
    simpa [show rest.takeWhile isWordChar = [] from hrest] using
      List.takeWhile_append_dropWhile (p := isWordChar) (l := rest)
  rw [readWord, htake, hdrop, hvalue, Option.map_some]

theorem isDigit_toDigits (n : Nat) : ∀ c ∈ Nat.toDigits 10 n, c.isDigit = true :=
  fun _ hc => Nat.isDigit_of_mem_toDigits (by decide) (by decide) hc

theorem isWordChar_of_isDigit {c : Char} (h : c.isDigit = true) : isWordChar c = true := by
  simp [isWordChar, Char.isAlphanum, h]

theorem natural?_toDigits (n : Nat) : natural? (Nat.toDigits 10 n) = some n := by
  have hall : (Nat.toDigits 10 n).all Char.isDigit = true :=
    List.all_eq_true.2 (isDigit_toDigits n)
  rw [natural?, hall, Json.wholeDigitsOk_toDigits, Bool.and_self, if_pos rfl,
    Nat.ofDigitChars_toDigits (by decide) (by decide)]

/-- Digits are no constant. -/
theorem wordValue?_toDigits (n : Nat) : wordValue? (Nat.toDigits 10 n) = some (.int n) := by
  have hne : ∀ {c : Char} (cs : List Char), c.isDigit = false → Nat.toDigits 10 n ≠ c :: cs := by
    intro c cs hc heq
    have hdigit := isDigit_toDigits n c (by simp [heq])
    rw [hc] at hdigit
    cases hdigit
  rw [wordValue?, if_neg (hne _ (by decide)), if_neg (hne _ (by decide)),
    if_neg (hne _ (by decide)), natural?_toDigits, Option.map_some]

/-! ## Values -/

/-- Whether a part that starts with the character is told apart from blanks and from the end of
    a display. -/
def startsPart (c : Char) : Bool :=
  !(isBlank c || c == ']' || c == '\x7d')

theorem skipBlanks_space (cs : List Char) : skipBlanks (' ' :: cs) = skipBlanks cs :=
  List.dropWhile_cons_of_pos rfl

theorem skipBlanks_cons {c : Char} (h : isBlank c = false) (cs : List Char) :
    skipBlanks (c :: cs) = c :: cs :=
  List.dropWhile_cons_of_neg (by simp [h])

theorem skipBlanks_of_startsPart {c : Char} (h : startsPart c = true) (cs : List Char) :
    skipBlanks (c :: cs) = c :: cs := by
  simp only [startsPart, Bool.not_eq_true', Bool.or_eq_false_iff] at h
  exact skipBlanks_cons h.1.1 cs

theorem IsQuote.startsPart {c : Char} (h : IsQuote c) : startsPart c = true := by
  rcases h with rfl | rfl <;> rfl

theorem startsPart_of_isDigit {c : Char} (h : c.isDigit = true) : Python.startsPart c = true := by
  simp only [Python.startsPart, isBlank, Bool.not_eq_true', Bool.or_eq_false_iff,
    beq_eq_false_iff_ne]
  refine ⟨⟨⟨?_, ?_⟩, ?_⟩, ?_⟩ <;> rintro rfl <;> exact absurd h (by decide)

/-- A space before a value is skipped. -/
theorem readValue_space (fuel : Nat) (cs : List Char) :
    readValue fuel (' ' :: cs) = readValue fuel cs := by
  cases fuel with
  | zero => rfl
  | succ fuel => rw [readValue, readValue, skipBlanks_space]

/-! ### Displays -/

/-- Parts with a comma and a space between them. -/
def joined (texts : List (List Char)) : List Char :=
  [',', ' '].intercalate texts

theorem joined_cons_cons (first second : List Char) (others : List (List Char)) :
    joined (first :: second :: others) = first ++ ',' :: ' ' :: joined (second :: others) := by
  simp [joined, List.intercalate_cons_cons]

theorem length_le_joined {text : List Char} {texts : List (List Char)} (h : text ∈ texts) :
    text.length ≤ (joined texts).length := by
  induction texts with
  | nil => cases h
  | cons first others ih =>
    cases others with
    | nil => simp_all [joined]
    | cons second others =>
      rw [joined_cons_cons]
      simp only [List.length_append, List.length_cons]
      rcases List.mem_cons.1 h with rfl | h
      · omega
      · have := ih h
        omega

/-- No part is empty, so there are no more parts than characters. -/
theorem parts_le_joined {texts : List (List Char)} (h : ∀ text ∈ texts, text ≠ []) :
    texts.length ≤ (joined texts).length := by
  induction texts with
  | nil => exact Nat.zero_le _
  | cons first others ih =>
    have hfirst : 0 < first.length := List.length_pos_iff.2 (h first List.mem_cons_self)
    have hothers := ih fun text htext => h text (List.mem_cons_of_mem _ htext)
    cases others with
    | nil => simpa [joined] using Nat.succ_le_of_lt hfirst
    | cons second others =>
      rw [joined_cons_cons]
      simp only [List.length_append, List.length_cons] at hothers ⊢
      omega

section Parts

variable {α : Type} {readPart : List Char → Option (α × List Char)} {closing : Char}

theorem readParts_space (fuel : Nat) (cs : List Char) :
    readParts readPart closing fuel (' ' :: cs) = readParts readPart closing fuel cs := by
  cases fuel with
  | zero => rfl
  | succ fuel => rw [readParts, readParts, skipBlanks_space]

theorem readParts_end (hclosing : isBlank closing = false) (fuel : Nat)
    (rest : List Char) :
    readParts readPart closing (fuel + 1) (closing :: rest) = some ([], rest) := by
  simp only [readParts, skipBlanks_cons hclosing, if_true]

theorem readParts_last {c : Char} {cs rest : List Char} {first : α}
    (hclosing : isBlank closing = false) (hc : startsPart c = true)
    (hne : c ≠ closing) (fuel : Nat)
    (hfirst : readPart (c :: cs) = some (first, closing :: rest)) :
    readParts readPart closing (fuel + 1) (c :: cs) = some ([first], rest) := by
  simp only [readParts, skipBlanks_of_startsPart hc, if_neg hne, hfirst, bind, Option.bind,
    skipBlanks_cons hclosing, if_true]

theorem readParts_more {c : Char} {cs behind rest : List Char} {first : α} {others : List α}
    {fuel : Nat} (hcomma : ',' ≠ closing) (hc : startsPart c = true) (hne : c ≠ closing)
    (hfirst : readPart (c :: cs) = some (first, ',' :: behind))
    (hothers : readParts readPart closing fuel behind = some (others, rest)) :
    readParts readPart closing (fuel + 1) (c :: cs) = some (first :: others, rest) := by
  rw [readParts]
  simp only [skipBlanks_of_startsPart hc, if_neg hne, hfirst, bind, Option.bind,
    skipBlanks_cons (show isBlank ',' = false from rfl), if_neg hcomma, if_true,
    hothers, pure]

/-- Parts that can be read one by one can be read from their display. -/
theorem readParts_joined (hclosing : closing = ']' ∨ closing = '\x7d') {text : α → List Char}
    {parts : List α}
    (hstart : ∀ part ∈ parts, ∃ c cs, text part = c :: cs ∧ startsPart c = true)
    (hread : ∀ part ∈ parts, ∀ {rest : List Char}, Ends rest →
      readPart (text part ++ rest) = some (part, rest))
    {fuel : Nat} (hfuel : parts.length < fuel) (rest : List Char) :
    readParts readPart closing fuel (joined (parts.map text) ++ closing :: rest) =
      some (parts, rest) := by
  have hblank : isBlank closing = false := by
    rcases hclosing with rfl | rfl <;> rfl
  have hends : isWordChar closing = false := by
    rcases hclosing with rfl | rfl <;> decide
  have hcomma : ',' ≠ closing := by
    rcases hclosing with rfl | rfl <;> decide
  have hne : ∀ {c : Char}, startsPart c = true → c ≠ closing := by
    rintro c hc rfl
    rcases hclosing with rfl | rfl <;> cases hc
  induction parts generalizing fuel with
  | nil =>
    obtain ⟨fuel, rfl⟩ := Nat.exists_eq_add_one_of_ne_zero (Nat.ne_zero_of_lt hfuel)
    exact readParts_end hblank fuel rest
  | cons first others ih =>
    obtain ⟨fuel, rfl⟩ := Nat.exists_eq_add_one_of_ne_zero (Nat.ne_zero_of_lt hfuel)
    obtain ⟨c, cs, htext, hc⟩ := hstart first List.mem_cons_self
    cases others with
    | nil =>
      have hfirst := hread first List.mem_cons_self (ends_cons hends rest)
      rw [htext, List.cons_append] at hfirst
      simpa [joined, htext] using readParts_last hblank hc (hne hc) fuel hfirst
    | cons second others =>
      have hothers := ih (fun part hpart => hstart part (List.mem_cons_of_mem _ hpart))
        (fun part hpart => hread part (List.mem_cons_of_mem _ hpart))
        (show (second :: others).length < fuel from Nat.lt_of_succ_lt_succ hfuel)
      -- the space behind the comma is skipped when the next part is read
      rw [← readParts_space] at hothers
      have hfirst := hread first List.mem_cons_self
        (ends_cons (show isWordChar ',' = false by decide)
          (' ' :: (joined ((second :: others).map text) ++ closing :: rest)))
      rw [htext, List.cons_append] at hfirst
      rw [List.map_cons, List.map_cons, joined_cons_cons, htext]
      simpa using readParts_more hcomma hc (hne hc) hfirst hothers

/-- The characters of a display are steps enough to read it. -/
theorem readParts_display (hclosing : closing = ']' ∨ closing = '\x7d') {text : α → List Char}
    {parts : List α}
    (hstart : ∀ part ∈ parts, ∃ c cs, text part = c :: cs ∧ startsPart c = true)
    (hread : ∀ part ∈ parts, ∀ {rest : List Char}, Ends rest →
      readPart (text part ++ rest) = some (part, rest)) (rest : List Char) :
    readParts readPart closing (joined (parts.map text) ++ closing :: rest).length
        (joined (parts.map text) ++ closing :: rest) =
      some (parts, rest) := by
  have hne : ∀ written ∈ parts.map text, written ≠ [] := by
    intro written hwritten
    obtain ⟨part, hpart, rfl⟩ := List.mem_map.1 hwritten
    obtain ⟨c, cs, htext, -⟩ := hstart part hpart
    simp [htext]
  have hlength := parts_le_joined hne
  rw [List.length_map] at hlength
  refine readParts_joined hclosing hstart hread ?_ rest
  simp only [List.length_append, List.length_cons]
  omega

end Parts

/-! ### Literals -/

theorem literalItems_eq (items : List Value) : literalItems items = items.map literal := by
  induction items with
  | nil => rfl
  | cons item rest ih => rw [literalItems, ih, List.map_cons]

/-- The entry of a dictionary display. -/
def entryText (entry : String × Value) : List Char :=
  (quoted entry.1).toList ++ ':' :: ' ' :: (literal entry.2).toList

theorem literalFields_eq (fields : List (String × Value)) :
    (literalFields fields).map String.toList = fields.map entryText := by
  induction fields with
  | nil => rfl
  | cons entry rest ih =>
    rw [literalFields, List.map_cons, List.map_cons, ih]
    simp [entryText]

theorem toList_literal_arr (items : List Value) :
    (literal (.arr items)).toList =
      '[' :: (joined (items.map fun item => (literal item).toList) ++ [']']) := by
  simp [literal, String.toList_intercalate, literalItems_eq, joined, Function.comp_def]

theorem toList_literal_obj (fields : List (String × Value)) :
    (literal (.obj fields)).toList = '\x7b' :: (joined (fields.map entryText) ++ ['\x7d']) := by
  simp [literal, String.toList_intercalate, literalFields_eq, joined]

theorem toList_literal_int (n : Int) :
    (literal (.int n)).toList =
      if 0 ≤ n then Nat.toDigits 10 n.toNat else '-' :: Nat.toDigits 10 (-n).toNat := by
  rw [literal, Int.toString_eq_repr, Int.repr_eq_if]
  split
  · exact Nat.toList_repr
  · rw [String.toList_append, Nat.toList_repr]
    rfl

/-- A literal starts neither with a blank nor with a closing bracket. -/
theorem FloatFree.starts {value : Value} (h : FloatFree value) :
    ∃ c cs, (literal value).toList = c :: cs ∧ startsPart c = true := by
  cases h with
  | null => exact ⟨'N', ['o', 'n', 'e'], rfl, rfl⟩
  | bool b =>
    cases b with
    | false => exact ⟨'F', ['a', 'l', 's', 'e'], rfl, rfl⟩
    | true => exact ⟨'T', ['r', 'u', 'e'], rfl, rfl⟩
  | int n =>
    rw [toList_literal_int]
    split
    · cases hdigits : Nat.toDigits 10 n.toNat with
      | nil => exact absurd hdigits Nat.toDigits_ne_nil
      | cons first rest =>
        exact ⟨first, rest, rfl,
          startsPart_of_isDigit (isDigit_toDigits n.toNat first (by simp [hdigits]))⟩
    · exact ⟨'-', _, rfl, rfl⟩
  | str s =>
    have hquoted := toList_quoted s []
    rw [List.append_nil] at hquoted
    exact ⟨_, _, hquoted, (isQuote_quoteFor s.toList).startsPart⟩
  | arr _ => exact ⟨'[', _, toList_literal_arr _, rfl⟩
  | obj _ => exact ⟨'\x7b', _, toList_literal_obj _, rfl⟩

theorem starts_entryText (entry : String × Value) :
    ∃ c cs, entryText entry = c :: cs ∧ startsPart c = true :=
  ⟨_, _, toList_quoted entry.1 _, (isQuote_quoteFor entry.1.toList).startsPart⟩

theorem readValue_word (fuel : Nat) {c : Char} {cs rest : List Char} {value : Value}
    (hall : (c :: cs).all isWordChar = true) (hvalue : wordValue? (c :: cs) = some value)
    (hrest : Ends rest) : readValue (fuel + 1) (c :: cs ++ rest) = some (value, rest) := by
  have hword := List.all_eq_true.1 hall
  have hc := hword c List.mem_cons_self
  have hne : ∀ {other : Char}, isWordChar other = false → c ≠ other := by
    rintro other hother rfl
    rw [hc] at hother
    cases hother
  have hblank : isBlank c = false := by
    simp [isBlank, hne (show isWordChar ' ' = false by decide),
      hne (show isWordChar '\t' = false by decide)]
  have hquote : ¬IsQuote c := by
    rintro (h | h)
    · exact hne (by decide) h
    · exact hne (by decide) h
  have hread := readWord_append hword hvalue hrest
  rw [List.cons_append] at hread ⊢
  simp only [readValue, skipBlanks_cons hblank, if_neg hquote,
    if_neg (hne (show isWordChar '[' = false by decide)),
    if_neg (hne (show isWordChar '\x7b' = false by decide)),
    if_neg (hne (show isWordChar '-' = false by decide)), hread]

theorem readValue_int (fuel : Nat) (n : Int) {rest : List Char} (hrest : Ends rest) :
    readValue (fuel + 1) ((literal (.int n)).toList ++ rest) = some (.int n, rest) := by
  have hword : ∀ m : Nat, ∀ c ∈ Nat.toDigits 10 m, isWordChar c = true := fun m c hc =>
    isWordChar_of_isDigit (isDigit_toDigits m c hc)
  rw [toList_literal_int]
  split
  · rename_i hn
    have hvalue := wordValue?_toDigits n.toNat
    rw [Int.toNat_of_nonneg hn] at hvalue
    cases hdigits : Nat.toDigits 10 n.toNat with
    | nil => exact absurd hdigits Nat.toDigits_ne_nil
    | cons first others =>
      exact readValue_word fuel (List.all_eq_true.2 (hdigits ▸ hword n.toNat)) (hdigits ▸ hvalue)
        hrest
  · rename_i hn
    have hnegative : -(((-n).toNat : Nat) : Int) = n := by omega
    have hvalue : (natural? (Nat.toDigits 10 (-n).toNat)).map (fun m : Nat => Value.int (-m)) =
        some (.int n) := by
      rw [natural?_toDigits, Option.map_some, hnegative]
    have hread : readWord (fun word => (natural? word).map fun m : Nat => .int (-m))
        (Nat.toDigits 10 (-n).toNat ++ rest) = some (.int n, rest) :=
      readWord_append (hword _) hvalue hrest
    simp only [readValue, List.cons_append,
      skipBlanks_cons (show isBlank '-' = false from rfl)]
    rw [if_neg (by decide), if_neg (by decide), if_neg (by decide), if_pos trivial, hread]

theorem FloatFree.exists_fuel {value : Value} (h : FloatFree value) {fuel : Nat}
    (hfuel : (literal value).toList.length ≤ fuel) : ∃ spare, fuel = spare + 1 := by
  obtain ⟨c, cs, htext, -⟩ := h.starts
  rw [htext, List.length_cons] at hfuel
  exact Nat.exists_eq_add_one_of_ne_zero (by omega)

/-- An entry is read back if its value is. -/
theorem readEntry_entryText (readPart : List Char → Option (Value × List Char))
    {entry : String × Value} {rest : List Char}
    (hread : readPart (' ' :: ((literal entry.2).toList ++ rest)) = some (entry.2, rest)) :
    readEntry readPart (entryText entry ++ rest) = some (entry, rest) := by
  rw [entryText, List.append_assoc, readEntry, readString?_quoted]
  simp only [List.cons_append, bind, Option.bind,
    skipBlanks_cons (show isBlank ':' = false from rfl), hread, pure]

/-- The literal of a value without floating-point numbers is read back, and what follows is
    left. -/
theorem readValue_literal {value : Value} (h : FloatFree value) {fuel : Nat}
    (hfuel : (literal value).toList.length ≤ fuel) {rest : List Char} (hrest : Ends rest) :
    readValue fuel ((literal value).toList ++ rest) = some (value, rest) := by
  induction h generalizing fuel rest with
  | null =>
    obtain ⟨fuel, rfl⟩ := FloatFree.null.exists_fuel hfuel
    exact readValue_word fuel (c := 'N') rfl rfl hrest
  | bool b =>
    obtain ⟨fuel, rfl⟩ := (FloatFree.bool b).exists_fuel hfuel
    cases b with
    | false => exact readValue_word fuel (c := 'F') rfl rfl hrest
    | true => exact readValue_word fuel (c := 'T') rfl rfl hrest
  | int n =>
    obtain ⟨fuel, rfl⟩ := (FloatFree.int n).exists_fuel hfuel
    exact readValue_int fuel n hrest
  | str s =>
    obtain ⟨fuel, rfl⟩ := (FloatFree.str s).exists_fuel hfuel
    have hquote := isQuote_quoteFor s.toList
    have hread := readString?_quoted s rest
    rw [toList_quoted] at hread
    rw [literal, toList_quoted]
    simp only [readValue, skipBlanks_of_startsPart hquote.startsPart, if_pos hquote, hread, bind,
      Option.bind, pure]
  | @arr items hitems ih =>
    obtain ⟨fuel, rfl⟩ := (FloatFree.arr hitems).exists_fuel hfuel
    rw [toList_literal_arr, List.length_cons, List.length_append] at hfuel
    -- a display is longer than each of its parts, so the steps that are left are enough for them
    have hitem : ∀ item ∈ items, (literal item).toList.length ≤ fuel := by
      intro item hitem
      have hle := length_le_joined
        (List.mem_map_of_mem (f := fun item => (literal item).toList) hitem)
      omega
    have hparts := readParts_display (Or.inl rfl) (fun item hmem => (hitems item hmem).starts)
      (fun item hmem _ hends => ih item hmem (hitem item hmem) hends) rest
    rw [toList_literal_arr]
    simp only [List.cons_append, List.append_assoc, List.nil_append, readValue,
      skipBlanks_cons (show isBlank '[' = false from rfl),
      if_neg (show ¬IsQuote '[' by decide), if_true, hparts, bind, Option.bind, pure]
  | @obj fields hfields ih =>
    obtain ⟨fuel, rfl⟩ := (FloatFree.obj hfields).exists_fuel hfuel
    rw [toList_literal_obj, List.length_cons, List.length_append] at hfuel
    have hvalue : ∀ entry ∈ fields, (literal entry.2).toList.length ≤ fuel := by
      intro entry hentry
      have hle := length_le_joined (List.mem_map_of_mem (f := entryText) hentry)
      simp only [entryText, List.length_append, List.length_cons] at hle
      omega
    have hparts := readParts_display (Or.inr rfl) (fun entry _ => starts_entryText entry)
      (fun entry hentry _ hends => readEntry_entryText (readValue fuel)
        ((readValue_space fuel _).trans (ih entry hentry (hvalue entry hentry) hends))) rest
    rw [toList_literal_obj]
    simp only [List.cons_append, List.append_assoc, List.nil_append, readValue,
      skipBlanks_cons (show isBlank '\x7b' = false from rfl),
      if_neg (show ¬IsQuote '\x7b' by decide), if_neg (show '\x7b' ≠ '[' by decide), if_true,
      hparts, bind, Option.bind, pure]

/-- A literal denotes its value. -/
theorem denoted?_literal {value : Value} (h : FloatFree value) :
    denoted? (literal value) = some value := by
  have hread := readValue_literal h (Nat.le_refl _) ends_nil
  rw [List.append_nil, String.length_toList] at hread
  rw [denoted?, hread]
  rfl

/-- Different values have different literals. -/
theorem literal_injective {value other : Value} (h : FloatFree value) (hother : FloatFree other)
    (heq : literal value = literal other) : value = other := by
  have hdenoted := denoted?_literal h
  rw [heq, denoted?_literal hother] at hdenoted
  exact (Option.some.inj hdenoted).symm

/-- The literal of a value without floating-point numbers denotes that value and nothing follows
    it, no other such value has the same literal, and a string literal ends with its string,
    whatever follows it. -/
theorem literals_denote_values :
    (∀ value, FloatFree value → denoted? (literal value) = some value) ∧
      (∀ value other, FloatFree value → FloatFree other → literal value = literal other →
        value = other) ∧
      ∀ s rest, readString? ((quoted s).toList ++ rest) = some (s, rest) :=
  ⟨fun _ => denoted?_literal, fun _ _ => literal_injective, readString?_quoted⟩

/-- Quotes of both kinds, a backslash before a quote and control characters, in nested displays. -/
def nestedValue : Value :=
  .obj [("it's", .arr [.str "\\'\"\n", .int (-70), .arr [], .null]),
    ("\x00\x7f", .obj [("", .bool true), ("\\", .bool false)])]

theorem literals_denote_values_nested :
    FloatFree nestedValue ∧
      literal nestedValue =
        "\x7b\"it's\": ['\\\\\\'\"\\n', -70, [], None], " ++
          "'\\x00\\x7f': \x7b'': True, '\\\\': False\x7d\x7d" ∧
      denoted? (literal nestedValue) = some nestedValue := by
  have hlist : FloatFree (.arr [.str "\\'\"\n", .int (-70), .arr [], .null]) :=
    .arr (by simp [FloatFree.str, FloatFree.int, FloatFree.arr, FloatFree.null])
  have hfields : FloatFree (.obj [("", .bool true), ("\\", .bool false)]) :=
    .obj (by simp [FloatFree.bool])
  have hfree : FloatFree nestedValue := .obj (by simp [hlist, hfields])
  exact ⟨hfree, by decide +kernel, literals_denote_values.1 nestedValue hfree⟩

end SchemaPress.Python
