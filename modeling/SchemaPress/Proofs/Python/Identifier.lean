import SchemaPress.Proofs.Python.ClassName
import SchemaPress.Proofs.Text.Uppercase

set_option autoImplicit false

/-! # Which names are identifiers

The names of attributes and classes are made from arbitrary texts. Both makers know letters and
numerals of all scripts, but put something in front of a digit of ASCII only. An attribute name that
begins with another numeral is therefore no identifier, and this is the only way in which it can
fail (`attributeName_public_iff`). A class name can fail in two more ways: the capital of a letter
may hold combining marks, and a capital may turn a word into one of the reserved words `False`,
`None` and `True` (`className_identifier_iff`). -/

namespace SchemaPress.Python

/-! ## The form of names -/

/-- Whether a text has the form of a name, reserved or not. -/
def hasNameForm (name : String) : Bool :=
  match name.toList with
  | [] => false
  | first :: rest => (first == '_' || Text.isLetter first) && rest.all continuesName

theorem isKeyword_iff {name : String} : isKeyword name = true ↔ name ∈ keywords := by
  simp [isKeyword]

theorem isIdentifier_iff {name : String} :
    isIdentifier name = true ↔ hasNameForm name = true ∧ name ∉ keywords := by
  unfold isIdentifier hasNameForm
  cases name.toList with
  | nil => simp
  | cons first rest => simp [isKeyword]

theorem hasNameForm_iff {name : String} {first : Char} {rest : List Char}
    (h : name.toList = first :: rest) : hasNameForm name = true ↔
      (first = '_' ∨ Text.isLetter first = true) ∧ ∀ c ∈ rest, continuesName c = true := by
  unfold hasNameForm
  rw [h]
  simp

/-- Behind a name, only characters that continue it matter. -/
theorem hasNameForm_append {front : String} (h : hasNameForm front = true) (cs : List Char) :
    hasNameForm (front ++ String.ofList cs) = true ↔ ∀ c ∈ cs, continuesName c = true := by
  cases hfront : front.toList with
  | nil => simp [hasNameForm, hfront] at h
  | cons first rest =>
    have hname : (front ++ String.ofList cs).toList = first :: (rest ++ cs) := by
      rw [String.toList_append, String.toList_ofList, hfront, List.cons_append]
    rw [hasNameForm_iff hfront] at h
    rw [hasNameForm_iff hname]
    simp only [List.mem_append]
    exact ⟨fun hall c hc => hall.2 c (Or.inr hc), fun hall =>
      ⟨h.1, fun c hc => hc.elim (h.2 c) (hall c)⟩⟩

theorem continuesName_of_isAlphanumeric {c : Char} (h : Text.isAlphanumeric c = true) :
    continuesName c = true := by
  simp [continuesName, h]

theorem isAlphanumeric_of_isLetter {c : Char} (h : Text.isLetter c = true) :
    Text.isAlphanumeric c = true := by
  simp [Text.isAlphanumeric, h]

theorem isLetter_of_isDigit {c : Char} (h : c.isDigit = true) : Text.isLetter c = false := by
  have hcode : 48 ≤ c.toNat ∧ c.toNat ≤ 57 := Char.isDigit_iff_toNat.1 h
  unfold Text.isLetter
  rw [if_pos (by omega), Bool.eq_false_iff, ne_eq, Text.isAlpha_iff]
  omega

theorem ne_underscore_of_isAlphanumeric {c : Char} (h : Text.isAlphanumeric c = true) :
    c ≠ '_' := by
  rintro rfl
  cases h

/-! ## Reserved words -/

/-- How reserved words are spelled, in codes, and what none of them begins with. -/
theorem codes_of_mem_keywords : ∀ word ∈ keywords,
    (∀ code ∈ word.toList.tail.map Char.toNat, 97 ≤ code ∧ code ≤ 122) ∧
      (∀ code ∈ word.toList.head?.map Char.toNat, (97 ≤ code ∧ code ≤ 122) ∨
        (code ∈ [70, 78, 84] ∧ word ∈ ["False", "None", "True"])) ∧
      ∀ front ∈ ["field", "field_", "Model"], front.toList.isPrefixOf word.toList = false := by
  decide +kernel

/-- Reserved words go on with small letters, and they begin with one or with `F`, `N` or `T`. -/
theorem spelling_of_mem_keywords {word : String} (h : word ∈ keywords) :
    (∀ c ∈ word.toList.tail, 97 ≤ c.toNat ∧ c.toNat ≤ 122) ∧
      ∀ c ∈ word.toList.head?, (97 ≤ c.toNat ∧ c.toNat ≤ 122) ∨
        (c.toNat ∈ [70, 78, 84] ∧ word ∈ ["False", "None", "True"]) := by
  obtain ⟨htail, hhead, -⟩ := codes_of_mem_keywords word h
  refine ⟨fun c hc => htail _ (List.mem_map_of_mem hc), fun c hc => hhead _ ?_⟩
  rw [Option.mem_def.1 hc]
  rfl

theorem empty_notMem_keywords : "" ∉ keywords := by
  decide

theorem isLetter_of_mem_keywords {word : String} (h : word ∈ keywords) :
    ∀ c ∈ word.toList, Text.isLetter c = true := by
  obtain ⟨htail, hhead⟩ := spelling_of_mem_keywords h
  have hascii : ∀ c ∈ word.toList,
      (65 ≤ c.toNat ∧ c.toNat ≤ 90) ∨ (97 ≤ c.toNat ∧ c.toNat ≤ 122) := by
    cases hword : word.toList with
    | nil => simp
    | cons first rest =>
      rw [hword] at htail hhead
      intro c hc
      rcases List.mem_cons.1 hc with rfl | hc
      · have hfirst := hhead c rfl
        simp only [List.mem_cons, List.not_mem_nil, or_false] at hfirst
        omega
      · exact Or.inr (htail c hc)
  intro c hc
  have hcode := hascii c hc
  unfold Text.isLetter
  rw [if_pos (by omega), Text.isAlpha_iff]
  exact hcode

theorem hasNameForm_of_mem_keywords {word : String} (h : word ∈ keywords) :
    hasNameForm word = true := by
  have hletters := isLetter_of_mem_keywords h
  cases hword : word.toList with
  | nil => exact absurd (String.toList_eq_nil_iff.1 hword ▸ h) empty_notMem_keywords
  | cons first rest =>
    rw [hword] at hletters
    refine (hasNameForm_iff hword).2 ⟨Or.inr (hletters first List.mem_cons_self), fun c hc => ?_⟩
    have hletter := hletters c (List.mem_cons_of_mem _ hc)
    exact continuesName_of_isAlphanumeric (isAlphanumeric_of_isLetter hletter)

theorem notMem_keywords_append (word : String) : word ++ "_" ∉ keywords := by
  intro h
  have hletter := isLetter_of_mem_keywords h '_' (by simp)
  exact ne_underscore_of_isAlphanumeric (isAlphanumeric_of_isLetter hletter) rfl

/-- Names that got one of these texts in front are not reserved. -/
theorem fronted_notMem_keywords {front : String} (hfront : front ∈ ["field", "field_", "Model"])
    (cs : List Char) : front ++ String.ofList cs ∉ keywords := by
  intro hname
  have hnot := (codes_of_mem_keywords _ hname).2.2 front hfront
  rw [Bool.eq_false_iff, ne_eq, List.isPrefixOf_iff_prefix, String.toList_append] at hnot
  exact hnot (List.prefix_append _ _)

/-- A name with one of these texts in front is an identifier if all that follows continues it. -/
theorem isIdentifier_fronted {front : String} (hfront : front ∈ ["field", "field_", "Model"])
    (cs : List Char) :
    isIdentifier (front ++ String.ofList cs) = true ↔ ∀ c ∈ cs, continuesName c = true := by
  have hform : ∀ front ∈ ["field", "field_", "Model"], hasNameForm front = true := by
    decide
  rw [isIdentifier_iff, hasNameForm_append (hform front hfront)]
  exact and_iff_left (fronted_notMem_keywords hfront cs)

theorem isIdentifier_front {front : String} (hfront : front ∈ ["field", "field_", "Model"]) :
    isIdentifier front = true := by
  have h := (isIdentifier_fronted hfront []).2 (by simp)
  rwa [String.ofList_nil, String.append_empty] at h

/-! ## Attribute names -/

/-- Whether a character is a numeral that is neither a letter nor a digit of ASCII. -/
def isForeignNumeral (c : Char) : Bool :=
  Text.isAlphanumeric c && !Text.isLetter c && !c.isDigit

/-- A character, or `_` if no name can hold it. -/
def tidy (c : Char) : Char :=
  if continuesName c then c else '_'

theorem continuesName_tidy (c : Char) : continuesName (tidy c) = true := by
  unfold tidy
  split
  · assumption
  · rfl

theorem continuesName_of_mem_map_tidy {cs : List Char} :
    ∀ c ∈ cs.map tidy, continuesName c = true := by
  intro c hc
  obtain ⟨original, -, rfl⟩ := List.mem_map.1 hc
  exact continuesName_tidy original

/-- What can become of the characters of a text that is not kept as it is. -/
inductive Tidied : List Char → String → Prop
  | empty : Tidied [] "field"
  | fronted {front : String} {c : Char} {cs : List Char} : front ∈ ["field", "field_"] →
      isForeignNumeral c = false → Tidied (c :: cs) (front ++ String.ofList ((c :: cs).map tidy))
  | plain {c : Char} {cs : List Char} : Text.isAlphanumeric c = true → c.isDigit = false →
      String.ofList (c :: cs.map tidy) ∉ keywords →
      Tidied (c :: cs) (String.ofList (c :: cs.map tidy))
  | reserved {c : Char} {cs : List Char} : String.ofList (c :: cs.map tidy) ∈ keywords →
      Tidied (c :: cs) (String.ofList (c :: cs.map tidy) ++ "_")

theorem isAlphanumeric_of_tidy_ne {c : Char} (h : tidy c ≠ '_') :
    Text.isAlphanumeric c = true ∧ tidy c = c := by
  unfold tidy at h ⊢
  split at h
  · rename_i hcontinues
    simp only [continuesName, Bool.or_eq_true, beq_iff_eq] at hcontinues
    exact ⟨hcontinues.resolve_left h, if_pos (by simp [continuesName, hcontinues])⟩
  · exact absurd rfl h

theorem isForeignNumeral_of_tidy {c : Char} (h : tidy c = '_') : isForeignNumeral c = false := by
  have hnot : Text.isAlphanumeric c = false := by
    by_contra halphanumeric
    rw [Bool.not_eq_false] at halphanumeric
    unfold tidy at h
    rw [if_pos (continuesName_of_isAlphanumeric halphanumeric)] at h
    exact ne_underscore_of_isAlphanumeric halphanumeric h
  simp [isForeignNumeral, hnot]

theorem tidied_attributeName {raw : String}
    (h : (isIdentifier raw && raw.toList.head? != some '_') = false) :
    Tidied raw.toList (attributeName raw) := by
  have htidy : (fun c => if continuesName c then c else '_') = tidy := rfl
  unfold attributeName
  rw [h, if_neg Bool.false_ne_true, htidy]
  cases raw.toList with
  | nil => exact .empty
  | cons c cs =>
    simp only [List.map_cons]
    have hfronted : ∀ front ∈ ["field", "field_", "Model"],
        isKeyword (front ++ String.ofList (tidy c :: cs.map tidy)) = false := by
      intro front hfront
      rw [Bool.eq_false_iff, ne_eq, isKeyword_iff]
      exact fronted_notMem_keywords hfront _
    by_cases hfirst : tidy c = '_'
    · rw [if_pos hfirst, hfronted _ (by decide), if_neg Bool.false_ne_true]
      exact .fronted (by decide) (isForeignNumeral_of_tidy hfirst)
    · obtain ⟨halphanumeric, hkept⟩ := isAlphanumeric_of_tidy_ne hfirst
      rw [if_neg hfirst]
      by_cases hdigit : (tidy c).isDigit = true
      · rw [if_pos hdigit, hfronted _ (by decide), if_neg Bool.false_ne_true]
        rw [hkept] at hdigit
        exact .fronted (by decide) (by simp [isForeignNumeral, hdigit])
      · rw [if_neg hdigit, hkept]
        rw [hkept, Bool.not_eq_true] at hdigit
        by_cases hkeyword : String.ofList (c :: cs.map tidy) ∈ keywords
        · rw [if_pos (isKeyword_iff.2 hkeyword)]
          exact .reserved hkeyword
        · rw [if_neg (mt isKeyword_iff.1 hkeyword)]
          exact .plain halphanumeric hdigit hkeyword

theorem isForeignNumeral_of_isLetter {c : Char} (h : Text.isLetter c = true) :
    isForeignNumeral c = false := by
  simp [isForeignNumeral, h]

namespace Tidied

variable {cs : List Char} {name : String}

theorem head?_ne (h : Tidied cs name) : name.toList.head? ≠ some '_' := by
  cases h with
  | empty => decide
  | fronted hfront _ =>
    rw [String.toList_append]
    rcases List.mem_pair.1 hfront with rfl | rfl <;> simp
  | plain halphanumeric _ _ =>
    rw [String.toList_ofList, List.head?_cons, ne_eq, Option.some_inj]
    exact ne_underscore_of_isAlphanumeric halphanumeric
  | @reserved c _ hkeyword =>
    have hletter := isAlphanumeric_of_isLetter (isLetter_of_mem_keywords hkeyword c (by simp))
    rw [String.toList_append, String.toList_ofList, List.cons_append, List.head?_cons, ne_eq,
      Option.some_inj]
    exact ne_underscore_of_isAlphanumeric hletter

theorem isIdentifier_iff (h : Tidied cs name) :
    isIdentifier name = true ↔ ∀ c ∈ cs.head?, isForeignNumeral c = false := by
  cases h with
  | empty => exact iff_of_true (isIdentifier_front (by decide)) (by simp)
  | fronted hfront hforeign =>
    refine iff_of_true ((isIdentifier_fronted ?_ _).2 continuesName_of_mem_map_tidy) ?_
    · exact List.mem_append_left ["Model"] hfront
    · simpa using hforeign
  | @plain c cs halphanumeric hdigit hkeyword =>
    have hne := ne_underscore_of_isAlphanumeric halphanumeric
    rw [Python.isIdentifier_iff, and_iff_left hkeyword, hasNameForm_iff (String.toList_ofList)]
    simp [hne, isForeignNumeral, halphanumeric, hdigit, continuesName_tidy]
  | @reserved c _ hkeyword =>
    refine iff_of_true (Python.isIdentifier_iff.2 ⟨?_, notMem_keywords_append _⟩) ?_
    · refine (hasNameForm_append (hasNameForm_of_mem_keywords hkeyword) ['_']).2 ?_
      simp [continuesName]
    · have hletter := isLetter_of_mem_keywords hkeyword c (by simp)
      simpa using isForeignNumeral_of_isLetter hletter

end Tidied

/-- The name of an attribute never begins with `_`, and it is an identifier unless the text that it
    is made from begins with a numeral that is neither a letter nor a digit of ASCII. -/
theorem attributeName_public_iff (raw : String) :
    (attributeName raw).toList.head? ≠ some '_' ∧
      (isIdentifier (attributeName raw) = true ↔
        ∀ c ∈ raw.toList.head?, isForeignNumeral c = false) := by
  cases hkept : isIdentifier raw && raw.toList.head? != some '_' with
  | true =>
    have hname : attributeName raw = raw := by
      unfold attributeName
      rw [hkept, if_pos rfl]
    rw [Bool.and_eq_true, bne_iff_ne] at hkept
    rw [hname]
    refine ⟨hkept.2, fun _ c hc => ?_, fun _ => hkept.1⟩
    -- an identifier that does not begin with `_` begins with a letter
    obtain ⟨rest, hraw⟩ := List.head?_eq_some_iff.1 hc
    obtain ⟨hform, -⟩ := isIdentifier_iff.1 hkept.1
    rw [hasNameForm_iff hraw] at hform
    refine isForeignNumeral_of_isLetter (hform.1.resolve_left ?_)
    rintro rfl
    exact hkept.2 hc
  | false =>
    have htidied := tidied_attributeName hkept
    exact ⟨htidied.head?_ne, htidied.isIdentifier_iff⟩

example : attributeName "\u0663x" = "\u0663x" ∧ isIdentifier "\u0663x" = false := by
  decide +kernel

/-! ## Class names -/

theorem ne_nil_of_mem_words {cs word : List Char} (h : word ∈ words cs) : word ≠ [] := by
  rintro rfl
  have hany := (List.mem_filter.1 h).2
  cases hany

/-- Where groups hold only characters of a class or none, selecting the groups selects the
    characters. -/
theorem flatten_filter_any {p : Char → Bool} {groups : List (List Char)}
    (h : ∀ group ∈ groups, group.any p = true → ∀ c ∈ group, p c = true) :
    (groups.filter (·.any p)).flatten = groups.flatten.filter p := by
  induction groups with
  | nil => rfl
  | cons group rest ih =>
    have hrest := ih fun other hother => h other (List.mem_cons_of_mem _ hother)
    rw [List.flatten_cons, List.filter_append, ← hrest]
    cases hany : group.any p with
    | true =>
      have hgroup : group.filter p = group :=
        List.filter_eq_self.2 (h group List.mem_cons_self hany)
      simp [hany, hgroup]
    | false =>
      have hgroup : group.filter p = [] := List.filter_eq_nil_iff.2 (by simpa using hany)
      simp [hany, hgroup]

/-- The words of a text hold its letters and numerals, in order. -/
theorem flatten_words (cs : List Char) : (words cs).flatten = cs.filter Text.isAlphanumeric := by
  unfold words
  rw [flatten_filter_any, List.flatten_splitBy]
  intro group hgroup hany
  exact isAlphanumeric_of_mem_words (List.mem_filter.2 ⟨hgroup, hany⟩)

/-- A word with a capital continues a name unless the capital has combining marks. -/
theorem continues_capitalized_iff {c : Char} {rest : List Char}
    (hword : ∀ d ∈ c :: rest, Text.isAlphanumeric d = true) :
    (∀ d ∈ capitalized (c :: rest), continuesName d = true) ↔ c.toNat ∉ Text.markedLetters := by
  have hcapital := Text.capital_uppercase c
  constructor
  · intro hall hmarked
    obtain ⟨code, hcode, hmem⟩ := hcapital.exists_mark hmarked
    have hcontinues := hall _ (List.mem_append_left rest hmem)
    obtain ⟨hlow, hmark⟩ := Text.isAlphanumeric_mark hcode
    rw [continuesName, hmark, Bool.or_false, beq_iff_eq] at hcontinues
    rw [hcontinues] at hlow
    exact absurd hlow (by decide)
  · intro hmarked d hd
    refine continuesName_of_isAlphanumeric ?_
    rcases List.mem_append.1 hd with hd | hd
    · cases hletter : Text.isLetter c with
      | true => exact isAlphanumeric_of_isLetter (hcapital.isLetter_of_mem hletter hmarked d hd)
      | false =>
        rw [hcapital.eq_self hletter, List.mem_singleton] at hd
        exact hd ▸ hword c List.mem_cons_self
    · exact hword d (List.mem_cons_of_mem _ hd)

theorem continues_joined_iff (cs : List Char) :
    (∀ d ∈ (words cs).flatMap capitalized, continuesName d = true) ↔
      ∀ word ∈ words cs, ∀ c ∈ word.head?, c.toNat ∉ Text.markedLetters := by
  simp only [List.mem_flatMap]
  constructor
  · intro hall word hword c hc
    obtain ⟨rest, rfl⟩ := List.head?_eq_some_iff.1 hc
    exact (continues_capitalized_iff (isAlphanumeric_of_mem_words hword)).1 fun d hd =>
      hall d ⟨_, hword, hd⟩
  · rintro hall d ⟨word, hword, hd⟩
    cases word with
    | nil => exact absurd rfl (ne_nil_of_mem_words hword)
    | cons c rest =>
      exact (continues_capitalized_iff (isAlphanumeric_of_mem_words hword)).2
        (hall _ hword c rfl) d hd

theorem joined_cons {c first : Char} {marks : List Char} (h : Text.uppercase c = first :: marks)
    {rest : List Char} {more : List (List Char)} : ((c :: rest) :: more).flatMap capitalized =
      first :: (marks ++ rest ++ more.flatMap capitalized) := by
  simp [capitalized, h]

/-- The words that a capital makes a reserved word, or that are one already. -/
def capitalWords : List String := ["false", "False", "none", "None", "true", "True"]

theorem mem_capitalWords {first c : Char} {rest : List Char}
    (h : String.ofList (first :: rest) ∈ ["False", "None", "True"])
    (hc : c.toNat = first.toNat ∨ c.toNat = first.toNat + 32) :
    String.ofList (c :: rest) ∈ capitalWords := by
  have hsubset : ∀ word ∈ ["False", "None", "True"], word ∈ capitalWords := by decide
  rcases hc with hsame | hsmall
  · rw [Char.toNat_inj.1 hsame]
    exact hsubset _ h
  · have hc : c = Char.ofNat (first.toNat + 32) := by rw [← hsmall, Char.ofNat_toNat]
    have hmade : ∀ word ∈ ["False", "None", "True"], ∀ code ∈ word.toList.head?.map Char.toNat,
        String.ofList (Char.ofNat (code + 32) :: word.toList.tail) ∈ capitalWords := by
      decide
    have hword := hmade _ h first.toNat (by rw [String.toList_ofList]; rfl)
    rwa [String.toList_ofList, List.tail_cons, ← hc] at hword

/-- Words that are joined make a reserved word only if there is a single one, and it is one of
    six. -/
theorem joined_mem_keywords_iff {parts : List (List Char)} (hparts : ∀ word ∈ parts, word ≠ []) :
    String.ofList (parts.flatMap capitalized) ∈ keywords ↔
      ∃ word ∈ capitalWords, parts = [word.toList] := by
  constructor
  · intro h
    obtain ⟨htail, hhead⟩ := spelling_of_mem_keywords h
    rw [String.toList_ofList] at htail hhead
    match parts with
    | [] => exact absurd h empty_notMem_keywords
    | [] :: _ => exact absurd rfl (hparts [] List.mem_cons_self)
    | (c :: rest) :: more =>
      have hcapital := Text.capital_uppercase c
      obtain ⟨first, marks, hupper⟩ := hcapital.exists_cons
      rw [joined_cons hupper] at h htail hhead
      rw [hupper] at hcapital
      -- what is in upper case has no place behind the first character
      have hmarks : marks = [] := by
        refine List.eq_nil_iff_forall_not_mem.2 fun d hd => ?_
        have hsmall := htail d (by simp [hd])
        have hnot := hcapital.not_small d (List.mem_cons_of_mem _ hd)
        omega
      have hmore : more = [] := by
        match more with
        | [] => rfl
        | [] :: _ => exact absurd rfl (hparts [] (by simp))
        | (d :: _) :: _ =>
          have hnext := Text.capital_uppercase d
          obtain ⟨initial, others, hinitial⟩ := hnext.exists_cons
          have hsmall := htail initial (by simp [capitalized, hinitial])
          have hnot := hnext.not_small initial (by simp [hinitial])
          omega
      subst hmarks hmore
      have hfirst := hcapital.not_small first List.mem_cons_self
      obtain ⟨hletter, hword⟩ := (hhead first rfl).resolve_left (by omega)
      simp only [List.nil_append, List.flatMap_nil, List.append_nil] at hword
      exact ⟨_, mem_capitalWords hword (hcapital.eq_or_small hletter),
        by rw [String.toList_ofList]⟩
  · have hmade : ∀ word ∈ capitalWords,
        String.ofList ([word.toList].flatMap capitalized) ∈ keywords := by
      decide +kernel
    rintro ⟨word, hword, rfl⟩
    exact hmade word hword

theorem className_of_joined {raw : String} {first : Char} {rest : List Char}
    (h : (words raw.toList).flatMap capitalized = first :: rest) : className raw =
      if first.isDigit then "Model" ++ String.ofList (first :: rest)
      else String.ofList (first :: rest) := by
  simp only [className, h]

/-- A name that is put together needs a letter or a digit of ASCII in front; a digit gets one. -/
theorem isIdentifier_className {raw : String} {first : Char} {rest : List Char}
    (h : (words raw.toList).flatMap capitalized = first :: rest)
    (hfirst : Text.isAlphanumeric first = true) : isIdentifier (className raw) = true ↔
      (Text.isLetter first = true ∨ first.isDigit = true) ∧
        (∀ d ∈ first :: rest, continuesName d = true) ∧
          String.ofList (first :: rest) ∉ keywords := by
  rw [className_of_joined h]
  cases hdigit : first.isDigit with
  | true =>
    have hnot : String.ofList (first :: rest) ∉ keywords := by
      intro hkeyword
      have hletter := isLetter_of_mem_keywords hkeyword first (by simp)
      rw [isLetter_of_isDigit hdigit] at hletter
      cases hletter
    rw [if_pos rfl, isIdentifier_fronted (by decide), and_iff_left hnot]
    exact (and_iff_right (Or.inr rfl)).symm
  | false =>
    have hcontinues := continuesName_of_isAlphanumeric hfirst
    have hne := ne_underscore_of_isAlphanumeric hfirst
    rw [if_neg Bool.false_ne_true, isIdentifier_iff, hasNameForm_iff String.toList_ofList]
    simp only [hne, false_or, Bool.false_eq_true, or_false, List.mem_cons, forall_eq_or_imp,
      hcontinues, true_and, and_assoc]

/-- The first character of a capital is a letter or a digit of ASCII, unless the character is a
    foreign numeral. -/
theorem first_of_uppercase {c first : Char} {marks : List Char}
    (hc : Text.isAlphanumeric c = true) (h : Text.uppercase c = first :: marks) :
    Text.isAlphanumeric first = true ∧
      ((Text.isLetter first = true ∨ first.isDigit = true) ↔ isForeignNumeral c = false) := by
  have hcapital := Text.capital_uppercase c
  cases hletter : Text.isLetter c with
  | true =>
    obtain ⟨initial, _, hinitial, hinitialLetter⟩ := hcapital.exists_first hletter
    rw [h, List.cons.injEq] at hinitial
    rw [← hinitial.1] at hinitialLetter
    exact ⟨isAlphanumeric_of_isLetter hinitialLetter,
      iff_of_true (Or.inl hinitialLetter) (isForeignNumeral_of_isLetter hletter)⟩
  | false =>
    have hself := hcapital.eq_self hletter
    rw [h, List.cons.injEq] at hself
    rw [hself.1]
    exact ⟨hc, by simp [isForeignNumeral, hc, hletter]⟩

/-- A class name is an identifier unless it begins with a numeral that is neither a letter nor a
    digit of ASCII, has combining marks in a capital, or is a reserved word with a capital. -/
theorem className_identifier_iff (raw : String) :
    isIdentifier (className raw) = true ↔
      (∀ c ∈ raw.toList.find? Text.isAlphanumeric, isForeignNumeral c = false) ∧
        (∀ word ∈ words raw.toList, ∀ c ∈ word.head?, c.toNat ∉ Text.markedLetters) ∧
          ∀ word ∈ capitalWords, words raw.toList ≠ [word.toList] := by
  have hfind : raw.toList.find? Text.isAlphanumeric = (words raw.toList).flatten.head? := by
    rw [flatten_words, List.head?_filter]
  have hnonempty : ∀ word ∈ words raw.toList, word ≠ [] := fun _ => ne_nil_of_mem_words
  have hreserved : (∀ word ∈ capitalWords, words raw.toList ≠ [word.toList]) ↔
      String.ofList ((words raw.toList).flatMap capitalized) ∉ keywords := by
    rw [joined_mem_keywords_iff hnonempty]
    simp
  rw [hfind, ← continues_joined_iff, hreserved]
  cases hwords : words raw.toList with
  | nil =>
    have hname : className raw = "Model" := by simp [className, hwords]
    rw [hname]
    exact iff_of_true (isIdentifier_front (by decide))
      ⟨by simp, by simp, empty_notMem_keywords⟩
  | cons word more =>
    have hword : word ∈ words raw.toList := hwords ▸ List.mem_cons_self
    cases word with
    | nil => exact absurd rfl (hnonempty _ hword)
    | cons c rest =>
      obtain ⟨first, marks, hupper⟩ := (Text.capital_uppercase c).exists_cons
      obtain ⟨halphanumeric, hstart⟩ := first_of_uppercase
        (isAlphanumeric_of_mem_words hword c List.mem_cons_self) hupper
      rw [isIdentifier_className (hwords ▸ joined_cons hupper) halphanumeric, joined_cons hupper,
        hstart]
      simp

example : className "none" = "None" ∧ isIdentifier (className "\u0663x") = false ∧
    className "\u01F0a" = "J\u030Ca" := by
  decide +kernel

end SchemaPress.Python
