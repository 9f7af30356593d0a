import SchemaPress.Proofs.Json.Numeral
import SchemaPress.Proofs.Results
import SchemaPress.TypeExpr

set_option autoImplicit false

/-! # The grammar of type expressions

    Expr      = ws* (Text | Number | Name (ws* '[' Arguments)?)
    Arguments = Expr (ws* ',' Arguments | ws* ']')

A text is a string between quotes, in which a backslash takes the next character as it is. A number
is one of a document. A name is any run of other characters that starts like neither. The relations
`IsExpr` and `AreArguments` say which characters are derived from these rules, and what they stand
for. The reader accepts exactly what they derive (`readExpr_sound`, `IsExpr.read`).

It looks one character ahead and never goes back, so each text is derived in one way only. Where an
expression has to follow (`Awaits`), a closing bracket or a comma is refused: there are no empty
brackets and no trailing commas. And the steps that the reader is given are always enough
(`readExpr_fuel`): it ends on every text by itself. -/

namespace SchemaPress.TypeExpr

/-! ## Rules -/

/-- Blanks, of which there may be none. -/
def IsGap (cs : List Char) : Prop :=
  ∀ c ∈ cs, Text.isBlank c = true

/-- Whether a text can stand for a type: it is one name, and it does not start like a value. -/
def IsHead (cs : List Char) : Prop :=
  ∃ first rest, cs = first :: rest ∧ first ∉ ['\'', '"', '-'] ∧ first.isDigit = false ∧
    ∀ c ∈ cs, isNameChar c = true

/-- `IsHead` as a test. -/
def isHead : List Char → Bool
  | [] => false
  | first :: rest =>
    decide (first ∉ ['\'', '"', '-']) && !first.isDigit && (first :: rest).all isNameChar

theorem isHead_eq_true_iff (cs : List Char) : isHead cs = true ↔ IsHead cs := by
  cases cs with
  | nil => simp [isHead, IsHead]
  | cons first rest => simp [isHead, IsHead, and_assoc]

instance (cs : List Char) : Decidable (IsHead cs) :=
  decidable_of_iff _ (isHead_eq_true_iff cs)

/-- The characters between two quotes, and the text that they stand for. -/
inductive IsBody (quote : Char) : List Char → List Char → Prop
  | nil : IsBody quote [] []
  | escaped (c : Char) {cs text : List Char} :
      IsBody quote cs text → IsBody quote ('\\' :: c :: cs) (c :: text)
  | plain {c : Char} {cs text : List Char} : c ≠ '\\' → c ≠ quote →
      IsBody quote cs text → IsBody quote (c :: cs) (c :: text)

/-- The characters of a number, and the number. -/
structure IsNumber (cs : List Char) (value : Value) : Prop where
  starts : ∃ first rest, cs = first :: rest ∧ (first.isDigit = true ∨ first = '-')
  characters : ∀ c ∈ cs, c.isDigit = true ∨ c ∈ ['+', '-', '.', 'e', 'E']
  denotes : ∃ numeral : Json.Numeral, numeral.Valid ∧ numeral.text = cs ∧
    numeral.value? = some value

mutual

/-- The characters of an expression, blanks before it included. -/
inductive IsExpr : List Char → TypeExpr → Prop
  | text {gap body text : List Char} {quote : Char} : IsGap gap → quote = '\'' ∨ quote = '"' →
      IsBody quote body text →
      IsExpr (gap ++ quote :: (body ++ [quote])) (.constant (.str (String.ofList text)))
  | number {gap cs : List Char} {value : Value} : IsGap gap → IsNumber cs value →
      IsExpr (gap ++ cs) (.constant value)
  | name {gap head : List Char} : IsGap gap → IsHead head →
      IsExpr (gap ++ head) (.named (String.ofList head) [])
  | applied {gap head space inner : List Char} {arguments : List TypeExpr} : IsGap gap →
      IsHead head → IsGap space → AreArguments inner arguments →
      IsExpr (gap ++ (head ++ (space ++ '[' :: inner))) (.named (String.ofList head) arguments)

/-- The characters of arguments, the closing bracket included. -/
inductive AreArguments : List Char → List TypeExpr → Prop
  | last {cs gap : List Char} {expr : TypeExpr} : IsExpr cs expr → IsGap gap →
      AreArguments (cs ++ (gap ++ [']'])) [expr]
  | more {cs gap rest : List Char} {expr : TypeExpr} {others : List TypeExpr} : IsExpr cs expr →
      IsGap gap → AreArguments rest others →
      AreArguments (cs ++ (gap ++ ',' :: rest)) (expr :: others)

end

/-- The characters of an expression, blanks on both sides included. -/
def Derives (cs : List Char) (expr : TypeExpr) : Prop :=
  ∃ front gap, cs = front ++ gap ∧ IsExpr front expr ∧ IsGap gap

/-! ## Blanks -/

theorem isGap_nil : IsGap [] := by
  simp [IsGap]

theorem IsGap.append {gap space : List Char} (h : IsGap gap) (hspace : IsGap space) :
    IsGap (gap ++ space) := by
  intro c hc
  exact (List.mem_append.1 hc).elim (h c) (hspace c)

theorem trimStart_gap {gap : List Char} (h : IsGap gap) (rest : List Char) :
    Text.trimStart (gap ++ rest) = Text.trimStart rest :=
  List.dropWhile_append_of_pos h

/-- The blanks before the first other character. -/
theorem exists_gap (cs : List Char) : ∃ gap, IsGap gap ∧ cs = gap ++ Text.trimStart cs :=
  ⟨cs.takeWhile Text.isBlank, fun _ => List.mem_takeWhile_imp,
    List.takeWhile_append_dropWhile.symm⟩

/-- Characters to which no blank belongs end at blanks as well. -/
theorem takeWhile_gap {p : Char → Bool} (hblank : ∀ c, Text.isBlank c = true → p c = false)
    {gap rest : List Char} (hgap : IsGap gap) (hrest : rest.takeWhile p = []) :
    (gap ++ rest).takeWhile p = [] := by
  cases gap with
  | nil => exact hrest
  | cons c gap => simp [hblank c (hgap c List.mem_cons_self)]

theorem isNameChar_of_isBlank (c : Char) (h : Text.isBlank c = true) : isNameChar c = false := by
  simp [isNameChar, h]

theorem isNumberChar_of_isBlank (c : Char) (h : Text.isBlank c = true) :
    isNumberChar c = false := by
  have hdigit : c.isDigit = false := by
    rw [Bool.eq_false_iff]
    intro hdigit
    rw [Text.isBlank_of_isDigit hdigit] at h
    cases h
  have hother : ∀ other : Char, Text.isBlank other = false → (c == other) = false := by
    intro other hother
    rw [beq_eq_false_iff_ne]
    rintro rfl
    rw [h] at hother
    cases hother
  simp [isNumberChar, hdigit, hother _ (show Text.isBlank '-' = false by decide),
    hother _ (show Text.isBlank '+' = false by decide),
    hother _ (show Text.isBlank '.' = false by decide),
    hother _ (show Text.isBlank 'e' = false by decide),
    hother _ (show Text.isBlank 'E' = false by decide)]

/-- What may follow an expression. -/
def Stops (rest : List Char) : Prop :=
  rest = [] ∨ ∃ c tail, rest = c :: tail ∧ (c = ',' ∨ c = ']')

theorem Stops.trimStart {rest : List Char} (h : Stops rest) : Text.trimStart rest = rest := by
  rcases h with rfl | ⟨c, tail, rfl, rfl | rfl⟩
  · rfl
  · exact List.dropWhile_cons_of_neg (by decide)
  · exact List.dropWhile_cons_of_neg (by decide)

theorem Stops.takeWhile {p : Char → Bool} (hcomma : p ',' = false) (hbracket : p ']' = false)
    {rest : List Char} (h : Stops rest) : rest.takeWhile p = [] := by
  rcases h with rfl | ⟨c, tail, rfl, rfl | rfl⟩ <;> simp [hcomma, hbracket]

/-! ## Texts and numbers -/

/-- A character behind a backslash stands for itself. -/
theorem readText_backslash {quote c : Char} {cs text rest : List Char}
    (h : readText quote cs = .ok (text, rest)) :
    readText quote ('\\' :: c :: cs) = .ok (c :: text, rest) := by
  simp only [readText, h, bind, Except.bind, pure, Except.pure]

/-- So does every other character that is not the quote. -/
theorem readText_plain {quote c : Char} {cs text rest : List Char} (hbackslash : c ≠ '\\')
    (hquote : c ≠ quote) (h : readText quote cs = .ok (text, rest)) :
    readText quote (c :: cs) = .ok (c :: text, rest) := by
  rw [readText, if_neg hquote, h]
  · rfl
  · exact fun hc _ => hbackslash hc
  · exact fun _ _ hc _ => hbackslash hc

theorem readText_quote {quote : Char} (hquote : quote ≠ '\\') (rest : List Char) :
    readText quote (quote :: rest) = .ok ([], rest) := by
  rw [readText, if_pos rfl]
  · rfl
  · exact fun hc _ => hquote hc
  · exact fun _ _ hc _ => hquote hc

/-- A text is read to its closing quote. -/
theorem readText_eq_ok_iff {quote : Char} (hquote : quote ≠ '\\') {cs text rest : List Char} :
    readText quote cs = .ok (text, rest) ↔
      ∃ body, cs = body ++ quote :: rest ∧ IsBody quote body text := by
  constructor
  · intro h
    fun_induction readText quote cs generalizing text with
    | case1 => cases h
    | case2 => cases h
    | case3 c cs ih =>
      simp only [bind_eq_ok_iff, pure_eq_ok_iff] at h
      obtain ⟨⟨text, rest⟩, h, heq⟩ := h
      cases heq
      obtain ⟨body, rfl, hbody⟩ := ih h
      exact ⟨'\\' :: c :: body, rfl, .escaped c hbody⟩
    | case4 cs =>
      cases h
      exact ⟨[], rfl, .nil⟩
    | case5 c cs hlone hpair hother ih =>
      simp only [bind_eq_ok_iff, pure_eq_ok_iff] at h
      obtain ⟨⟨text, rest⟩, h, heq⟩ := h
      cases heq
      obtain ⟨body, rfl, hbody⟩ := ih h
      -- a backslash would have taken the character behind it
      have hbackslash : c ≠ '\\' := by
        rintro rfl
        cases body with
        | nil => exact hpair quote rest rfl rfl
        | cons d body => exact hpair d (body ++ quote :: rest) rfl rfl
      exact ⟨c :: body, rfl, .plain hbackslash hother hbody⟩
  · rintro ⟨body, rfl, hbody⟩
    induction hbody with
    | nil => exact readText_quote hquote rest
    | escaped c _ ih => exact readText_backslash ih
    | plain hbackslash hother _ ih => exact readText_plain hbackslash hother ih

theorem isNumberChar_iff {c : Char} :
    isNumberChar c = true ↔ c.isDigit = true ∨ c ∈ ['+', '-', '.', 'e', 'E'] := by
  simp only [isNumberChar, Bool.or_eq_true, beq_iff_eq, List.mem_cons, List.not_mem_nil, or_false]
  grind

/-- A number is read as far as its characters go. -/
theorem readNumber_eq_ok_iff {cs rest : List Char} {value : Value} :
    readNumber cs = .ok (value, rest) ↔ ∃ front, cs = front ++ rest ∧
      (∀ c ∈ front, isNumberChar c = true) ∧ rest.takeWhile isNumberChar = [] ∧
      Json.number? front = some value := by
  constructor
  · intro h
    unfold readNumber at h
    cases hnumber : Json.number? (cs.takeWhile isNumberChar) with
    | none =>
      rw [hnumber] at h
      cases h
    | some found =>
      rw [hnumber] at h
      cases h
      exact ⟨_, List.takeWhile_append_dropWhile.symm, fun _ => List.mem_takeWhile_imp,
        Text.takeWhile_dropWhile isNumberChar cs, hnumber⟩
  · rintro ⟨front, rfl, hfront, hrest, hnumber⟩
    obtain ⟨htake, hdrop⟩ := Text.takeWhile_append_stop hfront hrest
    rw [readNumber, htake, hdrop, hnumber]
    rfl

/-! ## Steps of the reader -/

/-- Reads what stands behind a name: its arguments, or nothing. -/
def readBehind (fuel : Nat) (name : String) :
    List Char → Except SyntaxError (TypeExpr × List Char)
  | '[' :: inner => do
    let (arguments, rest) ← readArguments fuel inner
    return (.named name arguments, rest)
  | rest => return (.named name [], rest)

/-- A name starts with no blank. -/
theorem IsHead.trimStart {head : List Char} (h : IsHead head) (cs : List Char) :
    Text.trimStart (head ++ cs) = head ++ cs := by
  obtain ⟨first, others, rfl, -, -, hall⟩ := h
  have hnameChar := hall first List.mem_cons_self
  simp only [isNameChar, Bool.and_eq_true, Bool.not_eq_true'] at hnameChar
  exact Text.trimStart_cons hnameChar.1.1.1 _

/-- A name is read up to the first character that cannot be part of one. -/
theorem readExpr_head {head behind cs : List Char} (hhead : IsHead head)
    (hbehind : behind.takeWhile isNameChar = []) (htrim : Text.trimStart cs = head ++ behind)
    (fuel : Nat) :
    readExpr (fuel + 1) cs = readBehind fuel (String.ofList head) (Text.trimStart behind) := by
  obtain ⟨first, others, rfl, hfirst, hdigit, hall⟩ := hhead
  simp only [List.mem_cons, List.not_mem_nil, or_false, not_or] at hfirst
  have hquote : ¬(first = '\'' ∨ first = '"') := by
    rintro (h | h)
    · exact hfirst.1 h
    · exact hfirst.2.1 h
  have hnumber : ¬(first.isDigit = true ∨ first = '-') := by
    rintro (h | h)
    · rw [hdigit] at h
      cases h
    · exact hfirst.2.2 h
  obtain ⟨htake, hdrop⟩ := Text.takeWhile_append_stop hall hbehind
  rw [List.cons_append] at htake hdrop htrim
  rw [readExpr, htrim]
  simp only [if_neg hquote, if_neg hnumber, htake, hdrop, List.isEmpty_cons, Bool.false_eq_true,
    if_false]
  rfl

/-- The ways in which an expression is read behind the blanks before it. -/
inductive Reads (fuel : Nat) : List Char → TypeExpr → List Char → Prop
  | text {quote : Char} {cs text rest : List Char} : quote = '\'' ∨ quote = '"' →
      readText quote cs = .ok (text, rest) →
      Reads fuel (quote :: cs) (.constant (.str (String.ofList text))) rest
  | number {first : Char} {cs rest : List Char} {value : Value} :
      first.isDigit = true ∨ first = '-' → readNumber (first :: cs) = .ok (value, rest) →
      Reads fuel (first :: cs) (.constant value) rest
  | name {head rest : List Char} : IsHead head → rest.takeWhile isNameChar = [] →
      (Text.trimStart rest).head? ≠ some '[' →
      Reads fuel (head ++ rest) (.named (String.ofList head) []) (Text.trimStart rest)
  | applied {head behind inner rest : List Char} {arguments : List TypeExpr} : IsHead head →
      behind.takeWhile isNameChar = [] → Text.trimStart behind = '[' :: inner →
      readArguments fuel inner = .ok (arguments, rest) →
      Reads fuel (head ++ behind) (.named (String.ofList head) arguments) rest

theorem isHead_takeWhile {c : Char} {tail : List Char} (hquote : ¬(c = '\'' ∨ c = '"'))
    (hnumber : ¬(c.isDigit = true ∨ c = '-')) (hname : isNameChar c = true) :
    IsHead ((c :: tail).takeWhile isNameChar) := by
  simp only [not_or, Bool.not_eq_true] at hquote hnumber
  exact ⟨c, tail.takeWhile isNameChar, by simp [hname], by simp [hquote, hnumber], hnumber.1,
    fun _ => List.mem_takeWhile_imp⟩

/-- The reader goes one of these ways. -/
theorem readExpr_eq_ok_iff {fuel : Nat} {cs rest : List Char} {expr : TypeExpr} :
    readExpr (fuel + 1) cs = .ok (expr, rest) ↔ Reads fuel (Text.trimStart cs) expr rest := by
  constructor
  · intro h
    rw [readExpr] at h
    rcases htrim : Text.trimStart cs with _ | ⟨c, tail⟩
    · rw [htrim] at h
      cases h
    · simp only [htrim] at h
      by_cases hquote : c = '\'' ∨ c = '"'
      · simp only [if_pos hquote, bind_eq_ok_iff, pure_eq_ok_iff] at h
        obtain ⟨⟨text, rest⟩, htext, heq⟩ := h
        cases heq
        exact .text hquote htext
      · by_cases hnumber : c.isDigit = true ∨ c = '-'
        · simp only [if_neg hquote, if_pos hnumber, bind_eq_ok_iff, pure_eq_ok_iff] at h
          obtain ⟨⟨value, rest⟩, hread, heq⟩ := h
          cases heq
          exact .number hnumber hread
        · simp only [if_neg hquote, if_neg hnumber] at h
          by_cases hname : isNameChar c = true
          · have hhead : IsHead ((c :: tail).takeWhile isNameChar) :=
              isHead_takeWhile hquote hnumber hname
            rw [if_neg (by simp [hname])] at h
            rw [← List.takeWhile_append_dropWhile (p := isNameChar) (l := c :: tail)]
            have hstop := Text.takeWhile_dropWhile isNameChar (c :: tail)
            generalize (c :: tail).takeWhile isNameChar = head at *
            generalize (c :: tail).dropWhile isNameChar = behind at *
            split at h
            · rename_i inner hbracket
              simp only [bind_eq_ok_iff, pure_eq_ok_iff] at h
              obtain ⟨⟨arguments, rest⟩, hread, heq⟩ := h
              cases heq
              exact .applied hhead hstop hbracket hread
            · rename_i hbracket
              cases h
              refine .name hhead hstop ?_
              intro hopen
              obtain ⟨inner, hinner⟩ := List.head?_eq_some_iff.1 hopen
              exact hbracket inner hinner
          · rw [if_pos (by simp [hname])] at h
            cases h
  · intro h
    generalize htrim : Text.trimStart cs = trimmed at h
    cases h with
    | text hquote htext =>
      simp only [readExpr, htrim, if_pos hquote, htext, bind, Except.bind, pure, Except.pure]
    | @number first cs rest value hfirst hread =>
      have hquote : ¬(first = '\'' ∨ first = '"') := by
        rintro (rfl | rfl) <;> simp at hfirst
      simp only [readExpr, htrim, if_neg hquote, if_pos hfirst, hread, bind, Except.bind, pure,
        Except.pure]
    | @name head behind hhead hstop hopen =>
      rw [readExpr_head hhead hstop htrim, readBehind]
      · rfl
      · intro inner hinner
        rw [hinner] at hopen
        exact hopen rfl
    | applied hhead hstop hbracket hread =>
      rw [readExpr_head hhead hstop htrim, hbracket]
      simp only [readBehind, hread, bind, Except.bind, pure, Except.pure]

theorem readArguments_eq_ok_iff {fuel : Nat} {cs rest : List Char} {arguments : List TypeExpr} :
    readArguments (fuel + 1) cs = .ok (arguments, rest) ↔
      ∃ first behind, readExpr fuel cs = .ok (first, behind) ∧
        (Text.trimStart behind = ']' :: rest ∧ arguments = [first] ∨
          ∃ next others, Text.trimStart behind = ',' :: next ∧
            readArguments fuel next = .ok (others, rest) ∧ arguments = first :: others) := by
  constructor
  · intro h
    simp only [readArguments, bind_eq_ok_iff] at h
    obtain ⟨⟨first, behind⟩, hfirst, h⟩ := h
    refine ⟨first, behind, hfirst, ?_⟩
    split at h
    · rename_i next hcomma
      simp only [bind_eq_ok_iff, pure_eq_ok_iff] at h
      obtain ⟨⟨others, rest⟩, hothers, heq⟩ := h
      cases heq
      exact .inr ⟨next, others, hcomma, hothers, rfl⟩
    · rename_i hbracket
      cases h
      exact .inl ⟨hbracket, rfl⟩
    · cases h
  · rintro ⟨first, behind, hfirst, ⟨hbracket, rfl⟩ | ⟨next, others, hcomma, hothers, rfl⟩⟩
    · simp only [readArguments, hfirst, hbracket, bind, Except.bind, pure, Except.pure]
    · simp only [readArguments, hfirst, hcomma, hothers, bind, Except.bind, pure, Except.pure]

/-! ## What is read is derived -/

theorem quote_ne_backslash {quote : Char} (h : quote = '\'' ∨ quote = '"') : quote ≠ '\\' := by
  rcases h with rfl | rfl <;> decide

/-- What is read behind blanks is derived from the rules. -/
theorem Reads.derived {fuel : Nat} {cs rest : List Char} {expr : TypeExpr}
    (harguments : ∀ {inner rest : List Char} {arguments : List TypeExpr},
      readArguments fuel inner = .ok (arguments, rest) →
        ∃ front, inner = front ++ rest ∧ AreArguments front arguments)
    (h : Reads fuel cs expr rest) {gap : List Char} (hgap : IsGap gap) :
    ∃ front space, gap ++ cs = front ++ (space ++ rest) ∧ IsExpr front expr ∧ IsGap space := by
  cases h with
  | @text quote cs text rest hquote htext =>
    obtain ⟨body, rfl, hbody⟩ := (readText_eq_ok_iff (quote_ne_backslash hquote)).1 htext
    exact ⟨gap ++ quote :: (body ++ [quote]), [], by simp, .text hgap hquote hbody, isGap_nil⟩
  | @number first cs rest value hfirst hread =>
    obtain ⟨front, heq, hfront, -, hnumber⟩ := readNumber_eq_ok_iff.1 hread
    cases front with
    | nil => cases hnumber
    | cons c front =>
      cases heq
      refine ⟨gap ++ first :: front, [], by simp, .number hgap ⟨⟨first, front, rfl, hfirst⟩, ?_,
        Json.number?_eq_some_iff.1 hnumber⟩, isGap_nil⟩
      exact fun c hc => isNumberChar_iff.1 (hfront c hc)
  | @name head behind hhead =>
    obtain ⟨space, hspace, hbehind⟩ := exists_gap behind
    exact ⟨gap ++ head, space, by rw [← hbehind, List.append_assoc], .name hgap hhead, hspace⟩
  | @applied head behind inner rest arguments hhead _ hbracket hread =>
    obtain ⟨space, hspace, hbehind⟩ := exists_gap behind
    obtain ⟨front, rfl, hfront⟩ := harguments hread
    rw [hbracket] at hbehind
    exact ⟨_, [], by rw [hbehind]; simp, .applied hgap hhead hspace hfront, isGap_nil⟩

/-- What is read is derived from the rules. -/
theorem readExpr_sound (fuel : Nat) :
    (∀ {cs rest : List Char} {expr : TypeExpr}, readExpr fuel cs = .ok (expr, rest) →
      ∃ front gap, cs = front ++ (gap ++ rest) ∧ IsExpr front expr ∧ IsGap gap) ∧
    ∀ {cs rest : List Char} {arguments : List TypeExpr},
      readArguments fuel cs = .ok (arguments, rest) →
        ∃ front, cs = front ++ rest ∧ AreArguments front arguments := by
  induction fuel with
  | zero => exact ⟨nofun, nofun⟩
  | succ fuel ih =>
    constructor
    · intro cs rest expr h
      obtain ⟨gap, hgap, hcs⟩ := exists_gap cs
      rw [hcs]
      exact (readExpr_eq_ok_iff.1 h).derived ih.2 hgap
    · intro cs rest arguments h
      obtain ⟨first, behind, hfirst, hmore⟩ := readArguments_eq_ok_iff.1 h
      obtain ⟨front, gap, rfl, hfront, hgap⟩ := ih.1 hfirst
      obtain ⟨space, hspace, hbehind⟩ := exists_gap behind
      rcases hmore with ⟨hbracket, rfl⟩ | ⟨next, others, hcomma, hothers, rfl⟩
      · rw [hbracket] at hbehind
        exact ⟨_, by rw [hbehind]; simp, .last hfront (hgap.append hspace)⟩
      · obtain ⟨following, rfl, hfollowing⟩ := ih.2 hothers
        rw [hcomma] at hbehind
        exact ⟨_, by rw [hbehind]; simp, .more hfront (hgap.append hspace) hfollowing⟩

/-! ## What is derived is read -/

mutual

/-- A derived expression is read, up to the blanks behind it. -/
theorem IsExpr.read {front : List Char} {expr : TypeExpr} (h : IsExpr front expr) {fuel : Nat}
    (hfuel : 2 * front.length < fuel) {gap rest : List Char} (hgap : IsGap gap)
    (hrest : Stops rest) :
    ∃ left, readExpr fuel (front ++ (gap ++ rest)) = .ok (expr, left) ∧
      Text.trimStart left = rest := by
  have hleft : Text.trimStart (gap ++ rest) = rest := by rw [trimStart_gap hgap, hrest.trimStart]
  obtain ⟨fuel, rfl⟩ := Nat.exists_eq_add_one_of_ne_zero (Nat.ne_zero_of_lt hfuel)
  cases h with
  | @text before body text quote hbefore hquote hbody =>
    refine ⟨gap ++ rest, readExpr_eq_ok_iff.2 ?_, hleft⟩
    have hblank : Text.isBlank quote = false := by rcases hquote with rfl | rfl <;> decide
    have htext : readText quote (body ++ quote :: (gap ++ rest)) = .ok (text, gap ++ rest) :=
      (readText_eq_ok_iff (quote_ne_backslash hquote)).2 ⟨body, rfl, hbody⟩
    rw [List.append_assoc, trimStart_gap hbefore, List.cons_append, Text.trimStart_cons hblank,
      List.append_assoc]
    exact .text hquote htext
  | @number before cs value hbefore hnumber =>
    refine ⟨gap ++ rest, readExpr_eq_ok_iff.2 ?_, hleft⟩
    obtain ⟨first, digits, rfl, hfirst⟩ := hnumber.starts
    have hblank : Text.isBlank first = false := by
      rcases hfirst with hdigit | rfl
      · exact Text.isBlank_of_isDigit hdigit
      · decide
    have hread : readNumber (first :: digits ++ (gap ++ rest)) = .ok (value, gap ++ rest) :=
      readNumber_eq_ok_iff.2 ⟨_, rfl, fun c hc => isNumberChar_iff.2 (hnumber.characters c hc),
        takeWhile_gap isNumberChar_of_isBlank hgap (hrest.takeWhile (by decide) (by decide)),
        Json.number?_eq_some_iff.2 hnumber.denotes⟩
    rw [List.append_assoc, trimStart_gap hbefore, List.cons_append, Text.trimStart_cons hblank]
    exact .number hfirst hread
  | @name before head hbefore hhead =>
    refine ⟨Text.trimStart (gap ++ rest), readExpr_eq_ok_iff.2 ?_, ?_⟩
    · rw [List.append_assoc, trimStart_gap hbefore, hhead.trimStart]
      refine .name hhead ?_ ?_
      · exact takeWhile_gap isNameChar_of_isBlank hgap (hrest.takeWhile (by decide) (by decide))
      rw [hleft]
      rcases hrest with rfl | ⟨c, tail, rfl, rfl | rfl⟩ <;> simp
    · rw [hleft, hrest.trimStart]
  | @applied before head space inner arguments hbefore hhead hspace harguments =>
    refine ⟨gap ++ rest, readExpr_eq_ok_iff.2 ?_, hleft⟩
    have hshort : 2 * inner.length < fuel := by
      simp only [List.length_append, List.length_cons] at hfuel
      omega
    have hinner := harguments.read hshort (gap ++ rest)
    simp only [List.append_assoc, List.cons_append]
    rw [trimStart_gap hbefore, hhead.trimStart]
    refine .applied hhead ?_ ?_ hinner
    · exact takeWhile_gap isNameChar_of_isBlank hspace (List.takeWhile_cons_of_neg (by decide))
    · rw [trimStart_gap hspace, Text.trimStart_cons (by decide)]

/-- Derived arguments are read. -/
theorem AreArguments.read {front : List Char} {arguments : List TypeExpr}
    (h : AreArguments front arguments) {fuel : Nat} (hfuel : 2 * front.length < fuel)
    (rest : List Char) : readArguments fuel (front ++ rest) = .ok (arguments, rest) := by
  obtain ⟨fuel, rfl⟩ := Nat.exists_eq_add_one_of_ne_zero (Nat.ne_zero_of_lt hfuel)
  rw [readArguments_eq_ok_iff]
  cases h with
  | @last cs gap expr hexpr hgap =>
    have hshort : 2 * cs.length < fuel := by
      simp only [List.length_append, List.length_cons] at hfuel
      omega
    obtain ⟨left, hread, hleft⟩ := hexpr.read hshort hgap (.inr ⟨']', rest, rfl, .inr rfl⟩)
    exact ⟨expr, left, by simpa using hread, .inl ⟨hleft, rfl⟩⟩
  | @more cs gap following expr others hexpr hgap hothers =>
    have hshort : 2 * cs.length < fuel ∧ 2 * following.length < fuel := by
      simp only [List.length_append, List.length_cons] at hfuel
      omega
    obtain ⟨left, hread, hleft⟩ :=
      hexpr.read hshort.1 hgap (.inr ⟨',', following ++ rest, rfl, .inl rfl⟩)
    exact ⟨expr, left, by simpa using hread,
      .inr ⟨following ++ rest, others, hleft, hothers.read hshort.2 rest, rfl⟩⟩

end

/-! ## Steps that the reader needs -/

theorem length_trimStart_le (cs : List Char) : (Text.trimStart cs).length ≤ cs.length :=
  (List.dropWhile_sublist _).length_le

theorem readBehind_congr {fuel other : Nat} {name : String} {cs : List Char}
    (h : ∀ inner, inner.length < cs.length →
      readArguments fuel inner = readArguments other inner) :
    readBehind fuel name cs = readBehind other name cs := by
  unfold readBehind
  split
  · rename_i inner
    rw [h inner (Nat.lt_succ_self _)]
  · rfl

/-- Reading an expression needs as many steps as reading arguments that are shorter. -/
theorem readExpr_congr {fuel other : Nat} {cs : List Char}
    (h : ∀ inner, inner.length < cs.length →
      readArguments fuel inner = readArguments other inner) :
    readExpr (fuel + 1) cs = readExpr (other + 1) cs := by
  rcases htrim : Text.trimStart cs with _ | ⟨c, tail⟩
  · simp only [readExpr, htrim]
  · by_cases hquote : c = '\'' ∨ c = '"'
    · simp only [readExpr, htrim, if_pos hquote]
    · by_cases hnumber : c.isDigit = true ∨ c = '-'
      · simp only [readExpr, htrim, if_neg hquote, if_pos hnumber]
      · by_cases hname : isNameChar c = true
        · have hhead : IsHead ((c :: tail).takeWhile isNameChar) :=
            isHead_takeWhile hquote hnumber hname
          have hstop := Text.takeWhile_dropWhile isNameChar (c :: tail)
          rw [← List.takeWhile_append_dropWhile (p := isNameChar) (l := c :: tail)] at htrim
          rw [readExpr_head hhead hstop htrim, readExpr_head hhead hstop htrim]
          apply readBehind_congr
          intro inner hinner
          apply h
          have hshort := length_trimStart_le cs
          have hbehind := length_trimStart_le ((c :: tail).dropWhile isNameChar)
          rw [htrim, List.length_append] at hshort
          omega
        · have hempty : ((c :: tail).takeWhile isNameChar).isEmpty = true := by simp [hname]
          simp only [readExpr, htrim, if_neg hquote, if_neg hnumber, if_pos hempty]

/-- Reading arguments needs as many steps as reading the first, and the shorter text behind it. -/
theorem readArguments_congr {fuel other : Nat} {cs : List Char}
    (hfirst : readExpr fuel cs = readExpr other cs)
    (h : ∀ next, next.length < cs.length → readArguments fuel next = readArguments other next) :
    readArguments (fuel + 1) cs = readArguments (other + 1) cs := by
  simp only [readArguments, hfirst]
  cases hread : readExpr other cs with
  | error => rfl
  | ok result =>
    obtain ⟨first, behind⟩ := result
    obtain ⟨front, gap, hcs, -, -⟩ := (readExpr_sound other).1 hread
    simp only [bind, Except.bind]
    split
    · rename_i next hcomma
      -- the comma is gone, so what follows it is shorter whatever the first argument took
      have hshort := length_trimStart_le behind
      rw [hcomma, List.length_cons] at hshort
      rw [h next]
      rw [hcs, List.length_append, List.length_append]
      omega
    · rfl
    · rfl

/-- More steps than a text needs change nothing. -/
theorem readExpr_fuel (fuel : Nat) :
    (∀ {other : Nat} {cs : List Char}, 2 * cs.length < fuel → 2 * cs.length < other →
      readExpr fuel cs = readExpr other cs) ∧
    ∀ {other : Nat} {cs : List Char}, 2 * cs.length + 1 < fuel → 2 * cs.length + 1 < other →
      readArguments fuel cs = readArguments other cs := by
  induction fuel with
  | zero =>
    constructor
    · intro other cs h
      omega
    · intro other cs h
      omega
  | succ fuel ih =>
    -- a step on arguments may keep the text, but then the step on its first expression follows
    constructor
    · intro other cs h hother
      obtain ⟨other, rfl⟩ := Nat.exists_eq_add_one_of_ne_zero (Nat.ne_zero_of_lt hother)
      apply readExpr_congr
      intro inner hinner
      exact ih.2 (by omega) (by omega)
    · intro other cs h hother
      obtain ⟨other, rfl⟩ := Nat.exists_eq_add_one_of_ne_zero (Nat.ne_zero_of_lt hother)
      apply readArguments_congr
      · exact ih.1 (by omega) (by omega)
      · intro next hnext
        exact ih.2 (by omega) (by omega)

/-! ## Places where an expression has to follow -/

/-- Arguments up to the last comma. -/
inductive Preceding : List Char → Prop
  | nil : Preceding []
  | cons {cs gap rest : List Char} {expr : TypeExpr} : IsExpr cs expr → IsGap gap →
      Preceding rest → Preceding (cs ++ (gap ++ ',' :: rest))

/-- Texts behind which an expression has to follow: the empty one, and those that go on to an
    opening bracket or to a comma between brackets. -/
inductive Awaits : List Char → Prop
  | start : Awaits []
  | inside {before gap head space prior : List Char} : Awaits before → IsGap gap → IsHead head →
      IsGap space → Preceding prior →
      Awaits (before ++ (gap ++ (head ++ (space ++ '[' :: prior))))

/-- A text without an expression at its start. -/
def Stuck (cs : List Char) : Prop :=
  ∀ fuel, 2 * cs.length < fuel → ∀ result, readExpr fuel cs ≠ .ok result

/-- No expression starts with a bracket or a comma. -/
theorem Reads.starts {fuel : Nat} {cs rest : List Char} {expr : TypeExpr}
    (h : Reads fuel cs expr rest) : ∃ c tail, cs = c :: tail ∧ c ∉ ['[', ']', ','] := by
  have hstart : ∀ {head behind : List Char}, IsHead head →
      ∃ c tail, head ++ behind = c :: tail ∧ c ∉ ['[', ']', ','] := by
    rintro _ behind ⟨first, others, rfl, -, -, hall⟩
    refine ⟨first, others ++ behind, rfl, ?_⟩
    intro hmem
    have hname := hall first List.mem_cons_self
    simp only [List.mem_cons, List.not_mem_nil, or_false] at hmem
    rcases hmem with rfl | rfl | rfl <;> exact absurd hname (by decide)
  cases h with
  | text hquote => exact ⟨_, _, rfl, by rcases hquote with rfl | rfl <;> decide⟩
  | number hfirst =>
    refine ⟨_, _, rfl, ?_⟩
    intro hmem
    simp only [List.mem_cons, List.not_mem_nil, or_false] at hmem
    rcases hmem with rfl | rfl | rfl <;> exact absurd hfirst (by decide)
  | name hhead => exact hstart hhead
  | applied hhead => exact hstart hhead

theorem stuck_gap {gap rest : List Char} (hgap : IsGap gap)
    (hrest : ∀ c ∈ rest.head?, c ∈ ['[', ']', ',']) : Stuck (gap ++ rest) := by
  rintro fuel hfuel ⟨expr, left⟩ hread
  obtain ⟨fuel, rfl⟩ := Nat.exists_eq_add_one_of_ne_zero (Nat.ne_zero_of_lt hfuel)
  rw [readExpr_eq_ok_iff, trimStart_gap hgap] at hread
  obtain ⟨c, tail, htrim, hc⟩ := hread.starts
  cases rest with
  | nil => cases htrim
  | cons first rest =>
    have hfirst := hrest first rfl
    have hblank : Text.isBlank first = false := by
      simp only [List.mem_cons, List.not_mem_nil, or_false] at hfirst
      rcases hfirst with rfl | rfl | rfl <;> decide
    rw [Text.trimStart_cons hblank] at htrim
    cases htrim
    exact hc hfirst

/-- Behind arguments that end with a comma another one has to follow. -/
theorem Preceding.not_readArguments {prior cs : List Char} (h : Preceding prior)
    (hcs : Stuck cs) {fuel : Nat} (hfuel : 2 * (prior ++ cs).length + 1 < fuel)
    (result : List TypeExpr × List Char) : readArguments fuel (prior ++ cs) ≠ .ok result := by
  intro hread
  induction h generalizing fuel result with
  | nil =>
    obtain ⟨fuel, rfl⟩ := Nat.exists_eq_add_one_of_ne_zero (Nat.ne_zero_of_lt hfuel)
    obtain ⟨first, behind, hfirst, -⟩ := readArguments_eq_ok_iff.1 hread
    exact hcs fuel (by simpa using hfuel) _ hfirst
  | @cons front gap rest expr hexpr hgap _ ih =>
    obtain ⟨fuel, rfl⟩ := Nat.exists_eq_add_one_of_ne_zero (Nat.ne_zero_of_lt hfuel)
    obtain ⟨first, behind, hfirst, hmore⟩ := readArguments_eq_ok_iff.1 hread
    simp only [List.append_assoc, List.cons_append, List.length_append, List.length_cons]
      at hfuel hfirst
    -- the first argument is read up to its comma, so what is left is what has to follow
    obtain ⟨left, hexact, hleft⟩ := hexpr.read (show 2 * front.length < fuel by omega) hgap
      (.inr ⟨',', rest ++ cs, rfl, .inl rfl⟩)
    rw [hexact] at hfirst
    cases hfirst
    rw [hleft] at hmore
    rcases hmore with ⟨hbracket, -⟩ | ⟨next, others, hcomma, hothers, -⟩
    · cases hbracket
    · cases hcomma
      exact ih (by rw [List.length_append]; omega) _ hothers

/-- Where an expression has to follow and none does, none is read from the start. -/
theorem Awaits.stuck {before cs : List Char} (h : Awaits before) (hcs : Stuck cs) :
    Stuck (before ++ cs) := by
  induction h generalizing cs with
  | start => exact hcs
  | @inside before gap head space prior _ hgap hhead hspace hprior ih =>
    have happlied : Stuck (gap ++ (head ++ (space ++ '[' :: (prior ++ cs)))) := by
      rintro fuel hfuel ⟨expr, left⟩ hread
      obtain ⟨fuel, rfl⟩ := Nat.exists_eq_add_one_of_ne_zero (Nat.ne_zero_of_lt hfuel)
      have htrim : Text.trimStart (gap ++ (head ++ (space ++ '[' :: (prior ++ cs)))) =
          head ++ (space ++ '[' :: (prior ++ cs)) := by
        rw [trimStart_gap hgap, hhead.trimStart]
      rw [readExpr_head hhead (takeWhile_gap isNameChar_of_isBlank hspace
        (List.takeWhile_cons_of_neg (by decide))) htrim, trimStart_gap hspace,
        Text.trimStart_cons (by decide)] at hread
      simp only [readBehind, bind_eq_ok_iff] at hread
      obtain ⟨result, hinner, -⟩ := hread
      refine hprior.not_readArguments hcs ?_ result hinner
      simp only [List.length_append, List.length_cons] at hfuel ⊢
      omega
    simpa using ih happlied

/-! ## Whole texts -/

theorem readWhole_eq_ok_iff {cs : List Char} {expr : TypeExpr} :
    readWhole cs = .ok expr ↔ ∃ rest, readExpr (2 * cs.length + 2) cs = .ok (expr, rest) ∧
      Text.trimStart rest = [] := by
  simp only [readWhole, bind_eq_ok_iff]
  constructor
  · rintro ⟨⟨found, rest⟩, hread, h⟩
    cases hrest : Text.trimStart rest with
    | nil =>
      simp only [hrest] at h
      cases h
      exact ⟨rest, hread, hrest⟩
    | cons c tail =>
      simp only [hrest] at h
      cases h
  · rintro ⟨rest, hread, hrest⟩
    exact ⟨(expr, rest), hread, by simp only [hrest]; rfl⟩

/-- The whole texts that are read are those derived from the rules. -/
theorem readWhole_eq_ok_iff_derives {cs : List Char} {expr : TypeExpr} :
    readWhole cs = .ok expr ↔ Derives cs expr := by
  rw [readWhole_eq_ok_iff]
  constructor
  · rintro ⟨rest, hread, hrest⟩
    obtain ⟨front, gap, hcs, hfront, hgap⟩ := (readExpr_sound _).1 hread
    obtain ⟨space, hspace, hbehind⟩ := exists_gap rest
    rw [hrest, List.append_nil] at hbehind
    exact ⟨front, gap ++ rest, hcs, hfront, hgap.append (hbehind ▸ hspace)⟩
  · rintro ⟨front, gap, rfl, hfront, hgap⟩
    have hfuel : 2 * front.length < 2 * (front ++ gap).length + 2 := by
      rw [List.length_append]
      omega
    obtain ⟨left, hread, hleft⟩ := hfront.read hfuel hgap (.inl rfl)
    rw [List.append_nil] at hread
    exact ⟨left, hread, hleft⟩

/-- Characters that are derived are read whole. -/
theorem IsExpr.readWhole {cs : List Char} {expr : TypeExpr} (h : IsExpr cs expr) :
    readWhole cs = .ok expr :=
  readWhole_eq_ok_iff_derives.2 ⟨cs, [], (List.append_nil cs).symm, h, isGap_nil⟩

/-- So they are derived in one way only. -/
theorem IsExpr.unique {cs : List Char} {expr other : TypeExpr} (h : IsExpr cs expr)
    (hother : IsExpr cs other) : expr = other :=
  Except.ok.inj (h.readWhole.symm.trans hother.readWhole)

theorem read_eq_ok_iff_readWhole {text : String} {expr : TypeExpr} :
    read text = .ok expr ↔ readWhole text.toList = .ok expr := by
  unfold read
  cases readWhole text.toList with
  | error => exact ⟨nofun, nofun⟩
  | ok found => simp [pure, Except.pure]

/-- **The reader accepts exactly the grammar.** A text is read as an expression if and only if it is
    derived as that expression, so no text is derived in two ways. Where an expression has to
    follow, neither the end of the text nor a bracket nor a comma can stand: brackets are not
    empty, and no comma is the last. The steps that the reader is given are enough for every text,
    since more of them change nothing. -/
theorem read_eq_ok_iff_derives :
    (∀ (text : String) (expr : TypeExpr), read text = .ok expr ↔ Derives text.toList expr) ∧
    (∀ (cs : List Char) (expr expr' : TypeExpr), Derives cs expr → Derives cs expr' →
      expr = expr') ∧
    (∀ (before gap rest : List Char) (expr : TypeExpr), Awaits before → IsGap gap →
      (∀ c ∈ rest.head?, c ∈ ['[', ']', ',']) → ¬Derives (before ++ (gap ++ rest)) expr) ∧
    ∀ (cs : List Char) (fuel : Nat), 2 * cs.length + 2 ≤ fuel →
      readExpr fuel cs = readExpr (2 * cs.length + 2) cs := by
  refine ⟨?_, ?_, ?_, ?_⟩
  · intro text expr
    rw [read_eq_ok_iff_readWhole, readWhole_eq_ok_iff_derives]
  · intro cs expr expr' h h'
    have hread := readWhole_eq_ok_iff_derives.2 h
    rw [readWhole_eq_ok_iff_derives.2 h'] at hread
    exact (Except.ok.inj hread).symm
  · intro before gap rest expr hbefore hgap hrest hderives
    obtain ⟨left, hread, -⟩ := readWhole_eq_ok_iff.1 (readWhole_eq_ok_iff_derives.2 hderives)
    exact hbefore.stuck (stuck_gap hgap hrest) _ (by omega) _ hread
  · intro cs fuel hfuel
    exact (readExpr_fuel fuel).1 (by omega) (by omega)

/-- `Literal['a', -2 ]` is read as it is derived. `Dict[str,]` is not derived: behind `Dict[str,` an
    expression has to follow. -/
theorem read_eq_ok_iff_derives_literal :
    read "Literal['a', -2 ]" =
        .ok (.named "Literal" [.constant (.str "a"), .constant (.int (-2))]) ∧
      ∀ expr, ¬Derives "Dict[str,]".toList expr := by
  constructor
  · have hblank : IsGap [' '] := by
      intro c hc
      rw [List.mem_singleton.1 hc]
      decide
    have htext : IsExpr ([] ++ '\'' :: (['a'] ++ ['\''])) (.constant (.str "a")) :=
      .text isGap_nil (.inl rfl) (.plain (by decide) (by decide) .nil)
    have habsorb : Json.absorb 0 ['2'] = (2, 1) := by decide
    have hvalue : Json.valueOf true ['2'] none none = some (.int (-2)) := by
      rw [Json.valueOf, habsorb]
      rfl
    have hnumber : IsNumber ['-', '2'] (.int (-2)) :=
      ⟨⟨'-', ['2'], rfl, .inr rfl⟩, by simp, ⟨true, ['2'], none, none⟩,
        ⟨by simp [Json.IsDigits], by simp, by simp, by simp⟩, rfl, hvalue⟩
    have harguments :
        AreArguments "'a', -2 ]".toList [.constant (.str "a"), .constant (.int (-2))] :=
      .more htext isGap_nil (.last (.number hblank hnumber) hblank)
    exact (read_eq_ok_iff_derives.1 _ _).2 ⟨_, [], (List.append_nil _).symm,
      .applied isGap_nil (show IsHead "Literal".toList by decide) isGap_nil harguments, isGap_nil⟩
  · intro expr
    have hstr : Preceding ("str".toList ++ ([] ++ [','])) :=
      .cons (.name isGap_nil (show IsHead "str".toList by decide)) isGap_nil .nil
    have hawaits : Awaits ([] ++ ([] ++ ("Dict".toList ++ ([] ++ '[' :: "str,".toList)))) :=
      .inside .start isGap_nil (by decide) isGap_nil hstr
    exact read_eq_ok_iff_derives.2.2.1 _ [] [']'] expr hawaits isGap_nil (by simp)

end SchemaPress.TypeExpr
