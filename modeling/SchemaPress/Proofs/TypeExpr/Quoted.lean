import Mathlib.Data.List.Forall2
import SchemaPress.Proofs.Python.Literal
import SchemaPress.Proofs.TypeExpr.Grammar
import SchemaPress.TypeTree.Hint

set_option autoImplicit false

/-! # Quoted texts are read back

The writer of string literals has escapes for the backslash, for the quote in use and for control
characters; the reader of type expressions knows one rule, that a backslash takes the next
character as it is. The two agree on backslashes and quotes. The escape of a control character is
read too, but it stands for the letters behind its backslash. So a quoted text is always read
whole (`isExpr_quoted`), and it is read as itself exactly if it has no control characters
(`readBack_eq_self_iff`). -/

namespace SchemaPress.TypeExpr

/-! ## What is read -/

/-- Whether a character is written as it is, or behind a backslash. -/
def isPrintable (c : Char) : Bool :=
  32 ≤ c.toNat && c.toNat ≠ 127

/-- What the reader makes of one written character. -/
def spelled (c : Char) : List Char :=
  if c = '\n' then ['n']
  else if c = '\r' then ['r']
  else if c = '\t' then ['t']
  else if isPrintable c then [c]
  else ['x', Text.hexDigit (c.toNat / 16), Text.hexDigit (c.toNat % 16)]

/-- What is read from the literal of a text. -/
def readBack (text : String) : String :=
  String.ofList (text.toList.flatMap spelled)

/-- Texts without control characters. -/
def Printable (text : String) : Prop :=
  ∀ c ∈ text.toList, isPrintable c = true

theorem spelled_of_isPrintable {c : Char} (h : isPrintable c = true) : spelled c = [c] := by
  have hcontrol : ∀ other : Char, isPrintable other = false → c ≠ other := by
    rintro other hother rfl
    rw [h] at hother
    cases hother
  rw [spelled, if_neg (hcontrol '\n' (by decide)), if_neg (hcontrol '\r' (by decide)),
    if_neg (hcontrol '\t' (by decide)), if_pos h]

theorem isPrintable_hexDigit (n : Nat) (h : n < 16) : isPrintable (Text.hexDigit n) = true := by
  revert n
  decide

/-- Whatever was written, control characters are not read. -/
theorem isPrintable_of_mem_spelled {c d : Char} (h : d ∈ spelled c) : isPrintable d = true := by
  unfold spelled at h
  split_ifs at h with hnewline hreturn htab hprintable
  · rw [List.mem_singleton.1 h]
    decide
  · rw [List.mem_singleton.1 h]
    decide
  · rw [List.mem_singleton.1 h]
    decide
  · rw [List.mem_singleton.1 h]
    exact hprintable
  · have hcode : c.toNat < 32 ∨ c.toNat = 127 := by
      simp only [isPrintable, Bool.and_eq_true, decide_eq_true_eq] at hprintable
      omega
    simp only [List.mem_cons, List.not_mem_nil, or_false] at h
    rcases h with rfl | rfl | rfl
    · decide
    · exact isPrintable_hexDigit _ (by omega)
    · exact isPrintable_hexDigit _ (by omega)

theorem printable_readBack (text : String) : Printable (readBack text) := by
  intro d hd
  rw [readBack, String.toList_ofList] at hd
  obtain ⟨c, -, hc⟩ := List.mem_flatMap.1 hd
  exact isPrintable_of_mem_spelled hc

/-- A text is read as itself exactly if it has no control characters. -/
theorem readBack_eq_self_iff (text : String) : readBack text = text ↔ Printable text := by
  constructor
  · intro h
    exact h ▸ printable_readBack text
  · intro h
    have hspelled : ∀ cs : List Char, (∀ c ∈ cs, isPrintable c = true) →
        cs.flatMap spelled = cs := by
      intro cs hcs
      induction cs with
      | nil => rfl
      | cons c cs ih =>
        rw [List.flatMap_cons, spelled_of_isPrintable (hcs c List.mem_cons_self),
          ih fun d hd => hcs d (List.mem_cons_of_mem _ hd)]
        rfl
    rw [readBack, hspelled _ h, String.ofList_toList]

/-! ## The writer against the grammar -/

theorem hexDigit_ne (n : Nat) (h : n < 16) :
    Text.hexDigit n ≠ '\\' ∧ Text.hexDigit n ≠ '\'' ∧ Text.hexDigit n ≠ '"' := by
  revert n
  decide

/-- One written character is a piece of the characters between quotes. -/
theorem isBody_escapeChar {quote : Char} (hquote : Python.IsQuote quote) (c : Char)
    {cs text : List Char} (h : IsBody quote cs text) :
    IsBody quote (Python.escapeChar quote c ++ cs) (spelled c ++ text) := by
  have hhex : ∀ n, n < 16 → ∀ {cs text : List Char}, IsBody quote cs text →
      IsBody quote (Text.hexDigit n :: cs) (Text.hexDigit n :: text) := by
    intro n hn cs text hbody
    obtain ⟨hbackslash, hsingle, hdouble⟩ := hexDigit_ne n hn
    refine .plain hbackslash ?_ hbody
    rcases hquote with rfl | rfl
    · exact hsingle
    · exact hdouble
  unfold Python.escapeChar
  split_ifs with hbackslash hnewline hreturn htab hc hcode
  · subst hbackslash
    exact .escaped '\\' h
  · subst hnewline
    exact .escaped 'n' h
  · subst hreturn
    exact .escaped 'r' h
  · subst htab
    exact .escaped 't' h
  · have hprintable : isPrintable c = true := by
      subst hc
      rcases hquote with rfl | rfl <;> decide
    rw [spelled_of_isPrintable hprintable]
    exact .escaped c h
  · have hprintable : ¬ isPrintable c = true := by
      simp only [isPrintable, Bool.and_eq_true, decide_eq_true_eq]
      omega
    rw [spelled, if_neg hnewline, if_neg hreturn, if_neg htab, if_neg hprintable]
    exact .escaped 'x' (hhex _ (by omega) (hhex _ (by omega) h))
  · have hprintable : isPrintable c = true := by
      simp only [isPrintable, Bool.and_eq_true, decide_eq_true_eq]
      omega
    rw [spelled_of_isPrintable hprintable]
    exact .plain hbackslash hc h

theorem isBody_escaped {quote : Char} (hquote : Python.IsQuote quote) (cs : List Char) :
    IsBody quote (cs.flatMap (Python.escapeChar quote)) (cs.flatMap spelled) := by
  induction cs with
  | nil => exact .nil
  | cons c cs ih =>
    rw [List.flatMap_cons, List.flatMap_cons]
    exact isBody_escapeChar hquote c ih

/-- A quoted text is what its quotes enclose. -/
theorem exists_body (text : String) :
    ∃ quote body, Python.IsQuote quote ∧
      (Python.quoted text).toList = quote :: (body ++ [quote]) ∧
      IsBody quote body (readBack text).toList := by
  have hquote := Python.isQuote_quoteFor text.toList
  have hchars := Python.toList_quoted text []
  rw [List.append_nil] at hchars
  refine ⟨_, _, hquote, hchars, ?_⟩
  rw [readBack, String.toList_ofList]
  exact isBody_escaped hquote text.toList

/-- A quoted text is an expression, whatever its characters are. -/
theorem isExpr_quoted (text : String) :
    IsExpr (Python.quoted text).toList (.constant (.str (readBack text))) := by
  obtain ⟨quote, body, hquote, hchars, hbody⟩ := exists_body text
  have hexpr := IsExpr.text isGap_nil hquote hbody
  rw [String.ofList_toList] at hexpr
  rwa [hchars]

/-! ## Brackets -/

/-- Blanks may stand before an expression. -/
theorem IsExpr.indented {cs : List Char} {expr : TypeExpr} (h : IsExpr cs expr) {gap : List Char}
    (hgap : IsGap gap) : IsExpr (gap ++ cs) expr := by
  cases h with
  | text hbefore hquote hbody =>
    rw [← List.append_assoc]
    exact .text (hgap.append hbefore) hquote hbody
  | number hbefore hnumber =>
    rw [← List.append_assoc]
    exact .number (hgap.append hbefore) hnumber
  | name hbefore hhead =>
    rw [← List.append_assoc]
    exact .name (hgap.append hbefore) hhead
  | applied hbefore hhead hspace harguments =>
    rw [← List.append_assoc]
    exact .applied (hgap.append hbefore) hhead hspace harguments

/-- A name without arguments is an expression. -/
theorem isExpr_name {name : String} (h : IsHead name.toList) :
    IsExpr name.toList (.named name []) := by
  have hexpr := IsExpr.name isGap_nil h
  rwa [String.ofList_toList] at hexpr

/-- Expressions with commas between them are arguments. -/
theorem areArguments_intercalate {texts : List String} {exprs : List TypeExpr}
    (h : List.Forall₂ (fun text expr => IsExpr text.toList expr) texts exprs) (hne : exprs ≠ [])
    {gap : List Char} (hgap : IsGap gap) :
    AreArguments (gap ++ (", ".intercalate texts ++ "]").toList) exprs := by
  induction h generalizing gap with
  | nil => exact absurd rfl hne
  | @cons text expr texts exprs hfirst hrest ih =>
    cases hrest with
    | nil =>
      have harguments := AreArguments.last (hfirst.indented hgap) isGap_nil
      simpa using harguments
    | cons hsecond hothers =>
      -- the space behind the comma belongs to the next argument
      have hspace : IsGap [' '] := by
        intro c hc
        rw [List.mem_singleton.1 hc]
        decide
      have harguments := AreArguments.more (hfirst.indented hgap) isGap_nil
        (ih (List.cons_ne_nil _ _) hspace)
      simpa [String.intercalate_cons_cons] using harguments

/-- A name with expressions in brackets is an expression. -/
theorem isExpr_brackets {head : String} (hhead : IsHead head.toList) {texts : List String}
    {exprs : List TypeExpr}
    (h : List.Forall₂ (fun text expr => IsExpr text.toList expr) texts exprs) (hne : exprs ≠ []) :
    IsExpr (head ++ "[" ++ ", ".intercalate texts ++ "]").toList (.named head exprs) := by
  have hexpr := IsExpr.applied isGap_nil hhead isGap_nil
    (areArguments_intercalate h hne isGap_nil)
  rw [String.ofList_toList] at hexpr
  simpa [String.append_assoc] using hexpr

/-! ## Literals -/

/-- Arguments that stand for values are the values of a literal. -/
theorem literalValues_map {values : List Value} {written : Value → TypeExpr}
    (h : ∀ value ∈ values, literalValue? (written value) = some value) :
    literalValues (values.map written) = .ok values := by
  induction values with
  | nil => rfl
  | cons value rest ih =>
    rw [List.map_cons, literalValues, h value List.mem_cons_self]
    simp only [ih fun other hother => h other (List.mem_cons_of_mem _ hother), bind, Except.bind,
      pure, Except.pure]

/-- A literal stands for its values, whatever names a document declares. -/
theorem toType_literal (names : Names) {values : List Value} (hne : values ≠ [])
    {written : Value → TypeExpr}
    (h : ∀ value ∈ values, literalValue? (written value) = some value) :
    toType names (.named "Literal" (values.map written)) = .ok (.literal {} values) := by
  rw [toType]
  unfold apply
  rw [if_pos (by simpa using hne), literalValues_map h]
  rfl

/-- The hint of a literal of texts is read as the literal of what is read from each of them. -/
theorem readType_literal (names : Names) (scope : Scope) (text : String) (others : List String) :
    readType names ((TypeTree.literal {} ((text :: others).map .str)).hint scope) =
      .ok (.literal {} ((text :: others).map fun other => .str (readBack other))) := by
  let values := (text :: others).map fun other => Value.str (readBack other)
  have htexts : List.Forall₂ (fun text expr => IsExpr text.toList expr)
      (((text :: others).map Value.str).map Python.literal) (values.map .constant) := by
    rw [List.map_map, List.map_map, List.forall₂_map_left_iff, List.forall₂_map_right_iff,
      List.forall₂_same]
    exact fun other _ => isExpr_quoted other
  have hhead : IsHead "Literal".toList := (isHead_eq_true_iff _).1 (by decide +kernel)
  have hexpr : IsExpr ((TypeTree.literal {} ((text :: others).map .str)).hint scope).toList
      (.named "Literal" (values.map .constant)) :=
    isExpr_brackets hhead htexts (List.cons_ne_nil _ _)
  have hread := read_eq_ok_iff_readWhole.2 hexpr.readWhole
  have htype : toType names (.named "Literal" (values.map .constant)) = .ok (.literal {} values) :=
    toType_literal names (List.cons_ne_nil _ _) fun _ _ => rfl
  rw [readType, hread]
  simp only [bind, Except.bind, htype]
  rfl

/-- The literal of a text is read whole by the rule for texts, and so is the hint of a literal of
    texts. Both give the texts back exactly if none of them has a control character; the escape of
    a control character is read as the letters behind its backslash. -/
theorem quoted_read_back_iff (names : Names) (scope : Scope) (text : String)
    (others : List String) :
    (∃ quote body, (Python.quoted text).toList = quote :: body ∧
        readText quote body = .ok ((readBack text).toList, [])) ∧
      (readBack text = text ↔ Printable text) ∧
      readType names ((TypeTree.literal {} ((text :: others).map .str)).hint scope) =
        .ok (.literal {} ((text :: others).map fun other => .str (readBack other))) ∧
      (readType names ((TypeTree.literal {} ((text :: others).map .str)).hint scope) =
          .ok (.literal {} ((text :: others).map .str)) ↔
        ∀ other ∈ text :: others, Printable other) := by
  have hread := readType_literal names scope text others
  refine ⟨?_, readBack_eq_self_iff text, hread, ?_⟩
  · obtain ⟨quote, body, hquote, hchars, hbody⟩ := exists_body text
    exact ⟨quote, _, hchars, (readText_eq_ok_iff hquote.ne_backslash).2 ⟨body, rfl, hbody⟩⟩
  · rw [hread]
    constructor
    · intro h other hother
      have hvalues := (TypeTree.literal.inj (Except.ok.inj h)).2
      have hvalue := List.map_inj_left.1 hvalues other hother
      exact (readBack_eq_self_iff other).1 (Value.str.inj hvalue)
    · intro h
      have hsame : (text :: others).map (fun other => Value.str (readBack other)) =
          (text :: others).map .str :=
        List.map_congr_left fun other hother =>
          congrArg Value.str ((readBack_eq_self_iff other).2 (h other hother))
      rw [hsame]

example : readBack "it's\n1\\2" = "it'sn1\\2" ∧ readBack "\x01" = "x01" := by
  decide +kernel

end SchemaPress.TypeExpr
