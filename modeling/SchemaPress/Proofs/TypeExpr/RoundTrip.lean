import SchemaPress.Proofs.Json.Number
import SchemaPress.Proofs.TypeExpr.Quoted
import SchemaPress.Proofs.TypeTree.Optional

set_option autoImplicit false

/-! # Type hints are read back

The hint of a tree in canonical form is derived as a type expression (`WritesExpr.isExpr_hint`), and
that expression stands for the tree (`Canonical.toType_hintExpr`). So the tree is what is read from
its hint. Alternatives are written once for each text; different trees have different texts,
because a text is derived in one way only, so no alternative is lost. -/

namespace SchemaPress.TypeTree

/-! ## Canonical trees -/

/-- A name that stands for a built-in type: one word without dots that starts like no value and
    has no other meaning. -/
structure IsTypeName (name : String) : Prop where
  starts : ∃ first rest, name.toList = first :: rest ∧ first ∉ ['\'', '"', '-'] ∧
    first.isDigit = false
  word : ∀ c ∈ name.toList, Text.isBlank c = false ∧ c ∉ ['[', ']', ',', '.']
  builtin : name ∉ ["Any", "Dict", "dict", "Mapping"]

/-- A value that a literal can hold and that is read back: null, a truth value, an integer that
    fits 64 bits, or a text without control characters. -/
def IsPlainValue : Value → Prop
  | .null | .bool _ => True
  | .int n => -9223372036854775808 ≤ n ∧ n ≤ 18446744073709551615
  | .str s => ∀ c ∈ s.toList, ¬(c.toNat < 32 ∨ c.toNat = 127)
  | _ => False

/-- Trees in canonical form. A mark of optionality stands neither on `Any` nor on `None` nor on an
    alternative, and alternatives are several different types other than `None`. -/
inductive Canonical : TypeTree → Prop
  | named {optional : Bool} {name : String} :
      IsTypeName name → (name = "None" → optional = false) →
      Canonical (.named { optional } { name })
  | any : Canonical .any
  | literal {optional : Bool} {values : List Value} :
      values ≠ [] → (∀ value ∈ values, IsPlainValue value) →
      Canonical (.literal { optional } values)
  | list {optional : Bool} {item : TypeTree} :
      Canonical item → Canonical (.list { optional } item)
  | set {optional : Bool} {item : TypeTree} :
      Canonical item → Canonical (.set { optional } item)
  | keyedDict {optional : Bool} {key value : TypeTree} :
      Canonical key → Canonical value → Canonical (.keyedDict { optional } key value)
  | union {optional : Bool} {members : List TypeTree} :
      2 ≤ members.length → members.Nodup → (∀ member ∈ members, Canonical member) →
      (∀ member ∈ members, member.marks.optional = false ∧ member ≠ .noneType) →
      Canonical (.union { optional } members)

/-! ## The expression of a tree -/

/-- The expression of a value inside `Literal[...]`. -/
def literalExpr : Value → TypeExpr
  | .null => .named "None" []
  | .bool b => .named (Python.truth b) []
  | value => .constant value

/-- The expression that also admits `None`. -/
def optionalExpr (optional : Bool) (expr : TypeExpr) : TypeExpr :=
  if optional then .named "Optional" [expr] else expr

mutual

/-- The expression of a tree without its optionality. -/
def bareExpr (spelling : Spelling) : TypeTree → TypeExpr
  | empty _ | model _ _ => .named "" []
  | named _ type => .named type.name []
  | literal _ values => .named "Literal" (values.map literalExpr)
  | list _ item => .named (ContainerShape.list.name spelling)
    [optionalExpr item.marks.optional (item.bareExpr spelling)]
  | set _ item => .named (ContainerShape.set.name spelling)
    [optionalExpr item.marks.optional (item.bareExpr spelling)]
  | dict _ value => .named (ContainerShape.dict.name spelling)
    [optionalExpr value.marks.optional (value.bareExpr spelling)]
  | keyedDict _ key value => .named (ContainerShape.dict.name spelling)
    [optionalExpr key.marks.optional (key.bareExpr spelling),
      optionalExpr value.marks.optional (value.bareExpr spelling)]
  | union _ members => .named "Union" (bareExprAll spelling members)

/-- The expressions of several trees without their optionality. -/
def bareExprAll (spelling : Spelling) : List TypeTree → List TypeExpr
  | [] => []
  | tree :: rest => tree.bareExpr spelling :: bareExprAll spelling rest

end

/-- The expression of a tree. -/
def hintExpr (spelling : Spelling) (tree : TypeTree) : TypeExpr :=
  optionalExpr tree.marks.optional (tree.bareExpr spelling)

theorem bareExprAll_eq_map (spelling : Spelling) (members : List TypeTree) :
    bareExprAll spelling members = members.map (·.bareExpr spelling) := by
  induction members with
  | nil => rfl
  | cons member rest ih => rw [bareExprAll, ih, List.map_cons]

/-! ## Names of types -/

open TypeExpr (IsHead IsExpr)

theorem IsTypeName.isHead {name : String} (h : IsTypeName name) : IsHead name.toList := by
  obtain ⟨first, rest, hname, hfirst, hdigit⟩ := h.starts
  refine ⟨first, rest, hname, hfirst, hdigit, fun c hc => ?_⟩
  obtain ⟨hblank, hmark⟩ := h.word c hc
  simp only [List.mem_cons, List.not_mem_nil, or_false, not_or] at hmark
  simp [TypeExpr.isNameChar, hblank, hmark]

/-- A type name is what can be read as a name, apart from dots and the names with a meaning. -/
theorem isTypeName_iff (name : String) : IsTypeName name ↔ IsHead name.toList ∧
    '.' ∉ name.toList ∧ name ∉ ["Any", "Dict", "dict", "Mapping"] := by
  constructor
  · exact fun h => ⟨h.isHead, fun hdot => (h.word '.' hdot).2 (by simp), h.builtin⟩
  · rintro ⟨⟨first, rest, hname, hfirst, hdigit, hall⟩, hdot, hbuiltin⟩
    refine ⟨⟨first, rest, hname, hfirst, hdigit⟩, fun c hc => ?_, hbuiltin⟩
    have hchar := hall c hc
    have hne : c ≠ '.' := fun h => hdot (h ▸ hc)
    simp only [TypeExpr.isNameChar, Bool.and_eq_true, Bool.not_eq_true', bne_iff_ne] at hchar
    simp [hchar, hne]

instance (name : String) : Decidable (IsTypeName name) :=
  decidable_of_iff' _ (isTypeName_iff name)

theorem isHead_name (spelling : Spelling) (shape : ContainerShape) :
    IsHead (shape.name spelling).toList := by
  unfold ContainerShape.name
  cases shape <;> cases spelling.genericContainers <;> cases spelling.standardCollections <;>
    exact (by decide)

/-! ## The expression stands for the tree -/

/-- The names of a document that declares nothing. -/
def noNames : TypeExpr.Names :=
  ⟨[], {}⟩

theorem literalValue?_literalExpr {value : Value} (h : IsPlainValue value) :
    TypeExpr.literalValue? (literalExpr value) = some value := by
  cases value with
  | bool b => cases b <;> rfl
  | null | int | str => rfl
  | float | arr | obj => exact h.elim

open TypeExpr (toType toTypes)

/-- A canonical tree has no other mark than that of optionality. -/
theorem Canonical.marks_eq {tree : TypeTree} (h : Canonical tree) :
    tree.marks = { optional := tree.marks.optional } := by
  cases h <;> rfl

theorem withMarks_marks (tree : TypeTree) : tree.withMarks tree.marks = tree := by
  cases tree <;> rfl

theorem withMarks_withMarks (tree : TypeTree) (m m' : Marks) :
    (tree.withMarks m).withMarks m' = tree.withMarks m' := by
  cases tree <;> rfl

theorem marks_withMarks (tree : TypeTree) (m : Marks) : (tree.withMarks m).marks = m := by
  cases tree <;> rfl

/-- A canonical tree that is not optional has no marks at all. -/
theorem Canonical.withMarks_eq_self {tree : TypeTree} (h : Canonical tree)
    (hoptional : tree.marks.optional = false) : tree.withMarks {} = tree := by
  have hmarks := h.marks_eq
  rw [hoptional] at hmarks
  rw [← hmarks, withMarks_marks]

/-- `Optional` puts the mark back on. -/
theorem Canonical.toType_optionalExpr {tree : TypeTree} (h : Canonical tree) {expr : TypeExpr}
    (hexpr : toType noNames expr = .ok (tree.withMarks {})) :
    toType noNames (optionalExpr tree.marks.optional expr) = .ok tree := by
  have hmarks := h.marks_eq
  unfold optionalExpr
  split
  · rename_i hoptional
    rw [hoptional] at hmarks
    have happly : toType noNames (.named "Optional" [expr]) =
        .ok (tree.withMarks {}).optional := by
      simp only [toType, toTypes, hexpr]
      rfl
    rw [happly, TypeTree.optional, marks_withMarks, withMarks_withMarks, ← hmarks,
      withMarks_marks]
  · rename_i hoptional
    rw [hexpr, h.withMarks_eq_self (Bool.eq_false_iff.2 hoptional)]

theorem resolve_typeName {name : String} (h : IsTypeName name) :
    noNames.resolve name = .builtin name := by
  have hdot : name.toList.contains '.' = false := by
    rw [Bool.eq_false_iff]
    intro hcontains
    exact (h.word '.' (List.contains_iff_mem.1 hcontains)).2 (by simp)
  have hany : name ≠ "Any" := fun hname => h.builtin (by simp [hname])
  have hnone : name = "None" → TypeTree.noneType = .builtin name := fun hname => by
    rw [hname]
    rfl
  unfold TypeExpr.Names.resolve
  simp only [noNames, Entries.get?, List.lookup_nil, TypeRegistry.type?, TypeRegistry.path?,
    Option.map_none, if_neg hany, hdot]
  split
  · rename_i hname
    exact hnone hname
  · rfl

theorem toType_typeName {name : String} (h : IsTypeName name) :
    toType noNames (.named name []) = .ok (.builtin name) := by
  have hdict : ¬(name = "Dict" ∨ name = "dict" ∨ name = "Mapping") := by
    rintro (hname | hname | hname) <;> exact h.builtin (by simp [hname])
  rw [toType, toTypes]
  unfold TypeExpr.apply
  rw [if_neg (by simp), if_neg (by simp), if_neg hdict]
  exact congrArg Except.ok (resolve_typeName h)

theorem toType_union {arguments : List TypeExpr} (h : arguments ≠ []) {members : List TypeTree}
    (hmembers : (toTypes noNames arguments).mapM id = .ok members) :
    toType noNames (.named "Union" arguments) = .ok (.union {} members) := by
  rw [toType]
  unfold TypeExpr.apply
  rw [if_neg (by simp), if_pos (by simpa using h), hmembers]
  rfl

theorem mapM_toTypes {spelling : Spelling} {members : List TypeTree}
    (h : ∀ member ∈ members, toType noNames (member.bareExpr spelling) = .ok member) :
    (toTypes noNames (bareExprAll spelling members)).mapM id = .ok members := by
  induction members with
  | nil => rfl
  | cons member rest ih =>
    rw [bareExprAll, toTypes, List.mapM_cons, h member List.mem_cons_self,
      ih fun other hother => h other (List.mem_cons_of_mem _ hother)]
    rfl

/-- However a list is spelled, its name stands for lists; so do those of sets and maps. -/
theorem toType_list (spelling : Spelling) {expr : TypeExpr} {item : TypeTree}
    (h : toType noNames expr = .ok item) :
    toType noNames (.named (ContainerShape.list.name spelling) [expr]) = .ok (.list {} item) := by
  rw [toType, toTypes, toTypes, h, ContainerShape.name]
  cases spelling.genericContainers <;> cases spelling.standardCollections <;> rfl

theorem toType_set (spelling : Spelling) {expr : TypeExpr} {item : TypeTree}
    (h : toType noNames expr = .ok item) :
    toType noNames (.named (ContainerShape.set.name spelling) [expr]) = .ok (.set {} item) := by
  rw [toType, toTypes, toTypes, h, ContainerShape.name]
  cases spelling.genericContainers <;> cases spelling.standardCollections <;> rfl

theorem toType_keyedDict (spelling : Spelling) {keyExpr valueExpr : TypeExpr}
    {key value : TypeTree} (hkey : toType noNames keyExpr = .ok key)
    (hvalue : toType noNames valueExpr = .ok value) :
    toType noNames (.named (ContainerShape.dict.name spelling) [keyExpr, valueExpr]) =
      .ok (.keyedDict {} key value) := by
  rw [toType, toTypes, toTypes, toTypes, hkey, hvalue, ContainerShape.name]
  cases spelling.genericContainers <;> cases spelling.standardCollections <;> rfl

/-- The type of a canonical tree without its optionality is the tree without its mark. -/
theorem Canonical.toType_bareExpr {tree : TypeTree} (h : Canonical tree) (spelling : Spelling) :
    toType noNames (tree.bareExpr spelling) = .ok (tree.withMarks {}) := by
  induction h with
  | named hname _ => exact toType_typeName hname
  | any => rfl
  | literal hne hvalues =>
    exact TypeExpr.toType_literal noNames hne fun value hvalue =>
      literalValue?_literalExpr (hvalues value hvalue)
  | list hitem ih => exact toType_list spelling (hitem.toType_optionalExpr ih)
  | set hitem ih => exact toType_set spelling (hitem.toType_optionalExpr ih)
  | keyedDict hkey hvalue ihkey ihvalue =>
    exact toType_keyedDict spelling (hkey.toType_optionalExpr ihkey)
      (hvalue.toType_optionalExpr ihvalue)
  | @union optional members hlength _ hmembers hplain ih =>
    have hall : ∀ member ∈ members, toType noNames (member.bareExpr spelling) = .ok member := by
      intro member hmember
      rw [ih member hmember,
        (hmembers member hmember).withMarks_eq_self (hplain member hmember).1]
    have hne : bareExprAll spelling members ≠ [] := by
      rw [bareExprAll_eq_map]
      intro hnil
      rw [List.map_eq_nil_iff.1 hnil] at hlength
      exact absurd hlength (by decide)
    exact toType_union hne (mapM_toTypes hall)

/-- A canonical tree is what its expression stands for. -/
theorem Canonical.toType_hintExpr {tree : TypeTree} (h : Canonical tree) (spelling : Spelling) :
    toType noNames (tree.hintExpr spelling) = .ok tree :=
  h.toType_optionalExpr (h.toType_bareExpr spelling)

/-! ## The hint is derived as the expression -/

/-- The decimal form of an integer starts with a digit or a sign and has only such characters. -/
theorem toString_int (n : Int) :
    ∃ first rest, (toString n).toList = first :: rest ∧ (first.isDigit = true ∨ first = '-') ∧
      ∀ c ∈ (toString n).toList, TypeExpr.isNumberChar c = true := by
  have hdigits : ∀ m : Nat, ∀ c ∈ Nat.toDigits 10 m, c.isDigit = true := fun m c hc =>
    Nat.isDigit_of_mem_toDigits (by decide) (by decide) hc
  have hnumber : ∀ m : Nat, ∀ c ∈ Nat.toDigits 10 m, TypeExpr.isNumberChar c = true := by
    intro m c hc
    simp [TypeExpr.isNumberChar, hdigits m c hc]
  rw [Int.toString_eq_repr, Int.repr_eq_if]
  split
  · rw [Nat.toList_repr]
    cases hcases : Nat.toDigits 10 n.toNat with
    | nil => exact absurd hcases Nat.toDigits_ne_nil
    | cons first rest =>
      exact ⟨first, rest, rfl, Or.inl (hdigits n.toNat first (by simp [hcases])),
        hcases ▸ hnumber n.toNat⟩
  · rw [String.toList_append, Nat.toList_repr]
    refine ⟨'-', Nat.toDigits 10 (-n).toNat, rfl, Or.inr rfl, fun c hc => ?_⟩
    rcases List.mem_cons.1 hc with rfl | hc
    · decide
    · exact hnumber _ c hc

/-- An integer of 64 bits is a number. -/
theorem isExpr_integer {n : Int} (hmin : -9223372036854775808 ≤ n)
    (hmax : n ≤ 18446744073709551615) :
    IsExpr (toString n).toList (.constant (.int n)) := by
  obtain ⟨first, rest, hdigits, hfirst, hall⟩ := toString_int n
  exact .number TypeExpr.isGap_nil
    ⟨⟨first, rest, hdigits, hfirst⟩, fun c hc => TypeExpr.isNumberChar_iff.1 (hall c hc),
      Json.number?_eq_some_iff.1 (Json.number?_toString hmin hmax)⟩

/-- The literal of a plain value is derived as its expression. -/
theorem isExpr_literal {value : Value} (h : IsPlainValue value) :
    IsExpr (Python.literal value).toList (literalExpr value) := by
  cases value with
  | null => exact TypeExpr.isExpr_name (show IsHead "None".toList by decide)
  | bool b => cases b <;> exact TypeExpr.isExpr_name (by decide)
  | int n => exact isExpr_integer h.1 h.2
  | str s =>
    have hprintable : TypeExpr.Printable s := by
      intro c hc
      have hcode := h c hc
      simp only [TypeExpr.isPrintable, Bool.and_eq_true, decide_eq_true_eq]
      omega
    have hexpr := TypeExpr.isExpr_quoted s
    rwa [(TypeExpr.readBack_eq_self_iff s).2 hprintable] at hexpr
  | float | arr | obj => exact h.elim

/-- What is derived as an expression is not empty. -/
theorem isEmpty_eq_false {hint : String} {expr : TypeExpr} (h : IsExpr hint.toList expr) :
    hint.isEmpty = false := by
  rw [Bool.eq_false_iff]
  intro hempty
  -- reading the empty text fails
  have hread := h.readWhole
  rw [String.isEmpty_iff.1 hempty] at hread
  exact nomatch (show Except.error _ = Except.ok expr from hread)

theorem isExpr_apply (spelling : Spelling) (shape : ContainerShape) {hint : String}
    {expr : TypeExpr} (h : IsExpr hint.toList expr) :
    IsExpr (shape.apply spelling hint).toList (.named (shape.name spelling) [expr]) := by
  have hexpr := TypeExpr.isExpr_brackets (isHead_name spelling shape) (.cons h .nil) (by simp)
  rw [String.intercalate_singleton] at hexpr
  rwa [ContainerShape.apply, if_neg (by simp [isEmpty_eq_false h])]

theorem isExpr_applyKeyed (spelling : Spelling) {key value : String}
    {keyExpr valueExpr : TypeExpr} (hkey : IsExpr key.toList keyExpr)
    (hvalue : IsExpr value.toList valueExpr) :
    IsExpr (ContainerShape.applyKeyed spelling key value).toList
      (.named (ContainerShape.dict.name spelling) [keyExpr, valueExpr]) := by
  have hexpr := TypeExpr.isExpr_brackets (isHead_name spelling .dict)
    (.cons hkey (.cons hvalue .nil)) (by simp)
  rw [String.intercalate_cons_cons, String.intercalate_singleton] at hexpr
  rw [ContainerShape.applyKeyed, if_neg (by simp [isEmpty_eq_false hvalue])]
  simpa [String.append_assoc] using hexpr

/-- Alternatives that are different and not `None` are all kept. -/
theorem alternatives_eq {bares : List BareHint} (hnodup : (bares.map (·.text)).Nodup)
    (hnone : "None" ∉ bares.map (·.text)) :
    BareHint.alternatives bares = bares.map (·.text) := by
  -- whatever was kept before, as long as it does not hold the rest already
  have hkept : ∀ (bares : List BareHint) (seen : List String),
      (seen ++ bares.map (·.text)).Nodup → "None" ∉ bares.map (·.text) →
      bares.foldl BareHint.addAlternative seen = seen ++ bares.map (·.text) := by
    intro bares
    induction bares with
    | nil => simp
    | cons bare rest ih =>
      intro seen hnodup hnone
      rw [List.map_cons, List.mem_cons, not_or] at hnone
      have hnew : bare.text ∉ seen := by
        rw [List.map_cons, List.nodup_append] at hnodup
        exact fun hseen => hnodup.2.2 _ hseen _ List.mem_cons_self rfl
      have hadd : BareHint.addAlternative seen bare = seen ++ [bare.text] := by
        simp [BareHint.addAlternative, hnew, Ne.symm hnone.1]
      rw [List.foldl_cons, hadd, ih _ (by simpa using hnodup) hnone.2, List.append_assoc]
      rfl
  exact hkept bares [] (by simpa using hnodup) hnone

/-- Only the type `None` itself is written so. -/
theorem Canonical.writesNone {tree : TypeTree} (h : Canonical tree) (hne : tree ≠ .noneType)
    (scope : Scope) : tree.writesNone scope = false := by
  cases h with
  | @named optional name hname hnone =>
    refine beq_false_of_ne fun hhint => hne ?_
    rw [show name = "None" from hhint, hnone hhint]
    rfl
  | _ => rfl

/-- The expression of a tree that is marked optional is not `Any`. -/
theorem Canonical.bareExpr_ne_any {tree : TypeTree} (h : Canonical tree)
    (hoptional : tree.marks.optional = true) (spelling : Spelling) :
    tree.bareExpr spelling ≠ .named "Any" [] := by
  cases h with
  | named hname _ =>
    intro hany
    injection hany with hany
    exact hname.builtin (List.mem_cons.2 (Or.inl hany))
  | any => exact absurd hoptional (by decide)
  | _ => simp [bareExpr]

/-- What a canonical tree is: its text is derived as its expression, and only its mark makes it
    optional. -/
structure WritesExpr (scope : Scope) (tree : TypeTree) : Prop where
  text : IsExpr (tree.bare scope).text.toList (tree.bareExpr scope.spelling)
  optional : tree.rendersOptional scope = tree.marks.optional

/-- With its optionality, the hint is derived as the expression with its optionality. -/
theorem WritesExpr.isExpr_hint {scope : Scope} {tree : TypeTree} (hwrites : WritesExpr scope tree)
    (h : Canonical tree) (hoperator : scope.spelling.unionOperator = false) :
    IsExpr (tree.hint scope).toList (tree.hintExpr scope.spelling) := by
  have hoptional : (tree.bare scope).optional = tree.marks.optional := hwrites.optional
  unfold hint BareHint.close hintExpr optionalExpr
  by_cases hmark : tree.marks.optional = true
  · -- the mark is written unless the text is empty, `Any` or `None`
    have hany : (tree.bare scope).text ≠ "Any" := by
      intro hany
      have htext := hwrites.text
      rw [hany] at htext
      exact h.bareExpr_ne_any hmark scope.spelling
        (htext.unique (TypeExpr.isExpr_name (show IsHead "Any".toList by decide)))
    have hnone : ((tree.bare scope).text == "None") = false := by
      rw [text_bare_eq_none]
      refine h.writesNone ?_ scope
      rintro rfl
      exact absurd hmark (by decide)
    have hexpr := TypeExpr.isExpr_brackets (show IsHead "Optional".toList by decide)
      (.cons hwrites.text .nil) (by simp)
    rw [String.intercalate_singleton] at hexpr
    rwa [if_pos (by simp [hoptional, hmark, hany]), if_pos hmark, optionalHint,
      isEmpty_eq_false hwrites.text, hnone, hoperator]
  · rw [if_neg (by simp [hoptional, hmark]), if_neg hmark]
    exact hwrites.text

/-- Members that are different trees have different texts, so all of them are written. -/
theorem alternatives_bareAll {scope : Scope} {members : List TypeTree} (hnodup : members.Nodup)
    (hmembers : ∀ member ∈ members, Canonical member)
    (hplain : ∀ member ∈ members, member.marks.optional = false ∧ member ≠ .noneType)
    (hwrites : ∀ member ∈ members, WritesExpr scope member) :
    BareHint.alternatives (bareAll scope members) = members.map fun m => (m.bare scope).text := by
  have htype : ∀ member ∈ members,
      toType noNames (member.bareExpr scope.spelling) = .ok member := by
    intro member hmember
    rw [(hmembers member hmember).toType_bareExpr,
      (hmembers member hmember).withMarks_eq_self (hplain member hmember).1]
  -- members with one text have one expression, and that is read as one tree
  have hdistinct : (members.map fun m => (m.bare scope).text).Nodup := by
    refine List.pairwise_map.2 (hnodup.imp_of_mem fun {a b} ha hb hne htext => hne ?_)
    have hderived := (hwrites a ha).text
    rw [htext] at hderived
    have hexpr := hderived.unique (hwrites b hb).text
    have hsame := htype a ha
    rw [hexpr, htype b hb] at hsame
    exact (Except.ok.inj hsame).symm
  have hnone : "None" ∉ members.map fun m => (m.bare scope).text := by
    intro hmem
    obtain ⟨member, hmember, htext⟩ := List.mem_map.1 hmem
    have hwritten := text_bare_eq_none scope member
    rw [(hmembers member hmember).writesNone (hplain member hmember).2 scope, htext] at hwritten
    exact absurd hwritten (by decide)
  have hmap : (bareAll scope members).map (·.text) = members.map fun m => (m.bare scope).text := by
    rw [bareAll_eq_map, List.map_map]
    rfl
  rw [← hmap] at hdistinct hnone ⊢
  exact alternatives_eq hdistinct hnone

theorem join_eq {spelling : Spelling} (hoperator : spelling.unionOperator = false)
    {texts : List String} (h : 2 ≤ texts.length) :
    BareHint.join spelling texts = "Union" ++ "[" ++ ", ".intercalate texts ++ "]" := by
  match texts with
  | [] => exact absurd h (by decide)
  | [single] => exact absurd h (by simp)
  | first :: second :: rest =>
    simp only [BareHint.join, hoperator]
    rfl

/-- A canonical tree is written as its expression. -/
theorem Canonical.writesExpr {scope : Scope} (hoperator : scope.spelling.unionOperator = false)
    {tree : TypeTree} (h : Canonical tree) : WritesExpr scope tree := by
  induction h with
  | named hname => exact ⟨TypeExpr.isExpr_name hname.isHead, rfl⟩
  | any => exact ⟨TypeExpr.isExpr_name (show IsHead "Any".toList by decide), rfl⟩
  | @literal optional values hne hvalues =>
    refine ⟨TypeExpr.isExpr_brackets (show IsHead "Literal".toList by decide) ?_
      (by simpa using hne), rfl⟩
    rw [List.forall₂_map_left_iff, List.forall₂_map_right_iff, List.forall₂_same]
    exact fun value hvalue => isExpr_literal (hvalues value hvalue)
  | list hitem ih => exact ⟨isExpr_apply _ .list (ih.isExpr_hint hitem hoperator), rfl⟩
  | set hitem ih => exact ⟨isExpr_apply _ .set (ih.isExpr_hint hitem hoperator), rfl⟩
  | keyedDict hkey hvalue ihkey ihvalue =>
    exact ⟨isExpr_applyKeyed _ (ihkey.isExpr_hint hkey hoperator)
      (ihvalue.isExpr_hint hvalue hoperator), rfl⟩
  | @union optional members hlength hnodup hmembers hplain ih =>
    refine ⟨?_, ?_⟩
    · have hne : members.map (·.bareExpr scope.spelling) ≠ [] := by
        intro hnil
        rw [List.map_eq_nil_iff.1 hnil] at hlength
        exact absurd hlength (by decide)
      rw [bareExpr, bareExprAll_eq_map, bare,
        alternatives_bareAll hnodup hmembers hplain ih, join_eq hoperator (by simpa using hlength)]
      refine TypeExpr.isExpr_brackets (by decide) ?_ hne
      rw [List.forall₂_map_left_iff, List.forall₂_map_right_iff, List.forall₂_same]
      exact fun member hmember => (ih member hmember).text
    · -- no member adds to the mark of the whole
      rw [rendersOptional_union]
      have hmember : ∀ member ∈ members,
          ¬(member.writesNone scope || member.rendersOptional scope) = true := by
        intro member hmember
        rw [(hmembers member hmember).writesNone (hplain member hmember).2 scope,
          (ih member hmember).optional, (hplain member hmember).1]
        decide
      rw [List.any_eq_false.2 hmember, Bool.or_false]
      rfl

/-! ## The round trip -/

/-- The hint of a canonical tree, in any spelling that writes alternatives with `Union`, is read
    as the tree itself. -/
theorem readType_hint {scope : Scope} (hoperator : scope.spelling.unionOperator = false)
    {tree : TypeTree} (h : Canonical tree) :
    TypeExpr.readType noNames (tree.hint scope) = .ok tree := by
  have hexpr := (h.writesExpr hoperator).isExpr_hint h hoperator
  have hread := TypeExpr.read_eq_ok_iff_readWhole.2 hexpr.readWhole
  rw [TypeExpr.readType, hread]
  simp only [bind, Except.bind, h.toType_hintExpr]
  rfl

/-- An optional map from words to numbers in sets or to a few fixed values. -/
def settingTree : TypeTree :=
  .keyedDict { optional := true } (.builtin "str")
    (.union {} [.literal {} [.str "it's", .int (-1), .null],
      .set {} (.named { optional := true } { name := "int" }), .any])

theorem canonical_settingTree : Canonical settingTree := by
  have hliteral : Canonical (.literal {} [.str "it's", .int (-1), .null]) := by
    refine .literal (by decide) ?_
    simp [IsPlainValue]
  have hset : Canonical (.set {} (.named { optional := true } { name := "int" })) :=
    .set (.named (by decide) (by decide))
  refine .keyedDict (.named (by decide) (by decide)) (.union (by decide) ?_ ?_ ?_)
  · simp [TypeTree.any, imported]
  · simp only [List.forall_mem_cons]
    exact ⟨hliteral, hset, Canonical.any, List.forall_mem_nil _⟩
  · simp [TypeTree.any, imported, noneType, builtin, marks]

theorem readType_hint_settingTree :
    settingTree.hint ⟨fun _ => "", fun _ => false, { genericContainers := true }⟩ =
      "Optional[Mapping[str, Union[Literal[\"it's\", -1, None], FrozenSet[Optional[int]], Any]]]" ∧
    Canonical settingTree ∧
    TypeExpr.readType noNames
        (settingTree.hint ⟨fun _ => "", fun _ => false, { genericContainers := true }⟩) =
      .ok settingTree :=
  ⟨by decide, canonical_settingTree, readType_hint rfl canonical_settingTree⟩

end SchemaPress.TypeTree
