import SchemaPress.Field.View
import SchemaPress.Proofs.TypeTree.Imports

set_option autoImplicit false

/-! # The symbols in an attribute

What stands behind the name of an attribute, in pieces: its hint or the annotation around it, its
call, and its default. The pieces put together are the text (`textOf_attributePieces`). A field
imports every symbol among them but one: the import of `Union` is dropped unless the hint shows
`Union[`, also where it is the import of a type of that name (`mem_attributePieces`). -/

namespace SchemaPress

open Piece (textOf)

theorem Text.occursIn_iff {needle text : List Char} :
    Text.occursIn needle text = true ↔ needle <:+: text := by
  induction text with
  | nil => simp [Text.occursIn]
  | cons c rest ih => simp [Text.occursIn, ih, List.infix_cons_iff]

/-- What stands behind the name of an attribute. -/
def FieldView.attribute (view : FieldView) : String :=
  let default := if view.rendersDefault then " = " ++ view.defaultLiteral else ""
  match view.annotated, view.call with
  | some annotated, _ => annotated ++ default
  | none, some call => view.hint ++ " = " ++ call
  | none, none => view.hint ++ default

namespace Field

/-! ## The pieces of an attribute -/

/-- The hint of a field, in pieces. -/
def hintPieces (scope : Scope) (field : Field) : List Piece :=
  if (textOf (field.type.hintPieces scope)).isEmpty then [.plain "None"]
  else if field.wrapsOptional scope then
    optionalPieces scope.spelling.unionOperator (field.type.hintPieces scope)
  else field.type.hintPieces scope

theorem textOf_hintPieces (scope : Scope) (field : Field) :
    textOf (field.hintPieces scope) = field.hint scope := by
  simp only [hintPieces, hint, ← TypeTree.textOf_hintPieces]
  split
  · rfl
  · split
    · exact textOf_optionalPieces _ _
    · rfl

/-- A call, in pieces: the function of the flavor and its arguments. -/
def callPieces (field : Field) (call : String) : List Piece :=
  [.library field.flavor.fieldImport,
    .plain (String.ofList (call.toList.drop field.flavor.fieldImport.name.length))]

/-- Every call is one of the function of the flavor. -/
theorem call?_starts {scope : Scope} {field : Field} {call : String}
    (h : field.call? scope = some call) :
    ∃ rest, call = field.flavor.fieldImport.name ++ rest := by
  have hpydantic : ∀ dialect : CallDialect, dialect.call? scope field = some call →
      ∃ rest, call = "Field" ++ rest := by
    intro dialect h
    unfold CallDialect.call? at h
    simp only at h
    split at h
    · split at h
      · exact ⟨"(...)", (Option.some.inj h).symm⟩
      · exact absurd h (by simp)
    · rw [show "Field(" = "Field" ++ "(" from rfl, String.append_assoc, String.append_assoc] at h
      exact ⟨_, (Option.some.inj h).symm⟩
  unfold call? at h
  cases hflavor : field.flavor with
  | pydantic2 => exact hpydantic .pydantic2 (by rwa [hflavor] at h)
  | pydantic1 => exact hpydantic .pydantic1 (by rwa [hflavor] at h)
  | dataclass =>
    rw [hflavor] at h
    simp only [dataclassCall?] at h
    split at h
    · exact absurd h (by simp)
    · obtain ⟨expression, _, rfl⟩ := Option.map_eq_some_iff.1 h
      refine ⟨"(default_factory=" ++ expression ++ ")", ?_⟩
      rw [show "field(default_factory=" = "field" ++ "(default_factory=" from rfl]
      simp only [String.append_assoc]
      rfl

theorem textOf_callPieces {scope : Scope} {field : Field} {call : String}
    (h : field.call? scope = some call) : textOf (field.callPieces call) = call := by
  obtain ⟨rest, rfl⟩ := call?_starts h
  simp [callPieces, ← String.length_toList]

/-- The import of `Annotated` in a release. -/
def annotatedImport (target : Python.Version) : Import :=
  if target.hasAnnotated then .annotated else .annotatedBackport

/-- The hint together with the call, in pieces. -/
def annotatedPieces (scope : Scope) (field : Field) (call : String) : List Piece :=
  .generic (annotatedImport scope.spelling.target) :: field.hintPieces scope ++
    .plain ", " :: field.callPieces call ++ [.plain "]"]

/-- The default behind a hint, in pieces. -/
def defaultPieces (scope : Scope) (field : Field) : List Piece :=
  if field.rendersDefault scope then [.plain " = ", .plain field.defaultLiteral] else []

/-- What stands behind the name of an attribute, in pieces. -/
def attributePieces (scope : Scope) (field : Field) : List Piece :=
  match field.annotated? scope, field.call? scope with
  | some _, some call => field.annotatedPieces scope call ++ field.defaultPieces scope
  | none, some call => field.hintPieces scope ++ .plain " = " :: field.callPieces call
  | _, none => field.hintPieces scope ++ field.defaultPieces scope

/-- An annotation holds the hint and the call. -/
theorem annotated?_eq_some {scope : Scope} {field : Field} {annotated : String}
    (h : field.annotated? scope = some annotated) :
    ∃ call, field.call? scope = some call ∧
      annotated = "Annotated[" ++ field.hint scope ++ ", " ++ call ++ "]" := by
  unfold annotated? at h
  split at h
  · obtain ⟨call, hcall, rfl⟩ := Option.map_eq_some_iff.1 h
    exact ⟨call, hcall, rfl⟩
  · exact absurd h (by simp)

theorem textOf_annotatedPieces {scope : Scope} {field : Field} {call : String}
    (h : field.call? scope = some call) :
    textOf (field.annotatedPieces scope call) =
      "Annotated[" ++ field.hint scope ++ ", " ++ call ++ "]" := by
  have hname : (annotatedImport scope.spelling.target).name = "Annotated" := by
    unfold annotatedImport
    split <;> rfl
  simp [annotatedPieces, hname, textOf_hintPieces, textOf_callPieces h, String.append_assoc]

theorem textOf_defaultPieces (scope : Scope) (field : Field) :
    textOf (field.defaultPieces scope) =
      if field.rendersDefault scope then " = " ++ field.defaultLiteral else "" := by
  unfold defaultPieces
  split <;> simp

/-- The pieces put together are what stands behind the name. -/
theorem textOf_attributePieces (scope : Scope) (field : Field) :
    textOf (field.attributePieces scope) = (field.view scope).attribute := by
  unfold attributePieces FieldView.attribute view
  cases hannotated : field.annotated? scope with
  | some annotated =>
    obtain ⟨call, hcall, rfl⟩ := annotated?_eq_some hannotated
    simp [hcall, textOf_annotatedPieces hcall, textOf_defaultPieces]
  | none =>
    cases hcall : field.call? scope with
    | some call => simp [textOf_hintPieces, textOf_callPieces hcall, String.append_assoc]
    | none => simp [textOf_hintPieces, textOf_defaultPieces]

/-! ## The imports of a field -/

/-- Whether the hint shows a `Union[`, where that is how alternatives are written. -/
def showsUnion (scope : Scope) (field : Field) : Bool :=
  !scope.spelling.unionOperator && Text.occursIn "Union[".toList (field.hint scope).toList

/-- What a field imports. -/
theorem mem_imports {scope : Scope} {field : Field} {origin : Import} :
    origin ∈ field.imports scope ↔
      (origin ∈ field.type.collectImports scope ∧
        (field.showsUnion scope = true ∨ origin ≠ .union)) ∨
      (field.wrapsOptional scope = true ∧ scope.spelling.unionOperator = false ∧
        origin = .optional) ∨
      ((field.annotated? scope).isSome = true ∧
        origin = annotatedImport scope.spelling.target) ∨
      ((field.call? scope).isSome = true ∧ origin = field.flavor.fieldImport) := by
  have hite : ∀ (c : Prop) [Decidable c] (item : Import),
      origin ∈ (if c then [item] else []) ↔ c ∧ origin = item := by
    intro c _ item
    split <;> simp_all
  unfold imports
  simp only [Import.mem_unique, List.mem_append, List.mem_filter, TypeTree.allImports, hite,
    Bool.or_eq_true, decide_eq_true_eq, Bool.and_eq_true, Bool.not_eq_true', or_assoc, and_assoc,
    showsUnion, annotatedImport]

/-- A symbol of the hint is one of the type, or the `Optional` around it. -/
theorem writes_of_mem_hintPieces {scope : Scope} {field : Field} {piece : Piece}
    (h : piece ∈ field.hintPieces scope) (hsymbol : piece.origin? ≠ none) :
    (∃ node ∈ field.type.preorder, TypeTree.Writes scope node piece) ∨
      (piece = .generic .optional ∧ field.wrapsOptional scope = true ∧
        scope.spelling.unionOperator = false) := by
  unfold hintPieces at h
  split at h
  · exact absurd h (Piece.not_mem_plain hsymbol _)
  · split at h
    · rename_i hwraps
      rcases TypeTree.mem_optionalPieces h hsymbol with h | ⟨h, hoperator⟩
      · exact Or.inl (TypeTree.writes_of_mem_hintPieces h hsymbol)
      · exact Or.inr ⟨h, hwraps, hoperator⟩
    · exact Or.inl (TypeTree.writes_of_mem_hintPieces h hsymbol)

/-- A field imports every symbol of its hint, except perhaps that of a type which has the import of
    `Union` for its own. -/
theorem mem_hintPieces {scope : Scope} {field : Field}
    (hfilled : ∀ node ∈ field.type.preorder, node.IsFilled scope) {piece : Piece}
    {origin : Import} (h : piece ∈ field.hintPieces scope) (horigin : piece.origin? = some origin) :
    origin ∈ field.imports scope ∨ ∃ name, piece = .primitive name .union := by
  rw [mem_imports]
  rcases writes_of_mem_hintPieces h (by simp [horigin]) with ⟨node, hnode, hwrites⟩ | hwraps
  · have hcollected : origin ∈ field.type.collectImports scope :=
      TypeTree.mem_collectImports.2 ⟨node, hnode, hwrites.mem_imports (hfilled node hnode) horigin⟩
    by_cases hunion : origin = .union
    · subst hunion
      rcases hwrites.of_union horigin with ⟨rfl, hoperator⟩ | hname
      · -- the bracket behind the name is what the field looks for
        have hshown : field.showsUnion scope = true := by
          have hinfix := Piece.infix_textOf h
          rw [textOf_hintPieces] at hinfix
          simp only [showsUnion, hoperator, Bool.not_false, Bool.true_and]
          exact Text.occursIn_iff.2 hinfix
        exact Or.inl (Or.inl ⟨hcollected, Or.inl hshown⟩)
      · exact Or.inr hname
    · exact Or.inl (Or.inl ⟨hcollected, Or.inr hunion⟩)
  · obtain ⟨rfl, hwraps, hoperator⟩ := hwraps
    cases horigin
    exact Or.inl (Or.inr (Or.inl ⟨hwraps, hoperator, rfl⟩))

/-- A field imports every symbol of its attribute, with the same exception. -/
theorem mem_attributePieces {scope : Scope} {field : Field}
    (hfilled : ∀ node ∈ field.type.preorder, node.IsFilled scope) {piece : Piece}
    {origin : Import} (h : piece ∈ field.attributePieces scope)
    (horigin : piece.origin? = some origin) :
    origin ∈ field.imports scope ∨
      (piece ∈ field.hintPieces scope ∧ ∃ name, piece = .primitive name .union) := by
  have hhint : piece ∈ field.hintPieces scope → origin ∈ field.imports scope ∨
      (piece ∈ field.hintPieces scope ∧ ∃ name, piece = .primitive name .union) := fun h =>
    (mem_hintPieces hfilled h horigin).imp_right fun hname => ⟨h, hname⟩
  have hcallPieces : ∀ call, field.call? scope = some call → piece ∈ field.callPieces call →
      origin ∈ field.imports scope := by
    intro call hcall h
    simp only [callPieces, List.mem_cons, List.not_mem_nil, or_false] at h
    rcases h with rfl | rfl
    · cases horigin
      exact mem_imports.2 (Or.inr (Or.inr (Or.inr ⟨by simp [hcall], rfl⟩)))
    · exact absurd horigin (by simp [Piece.origin?])
  have hdefaultPieces : piece ∉ field.defaultPieces scope := by
    intro h
    unfold defaultPieces at h
    split at h
    · simp only [List.mem_cons, List.not_mem_nil, or_false] at h
      rcases h with rfl | rfl <;> exact absurd horigin (by simp [Piece.origin?])
    · exact absurd h List.not_mem_nil
  unfold attributePieces at h
  split at h
  · rename_i hannotated hcall
    rcases List.mem_append.1 h with h | h
    · simp only [annotatedPieces, List.cons_append, List.mem_cons, List.mem_append,
        List.not_mem_nil, or_false] at h
      rcases h with rfl | (h | rfl | h) | rfl
      · cases horigin
        exact Or.inl (mem_imports.2 (Or.inr (Or.inr (Or.inl ⟨by simp [hannotated], rfl⟩))))
      · exact hhint h
      · exact absurd horigin (by simp [Piece.origin?])
      · exact Or.inl (hcallPieces _ hcall h)
      · exact absurd horigin (by simp [Piece.origin?])
    · exact absurd h hdefaultPieces
  · rename_i hcall
    rcases List.mem_append.1 h with h | h
    · exact hhint h
    · rcases List.mem_cons.1 h with rfl | h
      · exact absurd horigin (by simp [Piece.origin?])
      · exact Or.inl (hcallPieces _ hcall h)
  · rcases List.mem_append.1 h with h | h
    · exact hhint h
    · exact absurd h hdefaultPieces

end Field

end SchemaPress
