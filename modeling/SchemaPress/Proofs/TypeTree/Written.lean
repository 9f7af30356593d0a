import SchemaPress.Proofs.TypeTree.Nodes
import SchemaPress.TypeTree.Hint

set_option autoImplicit false

/-! # The symbols in a type hint

A hint is written once more, as a list of pieces in which every symbol that has to be imported
stands apart from the plain text around it. The pieces put together are the hint
(`textOf_hintPieces`), so they show which symbols the text uses. -/

namespace SchemaPress

/-- A piece of text. -/
inductive Piece
  /-- Text that needs no import. -/
  | plain (text : String)
  /-- The name of a symbol of a library. -/
  | library (origin : Import)
  /-- The name of a symbol of a library with the bracket that opens its arguments. -/
  | generic (origin : Import)
  /-- The name of an imported type, as the type says it. -/
  | primitive (name : String) (origin : Import)
  deriving DecidableEq, Repr

namespace Piece

/-- The text of a piece. -/
def text : Piece → String
  | plain text => text
  | library origin => origin.name
  | generic origin => origin.name ++ "["
  | primitive name _ => name

/-- The import that a piece needs. -/
def origin? : Piece → Option Import
  | plain _ => none
  | library origin | generic origin | primitive _ origin => some origin

/-- A piece that needs an import is no plain text. -/
theorem ne_plain {piece : Piece} (hsymbol : piece.origin? ≠ none) (s : String) :
    piece ≠ plain s := by
  rintro rfl
  exact hsymbol rfl

theorem not_mem_plain {piece : Piece} (hsymbol : piece.origin? ≠ none) (s : String) :
    piece ∉ [plain s] := by
  rw [List.mem_singleton]
  exact ne_plain hsymbol s

@[simp]
theorem text_plain (s : String) : (plain s).text = s :=
  rfl

@[simp]
theorem text_library (origin : Import) : (library origin).text = origin.name :=
  rfl

@[simp]
theorem text_generic (origin : Import) : (generic origin).text = origin.name ++ "[" :=
  rfl

@[simp]
theorem text_primitive (name : String) (origin : Import) : (primitive name origin).text = name :=
  rfl

/-- The text of several pieces. -/
def textOf (pieces : List Piece) : String :=
  pieces.foldr (fun piece rest => piece.text ++ rest) ""

@[simp]
theorem textOf_nil : textOf [] = "" :=
  rfl

@[simp]
theorem textOf_cons (piece : Piece) (rest : List Piece) :
    textOf (piece :: rest) = piece.text ++ textOf rest :=
  rfl

@[simp]
theorem textOf_append (front back : List Piece) :
    textOf (front ++ back) = textOf front ++ textOf back := by
  induction front with
  | nil => simp
  | cons piece rest ih => simp [ih, String.append_assoc]

theorem textOf_flatMap {α : Type} (f : α → List Piece) (items : List α) :
    textOf (items.flatMap f) = String.join (items.map fun item => textOf (f item)) := by
  induction items with
  | nil => rfl
  | cons item rest ih =>
    rw [List.flatMap_cons, textOf_append, ih, List.map_cons, String.join_cons]

/-- Every piece can be seen in the text. -/
theorem infix_textOf {piece : Piece} {pieces : List Piece} (h : piece ∈ pieces) :
    piece.text.toList <:+: (textOf pieces).toList := by
  obtain ⟨front, back, rfl⟩ := List.append_of_mem h
  refine ⟨(textOf front).toList, (textOf back).toList, ?_⟩
  simp [List.append_assoc]

/-- Joins passages by a text between them. -/
def join (separator : String) : List (List Piece) → List Piece
  | [] => []
  | [passage] => passage
  | passage :: rest => passage ++ plain separator :: join separator rest

theorem textOf_join (separator : String) (passages : List (List Piece)) :
    textOf (join separator passages) = separator.intercalate (passages.map textOf) := by
  induction passages with
  | nil => simp [join]
  | cons passage rest ih =>
    cases rest with
    | nil => simp [join]
    | cons next rest =>
      rw [join, textOf_append, textOf_cons, ih, List.map_cons, List.map_cons, List.map_cons,
        String.intercalate_cons_cons]
      · simp [String.append_assoc]
      · simp

theorem mem_join_of_mem {separator : String} {passages : List (List Piece)} {passage : List Piece}
    {piece : Piece} (hpassage : passage ∈ passages) (h : piece ∈ passage) :
    piece ∈ join separator passages := by
  induction passages with
  | nil => exact absurd hpassage List.not_mem_nil
  | cons first rest ih =>
    cases rest with
    | nil => rwa [join, ← List.mem_singleton.1 hpassage]
    | cons next rest =>
      rw [join]
      · rcases List.mem_cons.1 hpassage with rfl | hpassage
        · exact List.mem_append_left _ h
        · exact List.mem_append_right _ (List.mem_cons_of_mem _ (ih hpassage))
      · simp

/-- A piece of joined passages that needs an import is a piece of one of them. -/
theorem mem_join {separator : String} {passages : List (List Piece)} {piece : Piece}
    (h : piece ∈ join separator passages) (hplain : piece.origin? ≠ none) :
    ∃ passage ∈ passages, piece ∈ passage := by
  induction passages with
  | nil => simp [join] at h
  | cons passage rest ih =>
    cases rest with
    | nil => exact ⟨passage, List.mem_cons_self, h⟩
    | cons next rest =>
      rw [join] at h
      · rcases List.mem_append.1 h with h | h
        · exact ⟨passage, List.mem_cons_self, h⟩
        · rcases List.mem_cons.1 h with rfl | h
          · exact absurd rfl hplain
          · obtain ⟨found, hfound, hmem⟩ := ih h
            exact ⟨found, List.mem_cons_of_mem _ hfound, hmem⟩
      · simp

end Piece

open Piece (textOf)

/-! ## The pieces of a hint -/

/-- The hint that also admits `None`, in pieces. -/
def optionalPieces (unionOperator : Bool) (hint : List Piece) : List Piece :=
  if (textOf hint).isEmpty || textOf hint == "None" then [.plain "None"]
  else if unionOperator then hint ++ [.plain " | None"]
  else .generic .optional :: hint ++ [.plain "]"]

theorem textOf_optionalPieces (unionOperator : Bool) (hint : List Piece) :
    textOf (optionalPieces unionOperator hint) = optionalHint unionOperator (textOf hint) := by
  unfold optionalPieces optionalHint
  split
  · rfl
  · split <;> simp [Import.optional, Import.of, String.append_assoc]

/-- A hint with its optionality written out, in pieces. -/
def closePieces (spelling : Spelling) (optional : Bool) (hint : List Piece) : List Piece :=
  if optional && textOf hint != "Any" then optionalPieces spelling.unionOperator hint else hint

theorem textOf_closePieces (spelling : Spelling) (optional : Bool) (hint : List Piece) :
    textOf (closePieces spelling optional hint) =
      BareHint.close spelling ⟨textOf hint, optional⟩ := by
  unfold closePieces BareHint.close
  split
  · exact textOf_optionalPieces _ _
  · rfl

namespace ContainerShape

/-- The name of a container, which is a symbol unless the language knows it. -/
def namePiece (spelling : Spelling) (shape : ContainerShape) : Piece :=
  if shape.name spelling ∈ ["list", "set", "dict"] then .plain (shape.name spelling)
  else .library ((shape.origin? spelling).getD ⟨none, shape.name spelling⟩)

@[simp]
theorem text_namePiece (spelling : Spelling) (shape : ContainerShape) :
    (shape.namePiece spelling).text = shape.name spelling := by
  obtain ⟨standard, generic, operator, target⟩ := spelling
  cases shape <;> cases standard <;> cases generic <;> rfl

/-- A list or set of what a hint says, in pieces. -/
def applyPieces (spelling : Spelling) (shape : ContainerShape) (item : List Piece) : List Piece :=
  if (textOf item).isEmpty then [shape.namePiece spelling]
  else shape.namePiece spelling :: .plain "[" :: item ++ [.plain "]"]

theorem textOf_applyPieces (spelling : Spelling) (shape : ContainerShape) (item : List Piece) :
    textOf (shape.applyPieces spelling item) = shape.apply spelling (textOf item) := by
  unfold applyPieces apply
  split <;> simp [String.append_assoc]

/-- A map, in pieces; a value without a hint may be anything. -/
def keyedPieces (spelling : Spelling) (key value : List Piece) : List Piece :=
  dict.namePiece spelling :: .plain "[" :: key ++ .plain ", " ::
    (if (textOf value).isEmpty then [.library .any] else value) ++ [.plain "]"]

theorem textOf_keyedPieces (spelling : Spelling) (key value : List Piece) :
    textOf (keyedPieces spelling key value) =
      applyKeyed spelling (textOf key) (textOf value) := by
  unfold keyedPieces applyKeyed
  split <;> simp [Import.any, Import.of, String.append_assoc]

end ContainerShape

namespace NamedType

/-- A named type, in pieces. -/
def pieces (type : NamedType) : List Piece :=
  (match type.origin with
    | some origin => Piece.primitive type.name origin
    | none => .plain type.name) ::
  match type.call with
  | some arguments =>
    [.plain ("(" ++ ", ".intercalate (arguments.map fun (k, v) => k ++ "=" ++ v) ++ ")")]
  | none => []

theorem textOf_pieces (type : NamedType) : textOf type.pieces = type.hint := by
  unfold pieces hint
  cases type.origin <;> cases type.call <;> simp [String.append_assoc]

end NamedType

/-- Takes one alternative into those kept so far, unless it is `None` or written already. -/
def keepAlternative (kept : List (List Piece)) (passage : List Piece) : List (List Piece) :=
  if textOf passage == "None" || (kept.map textOf).contains (textOf passage) then kept
  else kept ++ [passage]

theorem map_textOf_keepAlternative (kept : List (List Piece)) (bare : BareHint)
    (passage : List Piece) (h : textOf passage = bare.text) :
    (keepAlternative kept passage).map textOf =
      BareHint.addAlternative (kept.map textOf) bare := by
  unfold keepAlternative BareHint.addAlternative
  rw [h]
  split <;> simp [h]

/-- Several alternatives, in pieces. -/
def unionPieces (spelling : Spelling) : List (List Piece) → List Piece
  | [] => []
  | [single] => single
  | several =>
    if spelling.unionOperator then Piece.join " | " several
    else .generic .union :: Piece.join ", " several ++ [.plain "]"]

theorem textOf_unionPieces (spelling : Spelling) (passages : List (List Piece)) :
    textOf (unionPieces spelling passages) =
      BareHint.join spelling (passages.map textOf) := by
  match passages with
  | [] => rfl
  | [single] => rfl
  | first :: second :: rest =>
    simp only [unionPieces, BareHint.join, List.map_cons]
    split
    · rw [Piece.textOf_join]
      rfl
    · simp [Import.union, Import.of, Piece.textOf_join, String.append_assoc]

namespace TypeTree

/-- The import of `Literal` in a release. -/
def literalImport (target : Python.Version) : Import :=
  if target.hasLiteral then .literal else .literalBackport

mutual

/-- The hint of a tree without its optionality, in pieces. -/
def barePieces (scope : Scope) : TypeTree → List Piece
  | empty _ => []
  | named _ type => type.pieces
  | model _ target => [.plain (scope.className target)]
  | literal _ values =>
    [.generic (literalImport scope.spelling.target),
      .plain (", ".intercalate (values.map Python.literal) ++ "]")]
  | list _ item => ContainerShape.list.applyPieces scope.spelling
    (closePieces scope.spelling (item.rendersOptional scope) (item.barePieces scope))
  | set _ item => ContainerShape.set.applyPieces scope.spelling
    (closePieces scope.spelling (item.rendersOptional scope) (item.barePieces scope))
  | dict _ value => ContainerShape.keyedPieces scope.spelling [.plain "str"]
    (closePieces scope.spelling (value.rendersOptional scope) (value.barePieces scope))
  | keyedDict _ key value => ContainerShape.keyedPieces scope.spelling
    (closePieces scope.spelling (key.rendersOptional scope) (key.barePieces scope))
    (closePieces scope.spelling (value.rendersOptional scope) (value.barePieces scope))
  | union _ members =>
    unionPieces scope.spelling ((barePiecesAll scope members).foldl keepAlternative [])

/-- The hints of several trees without their optionality, in pieces. -/
def barePiecesAll (scope : Scope) : List TypeTree → List (List Piece)
  | [] => []
  | tree :: rest => tree.barePieces scope :: barePiecesAll scope rest

end

/-- The hint of a tree, in pieces. -/
def hintPieces (scope : Scope) (tree : TypeTree) : List Piece :=
  closePieces scope.spelling (tree.rendersOptional scope) (tree.barePieces scope)

/-! ## The pieces are the hint -/

theorem textOf_barePieces (scope : Scope) (tree : TypeTree) :
    textOf (tree.barePieces scope) = (tree.bare scope).text := by
  have hclose : ∀ tree : TypeTree, textOf (tree.barePieces scope) = (tree.bare scope).text →
      textOf (closePieces scope.spelling (tree.rendersOptional scope) (tree.barePieces scope)) =
        (tree.bare scope).close scope.spelling := by
    intro tree htree
    rw [textOf_closePieces, htree]
    rfl
  induction tree with
  | empty m => rfl
  | named m type => exact type.textOf_pieces
  | model m target => simp [barePieces, bare]
  | literal m values =>
    simp only [barePieces, bare, literalImport]
    split <;> simp [Import.literal, Import.literalBackport, Import.of, String.append_assoc]
  | list m item ih | set m item ih =>
    simp only [barePieces, bare, ContainerShape.textOf_applyPieces, hclose item ih]
  | dict m value ih =>
    simp [barePieces, bare, ContainerShape.textOf_keyedPieces, hclose value ih]
  | keyedDict m key value ihkey ihvalue =>
    simp only [barePieces, bare, ContainerShape.textOf_keyedPieces, hclose key ihkey,
      hclose value ihvalue]
  | union m members ih =>
    -- the same alternatives are kept, whatever was kept before
    have hkept : ∀ (members : List TypeTree) (kept : List (List Piece)),
        (∀ member ∈ members, textOf (member.barePieces scope) = (member.bare scope).text) →
        ((barePiecesAll scope members).foldl keepAlternative kept).map textOf =
          (bareAll scope members).foldl BareHint.addAlternative (kept.map textOf) := by
      intro members
      induction members with
      | nil => intro kept _; rfl
      | cons member rest ihrest =>
        intro kept hmembers
        rw [barePiecesAll, bareAll, List.foldl_cons, List.foldl_cons,
          ihrest _ fun member hmember => hmembers member (List.mem_cons_of_mem _ hmember),
          map_textOf_keepAlternative _ _ _ (hmembers member List.mem_cons_self)]
    simp only [barePieces, bare, textOf_unionPieces, BareHint.alternatives]
    rw [hkept members [] ih]
    rfl

/-- The pieces put together are the hint. -/
theorem textOf_hintPieces (scope : Scope) (tree : TypeTree) :
    textOf (tree.hintPieces scope) = tree.hint scope := by
  unfold hintPieces
  rw [textOf_closePieces, textOf_barePieces]
  rfl

end TypeTree

end SchemaPress
