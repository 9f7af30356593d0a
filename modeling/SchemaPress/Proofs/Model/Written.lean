import SchemaPress.Proofs.Model.Parts

set_option autoImplicit false

/-! # The symbols in a class

The head of a class and the parts of its body, in pieces (`Model.pieces`), with every symbol of a
library apart from the plain text around it. The pieces put together are what the built-in template
writes (`textOf_pieces`). -/

namespace SchemaPress

open Piece (textOf)

/-! ## Heads -/

namespace Model

/-- The decorators, in pieces; that of the flavor is a symbol. -/
def decoratorPieces (flavor : Flavor) (model : Model) : List Piece :=
  model.decorators.flatMap fun decorator =>
    (if decorator ∈ flavor.decorators model.kind then [.plain "@", .library .dataclass]
      else [.plain decorator]) ++ [.plain "\n"]

theorem textOf_decoratorPieces (flavor : Flavor) (model : Model) :
    textOf (model.decoratorPieces flavor) = model.decoratorText := by
  have hown : ∀ decorator ∈ flavor.decorators model.kind, decorator = "@dataclass" := by
    cases flavor <;> cases model.kind <;> simp [Flavor.decorators]
  rw [decoratorPieces, decoratorText, Piece.textOf_flatMap]
  congr 1
  refine List.map_congr_left fun decorator _ => ?_
  split
  · rename_i h
    rw [hown decorator h]
    rfl
  · simp

/-- The base classes, in pieces. -/
def basePieces (scope : Scope) (model : Model) : List Piece :=
  Piece.join ", " (model.bases.map (·.hintPieces scope))

theorem textOf_basePieces (scope : Scope) (model : Model) :
    textOf (model.basePieces scope) = model.baseHint scope := by
  rw [basePieces, Piece.textOf_join, List.map_map, baseHint]
  congr 1
  exact List.map_congr_left fun base _ => base.textOf_hintPieces scope

/-- The head of a class with its comment, in pieces. -/
def headPieces (flavor : Flavor) (scope : Scope) (model : Model) (className : String) :
    List Piece :=
  model.decoratorPieces flavor ++ .plain ("class " ++ className) ::
    (if flavor = .dataclass ∧ (model.baseHint scope).isEmpty then []
      else .plain "(" :: model.basePieces scope ++ [.plain ")"]) ++
    [.plain (":" ++ model.commentText)]

theorem textOf_headPieces (flavor : Flavor) (scope : Scope) (model : Model) (className : String) :
    textOf (model.headPieces flavor scope className) =
      model.headLine flavor scope className ++ model.commentText := by
  unfold headPieces headLine
  split <;>
    simp only [Piece.textOf_append, Piece.textOf_cons, Piece.textOf_nil, Piece.text_plain,
      textOf_decoratorPieces, textOf_basePieces, String.append_empty, String.append_assoc]

/-- The type behind another name, in pieces. -/
def aliasedPieces (scope : Scope) (model : Model) : List Piece :=
  match model.fields with
  | [] => [.library .any]
  | field :: _ => field.hintPieces scope

theorem textOf_aliasedPieces (scope : Scope) (model : Model) :
    textOf (model.aliasedPieces scope) = model.aliasedText scope := by
  unfold aliasedPieces aliasedText
  cases model.fields with
  | nil => rfl
  | cons field rest => exact field.textOf_hintPieces scope

/-- Whether a policy on further fields is derived: no one has written `extra`. -/
def derivesPolicy (model : Model) : Bool :=
  !(Entries.names (model.extras.config.getD [])).contains "extra"

end Model

/-! ## Parts -/

namespace BodyPart

/-- The parameters of a configuration as arguments of `ConfigDict`, in pieces. -/
def dictPieces (parameters : Entries String) : List Piece :=
  .plain "\n    model_config = " :: .library .configDict :: .plain "(" ::
    (parameters.flatMap fun parameter =>
      [.plain ("\n        " ++ parameter.1 ++ "=" ++ parameter.2 ++ ",")]) ++ [.plain "\n    )"]

theorem textOf_dictPieces (parameters : Entries String) :
    textOf (dictPieces parameters) = dictText parameters := by
  unfold dictText
  rw [show "\n    model_config = ConfigDict(" = "\n    model_config = " ++ ("ConfigDict" ++ "(")
    from rfl]
  simp only [dictPieces, Piece.textOf_cons, Piece.textOf_append, Piece.textOf_flatMap,
    Piece.textOf_nil, Piece.text_plain, Piece.text_library, Import.configDict, Import.of,
    String.append_empty, String.append_assoc]

/-- The value of a parameter, in pieces; a policy that is not explicit is written with `Extra`. -/
def parameterPieces (derived : Bool) (name expression : String) : List Piece :=
  if derived = true ∧ name = "extra" ∧ expression ∈ ["Extra.allow", "Extra.forbid"] then
    [.library .extra, .plain (String.ofList (expression.toList.drop "Extra".length))]
  else [.plain expression]

theorem textOf_parameterPieces (derived : Bool) (name expression : String) :
    textOf (parameterPieces derived name expression) = expression := by
  unfold parameterPieces
  split
  · rename_i h
    simp only [List.mem_cons, List.not_mem_nil, or_false] at h
    rcases h with ⟨_, _, rfl | rfl⟩ <;> rfl
  · simp

/-- The parameters of a configuration as attributes of a class of their own, in pieces. -/
def innerClassPieces (derived : Bool) (parameters : Entries String) : List Piece :=
  .plain "\n\n    class Config:" :: parameters.flatMap fun parameter =>
    .plain ("\n        " ++ parameter.1 ++ " = ") ::
      parameterPieces derived parameter.1 parameter.2

theorem textOf_innerClassPieces (derived : Bool) (parameters : Entries String) :
    textOf (innerClassPieces derived parameters) = innerClassText parameters := by
  unfold innerClassText
  simp [innerClassPieces, Piece.textOf_flatMap, textOf_parameterPieces]

/-- A part, in pieces. Only settings and attributes show symbols. -/
def pieces (flavor : Flavor) (scope : Scope) (derived : Bool) : BodyPart → List Piece
  | settings parameters =>
    if flavor = .pydantic2 then dictPieces parameters else innerClassPieces derived parameters
  | field name member => .plain ("\n    " ++ name ++ ": ") :: member.attributePieces scope
  | untyped name => [.plain ("\n    " ++ name ++ ": "), .library .any]
  | part => [.plain (part.stretch flavor scope).text]

/-- The pieces of a part put together are its text. -/
theorem textOf_pieces {flavor : Flavor} {scope : Scope} {part : BodyPart}
    (h : ∀ name member, part = .field name member → member.flavor = flavor) (derived : Bool) :
    textOf (part.pieces flavor scope derived) = (part.stretch flavor scope).text := by
  cases part with
  | docstring text => simp [pieces]
  | pass => simp [pieces]
  | settings parameters =>
    rw [pieces]
    split
    · rename_i hflavor
      rw [hflavor, text_settings_pydantic2, textOf_dictPieces]
    · rename_i hflavor
      rw [text_settings_of_ne scope hflavor, textOf_innerClassPieces]
  | field name member =>
    simp [pieces, stretch, Field.textOf_attributePieces,
      Field.shown_of_flavor_eq (h name member rfl)]
  | untyped name => exact String.append_assoc
  | method text => simp [pieces]

end BodyPart

/-! ## Whole classes -/

namespace Model

/-- A class, in pieces. -/
def pieces (flavor : Flavor) (scope : Scope) (model : Model) (className : String) : List Piece :=
  if flavor = .dataclass ∧ model.kind = .root then
    .plain (model.remarkText ++ className ++ " = ") :: model.aliasedPieces scope
  else
    model.headPieces flavor scope className ++
      (model.bodyParts flavor model.kind).flatMap
        (BodyPart.pieces flavor scope model.derivesPolicy)

/-- The attributes in a body are those of the fields. -/
theorem mem_fields_of_mem_bodyParts {flavor : Flavor} {kind : ModelKind} {model : Model}
    {name : String} {field : Field} (h : .field name field ∈ model.bodyParts flavor kind) :
    field ∈ model.fields := by
  rcases field_mem_bodyParts.1 h with ⟨-, hfield, -⟩ | ⟨-, hfield, -⟩
  · exact hfield
  · exact List.mem_of_head? hfield

/-- The pieces put together are the text of the class. -/
theorem textOf_pieces {flavor : Flavor} {model : Model}
    (h : ∀ field ∈ model.fields, field.flavor = flavor) (scope : Scope) (className : String) :
    textOf (model.pieces flavor scope className) =
      Stretch.written (model.stretches flavor model.kind scope className) := by
  unfold pieces stretches
  split
  · simp [textOf_aliasedPieces, String.append_assoc]
  · rw [Piece.textOf_append, textOf_headPieces, Piece.textOf_flatMap, Stretch.written_cons,
      Stretch.written, List.map_map]
    refine congrArg _ (congrArg String.join (List.map_congr_left fun part hpart => ?_))
    exact BodyPart.textOf_pieces
      (fun name member hfield => h member (mem_fields_of_mem_bodyParts (hfield ▸ hpart))) _

end Model

end SchemaPress
