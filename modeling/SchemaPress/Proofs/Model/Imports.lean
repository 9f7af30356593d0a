import SchemaPress.Proofs.Config
import SchemaPress.Proofs.Graph.Calls
import SchemaPress.Proofs.Model.Written
import SchemaPress.Proofs.Template.Classes

set_option autoImplicit false

/-! # Every symbol of a class is imported, with two exceptions

The symbols in the text of a class are those of `Model.Shows`, and a class of a graph that calls
lead to imports all of them unless one of two things happens. A base class whose model admits `None`
is written as `Optional[...]`, but only fields ask for `Optional` (`Model.MissesOptional`). And a
type that is imported as `typing.Union` loses its import in a field that shows no alternatives
(`Model.MissesUnion`). -/

namespace SchemaPress

open Piece (textOf)

/-- A class is written as optional where it stands for a model that admits `None`. -/
def Scope.WrapsClass (scope : Scope) (target : RefId) : Prop :=
  scope.nullable target = true ∧ scope.spelling.unionOperator = false ∧
    scope.className target ∉ ["", "None", "Any"]

theorem TypeTree.hintPieces_model (scope : Scope) (target : RefId) :
    (TypeTree.model {} target).hintPieces scope =
      closePieces scope.spelling (scope.nullable target) [.plain (scope.className target)] := by
  simp [hintPieces, rendersOptional, bare, barePieces]

theorem TypeTree.hintPieces_imported (scope : Scope) (origin : Import) :
    (TypeTree.imported origin).hintPieces scope = [.primitive origin.name origin] := by
  simp [imported, hintPieces, rendersOptional, bare, closePieces, barePieces, NamedType.pieces]

/-- The one symbol that a base class from the graph can show. -/
theorem TypeTree.generic_mem_hintPieces_model {scope : Scope} {target : RefId} :
    Piece.generic .optional ∈ (TypeTree.model {} target).hintPieces scope ↔
      scope.WrapsClass target := by
  rw [hintPieces_model, closePieces, optionalPieces, Scope.WrapsClass]
  cases scope.nullable target <;> cases scope.spelling.unionOperator <;>
    by_cases hany : scope.className target = "Any" <;>
    by_cases hnone : scope.className target = "None" <;>
    by_cases hempty : scope.className target = "" <;> simp_all

namespace Field

/-- The hint is part of the attribute. -/
theorem hintPieces_subset (scope : Scope) (field : Field) :
    field.hintPieces scope ⊆ field.attributePieces scope := by
  intro piece h
  unfold attributePieces
  split
  · simp [annotatedPieces, h]
  · simp [h]
  · simp [h]

end Field

namespace Model

/-! ## The symbols of a class -/

/-- The fields that a class shows: all, or the first one of a class that wraps a type. -/
def shownFields (model : Model) : List Field :=
  match model.kind with
  | .base => model.fields
  | .root => model.fields.take 1

/-- The symbols that a class shows. -/
inductive Shows (flavor : Flavor) (scope : Scope) (model : Model) : Piece → Prop
  | dataclass : flavor = .dataclass → model.kind = .base →
      Shows flavor scope model (.library .dataclass)
  | base {base : TypeTree} {piece : Piece} :
      ¬(flavor = .dataclass ∧ model.kind = .root) → base ∈ model.bases →
      piece ∈ base.hintPieces scope → Shows flavor scope model piece
  | field {field : Field} {piece : Piece} :
      field ∈ model.shownFields → piece ∈ field.attributePieces scope →
      Shows flavor scope model piece
  | any : model.kind = .root → model.fields = [] → Shows flavor scope model (.library .any)
  | configDict {config : Config} : flavor = .pydantic2 → model.config = some config →
      Shows flavor scope model (.library .configDict)
  | policy {config : Config} {expression : String} :
      flavor = .pydantic1 → model.config = some config →
      ("extra", expression) ∈ config.parameters → model.derivesPolicy = true →
      Shows flavor scope model (.library .extra)

section

variable {flavor : Flavor} {scope : Scope} {model : Model} {className : String} {piece : Piece}

theorem shows_of_mem_decoratorPieces (h : piece ∈ model.decoratorPieces flavor)
    (hsymbol : piece.origin? ≠ none) : Shows flavor scope model piece := by
  obtain ⟨decorator, _, h⟩ := List.mem_flatMap.1 h
  rcases List.mem_append.1 h with h | h
  · split at h
    · rename_i hown
      simp only [List.mem_cons, List.not_mem_nil, or_false] at h
      rcases h with rfl | rfl
      · exact absurd rfl hsymbol
      · have hclass : flavor = .dataclass ∧ model.kind = .base := by
          revert hown
          cases flavor <;> cases model.kind <;> simp [Flavor.decorators]
        exact .dataclass hclass.1 hclass.2
    · exact absurd h (Piece.not_mem_plain hsymbol _)
  · exact absurd h (Piece.not_mem_plain hsymbol _)

theorem shows_of_mem_basePieces (hclass : ¬(flavor = .dataclass ∧ model.kind = .root))
    (h : piece ∈ model.basePieces scope) (hsymbol : piece.origin? ≠ none) :
    Shows flavor scope model piece := by
  obtain ⟨passage, hpassage, h⟩ := Piece.mem_join h hsymbol
  obtain ⟨base, hbase, rfl⟩ := List.mem_map.1 hpassage
  exact .base hclass hbase h

theorem shows_of_mem_headPieces (hclass : ¬(flavor = .dataclass ∧ model.kind = .root))
    (h : piece ∈ model.headPieces flavor scope className) (hsymbol : piece.origin? ≠ none) :
    Shows flavor scope model piece := by
  have hplain := Piece.ne_plain hsymbol
  simp only [headPieces, List.mem_append, List.mem_cons, hplain, List.not_mem_nil, or_false,
    false_or] at h
  rcases h with h | h
  · exact shows_of_mem_decoratorPieces h hsymbol
  · split at h
    · exact absurd h List.not_mem_nil
    · simp only [List.mem_append, List.mem_cons, hplain, List.not_mem_nil, or_false,
        false_or] at h
      exact shows_of_mem_basePieces hclass h hsymbol

theorem shows_of_mem_aliasedPieces (hkind : model.kind = .root)
    (h : piece ∈ model.aliasedPieces scope) : Shows flavor scope model piece := by
  unfold aliasedPieces at h
  split at h
  · rename_i hfields
    rw [List.mem_singleton] at h
    subst h
    exact .any hkind hfields
  · rename_i field rest hfields
    exact .field (by simp [shownFields, hkind, hfields]) (field.hintPieces_subset scope h)

theorem mem_parameterPieces {derived : Bool} {name expression : String}
    (h : piece ∈ BodyPart.parameterPieces derived name expression)
    (hsymbol : piece.origin? ≠ none) :
    piece = .library .extra ∧ derived = true ∧ name = "extra" := by
  unfold BodyPart.parameterPieces at h
  split at h
  · rename_i hderived
    simp only [List.mem_cons, List.not_mem_nil, or_false] at h
    rcases h with rfl | rfl
    · exact ⟨rfl, hderived.1, hderived.2.1⟩
    · exact absurd rfl hsymbol
  · exact absurd h (Piece.not_mem_plain hsymbol _)

/-- The attributes of a class are those of the fields that it shows. -/
theorem exists_field_mem_bodyParts {field : Field} :
    (∃ name, .field name field ∈ model.bodyParts flavor model.kind) ↔
      field ∈ model.shownFields := by
  simp only [field_mem_bodyParts, shownFields]
  cases model.kind with
  | base => simp
  | root => cases model.fields <;> simp [eq_comm]

/-- Every symbol in a part of the body is one that the class shows. -/
theorem shows_of_mem_part {part : BodyPart} (hpart : part ∈ model.bodyParts flavor model.kind)
    (h : piece ∈ part.pieces flavor scope model.derivesPolicy) (hsymbol : piece.origin? ≠ none) :
    Shows flavor scope model piece := by
  have hplain := Piece.ne_plain hsymbol
  cases part with
  | docstring text => exact absurd h (Piece.not_mem_plain hsymbol _)
  | pass => exact absurd h (Piece.not_mem_plain hsymbol _)
  | settings parameters =>
    obtain ⟨hflavor, config, hconfig, -, rfl⟩ := settings_mem_bodyParts.1 hpart
    rw [BodyPart.pieces] at h
    split at h
    · rename_i hpydantic2
      simp only [BodyPart.dictPieces, List.cons_append, List.mem_cons, hplain, List.mem_append,
        List.mem_flatMap, List.not_mem_nil, or_false, false_or, and_false, exists_false] at h
      subst h
      exact .configDict hpydantic2 hconfig
    · rename_i hother
      have hpydantic1 : flavor = .pydantic1 := by
        cases flavor <;> simp_all
      simp only [BodyPart.innerClassPieces, List.mem_cons, hplain, List.mem_flatMap,
        false_or] at h
      obtain ⟨⟨name, expression⟩, hparameter, h⟩ := h
      obtain ⟨rfl, hderived, rfl⟩ := mem_parameterPieces h hsymbol
      exact .policy hpydantic1 hconfig hparameter hderived
  | field name member =>
    simp only [BodyPart.pieces, List.mem_cons, hplain, false_or] at h
    exact .field (exists_field_mem_bodyParts.1 ⟨name, hpart⟩) h
  | untyped name =>
    simp only [BodyPart.pieces, List.mem_cons, hplain, false_or, List.not_mem_nil, or_false] at h
    subst h
    obtain ⟨hkind, hfields, -⟩ := untyped_mem_bodyParts.1 hpart
    exact .any hkind hfields
  | method text => exact absurd h (Piece.not_mem_plain hsymbol _)

/-- Every symbol of a class is one that the class shows. -/
theorem shows_of_mem_pieces (h : piece ∈ model.pieces flavor scope className)
    (hsymbol : piece.origin? ≠ none) : Shows flavor scope model piece := by
  unfold pieces at h
  split at h
  · rename_i halias
    rcases List.mem_cons.1 h with rfl | h
    · exact absurd rfl hsymbol
    · exact shows_of_mem_aliasedPieces halias.2 h
  · rename_i hclass
    rcases List.mem_append.1 h with h | h
    · exact shows_of_mem_headPieces hclass h hsymbol
    · obtain ⟨part, hpart, h⟩ := List.mem_flatMap.1 h
      exact shows_of_mem_part hpart h hsymbol

/-- A base class can be seen in the class. -/
theorem mem_pieces_of_base (hclass : ¬(flavor = .dataclass ∧ model.kind = .root))
    {base : TypeTree} (hbase : base ∈ model.bases) (h : piece ∈ base.hintPieces scope)
    (htext : piece.text ≠ "") : piece ∈ model.pieces flavor scope className := by
  have hbases : piece ∈ model.basePieces scope :=
    Piece.mem_join_of_mem (List.mem_map_of_mem hbase) h
  -- a dataclass writes its base classes only if their text is not empty
  have hshown : (model.baseHint scope).isEmpty = false := by
    cases hempty : (model.baseHint scope).isEmpty with
    | false => rfl
    | true =>
      have hinfix := Piece.infix_textOf hbases
      rw [textOf_basePieces, String.isEmpty_iff.1 hempty] at hinfix
      exact absurd (by simpa using hinfix) htext
  rw [pieces, if_neg hclass]
  refine List.mem_append_left _ ?_
  simp [headPieces, hshown, hbases]

/-- The hint of a shown field can be seen in the class. -/
theorem mem_pieces_of_hint {field : Field} (hfield : field ∈ model.shownFields)
    (h : piece ∈ field.hintPieces scope) : piece ∈ model.pieces flavor scope className := by
  unfold pieces
  split
  · rename_i halias
    refine List.mem_cons_of_mem _ ?_
    rw [shownFields, halias.2] at hfield
    unfold aliasedPieces
    cases hfields : model.fields <;> simp_all
  · obtain ⟨name, hpart⟩ := exists_field_mem_bodyParts.2 hfield
    refine List.mem_append_right _ (List.mem_flatMap.2 ⟨_, hpart, ?_⟩)
    exact List.mem_cons_of_mem _ (field.hintPieces_subset scope h)

end

/-! ## The two exceptions -/

/-- Some base class is written as optional, and no field imports `Optional`. -/
def MissesOptional (flavor : Flavor) (scope : Scope) (model : Model) : Prop :=
  ¬(flavor = .dataclass ∧ model.kind = .root) ∧
    (∃ target, TypeTree.model {} target ∈ model.bases ∧ scope.WrapsClass target) ∧
    ∀ field ∈ model.fields, .optional ∉ field.imports scope

/-- Some type is written that is imported as `typing.Union`, and the import is lost: no field that
    asks for it shows a `Union[`, and no base class is imported from there. -/
def MissesUnion (scope : Scope) (model : Model) : Prop :=
  (∃ field ∈ model.shownFields, ∃ name, .primitive name .union ∈ field.hintPieces scope) ∧
    .union ∉ model.ownImports ∧
    ∀ field ∈ model.fields, .union ∈ field.type.collectImports scope →
      field.showsUnion scope = false

theorem mem_imports {scope : Scope} {model : Model} {origin : Import} :
    origin ∈ model.imports scope ↔
      (∃ field ∈ model.fields, origin ∈ field.imports scope) ∨ origin ∈ model.ownImports := by
  rw [imports, Import.mem_unique, List.mem_append, List.mem_flatMap]

theorem shownFields_subset (model : Model) : model.shownFields ⊆ model.fields := by
  unfold shownFields
  split
  · exact List.Subset.refl _
  · exact List.take_subset _ _

/-- The symbols of the shown fields are imported, unless a `typing.Union` is missed. -/
theorem mem_imports_of_field {scope : Scope} {model : Model} {field : Field} {piece : Piece}
    {origin : Import}
    (hfilled : ∀ field ∈ model.fields, ∀ node ∈ field.type.preorder, node.IsFilled scope)
    (hfield : field ∈ model.shownFields) (hpiece : piece ∈ field.attributePieces scope)
    (horigin : piece.origin? = some origin) (hunion : ¬model.MissesUnion scope) :
    origin ∈ model.imports scope := by
  rw [mem_imports]
  have hmem := shownFields_subset _ hfield
  rcases Field.mem_attributePieces (hfilled field hmem) hpiece horigin with h | ⟨h, name, rfl⟩
  · exact Or.inl ⟨field, hmem, h⟩
  · -- the field has dropped a `typing.Union`, and nothing else may bring it back
    cases horigin
    refine Decidable.byContradiction fun hnone => hunion ⟨⟨field, hfield, name, h⟩, ?_, ?_⟩
    · exact fun hown => hnone (Or.inr hown)
    · intro other hother hcollected
      cases hshown : other.showsUnion scope with
      | false => rfl
      | true =>
        exact absurd (Or.inl ⟨other, hother, Field.mem_imports.2
          (Or.inl ⟨hcollected, Or.inl hshown⟩)⟩) hnone

end Model

namespace Graph

/-! ## The imports of a new model -/

section

variable (graph : Graph) (reference : RefId) (spec : ModelSpec)

/-- The configuration of a new model. -/
theorem config_nextModel :
    (graph.nextModel reference spec).config = Config.derive? graph.options.flavor
      { kind := (graph.nextModel reference spec).kind
        extras := (graph.nextModel reference spec).extras
        fields := (graph.nextModel reference spec).fields
        bases := (graph.nextModel reference spec).bases } :=
  rfl

/-- Where the imports of a new model come from, apart from its fields. -/
theorem mem_ownImports_nextModel {origin : Import} :
    origin ∈ (graph.nextModel reference spec).ownImports ↔
      graph.baseImport? spec = some origin ∨
      origin ∈ graph.options.flavor.defaultImports (graph.nextModel reference spec).kind ∨
      ((graph.nextModel reference spec).kind = .root ∧
        (graph.nextModel reference spec).fields = [] ∧ origin = .any) ∨
      ∃ config, (graph.nextModel reference spec).config = some config ∧
        origin ∈ config.imports := by
  have hown : (graph.nextModel reference spec).ownImports =
      (graph.baseImport? spec).toList ++
        graph.options.flavor.defaultImports (graph.nextModel reference spec).kind ++
        (if (graph.nextModel reference spec).kind = .root ∧
            (graph.nextModel reference spec).fields.isEmpty then [.any] else []) ++
        (((graph.nextModel reference spec).config.map (·.imports)).getD []) :=
    rfl
  rw [hown]
  generalize graph.nextModel reference spec = model
  simp only [List.mem_append, Option.mem_toList, or_assoc]
  refine or_congr Iff.rfl (or_congr Iff.rfl (or_congr ?_ ?_))
  · split <;> simp_all
  · cases model.config <;> simp

/-- A base class of a new model is imported, or it is one of the graph. -/
theorem mem_bases_nextModel {base : TypeTree}
    (h : base ∈ (graph.nextModel reference spec).bases) :
    (∃ origin, graph.baseImport? spec = some origin ∧ base = .imported origin) ∨
      (graph.baseImport? spec = none ∧ ∃ target, base = .model {} target) := by
  change base ∈ graph.basesOf spec at h
  unfold basesOf at h
  split at h
  · obtain ⟨origin, horigin, rfl⟩ := List.mem_map.1 h
    exact Or.inl ⟨origin, Option.mem_toList.1 horigin, rfl⟩
  · rename_i hbases
    obtain ⟨target, _, rfl⟩ := List.mem_map.1 h
    exact Or.inr ⟨by simp [baseImport?, hbases], target, rfl⟩

/-- The symbols of the base classes are imported, unless an `Optional` is missed. -/
theorem mem_imports_of_base {scope : Scope} {base : TypeTree} {piece : Piece} {origin : Import}
    (hclass : ¬(graph.options.flavor = .dataclass ∧
      (graph.nextModel reference spec).kind = .root))
    (hbase : base ∈ (graph.nextModel reference spec).bases)
    (hpiece : piece ∈ base.hintPieces scope) (horigin : piece.origin? = some origin)
    (hoptional : ¬(graph.nextModel reference spec).MissesOptional graph.options.flavor scope) :
    origin ∈ (graph.nextModel reference spec).imports scope := by
  rw [Model.mem_imports]
  rcases graph.mem_bases_nextModel reference spec hbase with
    ⟨imported, himported, rfl⟩ | ⟨_, target, rfl⟩
  · -- the default or custom base class
    rw [TypeTree.hintPieces_imported, List.mem_singleton] at hpiece
    subst hpiece
    cases horigin
    exact Or.inr ((graph.mem_ownImports_nextModel reference spec).2 (Or.inl himported))
  · -- a class of the graph shows a symbol only if it is wrapped
    have hwraps : piece = .generic .optional := by
      rw [TypeTree.hintPieces_model] at hpiece
      have hsymbol : piece.origin? ≠ none := by simp [horigin]
      rcases TypeTree.mem_closePieces hpiece hsymbol with h | h
      · exact absurd h (Piece.not_mem_plain hsymbol _)
      · exact h.1
    subst hwraps
    cases horigin
    refine Or.inl (Decidable.byContradiction fun hnone => hoptional ⟨hclass, ?_, ?_⟩)
    · exact ⟨target, hbase, TypeTree.generic_mem_hintPieces_model.1 hpiece⟩
    · exact fun field hfield himports => hnone ⟨field, hfield, himports⟩

/-- The symbols of a new model are imported, if neither exception applies. -/
theorem mem_imports_of_shows {scope : Scope} {piece : Piece} {origin : Import}
    (hshows : (graph.nextModel reference spec).Shows graph.options.flavor scope piece)
    (horigin : piece.origin? = some origin)
    (hfilled : ∀ field ∈ (graph.nextModel reference spec).fields,
      ∀ node ∈ field.type.preorder, node.IsFilled scope)
    (hoptional : ¬(graph.nextModel reference spec).MissesOptional graph.options.flavor scope)
    (hunion : ¬(graph.nextModel reference spec).MissesUnion scope) :
    origin ∈ (graph.nextModel reference spec).imports scope := by
  have hown : ∀ {origin}, _ → origin ∈ (graph.nextModel reference spec).imports scope :=
    fun h => Model.mem_imports.2 (Or.inr ((graph.mem_ownImports_nextModel reference spec).2 h))
  have hconfig := graph.config_nextModel reference spec
  cases hshows with
  | dataclass hflavor hkind =>
    cases horigin
    exact hown (Or.inr (Or.inl (by simp [hflavor, hkind, Flavor.defaultImports])))
  | base hclass hbase hpiece =>
    exact graph.mem_imports_of_base reference spec hclass hbase hpiece horigin hoptional
  | field hfield hpiece =>
    exact Model.mem_imports_of_field hfilled hfield hpiece horigin hunion
  | any hkind hfields =>
    cases horigin
    exact hown (Or.inr (Or.inr (Or.inl ⟨hkind, hfields, rfl⟩)))
  | @configDict config hflavor hsome =>
    cases horigin
    rw [hflavor, hsome] at hconfig
    exact hown (Or.inr (Or.inr (Or.inr
      ⟨config, hsome, by simp [Config.imports_derive2? hconfig.symm]⟩)))
  | @policy config expression hflavor hsome hextra hderives =>
    cases horigin
    rw [hflavor, hsome] at hconfig
    have hpolicy := Config.policy_of_derive1? hconfig.symm hextra
      (by simpa [Model.derivesPolicy] using hderives)
    exact hown (Or.inr (Or.inr (Or.inr
      ⟨config, hsome, by rw [Config.imports_derive1? hconfig.symm, if_pos hpolicy]; simp⟩)))

/-- A class that shows a wrapped base class imports `Optional` for its fields only. -/
theorem optional_not_mem_imports {scope : Scope}
    (h : (graph.nextModel reference spec).MissesOptional graph.options.flavor scope) :
    .optional ∉ (graph.nextModel reference spec).imports scope := by
  obtain ⟨_, ⟨target, htarget, _⟩, hfields⟩ := h
  rw [Model.mem_imports, graph.mem_ownImports_nextModel]
  have hnone : graph.baseImport? spec = none := by
    rcases graph.mem_bases_nextModel reference spec htarget with ⟨origin, _, h⟩ | ⟨hnone, _⟩
    · simp [TypeTree.imported] at h
    · exact hnone
  rintro (⟨field, hfield, himports⟩ | hbase | hdefault | hany | ⟨config, hconfig, himports⟩)
  · exact hfields field hfield himports
  · rw [hnone] at hbase
    cases hbase
  · revert hdefault
    cases graph.options.flavor <;> cases (graph.nextModel reference spec).kind <;> decide
  · exact absurd hany.2.2 (by decide)
  · rw [config_nextModel] at hconfig
    cases hflavor : graph.options.flavor with
    | pydantic2 =>
      rw [hflavor] at hconfig
      rw [Config.imports_derive2? hconfig] at himports
      revert himports
      decide
    | pydantic1 =>
      rw [hflavor] at hconfig
      rw [Config.imports_derive1? hconfig] at himports
      split at himports
      · revert himports
        decide
      · cases himports
    | dataclass =>
      rw [hflavor] at hconfig
      cases hconfig

end

/-- A class that has lost the import of a `typing.Union` does not import it. -/
theorem union_not_mem_imports {scope : Scope} {model : Model} (h : model.MissesUnion scope) :
    .union ∉ model.imports scope := by
  obtain ⟨_, hown, hfields⟩ := h
  rw [Model.mem_imports]
  rintro (⟨field, hfield, himports⟩ | himports)
  · rcases Field.mem_imports.1 himports with
      ⟨hcollected, hshown | hne⟩ | ⟨_, _, h⟩ | ⟨_, h⟩ | ⟨_, h⟩
    · rw [hfields field hfield hcollected] at hshown
      cases hshown
    · exact hne rfl
    · exact absurd h (by decide)
    · unfold Field.annotatedImport at h
      split at h <;> exact absurd h (by decide)
    · cases hflavor : field.flavor <;> rw [hflavor] at h <;> exact absurd h (by decide)
  · exact hown himports

/-- After any calls, a class is written by the built-in template as its pieces say, and it imports
    every symbol among them exactly if neither exception applies. -/
theorem symbols_imported_iff {graph : Graph} {built : List ModelSpec} (h : Reached graph built)
    {model : Model} (hmodel : model ∈ graph.models)
    (hfilled : ∀ field ∈ model.fields, ∀ node ∈ field.type.preorder, node.IsFilled graph.scope)
    (className : String) :
    (∃ template,
      Entries.get? Template.Builtin.all (graph.options.flavor.templateId model.kind) =
        some template ∧
      template.render (graph.templateValues model className) =
        .ok (textOf (model.pieces graph.options.flavor graph.scope className))) ∧
    ((∀ piece ∈ model.pieces graph.options.flavor graph.scope className,
        ∀ origin, piece.origin? = some origin → origin ∈ model.imports graph.scope) ↔
      ¬model.MissesOptional graph.options.flavor graph.scope ∧
        ¬model.MissesUnion graph.scope) := by
  obtain ⟨earlier, reference, spec, hoptions, rfl⟩ := h.exists_eq_nextModel hmodel
  rw [← hoptions]
  refine ⟨?_, fun hall => ⟨fun hoptional => ?_, fun hunion => ?_⟩, ?_⟩
  · rw [Model.textOf_pieces fun field => flavor_of_mem_nextModel]
    exact Template.Builtin.render_builtin graph _ className _ _
  · obtain ⟨target, htarget, hwraps⟩ := hoptional.2.1
    have hshown := TypeTree.generic_mem_hintPieces_model.2 hwraps
    exact earlier.optional_not_mem_imports reference spec hoptional
      (hall _ (Model.mem_pieces_of_base hoptional.1 htarget hshown (by decide)) _ rfl)
  · obtain ⟨field, hfield, name, hshown⟩ := hunion.1
    exact union_not_mem_imports hunion (hall _ (Model.mem_pieces_of_hint hfield hshown) _ rfl)
  · rintro ⟨hoptional, hunion⟩ piece hpiece origin hsymbol
    exact earlier.mem_imports_of_shows reference spec
      (Model.shows_of_mem_pieces hpiece (by simp [hsymbol])) hsymbol hfilled hoptional hunion

/-- A model that admits `None`. -/
def noteSpec : ModelSpec where
  reference := some ⟨0⟩
  fields := [{ name := some "text", type := .builtin "str", required := true }]
  nullable := true

/-- A model with another one as its base class. -/
def taggedNoteSpec : ModelSpec where
  reference := some ⟨1⟩
  bases := [⟨0⟩]
  fields := [{ name := some "tags", type := .list {} (.builtin "str"), required := true }]

/-- The graph with the first model. -/
def noteGraph : Graph :=
  (((Graph.empty {} {}).perform (.reference "#/Note" "Note")).perform
    (.reference "#/TaggedNote" "TaggedNote")).perform (.add noteSpec)

/-- The graph with both models. -/
def taggedNoteGraph : Graph :=
  noteGraph.perform (.add taggedNoteSpec)

/-- The second model. -/
def taggedNote : Model :=
  noteGraph.nextModel ⟨1⟩ taggedNoteSpec

theorem reached_taggedNoteGraph : Reached taggedNoteGraph [noteSpec, taggedNoteSpec] :=
  .call (.add taggedNoteSpec)
    (.call (.add noteSpec)
      (.call (.reference "#/TaggedNote" "TaggedNote")
        (.call (.reference "#/Note" "Note") (.empty {} {}) trivial) trivial)
      ⟨by decide, nofun⟩)
    ⟨by decide, nofun⟩

/-- The second class is written with `Optional[Note]` as its base class and does not import
    `Optional`. -/
theorem symbols_imported_iff_taggedNote :
    (∀ field ∈ taggedNote.fields, ∀ node ∈ field.type.preorder,
      node.IsFilled taggedNoteGraph.scope) ∧
    taggedNote.baseHint taggedNoteGraph.scope = "Optional[Note]" ∧
    ¬∀ piece ∈ taggedNote.pieces taggedNoteGraph.options.flavor taggedNoteGraph.scope "TaggedNote",
      ∀ origin, piece.origin? = some origin →
        origin ∈ taggedNote.imports taggedNoteGraph.scope := by
  have hfilled : ∀ field ∈ taggedNote.fields, ∀ node ∈ field.type.preorder,
      node.IsFilled taggedNoteGraph.scope := by
    intro field hfield node hnode
    rw [List.mem_singleton.1 hfield] at hnode
    rcases List.mem_cons.1 hnode with rfl | hnode
    · trivial
    · rw [List.mem_singleton.1 hnode]
      trivial
  refine ⟨hfilled, by decide, fun hall => ?_⟩
  have himports := (symbols_imported_iff reached_taggedNoteGraph
    (List.mem_append_right _ (List.mem_singleton.2 rfl)) hfilled "TaggedNote").2.1 hall
  refine himports.1 ⟨by decide, ⟨⟨0⟩, List.mem_singleton.2 rfl, ?_⟩, ?_⟩
  · exact ⟨rfl, rfl, by decide⟩
  · intro field hfield
    rw [List.mem_singleton.1 hfield]
    decide

end Graph

end SchemaPress
