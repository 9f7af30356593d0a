import Mathlib.Data.List.Basic
import SchemaPress.Proofs.Graph.Calls
import SchemaPress.Proofs.Template.Classes
import SchemaPress.Proofs.Template.Sessions

set_option autoImplicit false

/-! # The bodies of classes

Among the parts of the body of a class (`Model.bodyParts`) there is always one before the methods
(`exists_first_part`), because `pass` is among the parts exactly if neither a field nor a
description nor a configuration is there. Its first line is indented.

Between the head and the body stands the comment of the extras, as it is. What it has behind the end
of its first line is read as code, so it decides whether the head is followed by its block
(`class_complete_iff`). -/

namespace SchemaPress

/-! ## Blocks -/

namespace Python

/-- Whether a character ends a line. -/
def isLineEnd (c : Char) : Bool :=
  c == '\n' || c == '\r'

/-- Whether a character can stand in front of the code of a line. -/
def isIndent (c : Char) : Bool :=
  c == ' ' || c == '\t' || c == '\x0c'

/-- Whether a character starts the code of a line. -/
def startsCode (c : Char) : Bool :=
  !(isIndent c || isLineEnd c || c == '#')

/-- The lines of a text. -/
def lines (cs : List Char) : List (List Char) :=
  cs.splitOnP isLineEnd

/-- Whether there is no code on a line, be it empty or a comment. -/
def isIdle (line : List Char) : Bool :=
  (line.dropWhile isIndent).head?.all (· == '#')

/-- Whether the code of a line is indented; a form feed starts the line anew. -/
def isIndented (line : List Char) : Bool :=
  (line.takeWhile isIndent).getLast?.any (· != '\x0c')

/-- The first line with code among some lines. -/
def firstCode? (lines : List (List Char)) : Option (List Char) :=
  lines.find? (!isIdle ·)

/-- What stands behind the colon of a head gives it a block: the first line with code below is
    indented. -/
def HasBlock (behind : List Char) : Prop :=
  ∃ line, firstCode? (lines behind).tail = some line ∧ isIndented line = true

/-- A text that starts a line and goes on with a line of indented code. -/
def StartsBlock (cs : List Char) : Prop :=
  ∃ rest line, cs = '\n' :: rest ∧ firstCode? (lines rest) = some line ∧ isIndented line = true

/-- A text in front of a block leaves it a block unless it has code itself, below its first line,
    that is not indented. -/
theorem hasBlock_append_iff {body : List Char} (h : StartsBlock body) (front : List Char) :
    HasBlock (front ++ body) ↔
      ∀ line, firstCode? (lines front).tail = some line → isIndented line = true := by
  obtain ⟨rest, line, rfl, hline, hindented⟩ := h
  have hlines : firstCode? (lines (front ++ '\n' :: rest)).tail =
      (firstCode? (lines front).tail).or (some line) := by
    have hsplit : lines (front ++ '\n' :: rest) = lines front ++ lines rest :=
      List.splitOnP_append_cons _ _ rfl
    have hfront : lines front ≠ [] := List.splitOnP_ne_nil _ _
    rw [hsplit, List.tail_append_of_ne_nil hfront, ← hline]
    exact List.find?_append
  rw [HasBlock, hlines]
  cases firstCode? (lines front).tail with
  | none => simp [hindented]
  | some other => simp

theorem startsBlock_code {c : Char} (h : startsCode c = true) (cs : List Char) :
    StartsBlock ('\n' :: ' ' :: ' ' :: ' ' :: ' ' :: c :: cs) := by
  simp only [startsCode, Bool.not_eq_true', Bool.or_eq_false_iff] at h
  obtain ⟨⟨hindent, hend⟩, hcomment⟩ := h
  obtain ⟨first, others, hfirst⟩ := List.exists_cons_of_ne_nil (List.splitOnP_ne_nil isLineEnd cs)
  have hblank : isIndent ' ' = true ∧ isLineEnd ' ' = false := ⟨rfl, rfl⟩
  have hlines : lines (' ' :: ' ' :: ' ' :: ' ' :: c :: cs) =
      (' ' :: ' ' :: ' ' :: ' ' :: c :: first) :: others := by
    simp [lines, List.splitOnP_cons_eq_if_modifyHead, hfirst, hend, hblank]
  have hcode : isIdle (' ' :: ' ' :: ' ' :: ' ' :: c :: first) = false := by
    simp [isIdle, hblank, hindent, hcomment]
  refine ⟨_, ' ' :: ' ' :: ' ' :: ' ' :: c :: first, rfl, ?_, ?_⟩
  · rw [hlines]
    exact List.find?_cons_of_pos (by rw [hcode]; rfl)
  · simp [isIndented, hblank, hindent]

theorem StartsBlock.emptyLine {cs : List Char} (h : StartsBlock cs) : StartsBlock ('\n' :: cs) := by
  obtain ⟨rest, line, rfl, hline, hindented⟩ := h
  refine ⟨'\n' :: rest, line, rfl, ?_, hindented⟩
  rw [← hline]
  simp [lines, List.splitOnP_cons_eq_if_modifyHead, isLineEnd, firstCode?, isIdle]

end Python

/-! ## Parts -/

namespace BodyPart

/-- Whether a part of a class with named fields can stand behind its head. What methods look like
    is not known. -/
def leads : BodyPart → Bool
  | field name _ => name.toList.head?.all Python.startsCode
  | untyped _ | method _ => false
  | _ => true

/-- A body that starts with a part that can stand behind a head is indented from the start. -/
theorem startsBlock_written {part : BodyPart} (h : part.leads = true) (flavor : Flavor)
    (scope : Scope) (rest : List BodyPart) :
    Python.StartsBlock (written flavor scope (part :: rest)).toList := by
  rw [written_cons, String.toList_append]
  generalize (written flavor scope rest).toList = behind
  cases part with
  | docstring text =>
    simp only [stretch, Stretch.text, String.toList_append, List.append_assoc]
    exact Python.startsBlock_code (c := '"') rfl _
  | pass =>
    simp only [stretch, Stretch.text]
    exact Python.startsBlock_code (c := 'p') rfl _
  | settings parameters =>
    have hm : Python.startsCode 'm' = true := rfl
    have hc : Python.startsCode 'c' = true := rfl
    by_cases hflavor : flavor = .pydantic2
    · subst hflavor
      rw [text_settings_pydantic2]
      unfold dictText
      simp [Python.startsBlock_code hm]
    · rw [text_settings_of_ne scope hflavor]
      unfold innerClassText
      simp [(Python.startsBlock_code hc _).emptyLine]
  | field name member =>
    simp only [stretch, Stretch.text, String.toList_append, List.append_assoc]
    cases hname : name.toList with
    | nil => exact Python.startsBlock_code (c := ':') rfl _
    | cons c others =>
      have hc : Python.startsCode c = true := by simpa [leads, hname] using h
      exact Python.startsBlock_code hc _
  | untyped name => cases h
  | method text => cases h

end BodyPart

namespace Model

/-- What stands behind the colon of a class: its comment and its body. -/
def behindText (flavor : Flavor) (scope : Scope) (model : Model) : String :=
  model.commentText ++ BodyPart.written flavor scope (model.bodyParts flavor model.kind)

section

variable {flavor : Flavor} {model : Model}

/-- Every field gives one attribute, in order, and there are no others. -/
theorem filterMap_bodyParts (h : ∀ field ∈ model.fields, field.flavor = flavor) (scope : Scope) :
    (model.bodyParts flavor .base).filterMap (BodyPart.field? flavor scope) =
      model.fields.map fun field => (field.name.getD "", field.view scope) := by
  have hdocstring : ∀ text,
      (docstringParts text).filterMap (BodyPart.field? flavor scope) = [] := by
    intro text
    rw [List.filterMap_eq_nil_iff]
    intro part hpart
    obtain ⟨_, -, -, rfl⟩ := mem_docstringParts.1 hpart
    rfl
  have hpass : (model.passParts flavor .base).filterMap (BodyPart.field? flavor scope) = [] := by
    simp [mem_passParts, BodyPart.field?]
  have hsettings : model.settingsParts.filterMap (BodyPart.field? flavor scope) = [] := by
    rw [List.filterMap_eq_nil_iff]
    intro part hpart
    obtain ⟨_, -, -, rfl⟩ := mem_settingsParts.1 hpart
    rfl
  have hmethods : (model.methods.map .method).filterMap (BodyPart.field? flavor scope) = [] := by
    simp [BodyPart.field?]
  have hfields : model.fieldParts.filterMap (BodyPart.field? flavor scope) =
      model.fields.map fun field => (field.name.getD "", field.view scope) := by
    unfold fieldParts
    revert h
    induction model.fields with
    | nil => exact fun _ => rfl
    | cons field rest ih =>
      intro h
      rw [List.flatMap_cons, List.filterMap_append,
        ih fun other hother => h other (List.mem_cons_of_mem _ hother), List.filterMap_cons,
        hdocstring, BodyPart.field?, Field.shown_of_flavor_eq (h field List.mem_cons_self)]
      rfl
  unfold bodyParts frontParts attributeParts
  cases flavor <;> simp [hdocstring, hfields, hsettings, hpass, hmethods]

/-- There is something before the methods: if all else is missing, it is `pass`. -/
theorem frontParts_ne_nil (flavor : Flavor) (model : Model) :
    model.frontParts flavor .base ≠ [] := by
  intro hnil
  have hnone : ∀ part, (∀ text, part ≠ .method text) → part ∉ model.bodyParts flavor .base := by
    intro part hmethod hpart
    rw [bodyParts, hnil, List.nil_append] at hpart
    obtain ⟨text, -, rfl⟩ := List.mem_map.1 hpart
    exact hmethod text rfl
  have hfields : model.fields = [] := by
    refine List.eq_nil_iff_forall_not_mem.2 fun field hfield => ?_
    exact hnone _ (by simp) (field_mem_bodyParts.2 (.inl ⟨rfl, hfield, rfl⟩))
  have hdescribed : model.isDescribed = false := by
    unfold isDescribed
    cases htext : model.description with
    | none => rfl
    | some text =>
      by_contra hshown
      refine hnone _ (by simp) (docstring_mem_bodyParts.2 ⟨?_, .inl htext⟩)
      rintro rfl
      exact hshown rfl
  have hconfigured : flavor = .dataclass ∨ model.isConfigured = false := by
    refine (Decidable.em _).imp_right fun hflavor => ?_
    unfold isConfigured
    cases hsome : model.config with
    | none => rfl
    | some config =>
      by_contra hshown
      refine hnone _ (by simp) (settings_mem_bodyParts.2 ⟨hflavor, config, hsome, ?_, rfl⟩)
      intro hempty
      simp [hempty] at hshown
  have hbare : model.isBare flavor = true := by simp [isBare, hfields, hdescribed, hconfigured]
  exact hnone _ (by simp) (pass_mem_bodyParts.2 ⟨rfl, hbare⟩)

/-- The body of a class starts with a part that is not a method. -/
theorem exists_first_part (flavor : Flavor) (model : Model) :
    ∃ part rest, model.bodyParts flavor .base = part :: rest ∧ ∀ text, part ≠ .method text := by
  obtain ⟨part, others, hfront⟩ := List.exists_cons_of_ne_nil (frontParts_ne_nil flavor model)
  refine ⟨part, others ++ model.methods.map .method, ?_, ?_⟩
  · rw [bodyParts, hfront, List.cons_append]
  · rintro text rfl
    have hmem : .method text ∈ model.frontParts flavor .base := by simp [hfront]
    exact method_not_mem_frontParts text hmem

/-- The first part can stand behind the head of the class, unless the name of the first field
    prevents it. -/
theorem leads_of_bodyParts_eq_cons {part : BodyPart} {rest : List BodyPart}
    (h : ∀ field ∈ model.fields, field.flavor = flavor) (scope : Scope)
    (hparts : model.bodyParts flavor .base = part :: rest)
    (hmethod : ∀ text, part ≠ .method text)
    (hname : ∀ field ∈ model.fields.head?,
      (field.name.getD "").toList.head?.all Python.startsCode = true) :
    part.leads = true := by
  cases part with
  | docstring text => rfl
  | pass => rfl
  | settings parameters => rfl
  | field name member =>
    -- the first attribute is that of the first field
    have hfields := filterMap_bodyParts h scope
    rw [hparts, List.filterMap_cons] at hfields
    cases hmodel : model.fields with
    | nil => simp [hmodel, BodyPart.field?] at hfields
    | cons field rest =>
      rw [hmodel, List.map_cons] at hfields
      have hfirst := (List.cons.inj hfields).1
      rw [BodyPart.leads, (Prod.mk.inj hfirst).1]
      exact hname field (by simp [hmodel])
  | untyped name =>
    have hmem : .untyped name ∈ model.bodyParts flavor .base := by simp [hparts]
    exact nomatch (untyped_mem_bodyParts.1 hmem).1
  | method text => exact absurd rfl (hmethod text)

end

/-- A body is otherwise empty if nothing is there for it; configurations have parameters. -/
theorem isBare_iff {flavor : Flavor} {model : Model}
    (hdataclass : flavor = .dataclass → model.config = none)
    (h : ∀ config ∈ model.config, config.parameters ≠ []) :
    model.isBare flavor = true ↔
      model.fields = [] ∧ model.description.getD "" = "" ∧ model.config = none := by
  have hdescribed : model.isDescribed = false ↔ model.description.getD "" = "" := by
    unfold isDescribed
    cases model.description <;> simp
  have hconfigured : (flavor = .dataclass ∨ model.isConfigured = false) ↔ model.config = none := by
    unfold isConfigured
    cases hconfig : model.config with
    | none => simp
    | some config =>
      have hflavor : flavor ≠ .dataclass := by
        intro hflavor
        rw [hdataclass hflavor] at hconfig
        cases hconfig
      simp [h config hconfig, hflavor]
  simp [isBare, hdescribed, hconfigured, and_assoc]

end Model

/-! ## Classes of a graph -/

namespace Graph

variable {graph : Graph} {built : List ModelSpec}

/-- The configuration of a model is derived for the flavor of the graph. -/
theorem Reached.config_eq (h : Reached graph built) {model : Model}
    (hmodel : model ∈ graph.models) :
    ∃ input, model.config = Config.derive? graph.options.flavor input := by
  obtain ⟨earlier, target, spec, hoptions, rfl⟩ := h.exists_eq_nextModel hmodel
  rw [← hoptions]
  exact ⟨_, rfl⟩

/-- The built-in template of the flavor writes the head of a class and what stands behind it. -/
theorem render_base {model : Model} (hkind : model.kind = .base) (graph : Graph)
    (flavor : Flavor) :
    ∃ template, Entries.get? Template.Builtin.all (flavor.templateId .base) = some template ∧
      ∀ className, template.render (graph.templateValues model className) =
        .ok (model.headLine flavor graph.scope className ++
          model.behindText flavor graph.scope) := by
  have hrender := fun className =>
    Template.Builtin.render_builtin graph model className flavor .base
  obtain ⟨template, htemplate, -⟩ := hrender ""
  refine ⟨template, htemplate, fun className => ?_⟩
  obtain ⟨other, hother, htext⟩ := hrender className
  cases htemplate.symm.trans hother
  rw [htext, Model.written_stretches (by simp), Model.behindText, hkind]

/-- **What a class consists of.** The built-in template of the flavor writes a class that does not
    wrap a type as its head, its comment and the parts of its body, and so it is written if the
    model has that template and the user has none. Among the parts is `pass` exactly if there is
    neither a field nor a description with some text nor a configuration, and every field gives one
    attribute, in the order of the fields, as its view says. There is always a part before the
    methods. If the name of the first field starts like code, the head is followed by a block
    exactly if the first code that the comment has behind the end of a line, if any, is indented. -/
theorem class_complete_iff (h : Reached graph built) {model : Model} (hmodel : model ∈ graph.models)
    (hkind : model.kind = .base) :
    (∃ template,
      Entries.get? Template.Builtin.all (graph.options.flavor.templateId .base) = some template ∧
      (∀ className, template.render (graph.templateValues model className) =
        .ok (model.headLine graph.options.flavor graph.scope className ++
          model.behindText graph.options.flavor graph.scope)) ∧
      (model.template = graph.options.flavor.templateId .base → ∀ files shown,
        (({} : Resolver).runOn files (graph.renderModel FileTree.access model shown)).1.1 =
          .ok (model.headLine graph.options.flavor graph.scope
              (shown.getD (graph.className model)) ++
            model.behindText graph.options.flavor graph.scope))) ∧
    (.pass ∈ model.bodyParts graph.options.flavor model.kind ↔
      model.fields = [] ∧ model.description.getD "" = "" ∧ model.config = none) ∧
    (model.bodyParts graph.options.flavor model.kind).filterMap
        (BodyPart.field? graph.options.flavor graph.scope) =
      model.fields.map (fun field => (field.name.getD "", field.view graph.scope)) ∧
    (∃ part rest, model.bodyParts graph.options.flavor model.kind = part :: rest ∧
      ∀ text, part ≠ .method text) ∧
    ((∀ field ∈ model.fields.head?,
        (field.name.getD "").toList.head?.all Python.startsCode = true) →
      (Python.HasBlock (model.behindText graph.options.flavor graph.scope).toList ↔
        ∀ line, Python.firstCode? (Python.lines model.commentText.toList).tail = some line →
          Python.isIndented line = true)) := by
  obtain ⟨input, hinput⟩ := h.config_eq hmodel
  have hdataclass : graph.options.flavor = .dataclass → model.config = none := by
    intro hflavor
    rw [hinput, hflavor]
    rfl
  have hparameters : ∀ config ∈ model.config, config.parameters ≠ [] := fun config hconfig =>
    Config.parameters_derive?_ne_nil (hinput.symm.trans hconfig)
  have hflavor := h.flavor_eq hmodel
  obtain ⟨template, htemplate, hrender⟩ := render_base hkind graph graph.options.flavor
  obtain ⟨part, rest, hparts, hmethod⟩ := Model.exists_first_part graph.options.flavor model
  refine ⟨⟨template, htemplate, hrender, fun hown files shown => ?_⟩, ?_, ?_,
    ⟨part, rest, hkind ▸ hparts, hmethod⟩, fun hname => ?_⟩
  · obtain ⟨after, -, hrun⟩ := Resolver.isBuiltin_empty.runOn_render htemplate files
      (graph.templateValues model (shown.getD (graph.className model)))
    rw [renderModel, hown, hrun]
    exact hrender _
  · rw [hkind, Model.pass_mem_bodyParts, Model.isBare_iff hdataclass hparameters]
    simp
  · rw [hkind, Model.filterMap_bodyParts hflavor]
  · have hleads := Model.leads_of_bodyParts_eq_cons hflavor graph.scope hparts hmethod hname
    rw [Model.behindText, hkind, hparts, String.toList_append]
    exact Python.hasBlock_append_iff (BodyPart.startsBlock_written hleads _ _ rest) _

/-- A memo with a text. -/
def memoSpec : ModelSpec where
  reference := some ⟨0⟩
  fields := [{ name := some "text", type := .builtin "str", required := true }]

/-- The graph to which a memo is added, with a comment about it. -/
def beforeMemo (comment : String) : Graph :=
  (Graph.empty {} ⟨[("Memo", { rest := [("comment", .str comment)] })]⟩).perform
    (.reference "#/Memo" "Memo")

/-- The memo as it is added. -/
def memo (comment : String) : Model :=
  (beforeMemo comment).nextModel ⟨0⟩ memoSpec

theorem reached_memo (comment : String) :
    Reached ((beforeMemo comment).perform (.add memoSpec)) [memoSpec] := by
  refine .call (.add memoSpec) (.call (.reference "#/Memo" "Memo") (.empty {} _) trivial)
    ⟨fun reference hreference => ?_, nofun⟩
  rw [List.mem_singleton.1 hreference]
  exact Nat.zero_lt_one

/-- A comment on one line leaves the memo its block, and a second line takes it away. -/
theorem class_complete_iff_memo :
    Python.HasBlock ((memo "to do").behindText .pydantic2
      ((beforeMemo "to do").perform (.add memoSpec)).scope).toList ∧
    ¬ Python.HasBlock ((memo "to do\nat once").behindText .pydantic2
      ((beforeMemo "to do\nat once").perform (.add memoSpec)).scope).toList := by
  have hmem : ∀ comment, memo comment ∈ ((beforeMemo comment).perform (.add memoSpec)).models :=
    fun _ => List.mem_singleton.2 rfl
  have hname : ∀ comment, ∀ field ∈ (memo comment).fields.head?,
      (field.name.getD "").toList.head?.all Python.startsCode = true := by
    intro comment field hfield
    have htext : field.name = some "text" := by
      cases hfield
      rfl
    rw [htext]
    rfl
  have hblock := fun comment =>
    (class_complete_iff (reached_memo comment) (hmem comment) rfl).2.2.2.2 (hname comment)
  refine ⟨(hblock "to do").2 ?_, fun hhas => ?_⟩
  · intro line hline
    cases hline
  · exact absurd ((hblock "to do\nat once").1 hhas "at once".toList (by decide +kernel)) (by decide)

end Graph

end SchemaPress
