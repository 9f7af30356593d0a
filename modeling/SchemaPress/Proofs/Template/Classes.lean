import SchemaPress.Proofs.Config
import SchemaPress.Proofs.Model.Parts

set_option autoImplicit false

/-! # What the built-in templates write

Every built-in template writes any model, and it never fails: what it writes is the head of the
class and the parts of its body, as `Model.stretches` lists them (`render_builtin`). -/

namespace SchemaPress

/-! ## Single parts -/

namespace Template

@[simp]
theorem Bindings.datum_cons_self (name : String) (datum : Datum) (bindings : Bindings) :
    Bindings.datum ((name, datum) :: bindings) name = datum := by
  simp [Bindings.datum]

theorem Bindings.datum_cons_ne {name other : String} (h : name ≠ other) (datum : Datum)
    (bindings : Bindings) :
    Bindings.datum ((other, datum) :: bindings) name = bindings.datum name := by
  simp [Bindings.datum, List.lookup_cons, beq_false_of_ne h]

theorem renderParts_cons {before between after : Bindings} {part : Part} {rest : List Part}
    {s t : String} (hpart : renderPart before part = .ok ⟨s, between⟩)
    (hrest : renderParts between rest = .ok ⟨t, after⟩) :
    renderParts before (part :: rest) = .ok ⟨s ++ t, after⟩ := by
  simp only [renderParts, hpart, bind, Except.bind, hrest, pure, Except.pure]

theorem renderParts_singleton {before : Bindings} {part : Part} {progress : Progress}
    (h : renderPart before part = .ok progress) : renderParts before [part] = .ok progress := by
  simp only [renderParts, h, bind, Except.bind, pure, Except.pure, String.append_empty]

theorem renderParts_append {before between after : Bindings} {front back : List Part}
    {s t : String} (hfront : renderParts before front = .ok ⟨s, between⟩)
    (hback : renderParts between back = .ok ⟨t, after⟩) :
    renderParts before (front ++ back) = .ok ⟨s ++ t, after⟩ := by
  induction front generalizing before s with
  | nil =>
    cases hfront
    simpa using hback
  | cons part rest ih =>
    simp only [renderParts, bind, Except.bind] at hfront
    cases hpart : renderPart before part with
    | error => simp [hpart] at hfront
    | ok first =>
      cases hrest : renderParts first.bindings rest with
      | error => simp [hpart, hrest] at hfront
      | ok last =>
        simp only [hpart, hrest, pure, Except.pure, Except.ok.injEq, Progress.mk.injEq] at hfront
        obtain ⟨rfl, rfl⟩ := hfront
        rw [List.cons_append, String.append_assoc]
        exact renderParts_cons hpart (ih hrest)

theorem renderPart_text (bindings : Bindings) (s : String) :
    renderPart bindings (.text s) = .ok ⟨s, bindings⟩ :=
  rfl

theorem renderPart_choice {bindings after : Bindings} {condition : Expr} {yes no : List Part}
    {datum : Datum} {s : String} (hcondition : evaluate bindings condition = .ok datum)
    (h : renderParts bindings (if datum.isTrue then yes else no) = .ok ⟨s, after⟩) :
    renderPart bindings (.choice condition yes no) = .ok ⟨s, after⟩ := by
  simp only [renderPart, hcondition, bind, Except.bind]
  cases htrue : datum.isTrue <;> simpa [htrue] using h

theorem Loop.map_snd_rounds (counted : Bool) (items : List Value) :
    (Loop.rounds counted items).map (·.2) = items := by
  simp only [Loop.rounds, List.map_map]
  exact List.zipIdx_map_fst 0 items

/-- The rounds of a loop give one result for each item if every round does. -/
theorem Loop.mapM_rounds {α : Type} {items : List α} {value : α → Value} {write : α → String}
    {run : Loop × Value → Except Failure String}
    (hrun : ∀ item ∈ items, ∀ state, run (state, value item) = .ok (write item))
    {rounds : List (Loop × Value)} (hrounds : rounds.map (·.2) = items.map value) :
    rounds.mapM run = .ok (items.map write) := by
  induction items generalizing rounds with
  | nil =>
    rw [List.map_nil, List.map_eq_nil_iff] at hrounds
    subst hrounds
    rfl
  | cons item rest ih =>
    obtain ⟨⟨state, _⟩, others, rfl, rfl, hothers⟩ := List.map_eq_cons_iff.1 hrounds
    rw [List.mapM_cons, hrun item List.mem_cons_self state,
      ih (fun other hother => hrun other (List.mem_cons_of_mem _ hother)) hothers]
    rfl

namespace Builtin

variable {α : Type}

/-- A loop writes its body for each item. -/
theorem renderPart_forEach {bindings : Bindings} {name : String} {expr : Expr}
    {body : List Part} {items : List α} {value : α → Value} {write : α → String}
    (hitems : evaluate bindings expr = .ok (.value (.arr (items.map value))))
    (hbody : ∀ item ∈ items, ∀ loop, ∃ after,
      renderParts ((name, .value (value item)) :: ("loop", .loop loop) :: bindings) body =
        .ok ⟨write item, after⟩) :
    renderPart bindings (forEach name expr body) =
      .ok ⟨String.join (items.map write), bindings⟩ := by
  simp only [forEach, renderPart, hitems, bind, Except.bind, Datum.items, pure, Except.pure]
  split
  · rename_i hempty
    rw [List.isEmpty_iff, List.map_eq_nil_iff] at hempty
    subst hempty
    rfl
  · rw [Loop.mapM_rounds ?_ (Loop.map_snd_rounds _ _)]
    intro item hitem state
    obtain ⟨after, hitem⟩ := hbody item hitem state
    simp [bindTarget, pure, Except.pure, hitem]

/-- Parts under a condition are written if it holds. -/
theorem renderPart_onlyIf {bindings : Bindings} {condition : Expr} {parts : List Part}
    {datum : Datum} {s : String} (hcondition : evaluate bindings condition = .ok datum)
    (h : datum.isTrue = true → renderParts bindings parts = .ok ⟨s, bindings⟩) :
    renderPart bindings (onlyIf condition parts) =
      .ok ⟨if datum.isTrue then s else "", bindings⟩ := by
  refine renderPart_choice hcondition ?_
  cases htrue : datum.isTrue with
  | true => simpa using h htrue
  | false => rfl

theorem text_str (s : String) : (Datum.value (.str s)).text = s :=
  rfl

theorem renderPart_write (bindings : Bindings) (name : String) :
    renderPart bindings (write name) = .ok ⟨(bindings.datum name).text, bindings⟩ :=
  rfl

theorem evaluate_name {bindings : Bindings} {name : String} {datum : Datum}
    (h : bindings.datum name = datum) : evaluate bindings (.name name) = .ok datum := by
  rw [← h]
  rfl

theorem evaluate_not {bindings : Bindings} {operand : Expr} {datum : Datum}
    (h : evaluate bindings operand = .ok datum) :
    evaluate bindings (.not operand) = .ok (.value (.bool !datum.isTrue)) := by
  simp only [evaluate, h, bind, Except.bind, pure, Except.pure]

theorem evaluate_and {bindings : Bindings} {left right : Expr} {a b : Bool}
    (hleft : evaluate bindings left = .ok (.value (.bool a)))
    (hright : evaluate bindings right = .ok (.value (.bool b))) :
    evaluate bindings (.and left right) = .ok (.value (.bool (a && b))) := by
  simp only [evaluate, hleft, hright, bind, Except.bind, pure, Except.pure, Datum.isTrue,
    Datum.valueIsTrue]
  cases a <;> rfl

/-- The field of a variable that is an object. -/
theorem evaluate_field {bindings : Bindings} {name : String} {fields : Entries Value}
    (h : bindings.datum name = .value (.obj fields)) (key : String) :
    evaluate bindings (.field (.name name) key) =
      .ok (Datum.ofOption (Entries.get? fields key)) := by
  simp only [evaluate, pure, Except.pure, bind, Except.bind, h, Datum.field]

theorem renderPart_writeField {bindings : Bindings} {name : String} {fields : Entries Value}
    (h : bindings.datum name = .value (.obj fields)) (key : String) :
    renderPart bindings (writeField name key) =
      .ok ⟨(Datum.ofOption (Entries.get? fields key)).text, bindings⟩ := by
  simp only [writeField, renderPart, evaluate_field h, pure, Except.pure, bind, Except.bind]

end Builtin

/-! ## What a template sees of a class -/

theorem Bindings.datum_ofEntries (values : Entries Value) {name : String}
    (hname : name ∉ Datum.functionNames) :
    (Bindings.ofEntries values).datum name = .ofOption (Entries.get? values name) := by
  induction values with
  | nil => simp [Bindings.ofEntries, Bindings.datum, hname, Entries.get?, Datum.ofOption]
  | cons entry rest ih =>
    obtain ⟨key, value⟩ := entry
    rw [Entries.get?_cons]
    split
    · rename_i hkey
      subst hkey
      exact Bindings.datum_cons_self _ _ _
    · rename_i hkey
      exact (Bindings.datum_cons_ne hkey _ _).trans ih

/-- The variables of a class. -/
structure Sees (scope : Scope) (model : Model) (className : String) (bindings : Bindings) :
    Prop where
  name : bindings.datum "class_name" = .value (.str className)
  fields : bindings.datum "fields" =
    .value (.arr (model.fields.map fun field => (field.view scope).toValue))
  decorators : bindings.datum "decorators" = .value (.arr (model.decorators.map .str))
  bases : bindings.datum "base_class" = .value (.str (model.baseHint scope))
  methods : bindings.datum "methods" = .value (.arr (model.methods.map .str))
  description : bindings.datum "description" =
    .value (FieldView.textOrNull model.description)
  config : bindings.datum "config" = .value (Graph.configValue model.config)
  comment : bindings.datum "comment" =
    .ofOption (Entries.get? model.extras.templateValues "comment")

theorem sees_templateValues (graph : Graph) (model : Model) (className : String) :
    Sees graph.scope model className
      (Bindings.ofEntries (graph.templateValues model className)) := by
  constructor <;>
    rw [Bindings.datum_ofEntries _ (by decide)] <;>
    simp [Graph.templateValues, Entries.overlay, Entries.get?_put, Datum.ofOption]

/-- A variable of another name hides nothing of a class. -/
theorem Sees.cons {scope : Scope} {model : Model} {className : String} {bindings : Bindings}
    (h : Sees scope model className bindings) {name : String} (datum : Datum)
    (hname : name ∉ ["class_name", "fields", "decorators", "base_class", "methods",
      "description", "config", "comment"]) :
    Sees scope model className ((name, datum) :: bindings) := by
  simp only [List.mem_cons, List.not_mem_nil, or_false, not_or] at hname
  obtain ⟨h1, h2, h3, h4, h5, h6, h7, h8⟩ := hname
  constructor
  · rw [Bindings.datum_cons_ne (Ne.symm h1), h.name]
  · rw [Bindings.datum_cons_ne (Ne.symm h2), h.fields]
  · rw [Bindings.datum_cons_ne (Ne.symm h3), h.decorators]
  · rw [Bindings.datum_cons_ne (Ne.symm h4), h.bases]
  · rw [Bindings.datum_cons_ne (Ne.symm h5), h.methods]
  · rw [Bindings.datum_cons_ne (Ne.symm h6), h.description]
  · rw [Bindings.datum_cons_ne (Ne.symm h7), h.config]
  · rw [Bindings.datum_cons_ne (Ne.symm h8), h.comment]

/-! ## The parts of a class -/

namespace Builtin

open Model

variable {flavor : Flavor} {scope : Scope} {model : Model} {className : String}
  {bindings : Bindings}

theorem renderPart_writeIndented {expr : Expr} {text : String}
    (h : evaluate bindings expr = .ok (.value (.str text))) :
    renderPart bindings (writeIndented expr) = .ok ⟨indentText 4 text, bindings⟩ := by
  simp only [writeIndented, renderPart, evaluate, h, bind, Except.bind, evaluateAll, pure,
    Except.pure]
  rfl

theorem renderPart_docstring {expr : Expr} {text : Option String}
    (h : evaluate bindings expr = .ok (.value (FieldView.textOrNull text))) :
    renderPart bindings (docstring expr) =
      .ok ⟨BodyPart.written flavor scope (docstringParts text), bindings⟩ := by
  cases text with
  | none => exact renderPart_choice h rfl
  | some text =>
    refine (renderPart_onlyIf h fun _ => renderParts_cons (renderPart_text _ _)
      (renderParts_cons (renderPart_writeIndented h)
        (renderParts_singleton (renderPart_text _ _)))).trans ?_
    cases hempty : text.isEmpty <;>
      simp [FieldView.textOrNull, Datum.isTrue, Datum.valueIsTrue, docstringParts, hempty,
        BodyPart.stretch, Stretch.text, String.append_assoc]

theorem renderPart_decorators (h : Sees scope model className bindings) :
    renderPart bindings decorators = .ok ⟨model.decoratorText, bindings⟩ := by
  refine renderPart_forEach (evaluate_name h.decorators) ?_
  intro decorator _ loop
  exact ⟨_, renderParts_cons (renderPart_write _ _)
    (renderParts_singleton (renderPart_text _ _))⟩

theorem renderPart_comment (h : Sees scope model className bindings) :
    renderPart bindings comment = .ok ⟨model.commentText, bindings⟩ := by
  have htest : evaluate bindings (.isDefined (.name "comment")) =
      .ok (.value (.bool (bindings.datum "comment").isDefined)) := rfl
  have hbody := renderParts_cons (renderPart_text bindings "  # ")
    (renderParts_singleton (renderPart_write bindings "comment"))
  refine (renderPart_onlyIf htest fun _ => hbody).trans ?_
  rw [h.comment, commentText]
  cases Entries.get? model.extras.templateValues "comment" <;> rfl

theorem renderPart_methods (h : Sees scope model className bindings) :
    renderPart bindings methods =
      .ok ⟨BodyPart.written flavor scope (model.methods.map .method), bindings⟩ := by
  rw [BodyPart.written, Stretch.written, List.map_map, List.map_map]
  refine renderPart_forEach (evaluate_name h.methods) ?_
  intro method _ loop
  exact ⟨_, renderParts_cons (renderPart_text _ _)
    (renderParts_singleton (renderPart_writeIndented rfl))⟩

/-- A pydantic class starts with its head, its comment and its docstring. -/
theorem renderParts_classHead_append (h : Sees scope model className bindings)
    (hflavor : flavor ≠ .dataclass) {after : Bindings} {rest : List Part} {s : String}
    (hrest : renderParts bindings rest = .ok ⟨s, after⟩) :
    renderParts bindings (classHead ++ rest) =
      .ok ⟨model.headLine flavor scope className ++ (model.commentText ++
        (BodyPart.written flavor scope (docstringParts model.description) ++ s)), after⟩ := by
  have hname := renderPart_write bindings "class_name"
  rw [h.name] at hname
  have hbases := renderPart_write bindings "base_class"
  rw [h.bases] at hbases
  have hdocstring : renderPart bindings (docstring (.name "description")) =
      .ok ⟨BodyPart.written flavor scope (docstringParts model.description), bindings⟩ :=
    renderPart_docstring (evaluate_name h.description)
  refine (renderParts_cons (renderPart_decorators h) (renderParts_cons (renderPart_text _ _)
    (renderParts_cons hname (renderParts_cons (renderPart_text _ _) (renderParts_cons hbases
      (renderParts_cons (renderPart_text _ _) (renderParts_cons (renderPart_comment h)
        (renderParts_cons hdocstring hrest)))))))).trans ?_
  rw [show "):" = ")" ++ ":" from rfl]
  simp [text_str, headLine, hflavor, String.append_assoc]

/-! ## Attributes -/

section Attribute

variable {view : FieldView}

theorem isTrue_textOrNull {text : Option String} (h : text ≠ some "") :
    (Datum.value (FieldView.textOrNull text)).isTrue = text.isSome := by
  cases text with
  | none => rfl
  | some text =>
    simp only [ne_eq, Option.some.injEq, ← String.isEmpty_iff] at h
    simp [FieldView.textOrNull, Datum.isTrue, Datum.valueIsTrue, h]

theorem renderPart_fieldDefault (hfield : bindings.datum "field" = .value view.toValue) :
    renderPart bindings fieldDefault =
      .ok ⟨if view.rendersDefault then " = " ++ view.defaultLiteral else "", bindings⟩ :=
  renderPart_onlyIf (evaluate_field hfield "renders_default") fun _ =>
    renderParts_cons (renderPart_text _ _)
      (renderParts_singleton (renderPart_writeField hfield "represented_default"))

/-- An attribute without its annotation is its hint with its call or with its default. -/
theorem renderPart_unannotated (hfield : bindings.datum "field" = .value view.toValue)
    (hcall : view.call ≠ some "") {head : List Part} {s : String}
    (hhead : renderParts bindings head = .ok ⟨s, bindings⟩) :
    renderPart bindings (.choice (.field (.name "field") "field") (calledAttribute head)
      (plainAttribute head)) =
      .ok ⟨s ++ ({ view with annotated := none } : FieldView).attribute, bindings⟩ := by
  have hhint := renderPart_writeField hfield "type_hint"
  have hvalue : evaluate bindings (.field (.name "field") "field") =
      .ok (.value (FieldView.textOrNull view.call)) := evaluate_field hfield "field"
  have hpart : renderPart bindings (writeField "field" "field") =
      .ok ⟨(Datum.value (FieldView.textOrNull view.call)).text, bindings⟩ :=
    renderPart_writeField hfield "field"
  have hdefault := renderPart_fieldDefault hfield
  refine renderPart_choice hvalue ?_
  rw [isTrue_textOrNull hcall]
  unfold FieldView.attribute
  cases h : view.call with
  | some call =>
    rw [h] at hpart
    simp only [String.append_assoc]
    exact renderParts_append hhead (renderParts_cons hhint (renderParts_cons
      (renderPart_text _ _) (renderParts_singleton hpart)))
  | none =>
    exact renderParts_append hhead (renderParts_cons hhint (renderParts_singleton hdefault))

/-- An attribute is written as its view says. -/
theorem renderPart_fieldLine (hfield : bindings.datum "field" = .value view.toValue)
    (hannotated : view.annotated ≠ some "") (hcall : view.call ≠ some "") {head : List Part}
    {s : String} (hhead : renderParts bindings head = .ok ⟨s, bindings⟩) :
    renderPart bindings (fieldLine head) = .ok ⟨s ++ view.attribute, bindings⟩ := by
  have hvalue : evaluate bindings (.field (.name "field") "annotated") =
      .ok (.value (FieldView.textOrNull view.annotated)) := evaluate_field hfield "annotated"
  have hpart : renderPart bindings (writeField "field" "annotated") =
      .ok ⟨(Datum.value (FieldView.textOrNull view.annotated)).text, bindings⟩ :=
    renderPart_writeField hfield "annotated"
  refine renderPart_choice hvalue ?_
  rw [isTrue_textOrNull hannotated]
  cases h : view.annotated with
  | some annotated =>
    rw [h] at hpart
    unfold FieldView.attribute
    rw [h]
    exact renderParts_append hhead (renderParts_cons hpart
      (renderParts_singleton (renderPart_fieldDefault hfield)))
  | none =>
    have hview : { view with annotated := none } = view := by rw [← h]
    exact renderParts_singleton (hview ▸ renderPart_unannotated hfield hcall hhead)

end Attribute

theorem annotated_view_ne_empty (scope : Scope) (field : Field) :
    (field.view scope).annotated ≠ some "" := by
  intro h
  obtain ⟨call, _, hannotated⟩ := Field.annotated?_eq_some h
  simp [String.append_assoc] at hannotated

theorem call_view_ne_empty (scope : Scope) (field : Field) :
    (field.view scope).call ≠ some "" := by
  intro h
  obtain ⟨rest, hrest⟩ := Field.call?_starts h
  have hname := (String.append_eq_empty_iff.1 hrest.symm).1
  cases hflavor : field.flavor <;> rw [hflavor] at hname <;> exact absurd hname (by decide)

theorem renderParts_fieldHead {view : FieldView}
    (hfield : bindings.datum "field" = .value view.toValue) :
    renderParts bindings fieldHead = .ok ⟨"\n    " ++ view.name ++ ": ", bindings⟩ := by
  rw [String.append_assoc]
  exact renderParts_cons (renderPart_text _ _) (renderParts_cons
    (renderPart_writeField hfield "name") (renderParts_singleton (renderPart_text _ _)))

/-- All attributes are written, if each is. -/
theorem renderPart_attributes (h : Sees scope model className bindings) {line : Part}
    (hline : ∀ (field : Field) (bindings : Bindings),
      bindings.datum "field" = .value (field.view scope).toValue →
      renderPart bindings line =
        .ok ⟨"\n    " ++ field.name.getD "" ++ ": " ++ (field.shown flavor scope).attribute,
          bindings⟩) :
    renderPart bindings (attributes line) =
      .ok ⟨BodyPart.written flavor scope model.fieldParts, bindings⟩ := by
  rw [fieldParts, BodyPart.written_flatMap]
  refine renderPart_forEach (evaluate_name h.fields) ?_
  intro field _ loop
  have hfield := Bindings.datum_cons_self "field" (.value (field.view scope).toValue)
    (("loop", .loop loop) :: bindings)
  rw [BodyPart.written_cons]
  exact ⟨_, renderParts_cons (hline field _ hfield)
    (renderParts_singleton (renderPart_docstring (evaluate_field hfield "docstring")))⟩

/-- The attributes of a pydantic class are written as their views say. -/
theorem renderPart_fieldLine_shown (hflavor : flavor ≠ .dataclass) {name : String}
    {head : List Part} {field : Field} {bindings : Bindings}
    (hfield : bindings.datum "field" = .value (field.view scope).toValue)
    (hhead : renderParts bindings head = .ok ⟨"\n    " ++ name ++ ": ", bindings⟩) :
    renderPart bindings (fieldLine head) =
      .ok ⟨"\n    " ++ name ++ ": " ++ (field.shown flavor scope).attribute, bindings⟩ := by
  rw [Field.shown, if_neg hflavor]
  exact renderPart_fieldLine hfield (annotated_view_ne_empty scope field)
    (call_view_ne_empty scope field) hhead

/-- The attributes of a dataclass are written without annotations. -/
theorem renderPart_dataclassLine (field : Field) (bindings : Bindings)
    (hfield : bindings.datum "field" = .value (field.view scope).toValue) :
    renderPart bindings (.choice (.field (.name "field") "field") (calledAttribute fieldHead)
      (plainAttribute fieldHead)) =
      .ok ⟨"\n    " ++ field.name.getD "" ++ ": " ++ (field.shown .dataclass scope).attribute,
        bindings⟩ :=
  renderPart_unannotated hfield (call_view_ne_empty scope field) (renderParts_fieldHead hfield)

/-- The single attribute of a class that wraps a type; what follows sees the class as before. -/
theorem renderPart_rootAttribute (h : Sees scope model className bindings)
    (hflavor : flavor ≠ .dataclass) (name : String) :
    ∃ after, renderPart bindings (rootAttribute name) =
        .ok ⟨((model.rootPart name).stretch flavor scope).text, after⟩ ∧
      Sees scope model className after := by
  have hnot := evaluate_not (evaluate_name h.fields)
  unfold rootPart
  cases hmodel : model.fields with
  | nil =>
    rw [hmodel] at hnot
    refine ⟨bindings, renderPart_choice hnot ?_, h⟩
    exact renderParts_singleton (renderPart_text _ _)
  | cons field rest =>
    rw [hmodel] at hnot
    let after := ("field", Datum.value (field.view scope).toValue) :: bindings
    have hassign : renderPart bindings
        (.assign "field" (.item (.name "fields") (.constant (.int 0)))) = .ok ⟨"", after⟩ := by
      simp only [renderPart, evaluate, pure, Except.pure, bind, Except.bind, h.fields, hmodel]
      rfl
    have hline : renderPart after (fieldLine [.text ("\n    " ++ name ++ ": ")]) =
        .ok ⟨"\n    " ++ name ++ ": " ++ (field.shown flavor scope).attribute, after⟩ :=
      renderPart_fieldLine_shown hflavor (Bindings.datum_cons_self _ _ _)
        (renderParts_singleton (renderPart_text _ _))
    refine ⟨after, renderPart_choice hnot ?_, h.cons _ (by decide)⟩
    have := renderParts_cons hassign (renderParts_singleton hline)
    rwa [String.empty_append] at this

/-! ## Configurations and empty bodies -/

theorem isTrue_configValue (config : Config) :
    (Datum.value (Graph.configValue (some config))).isTrue = !config.parameters.isEmpty := by
  simp [Graph.configValue, Datum.isTrue, Datum.valueIsTrue]

/-- The entries of a configuration, each written by a body that sees its name and its value. -/
theorem renderPart_parameters {config : Config} {body : List Part}
    {write : String × String → String}
    (h : bindings.datum "config" = .value (Graph.configValue (some config)))
    (hbody : ∀ (parameter : String × String) (bindings : Bindings), bindings.datum "entry" =
        .value (.obj [("key", .str parameter.1), ("value", .str parameter.2)]) →
      renderParts bindings body = .ok ⟨write parameter, bindings⟩) :
    renderPart bindings (forEach "entry" (.name "config") body) =
      .ok ⟨String.join (config.parameters.map write), bindings⟩ :=
  renderPart_forEach (evaluate_name h) fun parameter _ _ =>
    ⟨_, hbody parameter _ (Bindings.datum_cons_self _ _ _)⟩

/-- What is written about a configuration if there is one. -/
theorem renderPart_config (h : Sees scope model className bindings) {parts : List Part}
    (hparts : ∀ config : Config,
      bindings.datum "config" = .value (Graph.configValue (some config)) →
      renderParts bindings parts =
        .ok ⟨((BodyPart.settings config.parameters).stretch flavor scope).text, bindings⟩) :
    renderPart bindings (onlyIf (.name "config") parts) =
      .ok ⟨BodyPart.written flavor scope model.settingsParts, bindings⟩ := by
  have hconfig := h.config
  unfold settingsParts
  cases hmodel : model.config with
  | none =>
    rw [hmodel] at hconfig
    exact renderPart_choice (evaluate_name hconfig) rfl
  | some config =>
    rw [hmodel] at hconfig
    refine (renderPart_onlyIf (evaluate_name hconfig) fun _ => hparts config hconfig).trans ?_
    rw [isTrue_configValue]
    cases hempty : config.parameters.isEmpty <;> simp [hempty]

theorem renderPart_configDict (h : Sees scope model className bindings) :
    renderPart bindings configDict =
      .ok ⟨BodyPart.written .pydantic2 scope model.settingsParts, bindings⟩ := by
  refine renderPart_config h fun config hconfig => ?_
  rw [BodyPart.text_settings_pydantic2]
  unfold BodyPart.dictText
  simp only [String.append_assoc]
  refine renderParts_cons (renderPart_text _ _) (renderParts_cons
    (renderPart_parameters hconfig fun parameter _ hentry => ?_)
    (renderParts_singleton (renderPart_text _ _)))
  exact renderParts_cons (renderPart_text _ _)
    (renderParts_cons (renderPart_writeField hentry "key")
      (renderParts_cons (renderPart_text _ _)
        (renderParts_cons (renderPart_writeField hentry "value")
          (renderParts_singleton (renderPart_text _ _)))))

theorem renderPart_configClass (h : Sees scope model className bindings) :
    renderPart bindings configClass =
      .ok ⟨BodyPart.written .pydantic1 scope model.settingsParts, bindings⟩ := by
  refine renderPart_config h fun config hconfig => ?_
  rw [BodyPart.text_settings_of_ne scope (by decide)]
  unfold BodyPart.innerClassText
  simp only [String.append_assoc]
  refine renderParts_cons (renderPart_text _ _) (renderParts_singleton
    (renderPart_parameters hconfig fun parameter _ hentry => ?_))
  exact renderParts_cons (renderPart_text _ _)
    (renderParts_cons (renderPart_writeField hentry "key")
      (renderParts_cons (renderPart_text _ _)
        (renderParts_singleton (renderPart_writeField hentry "value"))))

theorem evaluate_noFields (h : Sees scope model className bindings) :
    evaluate bindings (.not (.name "fields")) = .ok (.value (.bool model.fields.isEmpty)) := by
  rw [evaluate_not (evaluate_name h.fields)]
  simp [Datum.isTrue, Datum.valueIsTrue]

theorem evaluate_noDescription (h : Sees scope model className bindings) :
    evaluate bindings (.not (.name "description")) =
      .ok (.value (.bool !model.isDescribed)) := by
  rw [evaluate_not (evaluate_name h.description), isDescribed]
  cases model.description <;> rfl

theorem evaluate_noConfig (h : Sees scope model className bindings) :
    evaluate bindings (.not (.name "config")) = .ok (.value (.bool !model.isConfigured)) := by
  rw [evaluate_not (evaluate_name h.config), isConfigured]
  cases model.config with
  | none => rfl
  | some config => rw [isTrue_configValue]

theorem renderPart_pass {condition : Expr}
    (h : evaluate bindings condition = .ok (.value (.bool (model.isBare flavor)))) :
    renderPart bindings (onlyIf condition pass) =
      .ok ⟨BodyPart.written flavor scope (model.passParts flavor .base), bindings⟩ := by
  refine (renderPart_onlyIf h fun _ => renderParts_singleton (renderPart_text _ _)).trans ?_
  cases hbare : model.isBare flavor <;>
    simp [passParts, hbare, BodyPart.stretch, Datum.isTrue, Datum.valueIsTrue]

theorem evaluate_hasEmptyBody (h : Sees scope model className bindings)
    (hflavor : flavor ≠ .dataclass) :
    evaluate bindings hasEmptyBody = .ok (.value (.bool (model.isBare flavor))) := by
  have hbare : model.isBare flavor =
      (model.fields.isEmpty && (!model.isDescribed && !model.isConfigured)) := by
    simp [isBare, hflavor, Bool.and_assoc]
  rw [hbare]
  exact evaluate_and (evaluate_noFields h)
    (evaluate_and (evaluate_noDescription h) (evaluate_noConfig h))

/-! ## Whole classes -/

/-- The base classes of a dataclass, if it has some. -/
theorem renderPart_dataclassBases (h : Sees scope model className bindings) :
    renderPart bindings
      (onlyIf (.name "base_class") [.text "(", write "base_class", .text ")"]) =
      .ok ⟨if (model.baseHint scope).isEmpty then "" else "(" ++ model.baseHint scope ++ ")",
        bindings⟩ := by
  have hbases := renderPart_write bindings "base_class"
  rw [h.bases] at hbases
  refine (renderPart_onlyIf (evaluate_name h.bases) fun _ =>
    renderParts_cons (renderPart_text _ _) (renderParts_cons hbases
      (renderParts_singleton (renderPart_text _ _)))).trans ?_
  cases hempty : (model.baseHint scope).isEmpty <;>
    simp [Datum.isTrue, Datum.valueIsTrue, text_str, hempty, String.append_assoc]

/-- The description of another name for a type, as a comment. -/
theorem renderPart_remark (h : Sees scope model className bindings) :
    renderPart bindings (onlyIf (.name "description")
      [.text "# ",
        .output (.filter (.name "description") "replace"
          [.constant (.str "\n"), .constant (.str "\n# ")]),
        .text "\n"]) = .ok ⟨model.remarkText, bindings⟩ := by
  have hdescription := h.description
  unfold remarkText
  cases hmodel : model.description with
  | none =>
    rw [hmodel] at hdescription
    exact renderPart_choice (evaluate_name hdescription) rfl
  | some text =>
    rw [hmodel] at hdescription
    have hreplace : renderPart bindings (.output (.filter (.name "description") "replace"
        [.constant (.str "\n"), .constant (.str "\n# ")])) =
        .ok ⟨replaceText "\n" "\n# " text, bindings⟩ := by
      simp only [renderPart, evaluate, evaluateAll, hdescription, bind, Except.bind, pure,
        Except.pure]
      rfl
    refine (renderPart_onlyIf (evaluate_name hdescription) fun _ =>
      renderParts_cons (renderPart_text _ _) (renderParts_cons hreplace
        (renderParts_singleton (renderPart_text _ _)))).trans ?_
    cases hempty : text.isEmpty <;>
      simp [FieldView.textOrNull, Datum.isTrue, Datum.valueIsTrue, hempty, String.append_assoc]

/-- The type behind another name. -/
theorem renderPart_aliased (h : Sees scope model className bindings) :
    renderPart bindings (.choice (.name "fields")
      [.output (.field (.item (.name "fields") (.constant (.int 0))) "type_hint")]
      [.text "Any"]) = .ok ⟨model.aliasedText scope, bindings⟩ := by
  have hfields := h.fields
  unfold aliasedText
  cases hmodel : model.fields with
  | nil =>
    rw [hmodel] at hfields
    exact renderPart_choice (evaluate_name hfields) (renderParts_singleton (renderPart_text _ _))
  | cons field rest =>
    rw [hmodel] at hfields
    refine renderPart_choice (evaluate_name hfields) (renderParts_singleton ?_)
    simp only [renderPart, evaluate, hfields, bind, Except.bind, pure, Except.pure]
    rfl

/-- Every built-in template writes any model, as its head and its parts say. -/
theorem render_builtin (graph : Graph) (model : Model) (className : String) (flavor : Flavor)
    (kind : ModelKind) :
    ∃ template, Entries.get? Builtin.all (flavor.templateId kind) = some template ∧
      template.render (graph.templateValues model className) =
        .ok (Stretch.written (model.stretches flavor kind graph.scope className)) := by
  have h := sees_templateValues graph model className
  suffices hparts : ∃ template after,
      Entries.get? Builtin.all (flavor.templateId kind) = some template ∧
      renderParts (Bindings.ofEntries (graph.templateValues model className)) template =
        .ok ⟨Stretch.written (model.stretches flavor kind graph.scope className), after⟩ by
    obtain ⟨template, after, htemplate, hparts⟩ := hparts
    exact ⟨template, htemplate, by
      simp [Template.render, hparts, bind, Except.bind, pure, Except.pure]⟩
  have hlines : ∀ {flavor : Flavor}, flavor ≠ .dataclass →
      renderPart (Bindings.ofEntries (graph.templateValues model className))
        (attributes (fieldLine fieldHead)) =
          .ok ⟨BodyPart.written flavor graph.scope model.fieldParts, _⟩ := fun hflavor =>
    renderPart_attributes h fun _ _ hfield =>
      renderPart_fieldLine_shown hflavor hfield (renderParts_fieldHead hfield)
  have hname := renderPart_write
    (Bindings.ofEntries (graph.templateValues model className)) "class_name"
  rw [h.name] at hname
  have h2 : Flavor.pydantic2 ≠ .dataclass := by decide
  have h1 : Flavor.pydantic1 ≠ .dataclass := by decide
  -- the parts in the order of the template, each written by its own lemma
  cases flavor <;> cases kind
  case pydantic2.base =>
    rw [written_stretches (by simp)]
    simp only [bodyParts, frontParts, attributeParts, BodyPart.written_append, String.append_assoc]
    exact ⟨_, _, rfl, renderParts_classHead_append h h2
      (renderParts_cons (renderPart_pass (evaluate_hasEmptyBody h h2))
        (renderParts_cons (renderPart_configDict h)
          (renderParts_cons (hlines h2) (renderParts_singleton (renderPart_methods h)))))⟩
  case pydantic2.root =>
    obtain ⟨after, hroot, hafter⟩ := renderPart_rootAttribute h h2 "root"
    rw [written_stretches (by simp)]
    simp only [bodyParts, frontParts, passParts_root, attributeParts, BodyPart.written_append,
      BodyPart.written_cons, BodyPart.written_nil, String.append_empty,
      String.append_assoc]
    exact ⟨_, _, rfl, renderParts_classHead_append h h2
      (renderParts_cons (renderPart_configDict h)
        (renderParts_cons hroot (renderParts_singleton (renderPart_methods hafter))))⟩
  case pydantic1.base =>
    rw [written_stretches (by simp)]
    simp only [bodyParts, frontParts, attributeParts, BodyPart.written_append, String.append_assoc]
    exact ⟨_, _, rfl, renderParts_classHead_append h h1
      (renderParts_cons (renderPart_pass (evaluate_hasEmptyBody h h1))
        (renderParts_cons (hlines h1) (renderParts_cons (renderPart_configClass h)
          (renderParts_singleton (renderPart_methods h)))))⟩
  case pydantic1.root =>
    obtain ⟨after, hroot, hafter⟩ := renderPart_rootAttribute h h1 "__root__"
    rw [written_stretches (by simp)]
    simp only [bodyParts, frontParts, passParts_root, attributeParts, BodyPart.written_append,
      BodyPart.written_cons, BodyPart.written_nil, String.append_empty,
      String.append_assoc]
    exact ⟨_, _, rfl, renderParts_classHead_append h h1
      (renderParts_cons hroot (renderParts_cons (renderPart_configClass hafter)
        (renderParts_singleton (renderPart_methods hafter))))⟩
  case dataclass.base =>
    have hbare : model.isBare .dataclass = (model.fields.isEmpty && !model.isDescribed) := by
      simp [isBare]
    have hpass := evaluate_and (evaluate_noFields h) (evaluate_noDescription h)
    rw [← hbare] at hpass
    rw [written_stretches (by simp)]
    simp only [headLine, true_and, bodyParts, frontParts, attributeParts, BodyPart.written_append,
      String.append_assoc]
    exact ⟨_, _, rfl, renderParts_cons (renderPart_decorators h)
      (renderParts_cons (renderPart_text _ _) (renderParts_cons hname
        (renderParts_cons (renderPart_dataclassBases h) (renderParts_cons (renderPart_text _ _)
          (renderParts_cons (renderPart_comment h)
            (renderParts_cons (renderPart_docstring (evaluate_name h.description))
              (renderParts_cons (renderPart_pass hpass)
                (renderParts_cons (renderPart_attributes h renderPart_dataclassLine)
                  (renderParts_singleton (renderPart_methods h))))))))))⟩
  case dataclass.root =>
    rw [stretches, if_pos ⟨rfl, rfl⟩, Stretch.written_cons, Stretch.written_nil, Stretch.text_code,
      String.append_empty, String.append_assoc, String.append_assoc]
    exact ⟨_, _, rfl, renderParts_cons (renderPart_remark h) (renderParts_cons hname
      (renderParts_cons (renderPart_text _ _) (renderParts_singleton (renderPart_aliased h))))⟩

end Builtin

end Template

end SchemaPress
