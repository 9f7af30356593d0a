import SchemaPress.Proofs.Python.TripleQuoted
import SchemaPress.Proofs.Template.Classes

set_option autoImplicit false

/-! # Where docstrings end

Descriptions are written between three quotes as they are, apart from their indentation. So the
quotes of the template close a docstring unless the text holds three quotes that close it before
(`docstring_closed_iff`). Quotes or backslashes at the end of a text do no harm, because the quotes
of the template stand on a line of their own. -/

namespace SchemaPress

open Python

namespace Stretch

/-- What stands between the quotes of a docstring. -/
def inside (text : String) : List Char :=
  "\n    ".toList ++ (Template.indentText 4 text).toList ++ "\n    ".toList

theorem inside_eq (text : String) :
    inside text = "\n    ".toList ++ (Template.indentText 4 text).toList ++ "\n    ".toList :=
  rfl

theorem toList_text_docstring (text : String) :
    (docstring text).text.toList =
      "\n    ".toList ++ tripleQuote ++ inside text ++ tripleQuote := by
  simp [Stretch.text, inside_eq, tripleQuote]

theorem closes_inside {text : String} : Closes (inside text) ↔ Closes text.toList := by
  rw [inside_eq, closes_append_plain rfl, closes_plain_append rfl, closes_indentText]

/-- The quotes of the template close a docstring exactly if its text closes nothing. -/
theorem behind?_inside_iff {text : String} (rest : List Char) :
    behind? .text (inside text ++ tripleQuote ++ rest) = some rest ↔ ¬ Closes text.toList := by
  constructor
  · -- a literal that is closed before leaves more behind
    intro hbehind hcloses
    obtain ⟨front, back, -, hearly⟩ := behind?_of_closes (closes_inside.2 hcloses)
    rw [List.append_assoc, hearly, Option.some.injEq] at hbehind
    have hlength := congrArg List.length hbehind
    simp only [List.length_append, tripleQuote, List.length_cons, List.length_nil] at hlength
    omega
  · intro hopen
    have hlast : inside text =
        "\n    ".toList ++ (Template.indentText 4 text).toList ++ "\n   ".toList ++ [' '] := by
      simp [inside_eq]
    have hopen : ¬ Closes (inside text) := fun hcloses => hopen (closes_inside.1 hcloses)
    refine behind?_tripleQuote ?_ rest
    rw [hlast] at hopen ⊢
    exact run_eq_text rfl hopen

end Stretch

theorem BodyPart.stretch_eq_docstring_iff {flavor : Flavor} {scope : Scope} {part : BodyPart}
    {text : String} : part.stretch flavor scope = .docstring text ↔ part = .docstring text := by
  cases part <;> simp [stretch]

namespace Model

/-- The docstrings of a class are its description and, if it has named fields, what its fields
    say. -/
theorem mem_stretches {text : String} {flavor : Flavor} {kind : ModelKind} {scope : Scope}
    {model : Model} {className : String} :
    Stretch.docstring text ∈ model.stretches flavor kind scope className ↔ text ≠ "" ∧
      ((flavor ≠ .dataclass ∨ kind = .base) ∧ model.description = some text ∨
        kind = .base ∧ ∃ field ∈ model.fields, field.docstring? = some text) := by
  by_cases halias : flavor = .dataclass ∧ kind = .root
  · obtain ⟨rfl, rfl⟩ := halias
    simp [stretches]
  · have hclass : flavor ≠ .dataclass ∨ kind = .base := by
      cases flavor <;> cases kind <;> simp_all
    simp [stretches, halias, hclass, BodyPart.stretch_eq_docstring_iff, docstring_mem_bodyParts]

end Model

/-- Every built-in template writes any class as stretches of code with docstrings between them: the
    description, unless a type only gets another name, and what the fields say, if they have names.
    Each docstring stands on lines of its own between three quotes. The literal that its first
    quotes open is closed by its last ones exactly if the text does not hold three quotes behind an
    even number of backslashes. If it does, the literal ends in the text, and the rest of the text
    is read as code. -/
theorem docstring_closed_iff (graph : Graph) (model : Model) (className : String)
    (flavor : Flavor) (kind : ModelKind) :
    ∃ template, Entries.get? Template.Builtin.all (flavor.templateId kind) = some template ∧
    ∃ stretches, template.render (graph.templateValues model className) =
        .ok (Stretch.written stretches) ∧
    (∀ text, .docstring text ∈ stretches ↔ text ≠ "" ∧
      ((flavor ≠ .dataclass ∨ kind = .base) ∧ model.description = some text ∨
        kind = .base ∧ ∃ field ∈ model.fields, field.docstring? = some text)) ∧
    ∀ front text back, stretches = front ++ .docstring text :: back →
      (Stretch.written stretches).toList = (Stretch.written front).toList ++ "\n    ".toList ++
        tripleQuote ++ (Stretch.inside text ++ tripleQuote ++ (Stretch.written back).toList) ∧
      (behind? .text (Stretch.inside text ++ tripleQuote ++ (Stretch.written back).toList) =
        some (Stretch.written back).toList ↔ ¬ HoldsTripleQuote text.toList) ∧
      (HoldsTripleQuote text.toList → ∃ kept spilled,
        Stretch.inside text = kept ++ tripleQuote ++ spilled ∧
        behind? .text (Stretch.inside text ++ tripleQuote ++ (Stretch.written back).toList) =
          some (spilled ++ tripleQuote ++ (Stretch.written back).toList)) := by
  obtain ⟨template, htemplate, hrender⟩ :=
    Template.Builtin.render_builtin graph model className flavor kind
  refine ⟨template, htemplate, _, hrender, fun text => Model.mem_stretches, ?_⟩
  intro front text back hstretches
  refine ⟨?_, ?_, fun hholds => ?_⟩
  · rw [hstretches, Stretch.written_append, Stretch.written_cons, String.toList_append,
      String.toList_append, Stretch.toList_text_docstring]
    simp only [List.append_assoc]
  · rw [Stretch.behind?_inside_iff, closes_iff]
  · obtain ⟨kept, spilled, hinside, hbehind⟩ :=
      behind?_of_closes (Stretch.closes_inside.2 (closes_iff.2 hholds))
    refine ⟨kept, spilled, hinside, ?_⟩
    rw [List.append_assoc, hbehind, List.append_assoc]

end SchemaPress
