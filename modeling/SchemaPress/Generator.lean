import SchemaPress.Document
import SchemaPress.Header
import SchemaPress.Module

set_option autoImplicit false

/-! # Generation

From a document to the text of a module. -/

namespace SchemaPress

/-- A module, and what was noticed while it was made. -/
structure Generated where
  code : String
  diagnostics : List Diagnostic

/-- The settings of a run. -/
structure Generator where
  options : Options := {}
  extras : Extras := {}
  registry : TypeRegistry := {}

namespace Generator

variable {m : Type → Type} [Monad m]

/-- The resolver that a run starts with. -/
def resolver (generator : Generator) : Resolver :=
  { directory := generator.options.customTemplateDir }

/-- The graph of the models of a document. -/
def graph (generator : Generator) (document : Document) : Except Failure Graph :=
  Graph.ofDocument generator.options generator.extras generator.registry document

/-- Generates a module from the text of a document. -/
def generate (generator : Generator) (files : FileAccess m) (format : InputFormat)
    (text : String) : Rendering m Generated := do
  let document ← liftExcept (Document.read format text)
  let graph ← liftExcept (generator.graph document)
  let code ← graph.renderModule files
  return { code := code, diagnostics := graph.diagnostics }
where
  /-- A result as part of a rendering. -/
  liftExcept {α : Type} (result : Except Failure α) : Rendering m α :=
    match result with
    | .ok value => return value
    | .error failure => throw failure

end Generator

end SchemaPress
