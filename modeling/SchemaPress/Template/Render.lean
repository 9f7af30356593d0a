import SchemaPress.Template
import SchemaPress.Template.Datum
import SchemaPress.Text.Cut

set_option autoImplicit false

/-! # Rendering templates

What a template writes under given variables. -/

namespace SchemaPress.Template

/-- The variables in scope, the innermost first. A variable can be known and have no value. -/
abbrev Bindings := List (String × Datum)

namespace Bindings

/-- What a name stands for: a variable, or else a function. -/
def datum (bindings : Bindings) (name : String) : Datum :=
  match List.lookup name bindings with
  | some datum => datum
  | none => if Datum.functionNames.contains name then .function name else .missing

/-- The bindings that a map of variables makes. -/
def ofEntries (values : Entries Value) : Bindings :=
  values.map fun (name, value) => (name, .value value)

end Bindings

/-! ## Filters and tests -/

/-- The lines with spaces before every line but the first and the empty ones. -/
def indentLines (width : Nat) : List (List Char) → List (List Char)
  | [] => []
  | first :: rest =>
    first :: rest.map fun line => if line.isEmpty then line else List.replicate width ' ' ++ line

/-- Indents a text: every line but the first, except empty ones. A line end behind the text is
    dropped. -/
def indentText (width : Nat) (text : String) : String :=
  let lines := indentLines width (Text.splitAll '\n' (Text.dropLineEnd text.toList))
  String.ofList (Text.dropLineEnd (lines.flatMap fun line => line ++ ['\n']))

/-- Replaces every occurrence of a text, from left to right, in the characters given; `skip` counts
    the characters that belong to an occurrence already replaced. -/
def replaceFrom (old new : List Char) : Nat → List Char → List Char
  | _, [] => []
  | skip + 1, _ :: rest => replaceFrom old new skip rest
  | 0, c :: rest =>
    if old.isPrefixOf (c :: rest) then new ++ replaceFrom old new (old.length - 1) rest
    else c :: replaceFrom old new 0 rest

/-- Replaces every occurrence of a text that is not empty. -/
def replaceText (old new text : String) : String :=
  if old.isEmpty then text
  else String.ofList (replaceFrom old.toList new.toList 0 text.toList)

/-- Applies a filter by its name. -/
def applyFilter (name : String) (input : Datum) (arguments : List Datum) :
    Except Failure Datum :=
  match name, arguments with
  | "length", [] | "count", [] => do return .value (.int (← input.length))
  | "indent", [.value (.int width)] =>
    if 0 ≤ width then return .value (.str (indentText width.toNat input.text))
    else throw .invalidTemplate
  | "replace", [old, new] => return .value (.str (replaceText old.text new.text input.text))
  | _, _ => throw .invalidTemplate

/-- Applies a test by its name. -/
def applyTest (name : String) (operand : Datum) (arguments : List Datum) : Except Failure Bool :=
  match name, arguments with
  | "defined", [] => return operand.isDefined
  | "undefined", [] => return !operand.isDefined
  | _, _ => throw .invalidTemplate

/-! ## Expressions -/

mutual

/-- What an expression stands for. No function has a result. -/
def evaluate (bindings : Bindings) : Expr → Except Failure Datum
  | .name variableName => return bindings.datum variableName
  | .constant value => return .value value
  | .field object name => do (← evaluate bindings object).field name
  | .item collection index => do
    let datum ← evaluate bindings collection
    datum.item (← evaluate bindings index)
  | .filter input name arguments => do
    let datum ← evaluate bindings input
    applyFilter name datum (← evaluateAll bindings arguments)
  | .test operand name arguments => do
    let datum ← evaluate bindings operand
    return .value (.bool (← applyTest name datum (← evaluateAll bindings arguments)))
  | .call _ _ => throw .invalidTemplate
  | .not operand => do return .value (.bool !(← evaluate bindings operand).isTrue)
  | .and left right => do
    let datum ← evaluate bindings left
    if datum.isTrue then evaluate bindings right else return datum
  | .or left right => do
    let datum ← evaluate bindings left
    if datum.isTrue then return datum else evaluate bindings right

/-- What several expressions stand for. -/
def evaluateAll (bindings : Bindings) : List Expr → Except Failure (List Datum)
  | [] => return []
  | first :: rest => do
    let datum ← evaluate bindings first
    return datum :: (← evaluateAll bindings rest)

end

/-! ## Targets -/

/-- The parts of an item that is taken apart: of a list, or the names of an object in order. -/
def partsOf : Value → Except Failure (List Value)
  | .arr items => return items
  | .obj fields => return (sortedByName fields).map fun (name, _) => .str name
  | _ => throw .invalidTemplate

mutual

/-- The bindings that a target makes of an item. -/
def bindTarget (item : Value) : Target → Except Failure Bindings
  | .name variableName => return [(variableName, .value item)]
  | .several targets => do bindTargets (← partsOf item) targets

/-- The bindings that targets make of as many items; a later one hides an earlier one. -/
def bindTargets : List Value → List Target → Except Failure Bindings
  | [], [] => return []
  | item :: items, target :: targets => do
    let first ← bindTarget item target
    return (← bindTargets items targets) ++ first
  | _, _ => throw .invalidTemplate

end

/-! ## Parts -/

/-- What has been written, and the variables for what follows. -/
structure Progress where
  text : String
  bindings : Bindings

mutual

/-- Writes one part. -/
def renderPart (bindings : Bindings) : Part → Except Failure Progress
  | .text s => return ⟨s, bindings⟩
  | .output value => do return ⟨(← evaluate bindings value).text, bindings⟩
  | .each target items body otherwise => do
    let datum ← evaluate bindings items
    let values ← datum.items
    if values.isEmpty then renderParts bindings otherwise
    else
      let texts ← (Loop.rounds datum.isCounted values).mapM fun (state, value) => do
        let bound ← bindTarget value target
        let progress ← renderParts (bound ++ ("loop", .loop state) :: bindings) body
        return progress.text
      return ⟨String.join texts, bindings⟩
  | .choice condition yes no => do
    if (← evaluate bindings condition).isTrue then renderParts bindings yes
    else renderParts bindings no
  | .assign target value => do
    return ⟨"", (target, ← evaluate bindings value) :: bindings⟩

/-- Writes parts in order. -/
def renderParts (bindings : Bindings) : List Part → Except Failure Progress
  | [] => return ⟨"", bindings⟩
  | part :: rest => do
    let first ← renderPart bindings part
    let last ← renderParts first.bindings rest
    return ⟨first.text ++ last.text, last.bindings⟩

end

end SchemaPress.Template

namespace SchemaPress

/-- What a template writes under given variables. -/
def Template.render (template : Template) (values : Entries Value) : Except Failure String := do
  let progress ← Template.renderParts (Template.Bindings.ofEntries values) template
  return progress.text

end SchemaPress
