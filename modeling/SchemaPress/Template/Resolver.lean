import SchemaPress.FileAccess
import SchemaPress.Template.Builtin
import SchemaPress.Template.Reader
import SchemaPress.Template.Render

set_option autoImplicit false

/-! # Finding templates

A template is looked for below the user's directory and else among the built-in ones. Once it has
been compiled it is kept under the identifier that it was resolved to, whatever happens to its
file later. -/

namespace SchemaPress

/-- The templates compiled so far. -/
structure Resolver where
  /-- The directory whose templates come first. -/
  directory : Option String := none
  /-- Compiled templates by their resolved identifiers. -/
  compiled : Entries Template := []
  /-- How often a source was asked for. -/
  loads : Nat := 0
  deriving Inhabited

/-- A computation that resolves templates and may fail; what was compiled before a failure is
    kept. -/
abbrev Rendering (m : Type → Type) := ExceptT Failure (StateT Resolver m)

namespace Resolver

variable {m : Type → Type} [Monad m]

/-- What the identifiers of built-in templates start with. -/
def builtinMark : String := "builtin://"

/-- The identifier that a template resolves to: the path of the user's file if there is one, else
    the mark of built-in templates with the template's own identifier. -/
def identify (resolver : Resolver) (files : FileAccess m) (id : String) : m String := do
  match resolver.directory with
  | some directory =>
    let path := Path.join directory id
    if ← files.isFile path then return path else return builtinMark ++ id
  | none => return builtinMark ++ id

/-- Where a template that was not found is expected. -/
def expectedPath (resolver : Resolver) (id : String) : String :=
  Path.join (resolver.directory.getD "templates") id

/-- What stands behind a mark at the start of a text. -/
def behind? (mark text : String) : Option String :=
  if mark.toList.isPrefixOf text.toList then some (String.ofList (text.toList.drop mark.length))
  else none

/-- Loads and compiles the template behind a resolved identifier, if there is one. -/
def load (files : FileAccess m) (identifier : String) : m (Except Failure (Option Template)) := do
  match behind? builtinMark identifier with
  | some id => return .ok (Entries.get? Template.Builtin.all id)
  | none =>
    if ← files.isFile identifier then
      match ← files.read identifier with
      | .ok source =>
        match Template.read? source with
        | some template => return .ok (some template)
        | none => return .error .invalidTemplate
      | .error _ => return .error .invalidTemplate
    else return .ok none

/-- Finds a template, compiling it on first use. -/
def resolve (files : FileAccess m) (id : String) : Rendering m Template := do
  let resolver ← get
  let identifier ← (resolver.identify files id : m String)
  match Entries.get? resolver.compiled identifier with
  | some template => return template
  | none =>
    modify fun resolver => { resolver with loads := resolver.loads + 1 }
    match ← (load files identifier : m (Except Failure (Option Template))) with
    | .ok (some template) =>
      modify fun resolver =>
        { resolver with compiled := Entries.put resolver.compiled identifier template }
      return template
    | .ok none => throw (.templateNotFound (resolver.expectedPath id))
    | .error failure => throw failure

/-- Finds a template and renders it. -/
def render (files : FileAccess m) (id : String) (values : Entries Value) :
    Rendering m String := do
  let template ← resolve files id
  match template.render values with
  | .ok text => return text
  | .error failure => throw failure

end Resolver

end SchemaPress
