import SchemaPress.Value

set_option autoImplicit false

/-! # Templates

A template is text with holes: expressions whose values are written, parts that are repeated and
parts that are written under a condition. -/

namespace SchemaPress.Template

/-- An expression over the variables of a template. -/
inductive Expr
  /-- The value of a variable. -/
  | name (variableName : String)
  /-- A value that is written out. -/
  | constant (value : Value)
  /-- A field of an object, by name. -/
  | field (object : Expr) (name : String)
  /-- An item of a list or a field of an object, by the value of an expression. -/
  | item (collection index : Expr)
  /-- A value passed through a filter. -/
  | filter (input : Expr) (name : String) (arguments : List Expr)
  /-- Whether a value passes a test. -/
  | test (operand : Expr) (name : String) (arguments : List Expr)
  /-- The result of a function. -/
  | call (function : Expr) (arguments : List Expr)
  | not (operand : Expr)
  | and (left right : Expr)
  | or (left right : Expr)
  deriving Repr, Inhabited

/-- Whether an expression has a value at all. -/
def Expr.isDefined (operand : Expr) : Expr :=
  .test operand "defined" []

/-- What a loop binds its items to. -/
inductive Target
  | name (variableName : String)
  /-- Each item is taken apart, one part for each target. -/
  | several (targets : List Target)
  deriving Repr, Inhabited

/-- A part of a template. -/
inductive Part
  /-- Text that is written as it is. -/
  | text (s : String)
  /-- The value of an expression. -/
  | output (value : Expr)
  /-- Parts that are written once for each item, and others if there is none. -/
  | each (target : Target) (items : Expr) (body otherwise : List Part)
  /-- Parts that are written under a condition, and others if it fails. -/
  | choice (condition : Expr) (yes no : List Part)
  /-- Gives a variable a value for what follows. -/
  | assign (target : String) (value : Expr)
  deriving Repr, Inhabited

end SchemaPress.Template

namespace SchemaPress

/-- A template. -/
abbrev Template := List Template.Part

end SchemaPress
