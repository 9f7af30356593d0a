import SchemaPress.Template

set_option autoImplicit false

/-! # Built-in templates

The templates of the three flavors, one for classes with named fields and one for classes that
wrap a single type. They are put together from the parts that they share. -/

namespace SchemaPress.Template.Builtin

/-! ## Shared parts -/

/-- The value of a variable. -/
def write (name : String) : Part :=
  .output (.name name)

/-- The value of a field of a variable. -/
def writeField (name field : String) : Part :=
  .output (.field (.name name) field)

/-- A value with every line but the first indented like the body of a class. -/
def writeIndented (value : Expr) : Part :=
  .output (.filter value "indent" [.constant (.int 4)])

/-- Parts that are written if an expression is true. -/
def onlyIf (condition : Expr) (parts : List Part) : Part :=
  .choice condition parts []

/-- Parts that are written for each item of an expression. -/
def forEach (name : String) (items : Expr) (parts : List Part) : Part :=
  .each (.name name) items parts []

/-- The decorators, each on a line. -/
def decorators : Part :=
  forEach "decorator" (.name "decorators") [write "decorator", .text "\n"]

/-- The comment behind the head of a class. -/
def comment : Part :=
  onlyIf (.isDefined (.name "comment")) [.text "  # ", write "comment"]

/-- A text as a docstring in the body of a class, if there is one. -/
def docstring (text : Expr) : Part :=
  onlyIf text [.text "\n    \"\"\"\n    ", writeIndented text, .text "\n    \"\"\""]

/-- The head of a class with base classes, up to its docstring. -/
def classHead : List Part :=
  [decorators, .text "class ", write "class_name", .text "(", write "base_class", .text "):",
    comment, docstring (.name "description")]

/-- The default of a field, if it is written behind the hint. -/
def fieldDefault : Part :=
  onlyIf (.field (.name "field") "renders_default")
    [.text " = ", writeField "field" "represented_default"]

/-- An attribute with its hint and perhaps its default; `head` stands before the colon. -/
def plainAttribute (head : List Part) : List Part :=
  head ++ [writeField "field" "type_hint", fieldDefault]

/-- An attribute with its hint and its call. -/
def calledAttribute (head : List Part) : List Part :=
  head ++ [writeField "field" "type_hint", .text " = ", writeField "field" "field"]

/-- An attribute whose annotation holds its call. -/
def annotatedAttribute (head : List Part) : List Part :=
  head ++ [writeField "field" "annotated", fieldDefault]

/-- An attribute of a pydantic class. -/
def fieldLine (head : List Part) : Part :=
  .choice (.field (.name "field") "annotated") (annotatedAttribute head)
    [.choice (.field (.name "field") "field") (calledAttribute head) (plainAttribute head)]

/-- The name of the field on a line of its own. -/
def fieldHead : List Part :=
  [.text "\n    ", writeField "field" "name", .text ": "]

/-- All attributes of a class, each with its docstring. -/
def attributes (line : Part) : Part :=
  forEach "field" (.name "fields") [line, docstring (.field (.name "field") "docstring")]

/-- The single attribute of a class that wraps a type. -/
def rootAttribute (name : String) : Part :=
  .choice (.not (.name "fields")) [.text ("\n    " ++ name ++ ": Any")]
    [.assign "field" (.item (.name "fields") (.constant (.int 0))),
      fieldLine [.text ("\n    " ++ name ++ ": ")]]

/-- The methods, each behind an empty line. -/
def methods : Part :=
  forEach "method" (.name "methods") [.text "\n\n    ", writeIndented (.name "method")]

/-- The statement of an otherwise empty body. -/
def pass : List Part :=
  [.text "\n    pass"]

/-- The configuration of a pydantic 2 class. -/
def configDict : Part :=
  onlyIf (.name "config")
    [.text "\n    model_config = ConfigDict(",
      forEach "entry" (.name "config")
        [.text "\n        ", writeField "entry" "key", .text "=", writeField "entry" "value",
          .text ","],
      .text "\n    )"]

/-- The configuration of a pydantic 1 class. -/
def configClass : Part :=
  onlyIf (.name "config")
    [.text "\n\n    class Config:",
      forEach "entry" (.name "config")
        [.text "\n        ", writeField "entry" "key", .text " = ", writeField "entry" "value"]]

/-- Whether a pydantic class has nothing in its body. -/
def hasEmptyBody : Expr :=
  .and (.not (.name "fields")) (.and (.not (.name "description")) (.not (.name "config")))

/-! ## Templates -/

/-- A pydantic 2 class with named fields. -/
def pydantic2Base : Template :=
  classHead ++
    [onlyIf hasEmptyBody pass, configDict, attributes (fieldLine fieldHead), methods]

/-- A pydantic 2 class that wraps a type. -/
def pydantic2Root : Template :=
  classHead ++ [configDict, rootAttribute "root", methods]

/-- A pydantic 1 class with named fields. -/
def pydantic1Base : Template :=
  classHead ++
    [onlyIf hasEmptyBody pass, attributes (fieldLine fieldHead), configClass, methods]

/-- A pydantic 1 class that wraps a type. -/
def pydantic1Root : Template :=
  classHead ++ [rootAttribute "__root__", configClass, methods]

/-- A dataclass. -/
def dataclassBase : Template :=
  [decorators, .text "class ", write "class_name",
    onlyIf (.name "base_class") [.text "(", write "base_class", .text ")"], .text ":",
    comment, docstring (.name "description"),
    onlyIf (.and (.not (.name "fields")) (.not (.name "description"))) pass,
    attributes
      (.choice (.field (.name "field") "field") (calledAttribute fieldHead)
        (plainAttribute fieldHead)),
    methods]

/-- Another name for a type, with the description as a comment. -/
def dataclassRoot : Template :=
  [onlyIf (.name "description")
      [.text "# ",
        .output (.filter (.name "description") "replace"
          [.constant (.str "\n"), .constant (.str "\n# ")]),
        .text "\n"],
    write "class_name", .text " = ",
    .choice (.name "fields")
      [.output (.field (.item (.name "fields") (.constant (.int 0))) "type_hint")] [.text "Any"]]

/-- The built-in templates by their identifiers. -/
def all : Entries Template :=
  [("pydantic_v2/BaseModel.jinja2", pydantic2Base),
    ("pydantic_v2/RootModel.jinja2", pydantic2Root),
    ("pydantic/BaseModel.jinja2", pydantic1Base),
    ("pydantic/BaseModel_root.jinja2", pydantic1Root),
    ("dataclass.jinja2", dataclassBase),
    ("dataclass_root.jinja2", dataclassRoot)]

end SchemaPress.Template.Builtin
