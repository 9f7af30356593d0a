import SchemaPress.Text.Printable

set_option autoImplicit false

/-! # Failures

Why a run can fail, and the one place where the reasons are put into words. -/

namespace SchemaPress

/-- Where a type expression breaks its grammar. -/
inductive TypeSyntaxFault
  | unexpectedEnd | expectedName | expectedSeparator | unterminatedString | invalidNumber
  | trailingInput
  deriving DecidableEq, Repr

namespace TypeSyntaxFault

/-- The fault in words. -/
def message : TypeSyntaxFault → String
  | unexpectedEnd => "unexpected end"
  | expectedName => "expected a type name"
  | expectedSeparator => "expected ',' or ']'"
  | unterminatedString => "unterminated string"
  | invalidNumber => "invalid number"
  | trailingInput => "trailing input"

end TypeSyntaxFault

/-- Why a type expression that keeps to its grammar denotes no type. -/
inductive TypeMeaningFault
  | strayLiteral
  | unsupportedLiteral
  | unexpectedArguments (name : String)
  deriving DecidableEq, Repr

namespace TypeMeaningFault

/-- The fault in words. -/
def message : TypeMeaningFault → String
  | strayLiteral => "literal value outside Literal[...]"
  | unsupportedLiteral => "unsupported literal"
  | unexpectedArguments name => "unexpected arguments for '" ++ name ++ "'"

end TypeMeaningFault

/-- What kept a file from being read or written. -/
inductive FileFault
  | missing | alreadyThere | notADirectory | isADirectory | nameTooLong | nullInName | notText
  deriving DecidableEq, Repr

namespace FileFault

/-- The fault in the words of the operating system. -/
def message : FileFault → String
  | missing => "No such file or directory (os error 2)"
  | alreadyThere => "File exists (os error 17)"
  | notADirectory => "Not a directory (os error 20)"
  | isADirectory => "Is a directory (os error 21)"
  | nameTooLong => "File name too long (os error 36)"
  | nullInName => "file name contained an unexpected NUL byte"
  | notText => "stream did not contain valid UTF-8"

end FileFault

/-- Why a run failed. -/
inductive Failure
  /-- A text is not JSON, or a value has not the type that is wanted. -/
  | invalidJson
  /-- A text is not YAML. -/
  | invalidYaml
  /-- A document is no JSON Schema. -/
  | invalidSchema
  /-- A document does not define models. -/
  | invalidModels
  /-- A schema points to something that is no definition. -/
  | unresolvedPointer (pointer : String)
  /-- A schema names a type that does not exist. -/
  | unsupportedType (name path : String)
  /-- A model is defined without a name. -/
  | namelessModel
  /-- A model is derived from one that is not defined. -/
  | unknownBase (base model : String)
  | typeSyntax (text : String) (position : Nat) (fault : TypeSyntaxFault)
  | typeMeaning (text : String) (fault : TypeMeaningFault)
  | unknownVersion (name : String)
  | unknownFlavor (name : String)
  | unknownFormat (name : String)
  /-- A model is built for no reference. -/
  | unboundModel
  /-- A model is built with an empty template. -/
  | noTemplate (model : String)
  /-- Two models are built for one reference. -/
  | alreadyBound (path : String) (model : Nat)
  /-- The fields of a dataclass are put in order while one of them mentions the class that is
      being built. -/
  | unfinishedModel
  | noInput
  | invalidCustomType (text : String)
  | templateNotFound (path : String)
  /-- A template cannot be read, compiled or rendered. -/
  | invalidTemplate
  | unwritable (fault : FileFault)
  | unreadableFile (path : String) (fault : FileFault)
  | unreadableInput (path : String) (fault : FileFault)
  | noOutputDirectory (fault : FileFault)
  deriving DecidableEq, Repr

/-- The kinds of failures. -/
inductive FailureKind
  | io | config | templateNotFound | template | input | general | defect
  deriving DecidableEq, Repr

namespace Failure

/-- The kind of a failure. -/
def kind : Failure → FailureKind
  | invalidJson | invalidYaml | invalidSchema | invalidModels | unresolvedPointer _
  | unsupportedType _ _ | namelessModel | unknownBase _ _ | typeSyntax _ _ _
  | typeMeaning _ _ => .input
  | unknownVersion _ | unknownFlavor _ | unknownFormat _ | unboundModel | noTemplate _
  | alreadyBound _ _ | noInput | invalidCustomType _ => .config
  | unfinishedModel => .defect
  | templateNotFound _ => .templateNotFound
  | invalidTemplate => .template
  | unwritable _ => .io
  | unreadableFile _ _ | unreadableInput _ _ | noOutputDirectory _ => .general

/-- A failure in words. -/
def message : Failure → String
  | invalidJson => "Input Error: JSON"
  | invalidYaml => "Input Error: YAML"
  | invalidSchema => "Input Error: Invalid JSON Schema"
  | invalidModels => "Input Error: Invalid models document"
  | unresolvedPointer pointer => "Input Error: Unresolvable reference: " ++ pointer
  | unsupportedType name path =>
    "Input Error: Unsupported type '" ++ name ++ "' at " ++ path
  | namelessModel => "Input Error: Model definition without a name"
  | unknownBase base model =>
    "Input Error: Unknown base class '" ++ base ++ "' of " ++ model
  | typeSyntax text position fault =>
    "Input Error: Invalid type expression '" ++ text ++ "' at " ++ toString position ++ ": " ++
      fault.message
  | typeMeaning text fault =>
    "Input Error: Invalid type expression '" ++ text ++ "': " ++ fault.message
  | unknownVersion name => "Configuration Error: Unsupported target Python version: " ++ name
  | unknownFlavor name => "Configuration Error: Unknown output model type: " ++ name
  | unknownFormat name => "Configuration Error: Unknown input file type: " ++ name
  | unboundModel => "Configuration Error: Model built without a reference"
  | noTemplate model => "Configuration Error: Model '" ++ model ++ "' has no template binding"
  | alreadyBound path model =>
    "Configuration Error: Reference '" ++ path ++ "' is already bound to model #" ++
      toString model
  | unfinishedModel => "Internal Error: a field mentions a model that is not finished"
  | noInput => "Configuration Error: No input file given (--input)"
  | invalidCustomType text =>
    "Configuration Error: Invalid custom type `" ++ text ++ "`, expected Name=module.Symbol"
  | templateNotFound path => "Template not found: " ++ path
  | invalidTemplate => "Template Error"
  | unwritable _ => "IO Error"
  | unreadableFile path fault =>
    "General Error: Failed to read " ++ Text.quotedText path ++ ": " ++ fault.message
  | unreadableInput path fault =>
    "General Error: Failed to read input " ++ Text.quotedText path ++ ": " ++ fault.message
  | noOutputDirectory fault =>
    "General Error: Failed to create output dir: " ++ fault.message

end Failure

end SchemaPress
