import SchemaPress.Arguments
import SchemaPress.Collapse
import SchemaPress.Command
import SchemaPress.Config
import SchemaPress.Constraint
import SchemaPress.Decode
import SchemaPress.Digraph
import SchemaPress.Document
import SchemaPress.Entries
import SchemaPress.Extras
import SchemaPress.Failure
import SchemaPress.Field
import SchemaPress.Field.Call
import SchemaPress.Field.View
import SchemaPress.FileAccess
import SchemaPress.Flavor
import SchemaPress.Generator
import SchemaPress.Graph
import SchemaPress.Header
import SchemaPress.Held
import SchemaPress.Import
import SchemaPress.ImportBlock
import SchemaPress.Instant
import SchemaPress.Json.Number
import SchemaPress.Json.Reader
import SchemaPress.Json.Writer
import SchemaPress.Main
import SchemaPress.Model
import SchemaPress.ModelsDocument
import SchemaPress.Module
import SchemaPress.Number.Binary64
import SchemaPress.Number.Layout
import SchemaPress.Number.Shortest
import SchemaPress.Options
import SchemaPress.Path
import SchemaPress.Proofs.Arena
import SchemaPress.Proofs.Arena.Calls
import SchemaPress.Proofs.Arena.FreshName
import SchemaPress.Proofs.Arena.NameSearch
import SchemaPress.Proofs.Arena.Renaming
import SchemaPress.Proofs.Collapse
import SchemaPress.Proofs.Collapse.Rounds
import SchemaPress.Proofs.Collapse.Substitution
import SchemaPress.Proofs.Config
import SchemaPress.Proofs.Config.Precedence
import SchemaPress.Proofs.Constraint
import SchemaPress.Proofs.Constraint.Coercion
import SchemaPress.Proofs.Digraph.Components
import SchemaPress.Proofs.Digraph.Order
import SchemaPress.Proofs.Digraph.Reach
import SchemaPress.Proofs.Digraph.Turn
import SchemaPress.Proofs.Entries
import SchemaPress.Proofs.Field.Carried
import SchemaPress.Proofs.Field.Lookup
import SchemaPress.Proofs.Field.Mutable
import SchemaPress.Proofs.Field.Required
import SchemaPress.Proofs.Field.Written
import SchemaPress.Proofs.Graph.Batch
import SchemaPress.Proofs.Graph.Built
import SchemaPress.Proofs.Graph.Calls
import SchemaPress.Proofs.Graph.ClassNames
import SchemaPress.Proofs.Graph.Defined
import SchemaPress.Proofs.Graph.FieldOrder
import SchemaPress.Proofs.Graph.FirstNames
import SchemaPress.Proofs.Graph.Grow
import SchemaPress.Proofs.Graph.Hints
import SchemaPress.Proofs.Graph.InPlace
import SchemaPress.Proofs.Graph.Order
import SchemaPress.Proofs.Graph.Rebuild
import SchemaPress.Proofs.Graph.Turn
import SchemaPress.Proofs.Graph.Unfinished
import SchemaPress.Proofs.Graph.WrittenBefore
import SchemaPress.Proofs.ImportBlock
import SchemaPress.Proofs.Json.Number
import SchemaPress.Proofs.Json.Numeral
import SchemaPress.Proofs.Model.Imports
import SchemaPress.Proofs.Model.Parts
import SchemaPress.Proofs.Model.Written
import SchemaPress.Proofs.Python.ClassName
import SchemaPress.Proofs.Python.Identifier
import SchemaPress.Proofs.Python.Literal
import SchemaPress.Proofs.Python.Punctuation
import SchemaPress.Proofs.Python.TripleQuoted
import SchemaPress.Proofs.Results
import SchemaPress.Proofs.Schema.Address
import SchemaPress.Proofs.Schema.DefinitionNames
import SchemaPress.Proofs.Schema.Distinct
import SchemaPress.Proofs.Schema.Lowering
import SchemaPress.Proofs.Schema.Models
import SchemaPress.Proofs.Schema.Nullable
import SchemaPress.Proofs.Schema.Properties
import SchemaPress.Proofs.Spelling
import SchemaPress.Proofs.Template.Bodies
import SchemaPress.Proofs.Template.Classes
import SchemaPress.Proofs.Template.Docstrings
import SchemaPress.Proofs.Template.Sessions
import SchemaPress.Proofs.Text.Cut
import SchemaPress.Proofs.Text.Uppercase
import SchemaPress.Proofs.TypeExpr.Grammar
import SchemaPress.Proofs.TypeExpr.Quoted
import SchemaPress.Proofs.TypeExpr.RoundTrip
import SchemaPress.Proofs.TypeTree.Grammar
import SchemaPress.Proofs.TypeTree.Imports
import SchemaPress.Proofs.TypeTree.Nodes
import SchemaPress.Proofs.TypeTree.Optional
import SchemaPress.Proofs.TypeTree.Ways
import SchemaPress.Proofs.TypeTree.Written
import SchemaPress.Python.Literal
import SchemaPress.Python.Name
import SchemaPress.Python.Version
import SchemaPress.Reference
import SchemaPress.Schema
import SchemaPress.SchemaDocument
import SchemaPress.Settings
import SchemaPress.Sorted
import SchemaPress.Source
import SchemaPress.Template
import SchemaPress.Template.Builtin
import SchemaPress.Template.Datum
import SchemaPress.Template.Reader
import SchemaPress.Template.Render
import SchemaPress.Template.Resolver
import SchemaPress.Template.Shown
import SchemaPress.Template.Token
import SchemaPress.Text.Character
import SchemaPress.Text.Cut
import SchemaPress.Text.Letter
import SchemaPress.Text.Numeral
import SchemaPress.Text.Printable
import SchemaPress.Text.Uppercase
import SchemaPress.TypeExpr
import SchemaPress.TypeRegistry
import SchemaPress.TypeTree
import SchemaPress.TypeTree.Hint
import SchemaPress.Value
import SchemaPress.Yaml.Cursor
import SchemaPress.Yaml.Node
import SchemaPress.Yaml.Scalar
import SchemaPress.Yaml.Source
import SchemaPress.Yaml.Tag
import SchemaPress.Yaml.Token
import SchemaPress.Yaml.Value
