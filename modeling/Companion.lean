import Companion.Code.Cursor
import Companion.Code.Grammar
import Companion.Code.Grammar.Basic
import Companion.Code.Grammar.Expressions
import Companion.Code.Grammar.Items
import Companion.Code.Grammar.Patterns
import Companion.Code.Grammar.Statements
import Companion.Code.Grammar.Types
import Companion.Code.Lexer
import Companion.Code.Number
import Companion.Code.StringLiteral
import Companion.Code.TypeExpr
import Companion.CommandLine.Execute
import Companion.CommandLine.Form
import Companion.CommandLine.Request
import Companion.Config.Basic
import Companion.Contract.Synthesis
import Companion.Contract.Table
import Companion.Contract.Validator
import Companion.Decimal.Layout
import Companion.Decimal.Shortest
import Companion.Decimal.Word
import Companion.Declaration.Basic
import Companion.Declaration.Canonical
import Companion.Declaration.Reader
import Companion.Declaration.Schema
import Companion.Declaration.Source
import Companion.Diagnostic.Basic
import Companion.Diagnostic.Buffer
import Companion.Diagnostic.Checked
import Companion.Digest.Sha256
import Companion.Emit.Artifact
import Companion.Emit.Emitter
import Companion.Files.Path
import Companion.Files.Tree
import Companion.Generate.Basic
import Companion.Generate.Builder
import Companion.Generate.Converter
import Companion.Generate.Report
import Companion.Generate.Run
import Companion.Generate.Subclass
import Companion.Generate.Workers
import Companion.Intercept.Body
import Companion.Intercept.Weave
import Companion.Json.Basic
import Companion.Json.Number
import Companion.Json.Reader
import Companion.Main
import Companion.Model.Basic
import Companion.Model.Batch
import Companion.Model.Build
import Companion.Pattern.Ast
import Companion.Pattern.CharSet
import Companion.Pattern.Match
import Companion.Pattern.Node
import Companion.Pattern.Parser
import Companion.Pattern.Resolve
import Companion.Pattern.Size
import Companion.Project.Basic
import Companion.Project.Metadata
import Companion.Proofs.Code.Alike
import Companion.Proofs.Code.AlikeForms
import Companion.Proofs.Code.Arithmetic
import Companion.Proofs.Code.Bindings
import Companion.Proofs.Code.Borders
import Companion.Proofs.Code.Closures
import Companion.Proofs.Code.Conditions
import Companion.Proofs.Code.Forms
import Companion.Proofs.Code.Fragments
import Companion.Proofs.Code.Identifiers
import Companion.Proofs.Code.Leaves
import Companion.Proofs.Code.Lexemes
import Companion.Proofs.Code.Lexing
import Companion.Proofs.Code.Names
import Companion.Proofs.Code.Readers
import Companion.Proofs.Code.Reading
import Companion.Proofs.Code.Relaid
import Companion.Proofs.Code.Relaying
import Companion.Proofs.Code.Spanning
import Companion.Proofs.Code.Spliced
import Companion.Proofs.Code.StringLiterals
import Companion.Proofs.Code.Trees
import Companion.Proofs.Code.Written
import Companion.Proofs.Config.FileNames
import Companion.Proofs.Contract.Findings
import Companion.Proofs.Contract.Messages
import Companion.Proofs.Contract.Numbers
import Companion.Proofs.Contract.Table
import Companion.Proofs.Decimal.Layout
import Companion.Proofs.Declaration.Canonical
import Companion.Proofs.Declaration.Source
import Companion.Proofs.Diagnostic.Handover
import Companion.Proofs.Diagnostic.Reports
import Companion.Proofs.Emit.Balance
import Companion.Proofs.Emit.Elses
import Companion.Proofs.Emit.Forest
import Companion.Proofs.Emit.Functions
import Companion.Proofs.Emit.Layout
import Companion.Proofs.Emit.Meaning
import Companion.Proofs.Emit.Rejection
import Companion.Proofs.Emit.Storage
import Companion.Proofs.Emit.Text
import Companion.Proofs.Emit.WriteOnce
import Companion.Proofs.Files.Path
import Companion.Proofs.Generate.Agreement
import Companion.Proofs.Generate.Completeness
import Companion.Proofs.Generate.Construction
import Companion.Proofs.Generate.Converters
import Companion.Proofs.Generate.Delivery
import Companion.Proofs.Generate.Emission
import Companion.Proofs.Generate.Endings
import Companion.Proofs.Generate.Files
import Companion.Proofs.Generate.Fragments
import Companion.Proofs.Generate.Independence
import Companion.Proofs.Generate.Interface
import Companion.Proofs.Generate.Names
import Companion.Proofs.Generate.Outcomes
import Companion.Proofs.Generate.Parsing
import Companion.Proofs.Generate.Records
import Companion.Proofs.Generate.Refusals
import Companion.Proofs.Generate.Schedules
import Companion.Proofs.Generate.Workers
import Companion.Proofs.Intercept.Keys
import Companion.Proofs.Intercept.Phases
import Companion.Proofs.Intercept.Scope
import Companion.Proofs.Intercept.Weave
import Companion.Proofs.Json.Compact
import Companion.Proofs.Model.Batch
import Companion.Proofs.Model.Build
import Companion.Proofs.Model.CyclePaths
import Companion.Proofs.Model.Cycles
import Companion.Proofs.Model.Examination
import Companion.Proofs.Model.Hierarchy
import Companion.Proofs.Model.Identifiers
import Companion.Proofs.Model.Methods
import Companion.Proofs.Model.Reports
import Companion.Proofs.Model.Visibility
import Companion.Proofs.Pattern.Anchoring
import Companion.Proofs.Pattern.Constructs
import Companion.Proofs.Pattern.Consumption
import Companion.Proofs.Pattern.Locality
import Companion.Proofs.Project.Discovery
import Companion.Proofs.Project.Freshness
import Companion.Proofs.Project.Recording
import Companion.Proofs.Project.Saving
import Companion.Proofs.Project.Staleness
import Companion.Proofs.Results
import Companion.Proofs.Text.Basic
import Companion.Proofs.Text.Dictionary
import Companion.Proofs.Text.FormatString
import Companion.Proofs.Text.Template
import Companion.Proofs.TypeRef.Assignable
import Companion.Proofs.TypeRef.Flat
import Companion.Proofs.TypeRef.OwnType
import Companion.Proofs.TypeRef.Rereading
import Companion.Proofs.TypeRef.RoundTrip
import Companion.Proofs.Value.Admission
import Companion.Proofs.Value.Insertion
import Companion.Proofs.Value.Keys
import Companion.Proofs.Value.Normalisation
import Companion.Proofs.Value.Order
import Companion.Proofs.Value.Records
import Companion.Proofs.Value.RoundTrip
import Companion.Proofs.Yaml.Composed
import Companion.Proofs.Yaml.Lexing
import Companion.Proofs.Yaml.Reading
import Companion.Proofs.Yaml.Values
import Companion.Proofs.Yaml.Written
import Companion.Text.Basic
import Companion.Text.Template
import Companion.TypeRef.Assignable
import Companion.TypeRef.Basic
import Companion.TypeRef.Queries
import Companion.Unicode.Age
import Companion.Unicode.Bytes
import Companion.Unicode.CaseFold
import Companion.Unicode.Category
import Companion.Unicode.Identifier
import Companion.Unicode.Property
import Companion.Unicode.Ranges
import Companion.Unicode.Script
import Companion.Unicode.Segmentation
import Companion.Value.Basic
import Companion.Value.Decoder
import Companion.Value.Json
import Companion.Value.Leaf
import Companion.Yaml.Lexer
import Companion.Yaml.Lexer.Block
import Companion.Yaml.Lexer.Cursor
import Companion.Yaml.Lexer.Flow
import Companion.Yaml.Lexer.Tag
import Companion.Yaml.Node
import Companion.Yaml.Reader
import Companion.Yaml.Scalar
import Companion.Yaml.Writer
