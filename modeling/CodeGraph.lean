import CodeGraph.Classification.Builtin
import CodeGraph.Classification.RuleSet
import CodeGraph.Classification.RuleTable
import CodeGraph.CommandLine.Arguments
import CodeGraph.CommandLine.Command
import CodeGraph.CommandLine.Execution
import CodeGraph.CommandLine.Host
import CodeGraph.CommandLine.Outcome
import CodeGraph.Construct
import CodeGraph.DataFormat
import CodeGraph.Digest.Sha256
import CodeGraph.Discovery.Basic
import CodeGraph.Discovery.Glob
import CodeGraph.Discovery.IgnoreFile
import CodeGraph.Extraction.Basic
import CodeGraph.Extraction.Capture
import CodeGraph.Extraction.Merging
import CodeGraph.Extraction.Parents
import CodeGraph.Graph.Corpus
import CodeGraph.Graph.Edge
import CodeGraph.Graph.Entity
import CodeGraph.Graph.Identifier
import CodeGraph.Graph.Json
import CodeGraph.Graph.Observation
import CodeGraph.Graph.SourceFile
import CodeGraph.Json.Basic
import CodeGraph.Json.Parser
import CodeGraph.Json.Printer
import CodeGraph.Json.Record
import CodeGraph.Language.Basic
import CodeGraph.Language.Catalog
import CodeGraph.Language.Convention
import CodeGraph.Language.Queries.Managed
import CodeGraph.Language.Queries.Native
import CodeGraph.Language.Queries.Scripting
import CodeGraph.Language.Queries.Shorthand
import CodeGraph.Language.Queries.Web
import CodeGraph.Main
import CodeGraph.Path
import CodeGraph.Proofs.Ascent
import CodeGraph.Proofs.Classification.Closure
import CodeGraph.Proofs.Classification.Compilation
import CodeGraph.Proofs.Classification.Spelling
import CodeGraph.Proofs.Computations
import CodeGraph.Proofs.Discovery.RelativePath
import CodeGraph.Proofs.Extraction.Anchors
import CodeGraph.Proofs.Extraction.Comments
import CodeGraph.Proofs.Extraction.Definitions
import CodeGraph.Proofs.Extraction.Enclosure
import CodeGraph.Proofs.Extraction.Entities
import CodeGraph.Proofs.Extraction.Evaluation
import CodeGraph.Proofs.Extraction.Kinds
import CodeGraph.Proofs.Extraction.Lines
import CodeGraph.Proofs.Extraction.Merging
import CodeGraph.Proofs.Extraction.Naming
import CodeGraph.Proofs.Extraction.Observations
import CodeGraph.Proofs.Extraction.OpenContainers
import CodeGraph.Proofs.Extraction.OwnerLinks
import CodeGraph.Proofs.Extraction.Ownership
import CodeGraph.Proofs.Extraction.ParentForest
import CodeGraph.Proofs.Extraction.QualifiedNames
import CodeGraph.Proofs.Extraction.RepeatedObservations
import CodeGraph.Proofs.Graph.EdgeSet
import CodeGraph.Proofs.Graph.EnclosingType
import CodeGraph.Proofs.Graph.Identifier
import CodeGraph.Proofs.Graph.Lookup
import CodeGraph.Proofs.Json.Reading
import CodeGraph.Proofs.Json.RoundTrip
import CodeGraph.Proofs.Json.Strings
import CodeGraph.Proofs.Language.Extension
import CodeGraph.Proofs.LeastItem
import CodeGraph.Proofs.Path.Collapse
import CodeGraph.Proofs.Path.Following
import CodeGraph.Proofs.Path.NormalForm
import CodeGraph.Proofs.Record.Batch
import CodeGraph.Proofs.Record.Completeness
import CodeGraph.Proofs.Record.Emission
import CodeGraph.Proofs.Record.JsonLines
import CodeGraph.Proofs.Record.Sink
import CodeGraph.Proofs.Repetitions
import CodeGraph.Proofs.Report.Tally
import CodeGraph.Proofs.Resolution.Choices
import CodeGraph.Proofs.Resolution.CommentRuns
import CodeGraph.Proofs.Resolution.Containment
import CodeGraph.Proofs.Resolution.Documentation
import CodeGraph.Proofs.Resolution.DocumentedFunctions
import CodeGraph.Proofs.Resolution.DottedNames
import CodeGraph.Proofs.Resolution.Edges
import CodeGraph.Proofs.Resolution.Ends
import CodeGraph.Proofs.Resolution.Evidence
import CodeGraph.Proofs.Resolution.Importing
import CodeGraph.Proofs.Resolution.Locality
import CodeGraph.Proofs.Resolution.Meaning
import CodeGraph.Proofs.Resolution.ModulePathWords
import CodeGraph.Proofs.Resolution.ModulePaths
import CodeGraph.Proofs.Resolution.Order
import CodeGraph.Proofs.Resolution.PackageDirectories
import CodeGraph.Proofs.Resolution.PackagePaths
import CodeGraph.Proofs.Resolution.Parameters
import CodeGraph.Proofs.Resolution.PathEndings
import CodeGraph.Proofs.Resolution.Preference
import CodeGraph.Proofs.Resolution.RelativeImports
import CodeGraph.Proofs.Resolution.SiblingModules
import CodeGraph.Proofs.Resolution.TestLinks
import CodeGraph.Proofs.Run.Accounting
import CodeGraph.Proofs.Run.Arrival
import CodeGraph.Proofs.Run.Faults
import CodeGraph.Proofs.Run.Identity
import CodeGraph.Proofs.Run.Origin
import CodeGraph.Proofs.Run.Outcomes
import CodeGraph.Proofs.Settings.Validity
import CodeGraph.Proofs.Sorting
import CodeGraph.Proofs.Storage.Basic
import CodeGraph.Proofs.Storage.Replacement
import CodeGraph.Proofs.SyntaxTree.Nesting
import CodeGraph.Proofs.SyntaxTree.Roles
import CodeGraph.Proofs.Text.ByteOrder
import CodeGraph.Proofs.Text.Characters
import CodeGraph.Proofs.Text.Lossy
import CodeGraph.Proofs.Text.Pieces
import CodeGraph.Proofs.Text.Trimming
import CodeGraph.Proofs.Text.Utf8
import CodeGraph.Proofs.Text.Words
import CodeGraph.Proofs.Vocabulary.Cache
import CodeGraph.Proofs.Vocabulary.Derivation
import CodeGraph.Proofs.Vocabulary.Soundness
import CodeGraph.Proofs.Vocabulary.Terms
import CodeGraph.Record.Basic
import CodeGraph.Record.Emission
import CodeGraph.Record.JsonLines
import CodeGraph.Record.PropertyMap
import CodeGraph.Record.Sink
import CodeGraph.RegularExpression.Basic
import CodeGraph.RegularExpression.CharacterSet
import CodeGraph.RegularExpression.Engine
import CodeGraph.RegularExpression.Parser
import CodeGraph.RegularExpression.Reading
import CodeGraph.Report.Basic
import CodeGraph.Report.Failure
import CodeGraph.Report.Json
import CodeGraph.Resolution.Basic
import CodeGraph.Resolution.Choice
import CodeGraph.Resolution.Containment
import CodeGraph.Resolution.Documentation
import CodeGraph.Resolution.Importing
import CodeGraph.Resolution.Reference
import CodeGraph.Run.Analyzer
import CodeGraph.Run.Basic
import CodeGraph.Run.Pool
import CodeGraph.Settings.Basic
import CodeGraph.Settings.Document
import CodeGraph.Sorting
import CodeGraph.SourceText
import CodeGraph.Storage.Basic
import CodeGraph.Storage.Replacement
import CodeGraph.SyntaxTree.Basic
import CodeGraph.SyntaxTree.Fault
import CodeGraph.SyntaxTree.Pattern
import CodeGraph.Text.Character
import CodeGraph.Text.Decimal
import CodeGraph.Text.Quoted
import CodeGraph.Text.Split
import CodeGraph.Text.Trim
import CodeGraph.Text.Unicode.CaseMapping
import CodeGraph.Text.Unicode.Category
import CodeGraph.Text.Unicode.Property
import CodeGraph.Text.Unicode.RangeTable
import CodeGraph.Text.Utf8
import CodeGraph.Toml.Parser
import CodeGraph.Toml.Scalar
import CodeGraph.Toml.Value
import CodeGraph.Vocabulary.Basic
import CodeGraph.Vocabulary.Builtin
import CodeGraph.Vocabulary.Cache
import CodeGraph.Vocabulary.TermSet
import CodeGraph.Vocabulary.Terms
import CodeGraph.Vocabulary.Turtle
import CodeGraph.Yaml.Parser
import CodeGraph.Yaml.Scalar
import CodeGraph.Yaml.Value
