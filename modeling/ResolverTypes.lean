import ResolverTypes.Command.Arguments
import ResolverTypes.Command.Color
import ResolverTypes.Command.ExitCode
import ResolverTypes.Command.Help
import ResolverTypes.Command.Run
import ResolverTypes.Command.Similarity
import ResolverTypes.Config.Basic
import ResolverTypes.Config.Codec
import ResolverTypes.Config.Discovery
import ResolverTypes.Config.Loading
import ResolverTypes.Config.Selection
import ResolverTypes.Config.Settings
import ResolverTypes.Contract.Abstract
import ResolverTypes.Contract.Assembly
import ResolverTypes.Contract.BindingWarning
import ResolverTypes.Contract.Field
import ResolverTypes.Contract.Generation
import ResolverTypes.Contract.Group
import ResolverTypes.Contract.Options
import ResolverTypes.Contract.ValueType
import ResolverTypes.Data.Decimal
import ResolverTypes.Data.NameMap
import ResolverTypes.Data.Value
import ResolverTypes.Disk.FilePath
import ResolverTypes.Disk.FileTree
import ResolverTypes.Disk.Matching
import ResolverTypes.Disk.Pattern
import ResolverTypes.Graph.Basic
import ResolverTypes.Graph.Lowering
import ResolverTypes.Graph.Relations
import ResolverTypes.Graph.TypeRef
import ResolverTypes.Json.Reader
import ResolverTypes.Layout.ArrowReader
import ResolverTypes.Layout.Basic
import ResolverTypes.Layout.ClassReader
import ResolverTypes.Layout.Comment
import ResolverTypes.Layout.DeclarationReader
import ResolverTypes.Layout.Format
import ResolverTypes.Layout.FunctionReader
import ResolverTypes.Layout.Grammar
import ResolverTypes.Layout.ModuleReader
import ResolverTypes.Layout.ObjectReader
import ResolverTypes.Layout.PatternReader
import ResolverTypes.Layout.Reader
import ResolverTypes.Layout.Scan
import ResolverTypes.Layout.StatementReader
import ResolverTypes.Layout.Token
import ResolverTypes.Layout.TypeReader
import ResolverTypes.Layout.ValueReader
import ResolverTypes.Main
import ResolverTypes.Project.Output
import ResolverTypes.Project.Placement
import ResolverTypes.Project.SchemaFiles
import ResolverTypes.Proofs.Command.CommandStages
import ResolverTypes.Proofs.Command.GenerateThenCheck
import ResolverTypes.Proofs.Contract.AbstractContract
import ResolverTypes.Proofs.Contract.AddedObject
import ResolverTypes.Proofs.Contract.Aggregate
import ResolverTypes.Proofs.Contract.AssembledDocument
import ResolverTypes.Proofs.Contract.BindingWarnings
import ResolverTypes.Proofs.Contract.ContractShape
import ResolverTypes.Proofs.Contract.DefaultResolvers
import ResolverTypes.Proofs.Contract.DefinitionOrder
import ResolverTypes.Proofs.Contract.DocumentText
import ResolverTypes.Proofs.Contract.EnumClosure
import ResolverTypes.Proofs.Contract.ExactWarnings
import ResolverTypes.Proofs.Contract.FieldContract
import ResolverTypes.Proofs.Contract.ImportedNames
import ResolverTypes.Proofs.Contract.InputClosure
import ResolverTypes.Proofs.Contract.NameCapture
import ResolverTypes.Proofs.Contract.NameCollisions
import ResolverTypes.Proofs.Contract.ObjectContract
import ResolverTypes.Proofs.Contract.QuotedStrings
import ResolverTypes.Proofs.Contract.ReservedNames
import ResolverTypes.Proofs.Contract.StrayNames
import ResolverTypes.Proofs.Contract.UnusedModels
import ResolverTypes.Proofs.Contract.ValueWrapping
import ResolverTypes.Proofs.Contract.WellFormedDocument
import ResolverTypes.Proofs.Data.FirstOccurrences
import ResolverTypes.Proofs.Data.NameLookup
import ResolverTypes.Proofs.Data.Success
import ResolverTypes.Proofs.Disk.AncestorPaths
import ResolverTypes.Proofs.Disk.BracketPatterns
import ResolverTypes.Proofs.Disk.FileChanges
import ResolverTypes.Proofs.Disk.FoundPaths
import ResolverTypes.Proofs.Disk.LiteralPatterns
import ResolverTypes.Proofs.Disk.PathParts
import ResolverTypes.Proofs.Graph.AbstractTypes
import ResolverTypes.Proofs.Graph.AddedObject
import ResolverTypes.Proofs.Graph.BuiltInReferences
import ResolverTypes.Proofs.Graph.DefinitionOrder
import ResolverTypes.Proofs.Graph.DistinctParts
import ResolverTypes.Proofs.Graph.InputReach
import ResolverTypes.Proofs.Graph.InputSearch
import ResolverTypes.Proofs.Graph.LoweredGraph
import ResolverTypes.Proofs.Graph.ReferenceSpelling
import ResolverTypes.Proofs.Graph.References
import ResolverTypes.Proofs.Graph.Representation
import ResolverTypes.Proofs.Graph.UnknownTypes
import ResolverTypes.Proofs.Graph.ValidGraph
import ResolverTypes.Proofs.Project.BlankNames
import ResolverTypes.Proofs.Project.CheckedProjects
import ResolverTypes.Proofs.Project.ConfigRoundTrip
import ResolverTypes.Proofs.Project.NearestConfig
import ResolverTypes.Proofs.Project.OutputWriting
import ResolverTypes.Proofs.Project.PatternExpansion
import ResolverTypes.Proofs.Project.PlainSchemaPath
import ResolverTypes.Proofs.Project.ProjectChecks
import ResolverTypes.Proofs.Project.ProjectSelection
import ResolverTypes.Proofs.Schema.BuiltInTypes
import ResolverTypes.Proofs.Schema.MergedTypes
import ResolverTypes.Proofs.Schema.MergingSteps
import ResolverTypes.Proofs.Schema.NameReading
import ResolverTypes.Proofs.Schema.NameTokens
import ResolverTypes.Proofs.Schema.Progress
import ResolverTypes.Proofs.Schema.TypeSyntaxReading
import ResolverTypes.Proofs.Text.EditDistance
import ResolverTypes.Proofs.TypeScript.Alternatives
import ResolverTypes.Proofs.TypeScript.DocumentReading
import ResolverTypes.Proofs.TypeScript.Nodes
import ResolverTypes.Proofs.TypeScript.StringLiteral
import ResolverTypes.Proofs.TypeScript.TextReader
import ResolverTypes.Proofs.TypeScript.TypeReading
import ResolverTypes.Proofs.TypeScript.UnionLaws
import ResolverTypes.Proofs.TypeScript.UnionOrder
import ResolverTypes.Proofs.TypeScript.WellFormed
import ResolverTypes.Proofs.TypeScript.WithinText
import ResolverTypes.Schema.Basic
import ResolverTypes.Schema.Definition
import ResolverTypes.Schema.Merge
import ResolverTypes.Schema.Parser
import ResolverTypes.Schema.Position
import ResolverTypes.Schema.Problem
import ResolverTypes.Schema.Reader
import ResolverTypes.Schema.Sources
import ResolverTypes.Schema.Token
import ResolverTypes.Schema.Validation.Basic
import ResolverTypes.Schema.Validation.Cycle
import ResolverTypes.Schema.Validation.Directive
import ResolverTypes.Schema.Validation.Interface
import ResolverTypes.Text.Blank
import ResolverTypes.Text.EditDistance
import ResolverTypes.Text.Identifier
import ResolverTypes.Text.Lines
import ResolverTypes.Text.Quoted
import ResolverTypes.Text.UpperCase
import ResolverTypes.Text.Width
import ResolverTypes.TypeScript.Declaration
import ResolverTypes.TypeScript.Document
import ResolverTypes.TypeScript.Render
import ResolverTypes.TypeScript.TypeExpr
import ResolverTypes.Yaml.Document
import ResolverTypes.Yaml.Node
import ResolverTypes.Yaml.Reader
import ResolverTypes.Yaml.Scalar
import ResolverTypes.Yaml.Tag
import ResolverTypes.Yaml.Token
