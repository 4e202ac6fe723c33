import OpenApiSharp.Keyed
import OpenApiSharp.Text.CodePoint
import OpenApiSharp.Text.Case
import OpenApiSharp.Text.Letter
import OpenApiSharp.Naming.Identifier
import OpenApiSharp.Text.Search
import OpenApiSharp.Naming.ServiceName
import OpenApiSharp.Report
import OpenApiSharp.Decimal
import OpenApiSharp.Document.Scalar
import OpenApiSharp.Document.Value
import OpenApiSharp.Specification
import OpenApiSharp.CSharp.TypeTree
import OpenApiSharp.Naming.Category
import OpenApiSharp.Schema
import OpenApiSharp.Model.Inventory
import OpenApiSharp.CSharp.Source
import OpenApiSharp.Document.JsonText
import OpenApiSharp.Model.Declaration
import OpenApiSharp.Service.Operation
import OpenApiSharp.Service.Method
import OpenApiSharp.Service.Declaration
import OpenApiSharp.Generate
import OpenApiSharp.Document.Json
import OpenApiSharp.Text.Printable
import OpenApiSharp.Files
import OpenApiSharp.Text.Utf8
import OpenApiSharp.Yaml.Graph
import OpenApiSharp.Yaml.Token
import OpenApiSharp.Yaml.Scalar
import OpenApiSharp.Yaml.Composition
import OpenApiSharp.Yaml.Mark
import OpenApiSharp.Yaml.ScalarText
import OpenApiSharp.Yaml.Lexer
import OpenApiSharp.Yaml.Meaning
import OpenApiSharp.Loading
import OpenApiSharp.CommandLine.Request
import OpenApiSharp.CommandLine.Plan
import OpenApiSharp.CommandLine.Effect
import OpenApiSharp.Main
import OpenApiSharp.Proofs.Text.LowerCase
import OpenApiSharp.Proofs.Naming.Fresh
import OpenApiSharp.Proofs.Related
import OpenApiSharp.Proofs.Report
import OpenApiSharp.Proofs.Keyed
import OpenApiSharp.Proofs.Document.Value
import OpenApiSharp.Proofs.Specification
import OpenApiSharp.Proofs.Text.Lines
import OpenApiSharp.Proofs.Text.Search
import OpenApiSharp.Proofs.CSharp.Comment
import OpenApiSharp.Proofs.Documentation.Document
import OpenApiSharp.Proofs.Model.Inventory
import OpenApiSharp.Proofs.Documentation.Model
import OpenApiSharp.Proofs.Service.Survey
import OpenApiSharp.Proofs.Service.Parameters
import OpenApiSharp.Proofs.Documentation.Endpoint
import OpenApiSharp.Proofs.Naming.ParameterName
import OpenApiSharp.Proofs.CSharp.Literal
import OpenApiSharp.Proofs.Service.UrlParts
import OpenApiSharp.Proofs.Service.UrlExpression
import OpenApiSharp.Proofs.Service.RequestedUrl
import OpenApiSharp.Proofs.Documentation.Service
import OpenApiSharp.Proofs.CSharp.SourceLines
import OpenApiSharp.Proofs.CSharp.Using
import OpenApiSharp.Proofs.Naming.Segment
import OpenApiSharp.Proofs.CSharp.TypeTree
import OpenApiSharp.Proofs.Schema.Resolve
import OpenApiSharp.Proofs.CSharp.ShownText
import OpenApiSharp.Proofs.Service.Grouping
import OpenApiSharp.Proofs.Service.Signatures
import OpenApiSharp.Proofs.Service.ShownLines
import OpenApiSharp.Proofs.Naming.Candidate
import OpenApiSharp.Proofs.Naming.Legal
import OpenApiSharp.Proofs.Naming.Member
import OpenApiSharp.Proofs.Naming.Verbatim
import OpenApiSharp.Proofs.Service.ArgumentNames
import OpenApiSharp.Proofs.Files.Walk
import OpenApiSharp.Proofs.Files.Write
import OpenApiSharp.Proofs.Model.UniqueNames
import OpenApiSharp.Proofs.Model.Members
import OpenApiSharp.Proofs.Generate.DefinitionOrder
import OpenApiSharp.Proofs.Model.ReadBack
import OpenApiSharp.Proofs.Model.ShownKeys
import OpenApiSharp.Proofs.Keyed.Arrival
import OpenApiSharp.Proofs.Model.IndexHistory
import OpenApiSharp.Proofs.Generate.Redefinition
import OpenApiSharp.Proofs.Generate.Accounting
import OpenApiSharp.Proofs.Generate.KeptDefinitions
import OpenApiSharp.Proofs.Generate.Imports
import OpenApiSharp.Proofs.Generate.Placement
import OpenApiSharp.Proofs.Generate.DistinctPaths
import OpenApiSharp.Proofs.Generate.KeptLines
import OpenApiSharp.Proofs.Generate.LegalNames
import OpenApiSharp.Proofs.Generate.Documentation
import OpenApiSharp.Proofs.Generate.Settings
import OpenApiSharp.Proofs.Generate.ServiceTypes
import OpenApiSharp.Proofs.Schema.QuotedKeys
import OpenApiSharp.Proofs.Schema.Body
import OpenApiSharp.Proofs.Schema.Required
import OpenApiSharp.Proofs.Naming.OperationId
import OpenApiSharp.Proofs.Text.Encoding
import OpenApiSharp.Proofs.Naming.Plural
import OpenApiSharp.Proofs.CommandLine.Inspection
import OpenApiSharp.Proofs.CommandLine.Effect
import OpenApiSharp.Proofs.Naming.Category
import OpenApiSharp.Proofs.Naming.ServiceToken
