import SymbolNav.Domain.Basic
import SymbolNav.Domain.Direction
import SymbolNav.Domain.Joining
import SymbolNav.Domain.MappingTable
import SymbolNav.Domain.Punycode
import SymbolNav.Draft.Basic
import SymbolNav.Draft.Definitions
import SymbolNav.Draft.DocTags
import SymbolNav.Draft.Nodes
import SymbolNav.Draft.Step
import SymbolNav.Draft.Units
import SymbolNav.FileName
import SymbolNav.FileTree
import SymbolNav.Json.Basic
import SymbolNav.Json.Decode
import SymbolNav.Json.Number
import SymbolNav.Json.Printer
import SymbolNav.Json.Reader
import SymbolNav.Markup.Scan
import SymbolNav.Markup.Tree
import SymbolNav.Navigation.Answer
import SymbolNav.Navigation.Context
import SymbolNav.Navigation.Definition
import SymbolNav.Navigation.DocReference
import SymbolNav.Navigation.Locate
import SymbolNav.Navigation.MarkupTarget
import SymbolNav.Navigation.Resolve
import SymbolNav.Navigation.Scope
import SymbolNav.Path
import SymbolNav.Project
import SymbolNav.Proofs.Navigation.Agreement
import SymbolNav.Proofs.Navigation.Answers
import SymbolNav.Proofs.Navigation.Circles
import SymbolNav.Proofs.Navigation.Tree
import SymbolNav.Proofs.Navigation.Walks
import SymbolNav.Proofs.Rename.Application
import SymbolNav.Proofs.Rename.Cursor
import SymbolNav.Proofs.Rename.Disjoint
import SymbolNav.Proofs.Rename.Occurrences
import SymbolNav.Proofs.Rename.Overrides
import SymbolNav.Proofs.Rename.Plan
import SymbolNav.Proofs.Rename.Stability
import SymbolNav.Proofs.Requests.Includes
import SymbolNav.Proofs.Requests.Namespaces
import SymbolNav.Proofs.Requests.Termination
import SymbolNav.Proofs.Text.Boundaries
import SymbolNav.Proofs.Text.Positions
import SymbolNav.Proofs.Text.Search
import SymbolNav.Protocol.Capabilities
import SymbolNav.Protocol.Params
import SymbolNav.Protocol.Requests
import SymbolNav.Protocol.Shape
import SymbolNav.Protocol.Start
import SymbolNav.Protocol.Writer
import SymbolNav.Rename.Disjoint
import SymbolNav.Rename.Occurrences
import SymbolNav.Rename.Plan
import SymbolNav.Rename.Request
import SymbolNav.Server.Configuration
import SymbolNav.Server.Documents
import SymbolNav.Server.Message
import SymbolNav.Server.Session
import SymbolNav.Settings
import SymbolNav.Snapshot.Basic
import SymbolNav.Snapshot.Definition
import SymbolNav.Snapshot.DocComment
import SymbolNav.Snapshot.Id
import SymbolNav.Snapshot.Markup
import SymbolNav.Snapshot.Reader
import SymbolNav.Snapshot.Splice
import SymbolNav.Snapshot.SyntaxNode
import SymbolNav.Snapshot.Writer
import SymbolNav.Text.Blank
import SymbolNav.Text.Digits
import SymbolNav.Text.Find
import SymbolNav.Text.Lines
import SymbolNav.Text.Normal
import SymbolNav.Text.NormalTables
import SymbolNav.Text.Quoted
import SymbolNav.Text.Ranges
import SymbolNav.Text.Span
import SymbolNav.Text.Utf8
import SymbolNav.Text.Word
import SymbolNav.Toml.Basic
import SymbolNav.Toml.Reader
import SymbolNav.Toml.Scalar
import SymbolNav.Url.Basic
import SymbolNav.Url.File
import SymbolNav.Url.Host
import SymbolNav.Url.Percent
import SymbolNav.Proofs.Rename.Confinement
import SymbolNav.Proofs.Requests.FailedScopes
import SymbolNav.Proofs.Json.RoundTrip
import SymbolNav.Proofs.Json.Decode
import SymbolNav.Proofs.Snapshot.Range
import SymbolNav.Proofs.Snapshot.RoundTrip
import SymbolNav.Proofs.Requests.Constructors
import SymbolNav.Proofs.Server.Messages
import SymbolNav.Proofs.Server.OpenTexts
import SymbolNav.Proofs.Server.Isolation
import SymbolNav.Proofs.Markup.Order
import SymbolNav.Proofs.Markup.Lookup
import SymbolNav.Proofs.Navigation.Innermost
import SymbolNav.Proofs.Text.Inverse
import SymbolNav.Proofs.Draft.Trees
import SymbolNav.Proofs.Rename.FileNames
import SymbolNav.Proofs.Rename.Principal
import SymbolNav.Proofs.Draft.DocTags
import SymbolNav.Proofs.Markup.Places
import SymbolNav.Proofs.Navigation.References
import SymbolNav.Proofs.Markup.Cursor
import SymbolNav.Proofs.Markup.Safety
import SymbolNav.Proofs.Markup.Spans
import SymbolNav.Proofs.Draft.Markup
import SymbolNav.Proofs.Rename.Selection
import SymbolNav.Proofs.Snapshot.Cues
import SymbolNav.Proofs.Snapshot.LoadedCues
import SymbolNav.Proofs.Navigation.Lookups
import SymbolNav.Proofs.Navigation.DottedNames
import SymbolNav.Proofs.Draft.Names
import SymbolNav.Proofs.Draft.Declarations
