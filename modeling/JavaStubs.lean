import JavaStubs.Build.Command
import JavaStubs.Catalog.Declaration
import JavaStubs.Catalog.Hierarchy
import JavaStubs.Catalog.Members
import JavaStubs.Catalog.Prelude
import JavaStubs.Catalog.Store
import JavaStubs.CommandLine.Settings
import JavaStubs.CommandLine.EnvFile
import JavaStubs.CommandLine.Help
import JavaStubs.CommandLine.Parser
import JavaStubs.CommandLine.Options
import JavaStubs.CommandLine.Program
import JavaStubs.Decimal.Binary64
import JavaStubs.Document.Encode
import JavaStubs.Document.Format
import JavaStubs.Document.JsonFormat
import JavaStubs.Document.Load
import JavaStubs.Document.YamlFormat
import JavaStubs.Failure
import JavaStubs.Json.Basic
import JavaStubs.Json.Reader
import JavaStubs.Main
import JavaStubs.Path
import JavaStubs.Proofs.Build.WriteSource
import JavaStubs.Proofs.Catalog.OfCatalogs
import JavaStubs.Proofs.Hierarchy.Ancestors
import JavaStubs.Proofs.Hierarchy.InheritedMembers
import JavaStubs.Proofs.Hierarchy.InterfaceSearch
import JavaStubs.Proofs.Hierarchy.InterfaceWalk
import JavaStubs.Proofs.Hierarchy.SuperclassChain
import JavaStubs.Proofs.Outcome
import JavaStubs.Proofs.Stub.Obligations
import JavaStubs.Proofs.World.MemoryDisk
import JavaStubs.Proofs.World.MemoryFrames
import JavaStubs.Proofs.World.Runs
import JavaStubs.Shell.Reader
import JavaStubs.Shell.Run
import JavaStubs.Shell.Session
import JavaStubs.Shell.Token
import JavaStubs.Stub.Obligation
import JavaStubs.Stub.Plan
import JavaStubs.Stub.Source
import JavaStubs.Text.OsText
import JavaStubs.Text.CharClass
import JavaStubs.Text.CharTable
import JavaStubs.Text.Sink
import JavaStubs.Text.Hex
import JavaStubs.Text.Pieces
import JavaStubs.Text.Terminal
import JavaStubs.Text.Unicode
import JavaStubs.Types.Modifiers
import JavaStubs.Types.TypeRef
import JavaStubs.Unix.Disk
import JavaStubs.Unix.Process
import JavaStubs.Unix.Utility
import JavaStubs.World.Request
import JavaStubs.World.Machine
import JavaStubs.World.Memory
import JavaStubs.World.Procedure
import JavaStubs.Yaml.BlockScalar
import JavaStubs.Yaml.Composition
import JavaStubs.Yaml.Lexer
import JavaStubs.Yaml.FlowScalar
import JavaStubs.Yaml.Spot
import JavaStubs.Yaml.Tag
import JavaStubs.Proofs.Path.Components
import JavaStubs.Proofs.Stub.PlanPaths
import JavaStubs.Proofs.Build.FailedOpen
import JavaStubs.Proofs.Build.Archive
import JavaStubs.Proofs.Build.LinearBuild
import JavaStubs.Proofs.Build.Confinement
import JavaStubs.Proofs.Build.NoTrace
import JavaStubs.Proofs.Build.Concurrent
import JavaStubs.Proofs.Stub.SuperclassWalks
import JavaStubs.Proofs.Stub.Locality
import JavaStubs.Proofs.Stub.Implementable
import JavaStubs.Proofs.Build.Rejection
import JavaStubs.Proofs.Catalog.Normalization
import JavaStubs.Proofs.Catalog.Layering
import JavaStubs.Proofs.Types.TypeNames
import JavaStubs.Proofs.Document.Legible
import JavaStubs.Proofs.Document.RoundTrip
import JavaStubs.Proofs.Build.Generation
import JavaStubs.Proofs.Stub.SourceReading
import JavaStubs.Proofs.Stub.SourceText
import JavaStubs.Proofs.Types.Grammar
import JavaStubs.Proofs.Types.Padding
import JavaStubs.Proofs.Catalog.Resolution
import JavaStubs.Proofs.CommandLine.DocumentedForms
import JavaStubs.Proofs.Stub.OutputPaths
import JavaStubs.Proofs.Types.SourceNames
import JavaStubs.Proofs.Stub.StubHeaders
import JavaStubs.Proofs.Hierarchy.PublicMembers
import JavaStubs.Proofs.Text.CodeUnits
import JavaStubs.Proofs.Text.EscapeGroups
import JavaStubs.Proofs.Text.Unescaping
import JavaStubs.Proofs.Build.EscapedFile
import JavaStubs.Proofs.Text.Streaming
import JavaStubs.Proofs.Stub.ClassHead
import JavaStubs.Proofs.Stub.InsertionHistory
