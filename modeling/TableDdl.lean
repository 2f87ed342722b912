import TableDdl.Engine.Connection
import TableDdl.Files.Tree
import TableDdl.Main
import TableDdl.Schema.Draft
import TableDdl.Schema.Equality
import TableDdl.Proofs.Ddl.Outline
import TableDdl.Proofs.Engine.Session
import TableDdl.Proofs.Loading.Distinct
import TableDdl.Proofs.Ddl.Grouping
import TableDdl.Proofs.Validation
import TableDdl.Proofs.Loading.Parts
import TableDdl.Proofs.Ddl.Rendering
import TableDdl.Proofs.Loading.Checked
import TableDdl.Proofs.Draft.Requests
import TableDdl.Proofs.Schema.Textual
import TableDdl.Proofs.Draft.Textual
import TableDdl.Proofs.Draft.Complete
import TableDdl.Proofs.Demand
import TableDdl.Proofs.Loading.Demands
import TableDdl.Proofs.Loading.Typed
import TableDdl.Proofs.Draft.Granted
import TableDdl.Proofs.Loading.Meaning
import TableDdl.Proofs.Loading.Fluent
import TableDdl.Proofs.Loading.FileDemands
import TableDdl.Proofs.Cli.Stdout
import TableDdl.Proofs.Cli.Commands
import TableDdl.Proofs.Cli.Malformed
import TableDdl.Proofs.Cli.Statements
import TableDdl.Proofs.Cli.Agreement
import TableDdl.Proofs.Engine.Calls
import TableDdl.Proofs.Draft.Served
import TableDdl.Proofs.Draft.Streams
import TableDdl.Proofs.Draft.History
import TableDdl.Proofs.Draft.OrderedNames
import TableDdl.Proofs.Draft.Places
import TableDdl.Proofs.Ddl.Composite
import TableDdl.Proofs.Ddl.Literal
import TableDdl.Proofs.Loading.KnownKeys
import TableDdl.Proofs.Loading.Composition
import TableDdl.Proofs.Ddl.Escaped
import TableDdl.Proofs.Ddl.Unambiguous
import TableDdl.Proofs.Engine.Endings
import TableDdl.Proofs.Engine.Messages
import TableDdl.Proofs.Loading.DefaultPrefix
import TableDdl.Proofs.Loading.Sizes
import TableDdl.Proofs.Loading.Reordered
import TableDdl.Proofs.Loading.Nulls
import TableDdl.Proofs.Settings.Expansion
import TableDdl.Proofs.Settings.Malformed
import TableDdl.Proofs.Settings.Precedence
import TableDdl.Proofs.Cli.Collation
import TableDdl.Proofs.Schema.Report
import TableDdl.Proofs.Draft.Removal
import TableDdl.Proofs.Schema.ColumnEdits
import TableDdl.Proofs.Schema.IndexEdits
