import ProcedureCall.CommandLine.Invocation
import ProcedureCall.CommandLine.Run
import ProcedureCall.Invoker
import ProcedureCall.Main
import ProcedureCall.Plan.Basic
import ProcedureCall.Postgres.Call
import ProcedureCall.Postgres.Catalog
import ProcedureCall.Proofs.CommandLine.Statements
import ProcedureCall.Proofs.Invoker.Lifecycle
import ProcedureCall.Proofs.Plan.Cursors
import ProcedureCall.Proofs.Plan.Positions
import ProcedureCall.Proofs.Plan.Slots
import ProcedureCall.Proofs.Plan.Snapshot
import ProcedureCall.Proofs.Postgres.Outputs
import ProcedureCall.Proofs.Postgres.Exchange
import ProcedureCall.Record.Kind
import ProcedureCall.Rehearsal.Catalog
import ProcedureCall.Rehearsal.Driver
import ProcedureCall.Rehearsal.FileTree
import ProcedureCall.Rehearsal.Server
import ProcedureCall.Report.Csv
import ProcedureCall.Report.Format
import ProcedureCall.Report.Json
import ProcedureCall.Report.Literal
import ProcedureCall.Report.Style
import ProcedureCall.Report.StyleTable
import ProcedureCall.Settings.ConnectionUrl
import ProcedureCall.Settings.Resolution
import ProcedureCall.Text.Cells
import ProcedureCall.Text.Emoji
import ProcedureCall.Text.EmojiTable
import ProcedureCall.Toml.Document
import ProcedureCall.Value.Text
import ProcedureCall.Proofs.Projection.Columns
import ProcedureCall.Proofs.Projection.Fetches
import ProcedureCall.Proofs.Projection.Histories
import ProcedureCall.Proofs.Projection.KeptRow
import ProcedureCall.Proofs.Invoker.Results
import ProcedureCall.Proofs.Catalog.QualifiedNames
import ProcedureCall.Proofs.Text.Case
import ProcedureCall.Proofs.CommandLine.Names
import ProcedureCall.Proofs.Alike
import ProcedureCall.Proofs.Plan.Degraded
import ProcedureCall.Proofs.Settings.Reading
import ProcedureCall.Proofs.Settings.Precedence
import ProcedureCall.Proofs.Number.Numeral
import ProcedureCall.Proofs.Text.Octets
import ProcedureCall.Proofs.Url.Escapes
import ProcedureCall.Proofs.Url.Parts
import ProcedureCall.Proofs.Settings.ConnectionUrl
import ProcedureCall.Proofs.Postgres.Faults
import ProcedureCall.Proofs.Postgres.Connections
import ProcedureCall.Proofs.CommandLine.Service
import ProcedureCall.Proofs.CommandLine.Connections
import ProcedureCall.Proofs.Settings.Stops
import ProcedureCall.Proofs.Settings.Supplies
import ProcedureCall.Proofs.Settings.UrlFaults
import ProcedureCall.Proofs.Settings.Faults
import ProcedureCall.Proofs.CommandLine.Configuration
import ProcedureCall.Proofs.Settings.Ranges
import ProcedureCall.Proofs.Plan.Outcomes
import ProcedureCall.Proofs.Report.Csv
import ProcedureCall.Proofs.Number.Nearest
import ProcedureCall.Proofs.Number.Shortest
import ProcedureCall.Proofs.Number.NumberText
import ProcedureCall.Proofs.Report.JsonReader
import ProcedureCall.Proofs.Report.JsonScalars
import ProcedureCall.Proofs.Report.Json
import ProcedureCall.Proofs.CommandLine.Output
import ProcedureCall.Proofs.Plan.Decision
import ProcedureCall.Proofs.Plan.Order
import ProcedureCall.Proofs.Catalog.Resolution
import ProcedureCall.Proofs.Projection.Handing
import ProcedureCall.Proofs.Postgres.Binding
import ProcedureCall.Proofs.Invoker.Binding
import ProcedureCall.Proofs.Data.Registry
import ProcedureCall.Proofs.Data.Aliases
import ProcedureCall.Proofs.CommandLine.EvenRows
import ProcedureCall.Proofs.Report.JsonGrammar
import ProcedureCall.Proofs.Report.JsonValidity
import ProcedureCall.Proofs.Report.Table
import ProcedureCall.Proofs.CallText.Joining
