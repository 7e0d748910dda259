import EntityGateway.CommandLine.Arguments
import EntityGateway.CommandLine.Run
import EntityGateway.Configuration.Basic
import EntityGateway.Configuration.Codec
import EntityGateway.Configuration.Files
import EntityGateway.Configuration.Schema
import EntityGateway.Digest.Sha256
import EntityGateway.DocumentStore.Client
import EntityGateway.DocumentStore.Connection
import EntityGateway.DocumentStore.Signature
import EntityGateway.Entity
import EntityGateway.Http.Message
import EntityGateway.Http.Status
import EntityGateway.Json.Basic
import EntityGateway.Json.Decode
import EntityGateway.Json.Document
import EntityGateway.Json.Printer
import EntityGateway.Json.Reader
import EntityGateway.Json.Scanner
import EntityGateway.Main
import EntityGateway.Metadata.AttributeType
import EntityGateway.Metadata.Basic
import EntityGateway.Metadata.Codec
import EntityGateway.Metadata.Coercion
import EntityGateway.NameMap
import EntityGateway.Number.Decimal
import EntityGateway.Number.DecimalReader
import EntityGateway.Number.Double
import EntityGateway.Number.Layout
import EntityGateway.Number.Shortest
import EntityGateway.OData.Compile
import EntityGateway.OData.Literal
import EntityGateway.OData.Operator
import EntityGateway.OData.Options
import EntityGateway.OData.Printer
import EntityGateway.Proofs.Agreement
import EntityGateway.Proofs.BareText
import EntityGateway.Proofs.CheckOrder
import EntityGateway.Proofs.Checks
import EntityGateway.Proofs.Coercion
import EntityGateway.Proofs.CommandLine.Sessions
import EntityGateway.Proofs.Configuration.Files
import EntityGateway.Proofs.Configuration.ReadBack
import EntityGateway.Proofs.Connectives
import EntityGateway.Proofs.DocumentStore.Headers
import EntityGateway.Proofs.DocumentStore.Signatures
import EntityGateway.Proofs.FilterTrees
import EntityGateway.Proofs.Json.Decoding
import EntityGateway.Proofs.Json.Numbers
import EntityGateway.Proofs.Json.Places
import EntityGateway.Proofs.Json.ReadBack
import EntityGateway.Proofs.Json.Structures
import EntityGateway.Proofs.Json.Words
import EntityGateway.Proofs.Meaning
import EntityGateway.Proofs.Metadata
import EntityGateway.Proofs.NameMap
import EntityGateway.Proofs.Number.Finite
import EntityGateway.Proofs.Number.ReadBack
import EntityGateway.Proofs.NumericLiterals
import EntityGateway.Proofs.OData.Compiled
import EntityGateway.Proofs.OData.ConditionValues
import EntityGateway.Proofs.OData.Mirrored
import EntityGateway.Proofs.OData.Normalized
import EntityGateway.Proofs.OData.OptionPairs
import EntityGateway.Proofs.OData.QueryString
import EntityGateway.Proofs.OData.ReadAtoms
import EntityGateway.Proofs.OData.ReadBack
import EntityGateway.Proofs.OData.Reader
import EntityGateway.Proofs.Outcome
import EntityGateway.Proofs.Query.ReadAgain
import EntityGateway.Proofs.Record.Copies
import EntityGateway.Proofs.Record.Modes
import EntityGateway.Proofs.Record.Outcome
import EntityGateway.Proofs.Record.Printed
import EntityGateway.Proofs.Record.Projection
import EntityGateway.Proofs.Record.Properties
import EntityGateway.Proofs.Record.Reading
import EntityGateway.Proofs.RemoteService.PagingCookie
import EntityGateway.Proofs.Scan
import EntityGateway.Proofs.Script.FileSystem
import EntityGateway.Proofs.Script.Steps
import EntityGateway.Proofs.Selection
import EntityGateway.Proofs.Service.Accounting
import EntityGateway.Proofs.Service.AllOrNothing
import EntityGateway.Proofs.Service.Answers
import EntityGateway.Proofs.Service.Calls
import EntityGateway.Proofs.Service.Continuation
import EntityGateway.Proofs.Service.Dialogues
import EntityGateway.Proofs.Service.Naming
import EntityGateway.Proofs.Service.Pages
import EntityGateway.Proofs.Service.PrintedPages
import EntityGateway.Proofs.Service.RequestOrder
import EntityGateway.Proofs.Sql.BareNames
import EntityGateway.Proofs.Sql.Compiled
import EntityGateway.Proofs.Sql.ReadBack
import EntityGateway.Proofs.Sql.Reader
import EntityGateway.Proofs.Text.Base64
import EntityGateway.Proofs.Text.Form
import EntityGateway.Proofs.Text.Utf8
import EntityGateway.Proofs.Time.Calendar
import EntityGateway.Proofs.Time.Digits
import EntityGateway.Proofs.Time.Interchange
import EntityGateway.Proofs.Time.Layouts
import EntityGateway.Proofs.Time.ReadBack
import EntityGateway.Proofs.Uuid
import EntityGateway.Proofs.Wrapping
import EntityGateway.Query.Basic
import EntityGateway.Query.Codec
import EntityGateway.Query.Compile
import EntityGateway.Query.CompileError
import EntityGateway.Query.Operator
import EntityGateway.Query.TypedText
import EntityGateway.Record
import EntityGateway.RemoteService.Client
import EntityGateway.RemoteService.Connection
import EntityGateway.RemoteService.PagingCookie
import EntityGateway.Script.Basic
import EntityGateway.Script.FileSystem
import EntityGateway.Service.Basic
import EntityGateway.Service.Metrics
import EntityGateway.Service.ServiceError
import EntityGateway.Sql.Compile
import EntityGateway.Sql.Literal
import EntityGateway.Sql.Printer
import EntityGateway.Sql.Select
import EntityGateway.Store.Dialogue
import EntityGateway.Store.Envelope
import EntityGateway.Store.StoreError
import EntityGateway.Text.Base64
import EntityGateway.Text.Blank
import EntityGateway.Text.CaseTable
import EntityGateway.Text.Form
import EntityGateway.Text.Lowercase
import EntityGateway.Text.Quoted
import EntityGateway.Text.Separated
import EntityGateway.Text.Utf8
import EntityGateway.Time.Calendar
import EntityGateway.Time.Instant
import EntityGateway.Time.InstantReader
import EntityGateway.Uuid
import EntityGateway.Value
