import WarehouseSql.Binary64.Basic
import WarehouseSql.Binary64.Decimal
import WarehouseSql.CommandLine
import WarehouseSql.Connection.Basic
import WarehouseSql.Connection.Config
import WarehouseSql.Connection.Schema
import WarehouseSql.Connection.Step
import WarehouseSql.Dialect
import WarehouseSql.Fragment
import WarehouseSql.IdLookup
import WarehouseSql.Json.Basic
import WarehouseSql.Json.Fields
import WarehouseSql.Json.Number
import WarehouseSql.Json.Parser
import WarehouseSql.Json.Path
import WarehouseSql.Json.Printer
import WarehouseSql.Main
import WarehouseSql.Name.Alias
import WarehouseSql.Name.Json
import WarehouseSql.Name.Policy
import WarehouseSql.Proofs.Binary64.Whole
import WarehouseSql.Proofs.Connection.Accounting
import WarehouseSql.Proofs.Connection.Agreement
import WarehouseSql.Proofs.Connection.Clearing
import WarehouseSql.Proofs.Connection.FindingColumns
import WarehouseSql.Proofs.Connection.Identifiers
import WarehouseSql.Proofs.Connection.Logging
import WarehouseSql.Proofs.Connection.LookingUp
import WarehouseSql.Proofs.Connection.Pretending
import WarehouseSql.Proofs.Connection.RoundTrip
import WarehouseSql.Proofs.Connection.Running
import WarehouseSql.Proofs.Connection.Skipping
import WarehouseSql.Proofs.Connection.Work
import WarehouseSql.Proofs.Fragment.Inlines
import WarehouseSql.Proofs.Fragment.Nesting
import WarehouseSql.Proofs.Fragment.SelfContained
import WarehouseSql.Proofs.Fragment.Tokens
import WarehouseSql.Proofs.Json.Path
import WarehouseSql.Proofs.Json.Reading
import WarehouseSql.Proofs.Name.Aliases
import WarehouseSql.Proofs.Name.Bytes
import WarehouseSql.Proofs.Name.Nesting
import WarehouseSql.Proofs.Name.Prefixes
import WarehouseSql.Proofs.Name.Qualified
import WarehouseSql.Proofs.Name.Quoting
import WarehouseSql.Proofs.Name.Selectors
import WarehouseSql.Proofs.Name.Spelling
import WarehouseSql.Proofs.Name.Stored
import WarehouseSql.Proofs.Query.Aggregates
import WarehouseSql.Proofs.Query.Changing
import WarehouseSql.Proofs.Query.Clauses
import WarehouseSql.Proofs.Query.Inserting
import WarehouseSql.Proofs.Query.JsonPaths
import WarehouseSql.Proofs.Query.JsonUpdates
import WarehouseSql.Proofs.Query.Locks
import WarehouseSql.Proofs.Query.Nesting
import WarehouseSql.Proofs.Query.RawFree
import WarehouseSql.Proofs.Query.RawPieces
import WarehouseSql.Proofs.Query.Restrictions
import WarehouseSql.Proofs.Query.RoundTrip
import WarehouseSql.Proofs.Query.RowIds
import WarehouseSql.Proofs.Query.Selecting
import WarehouseSql.Proofs.Query.Structure
import WarehouseSql.Proofs.Schema.ChangedDefaults
import WarehouseSql.Proofs.Schema.ColumnChanges
import WarehouseSql.Proofs.Schema.Definitions
import WarehouseSql.Proofs.Schema.Dropping
import WarehouseSql.Proofs.Schema.Indexes
import WarehouseSql.Proofs.Schema.Placement
import WarehouseSql.Proofs.Schema.RoundTrip
import WarehouseSql.Proofs.Schema.Statements
import WarehouseSql.Proofs.Statement.Calls
import WarehouseSql.Proofs.Statement.Given
import WarehouseSql.Proofs.Statement.Refusals
import WarehouseSql.Proofs.Statement.Resolution
import WarehouseSql.Proofs.Statement.SingleUse
import WarehouseSql.Proofs.Template.Bytes
import WarehouseSql.Proofs.Template.Code
import WarehouseSql.Proofs.Template.Conditions
import WarehouseSql.Proofs.Template.Inlining
import WarehouseSql.Proofs.Template.Lexer
import WarehouseSql.Proofs.Template.Markers
import WarehouseSql.Proofs.Template.Positions
import WarehouseSql.Proofs.Template.Scanning
import WarehouseSql.Proofs.Template.Splicing
import WarehouseSql.Proofs.Template.Symbols
import WarehouseSql.Proofs.Template.Unquoting
import WarehouseSql.Proofs.Text.Upper
import WarehouseSql.Proofs.Text.Utf8
import WarehouseSql.Proofs.Value.Literal
import WarehouseSql.Proofs.Value.NumeralGrammar
import WarehouseSql.Proofs.Value.Numerals
import WarehouseSql.Proofs.Value.RoundTrip
import WarehouseSql.Query.Basic
import WarehouseSql.Query.Build
import WarehouseSql.Query.Change
import WarehouseSql.Query.Json
import WarehouseSql.Query.Select
import WarehouseSql.Record
import WarehouseSql.Request
import WarehouseSql.Row
import WarehouseSql.Schema.Blueprint
import WarehouseSql.Schema.Build
import WarehouseSql.Schema.Catalog
import WarehouseSql.Schema.Column
import WarehouseSql.Schema.Compile
import WarehouseSql.Schema.Json
import WarehouseSql.Statement.Basic
import WarehouseSql.Statement.Error
import WarehouseSql.Statement.Wire
import WarehouseSql.Template.Basic
import WarehouseSql.Template.Inline
import WarehouseSql.Text.Blank
import WarehouseSql.Text.Case
import WarehouseSql.Text.CaseTable
import WarehouseSql.Text.HiddenTable
import WarehouseSql.Text.Pieces
import WarehouseSql.Text.Quoted
import WarehouseSql.Text.Visible
import WarehouseSql.Value.Basic
import WarehouseSql.Value.Json
import WarehouseSql.Value.Literal
import WarehouseSql.Value.Moment
import WarehouseSql.Value.Numeral
import WarehouseSql.Value.Uuid
