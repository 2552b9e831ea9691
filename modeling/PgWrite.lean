import PgWrite.Cli.Command
import PgWrite.Cli.Run
import PgWrite.Cli.Usage
import PgWrite.Config.EnvFile
import PgWrite.Config.EnvFilePath
import PgWrite.Config.RuleFile
import PgWrite.Config.Schema
import PgWrite.Config.Settings
import PgWrite.Config.Variables
import PgWrite.Errors.DriverError
import PgWrite.Errors.GivenSignal
import PgWrite.Errors.Rules
import PgWrite.Errors.Verdict
import PgWrite.Fault
import PgWrite.Files
import PgWrite.Log.Event
import PgWrite.Log.Redaction
import PgWrite.Log.Setup
import PgWrite.Main
import PgWrite.Number.Binary64
import PgWrite.Number.Numeral
import PgWrite.Number.Shortest
import PgWrite.Session.Held
import PgWrite.Session.Step
import PgWrite.Signature
import PgWrite.Sql.Bind
import PgWrite.Sql.Clause
import PgWrite.Sql.Dialect
import PgWrite.Sql.Identifier
import PgWrite.Sql.MarkerStyle
import PgWrite.Sql.Query
import PgWrite.Sql.RowSet
import PgWrite.Sql.Segment
import PgWrite.Sql.Statement
import PgWrite.Text.Alphanumeric
import PgWrite.Text.CharRange
import PgWrite.Text.DecimalDigit
import PgWrite.Text.Half
import PgWrite.Text.Lowercase
import PgWrite.Text.Printable
import PgWrite.Text.Scan
import PgWrite.Transaction.Basic
import PgWrite.Transaction.Build
import PgWrite.Transaction.Compile
import PgWrite.Transaction.Freeze
import PgWrite.Transaction.Request
import PgWrite.Transaction.Signature
import PgWrite.Transaction.Target
import PgWrite.Value.Basic
import PgWrite.Value.ColumnType
import PgWrite.Value.Elements
import PgWrite.Value.Equality
import PgWrite.Value.Json
import PgWrite.Value.JsonDocument
import PgWrite.Value.Shown
import PgWrite.Violation
import PgWrite.Yaml.Cursor
import PgWrite.Yaml.Data
import PgWrite.Yaml.Document
import PgWrite.Yaml.Moment
import PgWrite.Yaml.Node
import PgWrite.Yaml.Property
import PgWrite.Yaml.Scalar
import PgWrite.Yaml.ScalarKind
import PgWrite.Yaml.Token
import PgWrite.Yaml.TokenStream
import PgWrite.Proofs.Lexeme
import PgWrite.Proofs.Template
import PgWrite.Proofs.TemplateReading
import PgWrite.Proofs.Outline
import PgWrite.Proofs.Injection
import PgWrite.Proofs.Markers
import PgWrite.Proofs.Paramstyle
import PgWrite.Proofs.Update
import PgWrite.Proofs.RowwiseUpdate
import PgWrite.Proofs.BindNames
import PgWrite.Proofs.TextClause
import PgWrite.Proofs.FormatReading
import PgWrite.Proofs.Grammar
import PgWrite.Proofs.Names
import PgWrite.Proofs.RequestShape
import PgWrite.Proofs.Refusal
import PgWrite.Proofs.Blanking
import PgWrite.Proofs.Unseen
import PgWrite.Proofs.LowerCase
import PgWrite.Proofs.Wrapping
import PgWrite.Proofs.Quoting
import PgWrite.Proofs.Removal
import PgWrite.Proofs.RowCap
import PgWrite.Proofs.JsonLine
import PgWrite.Proofs.PlainData
import PgWrite.Proofs.RequestNames
import PgWrite.Proofs.RequestFaults
import PgWrite.Proofs.CompileCommand
import PgWrite.Proofs.Binding
import PgWrite.Proofs.DirectBuild
import PgWrite.Proofs.BlankRules
import PgWrite.Proofs.Disclosure
import PgWrite.Proofs.ConstantUpdate
import PgWrite.Proofs.Repetition
import PgWrite.Proofs.Flattening
import PgWrite.Proofs.UpsertExtension
import PgWrite.Proofs.RuleFileFaults
import PgWrite.Proofs.ClassifyCommand
import PgWrite.Proofs.SetList
import PgWrite.Proofs.RepeatedColumns
import PgWrite.Proofs.MarkerPlaces
import PgWrite.Proofs.DollarQuotes
import PgWrite.Proofs.RulePrecedence
import PgWrite.Proofs.VerdictSignals
import PgWrite.Proofs.Redaction
import PgWrite.Proofs.ScanLoops
import PgWrite.Proofs.QuotedNames
import PgWrite.Proofs.SessionRuns
