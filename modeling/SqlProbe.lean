import SqlProbe.Calendar.Date
import SqlProbe.Calendar.Duration
import SqlProbe.Calendar.Read
import SqlProbe.Calendar.Time
import SqlProbe.Cli.Arguments
import SqlProbe.Cli.Command
import SqlProbe.Cli.Level
import SqlProbe.Cli.LogFilter
import SqlProbe.Cli.Parameter
import SqlProbe.Cli.Run
import SqlProbe.Config
import SqlProbe.Driver.Basic
import SqlProbe.Driver.Profile
import SqlProbe.Error
import SqlProbe.Health
import SqlProbe.Health.Ping
import SqlProbe.InMemory.Scenario
import SqlProbe.InMemory.Script
import SqlProbe.InMemory.Server
import SqlProbe.Json.Basic
import SqlProbe.Json.Number
import SqlProbe.Json.Read
import SqlProbe.Json.Record
import SqlProbe.Json.Value
import SqlProbe.Json.Write
import SqlProbe.Main
import SqlProbe.Mysql.Client
import SqlProbe.Mysql.ColumnType
import SqlProbe.Mysql.Network
import SqlProbe.Mysql.Profile
import SqlProbe.Mysql.ScriptedServer
import SqlProbe.Mysql.Version
import SqlProbe.Mysql.Wire
import SqlProbe.Number.Binary
import SqlProbe.Number.Shortest
import SqlProbe.Number.Text
import SqlProbe.Pool.Config
import SqlProbe.Pool.Run
import SqlProbe.Pool.State
import SqlProbe.Pool.Step
import SqlProbe.Probe.Context
import SqlProbe.Probe.Ping
import SqlProbe.Probe.Pool
import SqlProbe.Probe.Properties
import SqlProbe.Probe.Run
import SqlProbe.Probe.Statements
import SqlProbe.Probe.Work
import SqlProbe.Proofs.Driver.Recording
import SqlProbe.Proofs.Driver.Sessions
import SqlProbe.Proofs.InMemory.Pool
import SqlProbe.Proofs.Mysql.Connecting
import SqlProbe.Proofs.Mysql.Dates
import SqlProbe.Proofs.Mysql.Integers
import SqlProbe.Proofs.Mysql.Prepared
import SqlProbe.Proofs.Mysql.Shut
import SqlProbe.Proofs.Mysql.Spans
import SqlProbe.Proofs.Pool.Borrowing
import SqlProbe.Proofs.Pool.Calls
import SqlProbe.Proofs.Pool.Clearing
import SqlProbe.Proofs.Pool.Closing
import SqlProbe.Proofs.Pool.Completion
import SqlProbe.Proofs.Pool.Config
import SqlProbe.Proofs.Pool.Counters
import SqlProbe.Proofs.Pool.Effects
import SqlProbe.Proofs.Pool.Exits
import SqlProbe.Proofs.Pool.Holdings
import SqlProbe.Proofs.Pool.Limits
import SqlProbe.Proofs.Pool.Live
import SqlProbe.Proofs.Pool.Losses
import SqlProbe.Proofs.Pool.Outcomes
import SqlProbe.Proofs.Pool.Reading
import SqlProbe.Proofs.Pool.Records
import SqlProbe.Proofs.Pool.Reopening
import SqlProbe.Proofs.Pool.Reuse
import SqlProbe.Proofs.Pool.Scheduling
import SqlProbe.Proofs.Pool.Shut
import SqlProbe.Proofs.Pool.Slots
import SqlProbe.Proofs.Pool.Telling
import SqlProbe.Proofs.Pool.Timing
import SqlProbe.Proofs.Pool.Turns
import SqlProbe.Proofs.Pool.Visits
import SqlProbe.Proofs.Pool.WarmUp
import SqlProbe.Proofs.Pool.Workers
import SqlProbe.Proofs.Probe.Accounts
import SqlProbe.Proofs.Probe.Closing
import SqlProbe.Proofs.Probe.Failures
import SqlProbe.Proofs.Probe.Overriding
import SqlProbe.Proofs.Probe.Pool
import SqlProbe.Proofs.Probe.Redaction
import SqlProbe.Proofs.Probe.Steps
import SqlProbe.Proofs.Probe.Work
import SqlProbe.Proofs.Properties.Applying
import SqlProbe.Proofs.Properties.Bag
import SqlProbe.Proofs.Properties.History
import SqlProbe.Proofs.Properties.Normal
import SqlProbe.Proofs.Properties.Order
import SqlProbe.Proofs.Properties.Query
import SqlProbe.Proofs.Properties.QueryText
import SqlProbe.Proofs.Properties.Reapplying
import SqlProbe.Proofs.Properties.Respelling
import SqlProbe.Proofs.Properties.Security
import SqlProbe.Proofs.Properties.Spelling
import SqlProbe.Proofs.Settings.Layers
import SqlProbe.Proofs.Settings.Targets
import SqlProbe.Proofs.Sql.Decimals
import SqlProbe.Proofs.Sql.Fragments
import SqlProbe.Proofs.Sql.LiteralText
import SqlProbe.Proofs.Sql.Placeholders
import SqlProbe.Proofs.Sql.Readback
import SqlProbe.Proofs.Sql.Rendering
import SqlProbe.Proofs.Sql.Tokens
import SqlProbe.Proofs.Target.Bare
import SqlProbe.Proofs.Target.Naming
import SqlProbe.Proofs.Target.RoundTrip
import SqlProbe.Proofs.Target.Shapes
import SqlProbe.Proofs.Text.Cut
import SqlProbe.Proofs.Text.Numeral
import SqlProbe.Proofs.Text.Percent
import SqlProbe.Proofs.Text.Utf8
import SqlProbe.Proofs.Text.Visible
import SqlProbe.Proofs.Tls.Parameters
import SqlProbe.Proofs.Tls.Plan
import SqlProbe.Proofs.Url.Authority
import SqlProbe.Proofs.Url.Path
import SqlProbe.Properties.Apply
import SqlProbe.Properties.Basic
import SqlProbe.Properties.Normal
import SqlProbe.Properties.Query
import SqlProbe.Report.Basic
import SqlProbe.Report.Render
import SqlProbe.Report.Table
import SqlProbe.Row
import SqlProbe.Session
import SqlProbe.Settings.Basic
import SqlProbe.Settings.File
import SqlProbe.Settings.Resolve
import SqlProbe.SortedMap
import SqlProbe.Sql.Bindings
import SqlProbe.Sql.Context
import SqlProbe.Sql.Literal
import SqlProbe.Sql.Statement
import SqlProbe.Sql.Template
import SqlProbe.Target.Build
import SqlProbe.Target.Parse
import SqlProbe.Text.Ascii
import SqlProbe.Text.Blank
import SqlProbe.Text.Cut
import SqlProbe.Text.Hidden
import SqlProbe.Text.Numeral
import SqlProbe.Text.Percent
import SqlProbe.Text.Quoted
import SqlProbe.Text.Utf8
import SqlProbe.Text.Width
import SqlProbe.Text.WidthClass
import SqlProbe.Tls.Basic
import SqlProbe.Tls.Plan
import SqlProbe.Toml.Document
import SqlProbe.Toml.Reader
import SqlProbe.Toml.Scalar
import SqlProbe.Toml.String
import SqlProbe.Toml.Table
import SqlProbe.Url.Address
import SqlProbe.Url.Host
import SqlProbe.Url.Parse
import SqlProbe.Value
