import EntityStore.Cli
import EntityStore.Config.Basic
import EntityStore.Config.Text
import EntityStore.Error
import EntityStore.Expr
import EntityStore.Json.Token
import EntityStore.Json.Tree
import EntityStore.Main
import EntityStore.Model.Entity
import EntityStore.Model.Materializer
import EntityStore.Model.Record
import EntityStore.Model.Registry
import EntityStore.Model.Table
import EntityStore.Network.Address
import EntityStore.Network.Dsn
import EntityStore.Network.Resolver
import EntityStore.Number.Double
import EntityStore.Number.Numeral
import EntityStore.Number.Rounding
import EntityStore.Number.Shortest
import EntityStore.Number.Significant
import EntityStore.Placement.Route
import EntityStore.Placement.Scheme
import EntityStore.Placement.Target
import EntityStore.Proofs.Config.Text
import EntityStore.Proofs.Json.Records
import EntityStore.Proofs.Json.Writing
import EntityStore.Proofs.Model.Copying
import EntityStore.Proofs.Model.Denotation
import EntityStore.Proofs.Model.Entity
import EntityStore.Proofs.Model.Record
import EntityStore.Proofs.Model.Registry
import EntityStore.Proofs.Model.Table
import EntityStore.Proofs.Model.Writing
import EntityStore.Proofs.Network.Address
import EntityStore.Proofs.Network.Authority
import EntityStore.Proofs.Network.Cut
import EntityStore.Proofs.Network.Dsn
import EntityStore.Proofs.Number.Numeral
import EntityStore.Proofs.Number.Rounding
import EntityStore.Proofs.Number.Signed
import EntityStore.Proofs.Number.Single
import EntityStore.Proofs.Number.Whole
import EntityStore.Proofs.Placement.KeyField
import EntityStore.Proofs.Placement.Outcome
import EntityStore.Proofs.Placement.Pruning
import EntityStore.Proofs.Placement.Raw
import EntityStore.Proofs.Placement.Residues
import EntityStore.Proofs.Placement.Rewriting
import EntityStore.Proofs.Placement.Routing
import EntityStore.Proofs.Placement.TargetSet
import EntityStore.Proofs.Replica.Background
import EntityStore.Proofs.Replica.Discovery
import EntityStore.Proofs.Replica.Fairness
import EntityStore.Proofs.Replica.Naming
import EntityStore.Proofs.Replica.Race
import EntityStore.Proofs.Replica.Reads
import EntityStore.Proofs.Replica.Refreshing
import EntityStore.Proofs.Replica.Rotation
import EntityStore.Proofs.Replica.Upkeep
import EntityStore.Proofs.Replica.Watch
import EntityStore.Proofs.Session.Beside
import EntityStore.Proofs.Session.Calls
import EntityStore.Proofs.Session.Errands
import EntityStore.Proofs.Session.Gathering
import EntityStore.Proofs.Session.Journal
import EntityStore.Proofs.Session.Recorder
import EntityStore.Proofs.Session.Refusal
import EntityStore.Proofs.Session.Scoped
import EntityStore.Proofs.Session.Sharded
import EntityStore.Proofs.Session.Stepping
import EntityStore.Proofs.Session.Transparency
import EntityStore.Proofs.Sqlite.Handle
import EntityStore.Proofs.Sqlite.InFlight
import EntityStore.Proofs.Sqlite.Once
import EntityStore.Proofs.Sqlite.Workers
import EntityStore.Proofs.Statement.Arguments
import EntityStore.Proofs.Statement.Determined
import EntityStore.Proofs.Statement.Filling
import EntityStore.Proofs.Statement.Placeholders
import EntityStore.Proofs.Statement.ReadBack
import EntityStore.Proofs.Statement.Readability
import EntityStore.Proofs.Statement.Reading
import EntityStore.Proofs.Statement.Reference
import EntityStore.Proofs.Statement.Refusal
import EntityStore.Proofs.Statement.Shape
import EntityStore.Proofs.Statement.Sharded
import EntityStore.Proofs.Statement.Writable
import EntityStore.Proofs.Text.Blank
import EntityStore.Proofs.Text.Case
import EntityStore.Proofs.Text.Utf8
import EntityStore.Proofs.Time.Duration
import EntityStore.Proofs.Value.Binding
import EntityStore.Proofs.Value.Coercion
import EntityStore.Proofs.Value.IntegerText
import EntityStore.Query
import EntityStore.Replica.Selector
import EntityStore.Rows
import EntityStore.Session.Core
import EntityStore.Session.Database
import EntityStore.Session.Describe
import EntityStore.Session.Driver
import EntityStore.Session.Interceptor
import EntityStore.Session.Job
import EntityStore.Session.Script
import EntityStore.Session.SimulatedInterceptor
import EntityStore.Session.Simulation
import EntityStore.Session.Timeline
import EntityStore.Sqlite.ColumnType
import EntityStore.Sqlite.Condition
import EntityStore.Sqlite.Datum
import EntityStore.Sqlite.Engine
import EntityStore.Sqlite.Errand
import EntityStore.Sqlite.Grammar
import EntityStore.Sqlite.Handle
import EntityStore.Sqlite.Lexeme
import EntityStore.Sqlite.Pool
import EntityStore.Sqlite.PoolConfig
import EntityStore.Sqlite.Refusal
import EntityStore.Sqlite.SharedStore
import EntityStore.Sqlite.Statement
import EntityStore.Sqlite.Store
import EntityStore.Sqlite.Table
import EntityStore.Statement.Clauses
import EntityStore.Statement.Dialect
import EntityStore.Statement.Insert
import EntityStore.Statement.Template
import EntityStore.Text.Blank
import EntityStore.Text.Case
import EntityStore.Text.CharRange
import EntityStore.Text.Hex
import EntityStore.Text.Quoted
import EntityStore.Text.Utf8
import EntityStore.Text.Word
import EntityStore.Time.Duration
import EntityStore.Value.Basic
import EntityStore.Value.Coerce
