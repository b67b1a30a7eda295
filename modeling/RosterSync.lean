import RosterSync.Binding.Customer
import RosterSync.Binding.Error
import RosterSync.Binding.Service
import RosterSync.Calendar
import RosterSync.Config
import RosterSync.Console.Answer
import RosterSync.Console.Database
import RosterSync.Console.Kv
import RosterSync.Console.Reply
import RosterSync.Console.Request
import RosterSync.Console.Setup
import RosterSync.Console.Stateless
import RosterSync.Console.World
import RosterSync.Database.Aggregate
import RosterSync.Database.Binary64
import RosterSync.Database.Catalog
import RosterSync.Database.Plan
import RosterSync.Database.DateTime
import RosterSync.Database.Datum
import RosterSync.Database.Define
import RosterSync.Database.Extended
import RosterSync.Database.Driver
import RosterSync.Directory.Sql
import RosterSync.Database.Eval
import RosterSync.Database.Exec
import RosterSync.Database.FloatText
import RosterSync.Database.Functions
import RosterSync.Database.Json.Binary
import RosterSync.Database.Json.Each
import RosterSync.Database.Json.Functions
import RosterSync.Database.Json.Node
import RosterSync.Database.Json.Path
import RosterSync.Database.Json.Scan
import RosterSync.Database.Lexer
import RosterSync.Database.ParseQuery
import RosterSync.Database.ParseStatement
import RosterSync.Database.Printf
import RosterSync.Database.Relation
import RosterSync.Database.Resolve
import RosterSync.Database.Schema
import RosterSync.Database.Syntax
import RosterSync.Database.TableFunction
import RosterSync.Database.TextMatch
import RosterSync.Database.TextSearch.Found
import RosterSync.Database.TextSearch.Letters
import RosterSync.Database.TextSearch.Occurrences
import RosterSync.Database.TextSearch.Porter
import RosterSync.Database.TextSearch.Query
import RosterSync.Database.TextSearch.Report
import RosterSync.Database.TextSearch.Search
import RosterSync.Database.TextSearch.Tokenizer
import RosterSync.Database.VirtualRows
import RosterSync.Database.VirtualTable
import RosterSync.Database.Windowing
import RosterSync.Decimal.Shortest
import RosterSync.Directory.Entity
import RosterSync.Directory.Memory
import RosterSync.Engine
import RosterSync.Json.Read
import RosterSync.Json.Value
import RosterSync.Json.Write
import RosterSync.Mapping
import RosterSync.Record.Error
import RosterSync.Record.Filter
import RosterSync.Record.Filter.Conditions
import RosterSync.Record.Filter.Tagged
import RosterSync.Record.Filter.Tree
import RosterSync.Record.Memory
import RosterSync.Record.Row
import RosterSync.Remote
import RosterSync.Retry
import RosterSync.Startup
import RosterSync.Storage.Memory
import RosterSync.Storage.Redis
import RosterSync.Sync.Backends
import RosterSync.Sync.Error
import RosterSync.Sync.Scheduler
import RosterSync.Sync.Upsert
import RosterSync.Text.Base64
import RosterSync.Text.Blank
import RosterSync.Timer
import RosterSync.Token
import RosterSync.Proofs.Frame
import RosterSync.Proofs.ScheduledRuns
import RosterSync.Proofs.Backends
import RosterSync.Proofs.Catchup
import RosterSync.Proofs.RecordStore
import RosterSync.Proofs.UpsertRows
import RosterSync.Proofs.Tasks
import RosterSync.Proofs.ConcurrentUpserts
import RosterSync.Proofs.QuietUpserts
import RosterSync.Proofs.FullSync
import RosterSync.Proofs.CorrelationTokens
import RosterSync.Proofs.ContactBinding
import RosterSync.Proofs.ConditionLists
import RosterSync.Proofs.GroupTrees
import RosterSync.Proofs.LeaseLocks
import RosterSync.Proofs.CursorStores
import RosterSync.Proofs.ScheduledCalls
import RosterSync.Proofs.RowWrites
import RosterSync.Proofs.ReferenceRepair
import RosterSync.Proofs.UpsertEffects
import RosterSync.Proofs.RepeatedUpserts
import RosterSync.Proofs.RunDurations
import RosterSync.Proofs.RetrySchedule
import RosterSync.Proofs.PassSteps
import RosterSync.Proofs.BindingStages
import RosterSync.Url
import RosterSync.Record.V3
import RosterSync.Proofs.UrlSegments
import RosterSync.Proofs.RowAddressing
import RosterSync.Proofs.StoreRefinement
import RosterSync.Proofs.CustomerSidebar
import RosterSync.Record.Http
import RosterSync.Proofs.ResponseDecoding
import RosterSync.Directory.ContactApi
import RosterSync.Proofs.TokenCache
