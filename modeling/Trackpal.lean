import Trackpal.Foundation.Runs
import Trackpal.Foundation.ReplayGuard
import Trackpal.Foundation.ExpiringStore
import Trackpal.Protocol.Wire
import Trackpal.Protocol.Schemas
import Trackpal.Worker.NonceCache
import Trackpal.Worker.Runtime
import Trackpal.Worker.Executor
import Trackpal.Worker.Replay
import Trackpal.Registry.LookupExecutor
import Trackpal.Backend.Callbacks
import Trackpal.Backend.Transport
import Trackpal.Worker.CallbackClient
import Trackpal.Network.ActiveNetwork
import Trackpal.Network.Authenticity
import Trackpal.Registry.Service
import Trackpal.Registry.Rotation
import Trackpal.Foundation.NetChange
import Trackpal.Registry.Concurrent
import Trackpal.Registry.Verified
import Trackpal.Coordinator.Job
import Trackpal.Coordinator.Complete
import Trackpal.Coordinator.Machine
import Trackpal.Coordinator.Steps
import Trackpal.Coordinator.Locking
import Trackpal.Coordinator.TerminalJobs
import Trackpal.Coordinator.Leases
import Trackpal.Coordinator.HandoffAgreement
import Trackpal.Coordinator.Replies
import Trackpal.Coordinator.Delivery
import Trackpal.Coordinator.DeliveredOnce
import Trackpal.Backend.ProcessCallback
import Trackpal.Network.Redelivery
import Trackpal.Foundation.FiniteMap
import Trackpal.Store.CoordinationStore
import Trackpal.Store.JobQueue
import Trackpal.Store.RedisStore
import Trackpal.Store.LeaseBookkeeping
import Trackpal.Store.FakeStore
import Trackpal.Store.Interchange
import Trackpal.Coordinator.Selector
import Trackpal.Coordinator.Capacity
import Trackpal.Coordinator.ConsumedOnce
import Trackpal.Coordinator.ResumeNotification
import Trackpal.Coordinator.Ownership
import Trackpal.Coordinator.Pump
import Trackpal.Coordinator.WakeUps
import Trackpal.Coordinator.Requeues
import Trackpal.Coordinator.NoCapacity
import Trackpal.Foundation.Text
import Trackpal.Foundation.StableSort
import Trackpal.Worker.Catalog
import Trackpal.Worker.Extractor
import Trackpal.Worker.GmailImap
import Trackpal.Worker.Pipeline
import Trackpal.Coordinator.Columns
import Trackpal.Network.OutcomeApplied
import Trackpal.Coordinator.DeliveryLog
import Trackpal.Network.Exclusions
import Trackpal.Foundation.Table
import Trackpal.Export.Job
import Trackpal.Foundation.Threads
import Trackpal.Export.Machine
import Trackpal.Export.Steps
import Trackpal.Export.Known
import Trackpal.Export.Artifacts
import Trackpal.Export.Cancellation
import Trackpal.Export.TenantDeletion
import Trackpal.Export.Workers
import Trackpal.Export.Generations
import Trackpal.Foundation.Csv
import Trackpal.Foundation.Grouping
import Trackpal.Export.Bundle
import Trackpal.Export.Formulas
import Trackpal.Export.Agreement
import Trackpal.Foundation.UniqueBatch
import Trackpal.Subscriptions.Schedule
import Trackpal.Subscriptions.Reminders
import Trackpal.Subscriptions.History
import Trackpal.Subscriptions.Retries
import Trackpal.Subscriptions.Warnings
import Trackpal.Subscriptions.Isolation
import Trackpal.Foundation.IsoFormat
import Trackpal.Foundation.Keyset
import Trackpal.Subscriptions.Pages
import Trackpal.Subscriptions.Workflow
import Trackpal.Foundation.Session
import Trackpal.Lifecycle.Rows
import Trackpal.Lifecycle.Cleanup
import Trackpal.Lifecycle.CleanupReport
import Trackpal.Lifecycle.Mutations
import Trackpal.Lifecycle.Integrity
import Trackpal.Lifecycle.ConsoleDates
import Trackpal.Redis.Failover
import Trackpal.Redis.Breaker
import Trackpal.Foundation.SortedSet
import Trackpal.Foundation.Histories
import Trackpal.Foundation.Batches
import Trackpal.Accounts.StepUp
import Trackpal.Accounts.Lockout
import Trackpal.Accounts.Sessions
import Trackpal.Accounts.Usernames
import Trackpal.Browser.Auth
import Trackpal.Console.Answers
import Trackpal.Console.Blocks
import Trackpal.Console.Closing
import Trackpal.Console.Codigo
import Trackpal.Console.Lookups
import Trackpal.Console.Navigation
import Trackpal.Console.Routing
import Trackpal.Console.Rows
import Trackpal.Console.Shortcut
import Trackpal.Console.Tenants
import Trackpal.Console.Writes
import Trackpal.Foundation.Freshness
import Trackpal.Browser.Catalog
import Trackpal.Browser.Settings
import Trackpal.Console.Expiry
import Trackpal.Foundation.Unwinding
import Trackpal.Console.Isolation
import Trackpal.Accounts.Instances
import Trackpal.Accounts.Demo
import Trackpal.Foundation.Json
import Trackpal.Browser.Workspace
import Trackpal.Browser.Operations
import Trackpal.Browser.Readable
import Trackpal.Browser.Integrity
import Trackpal.Worker.Newest
import Trackpal.Worker.Reservations
import Trackpal.Lifecycle.LastDay
import Trackpal.Export.StaleLeases
import Trackpal.Export.Stamps
import Trackpal.Export.Downloads
import Trackpal.Worker.RawMail
import Trackpal.Foundation.Regex
import Trackpal.Worker.WholeCodes
import Trackpal.Worker.Netflix
import Trackpal.Worker.Identity
import Trackpal.Foundation.Paging
import Trackpal.Console.ServicePages
import Trackpal.Accounts.Phones
import Trackpal.Console.RoleMode
import Trackpal.Foundation.OffsetPages
import Trackpal.Catalog.Tables
import Trackpal.Catalog.Deletion
import Trackpal.Catalog.Currencies
import Trackpal.Catalog.PublicCatalog
import Trackpal.Lifecycle.Duplicates
import Trackpal.Foundation.Numerals
import Trackpal.Foundation.Decimal
import Trackpal.Console.Prices
import Trackpal.Foundation.Urls
import Trackpal.Backend.Endpoints
import Trackpal.Console.Lifetimes
import Trackpal.Browser.Exports
import Trackpal.Foundation.Menus
import Trackpal.Browser.Simulators
import Trackpal.Foundation.Origins
import Trackpal.Catalog.AllowedOrigins
import Trackpal.Help.Frontmatter
import Trackpal.Help.Compiler
import Trackpal.Help.Catalog
import Trackpal.Console.Master
import Trackpal.Console.MasterRuns
import Trackpal.Browser.LinkPolling
import Trackpal.Coordinator.Retention
