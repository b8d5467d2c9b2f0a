import NewsCollect.Library.Program
import NewsCollect.Library.Among
import NewsCollect.Library.Pool
import NewsCollect.Library.Table
import NewsCollect.Library.Paging
import NewsCollect.Library.Firsts
import NewsCollect.Library.Drafts
import NewsCollect.Library.Claiming
import NewsCollect.Library.Expiring
import NewsCollect.Library.Json
import NewsCollect.Library.Text
import NewsCollect.Library.Words
import NewsCollect.Library.Spelling
import NewsCollect.Library.Contract
import NewsCollect.Library.Calendar
import NewsCollect.Library.IsoFormat
import NewsCollect.Errors
import NewsCollect.SafeProjection.Contracts
import NewsCollect.Providers.Windows
import NewsCollect.Providers.BreadthConfig
import NewsCollect.Providers.Continuation
import NewsCollect.Providers.Payloads
import NewsCollect.Providers.Breadth
import NewsCollect.Providers.RowRules
import NewsCollect.Providers.SinglePage
import NewsCollect.Collection.Rows
import NewsCollect.Providers.Contracts
import NewsCollect.Collection.Cursors
import NewsCollect.Collection.Downstream
import NewsCollect.Collection.TargetConfigs
import NewsCollect.Collection.TargetRepository
import NewsCollect.Collection.Revision
import NewsCollect.Collection.Transactions
import NewsCollect.Collection.Recovery
import NewsCollect.Collection.Worker
import NewsCollect.Collection.Scheduler
import NewsCollect.Collection.Control
import NewsCollect.Collection.Operators
import NewsCollect.Collection.Runner
import NewsCollect.Collection.ProviderRuntime
import NewsCollect.Proof.Effects
import NewsCollect.Proof.Frames
import NewsCollect.Proof.Persistence
import NewsCollect.Proof.Phases
import NewsCollect.Proof.Steps
import NewsCollect.Proof.Locks
import NewsCollect.Proof.Unrevised
import NewsCollect.Proof.Absorbing
import NewsCollect.Proof.CursorRows
import NewsCollect.Proof.Staleness
import NewsCollect.Proof.Forward
import NewsCollect.Proof.Budgets
import NewsCollect.Proof.Grammar
import NewsCollect.Proof.Windows
import NewsCollect.Proof.ResolvedWindows
import NewsCollect.Proof.Codec
import NewsCollect.Proof.Progress
import NewsCollect.Proof.RoundTrip
import NewsCollect.Proof.Markers
import NewsCollect.Proof.NormalForms
import NewsCollect.Proof.FixedPoint
import NewsCollect.Proof.Collectable
import NewsCollect.Proof.ConfigFits
import NewsCollect.Proof.Registry
import NewsCollect.Providers.BreadthFetch
import NewsCollect.Notifications.Delivery
import NewsCollect.Notifications.Outbox
import NewsCollect.Notifications.MultiProvider
import NewsCollect.Proof.Deliveries
import NewsCollect.SafeProjection.Worker
import NewsCollect.Proof.Validation
import NewsCollect.Evidence.Orchestration
import NewsCollect.Proof.LegacyIdentity
import NewsCollect.RichEvidence.Listing
import NewsCollect.Proof.Packets
import NewsCollect.Evidence.Handoff
import NewsCollect.Proof.Handoffs
import NewsCollect.Proof.CursorOrders
import NewsCollect.Proof.Revisions
import NewsCollect.Proof.Abandonment
import NewsCollect.Proof.Checkpoints
import NewsCollect.Proof.LegacyRetries
import NewsCollect.Proof.Isolation
import NewsCollect.EventIntelligence.Matching
import NewsCollect.EventIntelligence.Scoring
import NewsCollect.EventIntelligence.Service
import NewsCollect.Proof.Associations
import NewsCollect.Proof.Truncation
import NewsCollect.Proof.Listings
import NewsCollect.Proof.DueScan
import NewsCollect.Proof.Watermarks
import NewsCollect.Collection.CadenceCommands
import NewsCollect.Proof.RetryContexts
import NewsCollect.Proof.SerialCalls
import NewsCollect.Proof.Aggregates
import NewsCollect.Proof.Anchors
import NewsCollect.Proof.WindowFilter
import NewsCollect.Evidence.WritePath
import NewsCollect.Proof.EvidenceWrites
import NewsCollect.Collection.Phase2Migration
import NewsCollect.Proof.Backfill
import NewsCollect.Proof.PageRows
import NewsCollect.Proof.Traversals
import NewsCollect.Proof.SeriesPages
import NewsCollect.Proof.NewsPages
import NewsCollect.Proof.KeyedPages
import NewsCollect.Notifications.Intents
import NewsCollect.Proof.Intents
import NewsCollect.Proof.IntentPasses
import NewsCollect.Proof.Cutover
