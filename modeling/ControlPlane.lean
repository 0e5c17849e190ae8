import ControlPlane.Boundary.CircuitBreaker
import ControlPlane.Boundary.Idempotency
import ControlPlane.Boundary.Reconciliation
import ControlPlane.Boundary.FrozenTargets
import ControlPlane.System.Security
import ControlPlane.System.Tracker
import ControlPlane.System.Wiring
import ControlPlane.System.Credentials
import ControlPlane.System.Loss
import ControlPlane.System.Containment
import ControlPlane.System.Processes
import ControlPlane.System.Lifecycle
import ControlPlane.System.Emergency
import ControlPlane.System.Results
import ControlPlane.System.Endings
import ControlPlane.System.Console
import ControlPlane.Boundary.DurableLedger
import ControlPlane.Boundary.DurableCoordinator
import ControlPlane.System.Staging
import ControlPlane.Data.Json
import ControlPlane.System.Policy
import ControlPlane.System.PolicySync
import ControlPlane.Authority.Engine
import ControlPlane.Authority.Facade
import ControlPlane.Authority.Sequential
import ControlPlane.Authority.Operations
import ControlPlane.Authority.Revocation
import ControlPlane.Authority.Versions
import ControlPlane.Authority.Authorized
import ControlPlane.Authority.Downgrade
import ControlPlane.Authority.ObservedTime
import ControlPlane.Authority.Race
import ControlPlane.Authority.RaceOutcome
import ControlPlane.Authority.Rollback
import ControlPlane.Authority.Tampering
import ControlPlane.Authority.AuditChain
import ControlPlane.Boundary.Restart
import ControlPlane.Sync.ServerEvents
import ControlPlane.Sync.Watermarks
import ControlPlane.Sync.Drops
import ControlPlane.Sync.Epochs
import ControlPlane.Sync.Delivery
import ControlPlane.Sync.Gaps
import ControlPlane.Sync.MutationOrder
import ControlPlane.Store.Accounts
import ControlPlane.Store.StateStore
import ControlPlane.Store.Revisions
import ControlPlane.Store.Hydration
import ControlPlane.Store.Overrides
import ControlPlane.Store.Views
import ControlPlane.Store.Agreement
import ControlPlane.Authority.PersistentClock
import ControlPlane.Sync.GraceLease
import ControlPlane.Sync.LeaseLimits
import ControlPlane.Boundary.Unsent
import ControlPlane.Boundary.WatchdogTiers
import ControlPlane.Boundary.Correlation
import ControlPlane.Boundary.Settlement
import ControlPlane.Boundary.Ipc
import ControlPlane.System.InitialPolicies
import ControlPlane.Authority.Atomicity
import ControlPlane.Store.Passwords
import ControlPlane.Data.JsValue
import ControlPlane.Store.Mutators
import ControlPlane.Store.FailedCalls
import ControlPlane.Data.OwnedRows
import ControlPlane.Store.UserTables
import ControlPlane.Store.Users
import ControlPlane.Store.Separation
import ControlPlane.Data.JsonOrder
import ControlPlane.Data.JsonConvert
import ControlPlane.Data.Utf8
import ControlPlane.Authority.CanonicalSerializer
import ControlPlane.Authority.Requests
import ControlPlane.Authority.Envelope
import ControlPlane.Authority.Replays
import ControlPlane.Authority.AuditQueue
import ControlPlane.Authority.ClockRuns
import ControlPlane.Authority.ReplayGuard
import ControlPlane.Sync.GraceVerdicts
import ControlPlane.Sync.Accounting
import ControlPlane.Authority.ProjectionRuns
import ControlPlane.Store.Migrations
import ControlPlane.Data.JsPlaces
import ControlPlane.Store.SanitizerGate
import ControlPlane.Api.WsServer
import ControlPlane.Data.MapCount
import ControlPlane.Store.Notifications
import ControlPlane.Store.NotificationFeed
import ControlPlane.Store.Identities
import ControlPlane.Store.Replacement
import ControlPlane.System.Registration
import ControlPlane.System.WorkspaceViews
import ControlPlane.Data.Memo
import ControlPlane.Store.Catalogs
import ControlPlane.Store.ContainerHydration
import ControlPlane.Store.PreludeProjection
import ControlPlane.Store.PreludeRuns
import ControlPlane.Store.PreludeStore
import ControlPlane.Data.EventLoop
import ControlPlane.Data.FifoLock
import ControlPlane.Shared.AsyncMutex
import ControlPlane.Shared.Mutex
import ControlPlane.Data.JsFields
import ControlPlane.Store.ReadBack
import ControlPlane.Store.ReadBackConfig
import ControlPlane.Store.ReadBackSettings
import ControlPlane.Store.ReadBackBilling
import ControlPlane.Store.ReadBackRuns
import ControlPlane.Data.Interrupted
import ControlPlane.Data.Files
import ControlPlane.Data.Stories
import ControlPlane.Native.Secrets
import ControlPlane.Native.SecretStore
import ControlPlane.Native.SecretRuns
import ControlPlane.Command.Schema
import ControlPlane.Command.Router
import ControlPlane.Command.RouterRuns
import ControlPlane.Command.Clearance
import ControlPlane.Command.Containment
import ControlPlane.Native.ExecutionProcesses
import ControlPlane.Native.PipeServer
import ControlPlane.Native.PipeServerRuns
import ControlPlane.Native.PipeStop
