import PowerLease.Duration.Printer
import PowerLease.Duration.Reader
import PowerLease.Catalog.Handshake
import PowerLease.Catalog.Lease
import PowerLease.Catalog.Sync
import PowerLease.Catalog.View
import PowerLease.Lifecycle
import PowerLease.Leasing
import PowerLease.Cloud.Simulated
import PowerLease.Cloud.Aws
import PowerLease.Cloud.Azure
import PowerLease.Reconciler
import PowerLease.Json.Printer
import PowerLease.Json.Reader
import PowerLease.Json.Number
import PowerLease.Decimal.Bounded
import PowerLease.Text.Quoted
import PowerLease.Json.Decode
import PowerLease.Startup
import PowerLease.Url
import PowerLease.Notify.Dispatch
import PowerLease.Rehearsal.World
import PowerLease.Proofs.Installation.Abort
import PowerLease.Proofs.Installation.Overtaking
import PowerLease.Proofs.Installation.Convergence
import PowerLease.Proofs.Interleaving.Ticks
import PowerLease.Proofs.Interleaving.Cleanup
import PowerLease.Proofs.Interleaving.Announcement
import PowerLease.Proofs.Interleaving.Expiry
import PowerLease.Proofs.Interleaving.Warning
import PowerLease.Proofs.Interleaving.Flags
import PowerLease.Proofs.Interleaving.Tenancy
import PowerLease.Proofs.Interleaving.Notification
import PowerLease.Proofs.Interleaving.Tokens
import PowerLease.Proofs.Lifecycle.Isolation
import PowerLease.Proofs.Lifecycle.Quiet
import PowerLease.Proofs.Lifecycle.Exact
import PowerLease.Proofs.Delivery.Fates
import PowerLease.Proofs.Delivery.Sharing
import PowerLease.Proofs.Delivery.Channels
import PowerLease.Proofs.Delivery.Webhook
import PowerLease.Proofs.Installation.LastReport
import PowerLease.Proofs.Catalog.Statements
import PowerLease.Proofs.Catalog.Takeover
import PowerLease.Proofs.Installation.Refusals
import PowerLease.Proofs.Installation.Orders
import PowerLease.Proofs.Installation.Readings
import PowerLease.Proofs.Duration.Roundtrip
import PowerLease.Proofs.Duration.Sums
import PowerLease.Proofs.Duration.Meaning
import PowerLease.Proofs.Duration.Reading
import PowerLease.Proofs.Leasing.Asks
import PowerLease.Proofs.Leasing.Future
import PowerLease.Proofs.Json.Records
import PowerLease.Proofs.Json.Roundtrip
import PowerLease.Proofs.Startup.Periods
import PowerLease.Proofs.Startup.Roundtrip
import PowerLease.Proofs.Worker.Discipline
import PowerLease.Proofs.Cloud.Addresses
import PowerLease.Proofs.Cloud.Neighbours
import PowerLease.Proofs.Cloud.Movement
import PowerLease.Proofs.Catalog.Summaries
