import RCAA.Audit.Chain
import RCAA.Audit.Service
import RCAA.Audit.Tampering
import RCAA.Billing.Booking
import RCAA.Billing.Checkout
import RCAA.Billing.Deliveries
import RCAA.Billing.Models
import RCAA.Billing.Monotonic
import RCAA.Billing.Redelivery
import RCAA.Billing.Webhooks
import RCAA.Cases.Amounts
import RCAA.Cases.Concurrent
import RCAA.Cases.Lifecycle
import RCAA.Cases.Models
import RCAA.Cases.Resolution
import RCAA.Cases.Service
import RCAA.Cases.Verification
import RCAA.Connectors.Coverage
import RCAA.Connectors.Ingest
import RCAA.Connectors.Models
import RCAA.Connectors.Sync
import RCAA.Evidence.Builder
import RCAA.Evidence.Candidates
import RCAA.Evidence.Complete
import RCAA.Evidence.Tenants
import RCAA.Exceptions.Engine
import RCAA.Exceptions.Generation
import RCAA.Ingestion.Arrivals
import RCAA.Ingestion.Conservation
import RCAA.Ingestion.Merchants
import RCAA.Ingestion.Noninterference
import RCAA.Ingestion.Persist
import RCAA.Ingestion.PersistProofs
import RCAA.Ingestion.Providers
import RCAA.Ingestion.Rejection
import RCAA.Ingestion.Revalidation
import RCAA.Ingestion.Rows
import RCAA.Ingestion.SettlementMoney
import RCAA.Ingestion.Transactions
import RCAA.Ingestion.Uploads
import RCAA.Ingestion.Validation
import RCAA.Ingestion.Worksheets
import RCAA.Jobs.Attempts
import RCAA.Jobs.Fencing
import RCAA.Jobs.Models
import RCAA.Jobs.Ownership
import RCAA.Jobs.Service
import RCAA.Jobs.Worker
import RCAA.Library.Bisect
import RCAA.Library.DecimalText
import RCAA.Library.Journal
import RCAA.Library.KeyedRows
import RCAA.Library.MultiMap
import RCAA.Library.Newest
import RCAA.Library.Outcome
import RCAA.Library.ReadCommitted
import RCAA.Library.Registry
import RCAA.Library.Runs
import RCAA.Library.Stretches
import RCAA.Library.Tiers
import RCAA.Library.Versions
import RCAA.Models
import RCAA.Rca.Confidence
import RCAA.Rca.Engine
import RCAA.Rca.Versions
import RCAA.Reconciliation.Appends
import RCAA.Reconciliation.ArrivalOrder
import RCAA.Reconciliation.BankLeg
import RCAA.Reconciliation.BankReferences
import RCAA.Reconciliation.Currencies
import RCAA.Reconciliation.Deductions
import RCAA.Reconciliation.Distinct
import RCAA.Reconciliation.Idempotence
import RCAA.Reconciliation.Identity
import RCAA.Reconciliation.Matches
import RCAA.Reconciliation.Noninterference
import RCAA.Reconciliation.Ownership
import RCAA.Reconciliation.PaymentLoop
import RCAA.Reconciliation.PaymentsAlone
import RCAA.Reconciliation.PlainRule
import RCAA.Reconciliation.Sites
import RCAA.Security.Admins
import RCAA.Security.Families
import RCAA.Security.Gate
import RCAA.Security.Mfa
import RCAA.Security.RateLimit
import RCAA.Security.Replay
import RCAA.Security.Routes
import RCAA.Security.Sso
import RCAA.System
import RCAA.SystemProofs
import RCAA.Timestamps
import RCAA.Ingestion.Normalization
import RCAA.Connectors.Convergence
import RCAA.Connectors.Paging
import RCAA.Api.Lists
import RCAA.Library.FixedWindows
import RCAA.Security.RateBounds
import RCAA.Security.Retention
import RCAA.Security.Kept
import RCAA.Security.PasswordResets
import RCAA.Ai.Citations
import RCAA.Ai.Retries
import RCAA.Cases.Creations
import RCAA.Reports.Summary
import RCAA.Scrubbing
import RCAA.Security.Credentials
import RCAA.Reconciliation.Balance
import RCAA.Jobs.Draining
import RCAA.Jobs.Creation
import RCAA.Api.Desk
import RCAA.Api.Isolation
import RCAA.Reports.Exports
import RCAA.Billing.Standing
import RCAA.Workspaces.Lifecycle
import RCAA.Audit.Search
import RCAA.Workspaces.Privileges
