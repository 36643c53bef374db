import OpenTimeline.Advisor
import OpenTimeline.Capability.Authority
import OpenTimeline.Capability.Broker
import OpenTimeline.Capability.Completion
import OpenTimeline.Capability.Digest
import OpenTimeline.Capability.Grants
import OpenTimeline.Capability.Obligation
import OpenTimeline.Capability.Operation
import OpenTimeline.Capability.Spending
import OpenTimeline.Capture.Account
import OpenTimeline.Capture.Spool
import OpenTimeline.Charter.Charter
import OpenTimeline.Charter.Expiry
import OpenTimeline.Charter.Folding
import OpenTimeline.Charter.Gate
import OpenTimeline.Charter.Lifecycle
import OpenTimeline.Charter.Narrowing
import OpenTimeline.Charter.Paths
import OpenTimeline.Charter.Protection
import OpenTimeline.Charter.Removal
import OpenTimeline.Charter.Risk
import OpenTimeline.Charter.Scope
import OpenTimeline.Charter.Store
import OpenTimeline.Charter.Validation
import OpenTimeline.Decision.Advisor
import OpenTimeline.Decision.Arms
import OpenTimeline.Decision.Decide
import OpenTimeline.Decision.Dependence
import OpenTimeline.Decision.Evidence
import OpenTimeline.Decision.Fingerprint
import OpenTimeline.Decision.LookAhead
import OpenTimeline.Decision.Policy
import OpenTimeline.Decision.Projection
import OpenTimeline.Decision.Qualification
import OpenTimeline.Decision.Records
import OpenTimeline.Decision.Replay
import OpenTimeline.Decision.Split
import OpenTimeline.Decision.Support
import OpenTimeline.Decision.Votes
import OpenTimeline.Directive.Chain
import OpenTimeline.Directive.Completeness
import OpenTimeline.Directive.Effects
import OpenTimeline.Directive.Endpoints
import OpenTimeline.Directive.Filing
import OpenTimeline.Directive.Journal
import OpenTimeline.Directive.Lease
import OpenTimeline.Directive.Opening
import OpenTimeline.Directive.Pause
import OpenTimeline.Directive.Permits
import OpenTimeline.Directive.Reaper
import OpenTimeline.Directive.Recording
import OpenTimeline.Directive.Report
import OpenTimeline.Directive.Resolution
import OpenTimeline.Directive.Revocation
import OpenTimeline.Directive.Sweep
import OpenTimeline.Directive.Transitions
import OpenTimeline.Dispatch.Authority
import OpenTimeline.Dispatch.Budget
import OpenTimeline.Dispatch.Confinement
import OpenTimeline.Dispatch.Isolation
import OpenTimeline.Dispatch.Records
import OpenTimeline.Dispatch.Replay
import OpenTimeline.Dream.Adjudication
import OpenTimeline.Dream.Batch
import OpenTimeline.Dream.Candidates
import OpenTimeline.Dream.Fold
import OpenTimeline.Dream.Full
import OpenTimeline.Dream.Pursuit
import OpenTimeline.Dream.Races
import OpenTimeline.Dream.Rebinding
import OpenTimeline.Dream.Reconcile
import OpenTimeline.Dream.Records
import OpenTimeline.Dream.Store
import OpenTimeline.Dream.Suppression
import OpenTimeline.Dream.Surfacing
import OpenTimeline.Dream.Truncation
import OpenTimeline.Extraction.Candidates
import OpenTimeline.Extraction.Extract
import OpenTimeline.Extraction.Negation
import OpenTimeline.Extraction.Parity
import OpenTimeline.Extraction.Promotion
import OpenTimeline.Extraction.Receipts
import OpenTimeline.Extraction.Recorded
import OpenTimeline.Extraction.Resolution
import OpenTimeline.Extraction.Resume
import OpenTimeline.Extraction.Store
import OpenTimeline.Extraction.Text
import OpenTimeline.Extraction.Worker
import OpenTimeline.Handoff.Delivery
import OpenTimeline.Handoff.Outbox
import OpenTimeline.Handoff.Resume
import OpenTimeline.Host
import OpenTimeline.Identity
import OpenTimeline.Json
import OpenTimeline.Keys
import OpenTimeline.Library.Answers
import OpenTimeline.Library.Blocks
import OpenTimeline.Library.Calendar
import OpenTimeline.Library.Commuting
import OpenTimeline.Library.Conditions
import OpenTimeline.Library.Connection
import OpenTimeline.Library.Dependencies
import OpenTimeline.Library.Dict
import OpenTimeline.Library.Fields
import OpenTimeline.Library.Floats
import OpenTimeline.Library.Joined
import OpenTimeline.Library.Ledger
import OpenTimeline.Library.Matching
import OpenTimeline.Library.Once
import OpenTimeline.Library.OrderedDict
import OpenTimeline.Library.Paging
import OpenTimeline.Library.Pass
import OpenTimeline.Library.PrefixCode
import OpenTimeline.Library.Ranking
import OpenTimeline.Library.Regex
import OpenTimeline.Library.Runs
import OpenTimeline.Library.Savepoints
import OpenTimeline.Library.Segments
import OpenTimeline.Library.Selection
import OpenTimeline.Library.SlidingWindow
import OpenTimeline.Library.Statements
import OpenTimeline.Library.Substitution
import OpenTimeline.Library.Table
import OpenTimeline.Library.Tenancy
import OpenTimeline.Library.Text
import OpenTimeline.Library.Transaction
import OpenTimeline.Library.Transition
import OpenTimeline.Library.Yields
import OpenTimeline.Lifecycle
import OpenTimeline.Memory.Boot
import OpenTimeline.Memory.Observations
import OpenTimeline.Pilot.Allocation
import OpenTimeline.Pilot.ClaimA
import OpenTimeline.Pilot.ClaimLedger
import OpenTimeline.Pilot.Completion
import OpenTimeline.Pilot.Enrolment
import OpenTimeline.Pilot.Slots
import OpenTimeline.Planning.Approval
import OpenTimeline.Planning.Binding
import OpenTimeline.Planning.Decomposition
import OpenTimeline.Planning.Jobs
import OpenTimeline.Planning.Ordering
import OpenTimeline.Planning.Retry
import OpenTimeline.Planning.Scope
import OpenTimeline.Planning.Sweep
import OpenTimeline.Planning.Worker
import OpenTimeline.RateLimit
import OpenTimeline.Redaction
import OpenTimeline.RequestScope
import OpenTimeline.Retrieval.Deadline
import OpenTimeline.Retrieval.Reads
import OpenTimeline.Retrieval.Statements
import OpenTimeline.Secrets
import OpenTimeline.Service
import OpenTimeline.Supervisor.Asked
import OpenTimeline.Supervisor.Contract
import OpenTimeline.Supervisor.Grading
import OpenTimeline.Supervisor.Observe
import OpenTimeline.Supervisor.Reconcile
import OpenTimeline.Supervisor.Release
import OpenTimeline.Supervisor.Restart
import OpenTimeline.Supervisor.Runtime
import OpenTimeline.Supervisor.Spend
import OpenTimeline.Supervisor.WallClock
import OpenTimeline.Supervisor.Wire
import OpenTimeline.Takeover.Activation
import OpenTimeline.Takeover.Safety
import OpenTimeline.Takeover.Text
import OpenTimeline.TaskState.Accumulators
import OpenTimeline.TaskState.Blocked
import OpenTimeline.TaskState.Codecs
import OpenTimeline.TaskState.Columns
import OpenTimeline.TaskState.CompareAndSwap
import OpenTimeline.TaskState.Constraints
import OpenTimeline.TaskState.Contract
import OpenTimeline.TaskState.Fold
import OpenTimeline.TaskState.Grading
import OpenTimeline.TaskState.Objective
import OpenTimeline.TaskState.Raising
import OpenTimeline.TaskState.Rebuild
import OpenTimeline.TaskState.Records
import OpenTimeline.TaskState.Replay
import OpenTimeline.TaskState.Revision
import OpenTimeline.TaskState.Row
import OpenTimeline.TaskState.Soundness
import OpenTimeline.TaskState.Status
import OpenTimeline.TaskState.Store
import OpenTimeline.TaskState.Truncation
import OpenTimeline.VectorIndex
import OpenTimeline.Verification.Criteria
import OpenTimeline.Verification.Freeze
import OpenTimeline.Verification.Store
import OpenTimeline.Verification.Verdict
import OpenTimeline.Words
