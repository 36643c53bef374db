import OpenTimeline.Library.Ranking
import OpenTimeline.Library.Transition
import OpenTimeline.Planning.Scope

/-! The rows of `planning_jobs`.

A job is enqueued under an idempotency key, claimed under a lease, and completed by an
UPDATE that is fenced on the lease; a sweep releases the leases that have run out. Lite and
Full have their own enqueue, claim and sweep. -/
namespace OpenTimeline.Planning
open Library
open Dream (TaskKey)
open TaskState (TaskStateProjection)

variable (host : Host)

/-! ### Rows -/

inductive JobState
  | pending | leased | succeeded | failed | discarded | cancelled
deriving DecidableEq, Repr

def planningJobKindDecompose : String := "decompose"
def planningProducerModel : String := "model"
def planningStaleReason : String := "stale_input_revision"

/-- What a job was enqueued with. No UPDATE sets any of it. -/
structure JobInput where
  workspaceId : String
  ownerId : String
  sessionId : String
  taskId : String
  jobKind : String
  inputRevision : String
  contractRevision : Int
  objectiveHash : Option String
  objectiveText : String
  scopeJson : Payload

structure JobRow extends JobInput where
  id : String
  idempotencyKey : String
  state : JobState := .pending
  leaseOwner : Option String := none
  leaseUntil : Option Instant := none
  attempts : Nat := 0
  maxAttempts : Int
  nextAttemptAt : Option Instant := none
  lastError : Option String := none
  producer : Option String := none
  cancelRequested : Bool := false
  createdAt : Instant

abbrev JobTable := Table JobRow.id

/-- `planning_idempotency_key` -/
def planningIdempotencyKey (input : JobInput) : String :=
  String.ofList ((host.sha256Hex ("|".intercalate [input.jobKind, input.workspaceId, input.ownerId, input.taskId,
    input.inputRevision])).toList.take 40)

/-! ### Staleness -/

def JobInput.taskKey (input : JobInput) : TaskKey := ⟨input.workspaceId, input.ownerId, input.taskId⟩

/-- `_current_input_revision` -/
def currentInputRevision (task : TaskStateProjection) (scope : ResolvedScope) : String :=
  planInputRevision host task.objectiveHash task.contractRevision (taskScopeDigest host scope) task.lastCancelSeq

/-- `planning_result_is_stale`: the reason, where it is. -/
def planningResultIsStale (jobInputRevision : String) (jobContractRevision : Int) (currentInputRevision : String)
    (currentContractRevision : Int) (cancelRequested : Bool) : Option String :=
  if cancelRequested then some "cancelled"
  else if jobInputRevision ≠ currentInputRevision then some planningStaleReason
  else if jobContractRevision ≠ currentContractRevision then some planningStaleReason
  else none

/-- What the worker makes of a task, by the scope of the job. -/
def JobInput.staleFor (input : JobInput) (task : TaskStateProjection) (cancelRequested : Bool) : Option String :=
  planningResultIsStale input.inputRevision input.contractRevision
    (currentInputRevision host task (resolvedScopeFromJson host input.scopeJson)) task.contractRevision cancelRequested

theorem JobInput.staleFor_eq_none {input : JobInput} {task : TaskStateProjection} {cancelRequested : Bool} :
    input.staleFor host task cancelRequested = none ↔ cancelRequested = false ∧
      input.inputRevision = currentInputRevision host task (resolvedScopeFromJson host input.scopeJson) ∧
        input.contractRevision = task.contractRevision := by
  unfold JobInput.staleFor planningResultIsStale
  split_ifs <;> simp_all

/-! ### Enqueue -/

/-- The arguments of `enqueue_planning_job`; the id is the one that is drawn. -/
structure Enqueue extends JobInput where
  id : String
  maxAttempts : Int
  now : Instant
  /-- Planned inline, as `succeeded`. -/
  inline : Bool := false
  producer : Option String := none

/-- `PLANNING_JOB_REVIVABLE_STATES` -/
def revivableStates : List JobState := [.cancelled, .failed]

namespace Enqueue
variable (request : Enqueue)

def row (state : JobState) : JobRow := {
  toJobInput := request.toJobInput
  id := request.id
  idempotencyKey := planningIdempotencyKey host request.toJobInput
  state
  maxAttempts := request.maxAttempts
  producer := request.producer
  createdAt := request.now }

/-- The row under the request's idempotency key. -/
def existing (jobs : JobTable) : Option JobRow :=
  jobs.rows.find? fun row => row.workspaceId = request.workspaceId &&
    row.idempotencyKey = planningIdempotencyKey host request.toJobInput

def revive (jobs : JobTable) (id : String) : JobTable :=
  jobs.updateWhere (fun row => row.id = id && row.state ∈ revivableStates) (fun row => {row with
    state := .pending
    attempts := 0
    cancelRequested := false
    nextAttemptAt := none
    leaseOwner := none
    leaseUntil := none
    lastError := none }) fun _ => rfl

/-- `enqueue_planning_job`, which inserts a row in this state; none where the id is in use. -/
def applyAs (state : JobState) (jobs : JobTable) : Option JobTable :=
  match request.existing host jobs with
  | some row => some (revive jobs row.id)
  | none => jobs.insert (request.row host state)

/-- `enqueue_planning_job` of Full -/
def apply (jobs : JobTable) : Option JobTable :=
  request.applyAs host (if request.inline then .succeeded else .pending) jobs

/-- `enqueue_planning_job` of Lite: the plan is made inline. -/
def applyLite (jobs : JobTable) : Option JobTable := request.applyAs host .succeeded jobs

end Enqueue

/-! ### Claim -/

/-- The arguments of `claim_planning_job`, with the rows other transactions have locked. -/
structure Claim where
  jobId : Option String
  leaseOwner : String
  leaseSeconds : Nat
  now : Instant
  batchSize : Int
  locked : List String := []

namespace Claim
variable (claim : Claim)

/-- The WHERE clause of Full. A single job is claimed whenever its next attempt is due. -/
def selects (row : JobRow) : Bool :=
  (match claim.jobId with
    | some id => row.id = id
    | none => row.state = .pending && row.nextAttemptAt.all (· ≤ claim.now)) &&
  row.state = .pending && !row.cancelRequested

/-- The WHERE clause of Lite. -/
def selectsLite (row : JobRow) : Bool :=
  !row.cancelRequested && row.attempts < row.maxAttempts && row.nextAttemptAt.all (· ≤ claim.now) &&
    (row.state ∈ [.pending, .failed] || (row.state = .leased && row.leaseUntil.any (· < claim.now))) &&
    claim.jobId.all (row.id = ·)

def lease (row : JobRow) : JobRow := {row with
  state := .leased
  leaseOwner := some claim.leaseOwner
  leaseUntil := some (claim.now + claim.leaseSeconds * 1000000)
  attempts := row.attempts + 1 }

/-- The rows that are claimed: the oldest, skipping what is locked. -/
def claimedIds (selects : JobRow → Bool) (batch : Nat) (jobs : JobTable) : List String :=
  ((sortOn (·.createdAt) (jobs.rows.filter fun row => selects row && row.id ∉ claim.locked)).take batch).map (·.id)

def leaseIds (ids : List String) (jobs : JobTable) : JobTable :=
  jobs.updateWhere (fun row => row.id ∈ ids) claim.lease fun _ => rfl

theorem forall_leaseIds {P : JobRow → Prop} {claim : Claim} {ids : List String} {jobs : JobTable}
    (hP : ∀ row ∈ jobs.rows, P row) (hlease : ∀ row, P row → row.id ∈ ids → P (claim.lease row)) :
    ∀ row ∈ (claim.leaseIds ids jobs).rows, P row := by
  rw [Claim.leaseIds]
  exact Table.forall_updateWhere hP fun row _ hrow hid => hlease row hrow (of_decide_eq_true hid)

/-- `claim_planning_job` of Full, with what it returns. -/
def apply (jobs : JobTable) : JobTable × List JobRow :=
  let ids := claim.claimedIds claim.selects (max 1 claim.batchSize).toNat jobs
  let claimed := claim.leaseIds ids jobs
  (claimed, claimed.rows.filter (·.id ∈ ids))

/-- `claim_planning_job` of Lite. A negative LIMIT is none. -/
def applyLite (jobs : JobTable) : JobTable × List JobRow :=
  let batch := if claim.batchSize < 0 then jobs.rows.length else claim.batchSize.toNat
  let ids := claim.claimedIds claim.selectsLite batch jobs
  let claimed := claim.leaseIds ids jobs
  (claimed, claimed.rows.filter (·.id ∈ ids))

end Claim

/-! ### Completion -/

/-- The arguments of `complete_planning_job`. -/
structure Completion where
  jobId : String
  leaseOwner : String
  state : JobState
  producer : Option String := none
  lastError : Option String := none
  nextAttemptAt : Option Instant := none

namespace Completion
variable (completion : Completion)

/-- The fence. -/
def fences (row : JobRow) : Bool :=
  row.id = completion.jobId && row.leaseOwner = some completion.leaseOwner && row.state = .leased &&
    !row.cancelRequested

def set (row : JobRow) : JobRow := {row with
  state := completion.state
  producer := completion.producer.or row.producer
  lastError := completion.lastError
  nextAttemptAt := completion.nextAttemptAt
  leaseOwner := none
  leaseUntil := none }

/-- `complete_planning_job` of Full, and whether it hit the row. -/
def apply (jobs : JobTable) : JobTable × Bool :=
  (jobs.updateWhere completion.fences completion.set fun _ => rfl, jobs.rows.any completion.fences)

/-- `complete_planning_job` of Lite sets the producer it is given. -/
def applyLite (jobs : JobTable) : JobTable × Bool :=
  (jobs.updateWhere completion.fences (fun row => {completion.set row with producer := completion.producer})
    fun _ => rfl, jobs.rows.any completion.fences)

theorem forall_apply {P : JobRow → Prop} {completion : Completion} {jobs : JobTable} (hP : ∀ row ∈ jobs.rows, P row)
    (hset : ∀ row ∈ jobs.rows, P row → completion.fences row → P (completion.set row)) :
    ∀ row ∈ (completion.apply jobs).1.rows, P row := by
  dsimp only [Completion.apply]
  exact Table.forall_updateWhere hP hset

theorem forall_applyLite {P : JobRow → Prop} {completion : Completion} {jobs : JobTable}
    (hP : ∀ row ∈ jobs.rows, P row) (hset : ∀ row ∈ jobs.rows, P row → completion.fences row →
      P {completion.set row with producer := completion.producer}) :
    ∀ row ∈ (completion.applyLite jobs).1.rows, P row := by
  dsimp only [Completion.applyLite]
  exact Table.forall_updateWhere hP hset

end Completion

/-! ### What the worker completes a job with -/

/-- `_complete` of a job that is not to be planned -/
def writeOff (leaseOwner jobId reason : String) : Completion where
  jobId
  leaseOwner
  state := if reason = "cancelled" then .cancelled else .discarded
  lastError := if reason = "cancelled" then none else some reason

/-- `_backoff` -/
def backoff (capSeconds : Int) (attempts : Nat) (now : Instant) : Instant :=
  (now + min capSeconds (5 * 2 ^ (attempts - 1)) * 1000000).toNat

/-- What `_fail` completes the job with. No limit is read as three. -/
def failure (leaseOwner : String) (job : JobRow) (capSeconds : Int) (now : Instant) (lastError : String) :
    Completion where
  jobId := job.id
  leaseOwner
  state := .failed
  lastError := some lastError
  nextAttemptAt :=
    let maxAttempts := if job.maxAttempts = 0 then 3 else job.maxAttempts
    if maxAttempts ≤ job.attempts then none else some (backoff capSeconds job.attempts now)

/-! ### Cancellation -/

/-- The UPDATE of `cancel_task`. -/
def cancelJobsOf (workspaceId taskId : String) (jobs : JobTable) : JobTable :=
  jobs.updateWhere (fun row => row.workspaceId = workspaceId && row.taskId = taskId &&
    row.state ∈ [.pending, .leased]) (fun row => {row with cancelRequested := true, state := .cancelled}) fun _ => rfl

/-- The UPDATE of `_apply_invalidation_side_effects`. -/
def cancelJobs (ids : List String) (jobs : JobTable) : JobTable :=
  jobs.updateWhere (fun row => row.id ∈ ids) (fun row => {row with cancelRequested := true, state := .cancelled})
    fun _ => rfl

/-! ### Sweeps -/

/-- A lease that has run out. -/
def JobRow.lapsed (now : Instant) (row : JobRow) : Bool := row.state = .leased && row.leaseUntil.any (· < now)

def JobRow.release (row : JobRow) : JobRow := {row with
  state := .pending
  leaseOwner := none
  leaseUntil := none }

/-- The first UPDATE of either sweep. -/
def releaseLapsed (now : Instant) (jobs : JobTable) : JobTable :=
  jobs.updateWhere (fun row => row.lapsed now && row.attempts < row.maxAttempts) JobRow.release fun _ => rfl

def JobRow.exhaust (row : JobRow) : JobRow := {row with
  state := .discarded
  leaseOwner := none
  leaseUntil := none
  lastError := row.lastError.or (some "max_attempts_exhausted") }

/-- `sweep_stale_planning_jobs` of Full -/
def sweepStalePlanningJobs (now : Instant) (jobs : JobTable) : JobTable :=
  (releaseLapsed now jobs).updateWhere (fun row => row.state ∈ [.pending, .leased] && row.maxAttempts ≤ row.attempts)
    JobRow.exhaust fun _ => rfl

def JobRow.orphan (row : JobRow) : JobRow := {row with
  state := .discarded
  lastError := some "task_state_missing" }

/-- `sweep_stale_planning_jobs` of Lite, by the tasks there are. -/
def sweepStalePlanningJobsLite (hasTask : String → String → Bool) (now : Instant) (jobs : JobTable) : JobTable :=
  (releaseLapsed now jobs).updateWhere (fun row => row.state ∈ [.pending, .leased] &&
    !hasTask row.workspaceId row.taskId) JobRow.orphan fun _ => rfl

end OpenTimeline.Planning
