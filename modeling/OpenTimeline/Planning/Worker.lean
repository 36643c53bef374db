import OpenTimeline.Dream.Pursuit
import OpenTimeline.Planning.Jobs

/-! The planning worker.

A worker claims jobs, and for each reads the task without a lock, has a model plan it, and
writes the plan back in one transaction: it takes the lock of the task's row, appends the
approval, inserts the plan's rows and completes the job under the fence of its lease. In
between the owner may do anything to the task, and other workers to the job. A row that moved
on since it was read is read again, under the lock, and asked again whether the plan is stale. -/
namespace OpenTimeline.Planning
open Library
open TaskState (TaskStore TaskIds TaskStateProjection TaskStateEvent PlanStepState StoreError WriteRequest
  ensureTaskState applyTaskStateEvents applyTaskStateEvents_ok commitWrite_ok casUpdate_some planIdFor orElse)
open Dream (TaskKey planStepsToJson)

variable (host : Host)

/-! ### Plan rows -/

/-- A row of `autonomy_goals`, its columns that are not the same for every plan. -/
structure GoalRow where
  id : String
  sessionId : String
  workspaceId : String
  userId : String
  title : String
  description : String
  goalSignature : String
  status : String
  parentGoalId : Option String
  stepIndex : Int
  planContractRevision : Int
  attemptCount : Int
  blockedReason : String
  dependsOn : List Int
  mutating : Bool
deriving DecidableEq, Repr

/-- `_plan_objective_title` -/
def planObjectiveTitle (steps : List PlanStepState) (taskId objectiveText : String) : String :=
  let titles := (steps.filter (·.stepIndex = 0) ++ steps).map fun step => strip step.title
  orElse (strip objectiveText) ((titles.find? (· ≠ "")).getD (orElse taskId "objective"))

/-- What the text device and `uuid4` give `write_plan_rows`. -/
structure PlanText where
  /-- `sanitize_untrusted_objective` -/
  sanitize : Nat → String → String
  rootGoalId : String
  goalId : Nat → String

/-- `_insert_goal_row` -/
def goalRow (text : PlanText) (job : JobInput) (scope : ResolvedScope) (contractRevision : Int) (id : String)
    (parentGoalId : Option String) (status : String) (step : PlanStepState) : GoalRow where
  id
  sessionId := job.sessionId
  workspaceId := scope.workspaceId
  userId := scope.ownerId
  title := text.sanitize 140 step.title
  description := text.sanitize 240 (orElse step.description step.title)
  goalSignature := String.ofList ((host.sha256Hex ("|".intercalate ["plan", text.rootGoalId, toString step.stepIndex,
    step.title])).toList.take 24)
  status
  parentGoalId
  stepIndex := step.stepIndex
  planContractRevision := contractRevision
  attemptCount := step.attempts
  blockedReason := step.blockedReason
  dependsOn := step.dependsOn
  mutating := step.mutating

/-- `write_plan_rows`: the root goal, and a goal for each step. -/
def writePlanRows (text : PlanText) (job : JobInput) (scope : ResolvedScope) (contractRevision : Int)
    (steps : List PlanStepState) : List GoalRow :=
  let root : PlanStepState := {
    stepIndex := 0
    goalId := none
    title := planObjectiveTitle steps job.taskId job.objectiveText
    description := ""
    status := ""
    dependsOn := []
    attempts := 0
    mutating := false
    blockedReason := "" }
  goalRow host text job scope contractRevision text.rootGoalId none "selected" root ::
    steps.zipIdx.map fun (step, i) =>
      goalRow host text job scope contractRevision (text.goalId i) (some text.rootGoalId) "candidate" step

/-! ### Workers -/

/-- A plan `plan_steps_from_model` parsed, under the job's charter. An answer without steps is a
failure. -/
structure ModelPlan where
  steps : List PlanStepState
  charter : Json
  nonempty : steps ≠ []

inductive WorkerPhase
  | idle
  | loaded (job : JobRow) (task : TaskStateProjection)
  | planned (job : JobRow) (task : TaskStateProjection) (plan : ModelPlan)
  /-- The row's revision is not the one expected, and its lock is released. -/
  | conflicted (job : JobRow) (task : TaskStateProjection) (plan : ModelPlan)
  | locked (job : JobRow) (task : TaskStateProjection) (plan : ModelPlan)
  /-- About to write the job off. -/
  | ending (completion : Completion)

/-- One `run` of the job. -/
structure Worker where
  leaseOwner : String
  todo : List JobRow
  phase : WorkerPhase

structure PlanState (ι : Type) where
  tasks : TaskKey → Option TaskStore
  jobs : JobTable
  goals : List GoalRow
  workers : ι → Worker
  /-- The worker that holds the lock of a task's row. -/
  holder : TaskKey → Option ι

inductive WorkerAction
  | claim (claim : Claim)
  | load
  /-- The model answers, or its answer cannot be used. -/
  | plan (answer : Except (Int × Instant × String) ModelPlan)
  | lock
  | relock
  | commit (text : PlanText) (now : Instant)
  | finish
  /-- The job raises: `run` goes on with the next. -/
  | raises
  | crash

/-- The event of an approval. -/
def approvalEvent (job : JobInput) (task : TaskStateProjection) (plan : ModelPlan) (text : PlanText) (now : Instant) :
    TaskStateEvent where
  seq := 0
  kind := .known .planApproved
  contractRevision := task.contractRevision
  payload := [("producer", .str planningProducerModel),
    ("plan_id", .str (planIdFor host job.taskId task.contractRevision)), ("root_goal_id", .str text.rootGoalId),
    ("steps", planStepsToJson plan.steps), ("charter", plan.charter), ("descriptive_sources", .obj [])]
  occurredAt := now
  actor := "worker:planning"

/-- What is left of the write once the lock is held and its precondition checked. -/
def approvalRequest (job : JobInput) (task : TaskStateProjection) (plan : ModelPlan) (text : PlanText) (now : Instant) :
    WriteRequest where
  sessionId := job.sessionId
  newEvents := [approvalEvent host job task plan text now]

def JobInput.scope (job : JobInput) : ResolvedScope := resolvedScopeFromJson host job.scopeJson

def approvalCompletion (leaseOwner jobId : String) : Completion where
  jobId
  leaseOwner
  state := .succeeded
  producer := some planningProducerModel

/-- `_reread_cancel_requested` -/
def rereadCancelRequested (jobs : JobTable) (jobId : String) : Bool := (jobs.find jobId).any (·.cancelRequested)

namespace PlanState
variable {ι : Type} [DecidableEq ι] (s : PlanState ι)

def setPhase (i : ι) (phase : WorkerPhase) : PlanState ι :=
  {s with workers := Function.update s.workers i {s.workers i with phase}}

def setLocked (i : ι) (job : JobRow) (task : TaskStateProjection) (plan : ModelPlan) : PlanState ι :=
  {s.setPhase i (.locked job task plan) with holder := Function.update s.holder job.taskKey (some i)}

/-- The transaction ends, and with it the locks it holds. -/
def unlock (i : ι) : PlanState ι := {s with
  holder := match (s.workers i).phase with
    | .locked job _ _ => Function.update s.holder job.taskKey none
    | _ => s.holder }

/-- What becomes of a job that is loaded. -/
def loadPhase (leaseOwner : String) (job : JobRow) : WorkerPhase :=
  if job.jobKind ≠ planningJobKindDecompose then .idle
  else match s.tasks job.taskKey with
    | none => .ending (writeOff leaseOwner job.id "task_state_missing")
    | some store => match job.staleFor host store.row.projection job.cancelRequested with
      | some reason => .ending (writeOff leaseOwner job.id reason)
      | none => .loaded job store.row.projection

/-- `FOR UPDATE`, and the revision under it. A worker that finds another revision rolls back to
its savepoint, which releases the lock. -/
def lockRow (i : ι) (job : JobRow) (task : TaskStateProjection) (plan : ModelPlan) : PlanState ι :=
  match s.tasks job.taskKey with
  | none => s.setPhase i (.ending (writeOff (s.workers i).leaseOwner job.id planningStaleReason))
  | some store =>
    if store.row.revision = task.revision then s.setLocked i job task plan
    else s.setPhase i (.conflicted job task plan)

/-- `_retry_after_conflict` up to its write -/
def relockRow (i : ι) (job : JobRow) (task : TaskStateProjection) (plan : ModelPlan) : PlanState ι :=
  match s.tasks job.taskKey with
  | none => s.setPhase i (.ending (writeOff (s.workers i).leaseOwner job.id planningStaleReason))
  | some store => match job.staleFor host store.row.projection (rereadCancelRequested s.jobs job.id) with
    | some _ => s.setPhase i (.ending (writeOff (s.workers i).leaseOwner job.id planningStaleReason))
    | none => s.setLocked i job task plan

/-- The approval, the plan's rows and the fenced completion, in one transaction. -/
def commitPlan (i : ι) (job : JobRow) (task : TaskStateProjection) (plan : ModelPlan) (text : PlanText) (now : Instant) :
    PlanState ι :=
  let left := (s.unlock i).setPhase i .idle
  match s.tasks job.taskKey with
  | none => left
  | some store => match applyTaskStateEvents host store (approvalRequest host job.toJobInput task plan text now) with
    | .error _ => left
    | .ok after =>
      let (jobs, fenced) := (approvalCompletion (s.workers i).leaseOwner job.id).apply s.jobs
      if fenced then
        {left with
          tasks := Function.update s.tasks job.taskKey (some after)
          goals := s.goals ++ writePlanRows host text job.toJobInput (job.scope host) task.contractRevision plan.steps
          jobs }
      else left

/-- A worker's next step. -/
def workerNext (i : ι) (action : WorkerAction) : Option (PlanState ι) :=
  match action, (s.workers i).phase with
  | .claim claim, .idle =>
    if (s.workers i).todo.isEmpty then
      let (jobs, rows) := claim.apply s.jobs
      some {s with jobs, workers := Function.update s.workers i ⟨claim.leaseOwner, rows, .idle⟩}
    else none
  | .load, .idle => match (s.workers i).todo with
    | [] => none
    | job :: rest =>
      let phase := s.loadPhase host (s.workers i).leaseOwner job
      some {s with workers := Function.update s.workers i ⟨(s.workers i).leaseOwner, rest, phase⟩}
  | .plan answer, .loaded job task => match answer with
    | .ok plan => some (s.setPhase i (.planned job task plan))
    | .error (capSeconds, now, lastError) =>
      some (s.setPhase i (.ending (failure (s.workers i).leaseOwner job capSeconds now lastError)))
  | .lock, .planned job task plan => if s.holder job.taskKey = none then some (s.lockRow i job task plan) else none
  | .relock, .conflicted job task plan =>
    if s.holder job.taskKey = none then some (s.relockRow host i job task plan) else none
  | .commit text now, .locked job task plan => some (s.commitPlan host i job task plan text now)
  | .finish, .ending completion => some ({s with jobs := (completion.apply s.jobs).1}.setPhase i .idle)
  | .raises, _ => some ((s.unlock i).setPhase i .idle)
  | .crash, _ => some {s.unlock i with workers := Function.update s.workers i ⟨(s.workers i).leaseOwner, [], .idle⟩}
  | _, _ => none

end PlanState

/-! ### The owner -/

/-- What the rest of the service does, each in a transaction of its own. -/
inductive OwnerAction
  | create (ids : TaskIds)
  /-- A write to a task, with the jobs its invalidation cancels and the goals it inserts. -/
  | write (key : TaskKey) (request : WriteRequest) (cancelled : List String) (goals : List GoalRow)
  /-- `cancel_task` -/
  | cancel (key : TaskKey) (request : WriteRequest)
  | enqueue (request : Enqueue)
  | sweep (now : Instant)

namespace PlanState
variable {ι : Type} [DecidableEq ι] (s : PlanState ι)

/-- A write waits for the lock of the row. -/
def writeTask (key : TaskKey) (request : WriteRequest) : Option (PlanState ι) :=
  match s.tasks key with
  | none => none
  | some store =>
    if s.holder key = none then
      match applyTaskStateEvents host store request with
      | .error _ => none
      | .ok after => some {s with tasks := Function.update s.tasks key (some after)}
    else none

def ownerNext (action : OwnerAction) : Option (PlanState ι) :=
  match action with
  | .create ids =>
    let key : TaskKey := ⟨ids.workspaceId, ids.ownerId, ids.taskId⟩
    if s.tasks key = none then some {s with tasks := Function.update s.tasks key (some (ensureTaskState ids))} else none
  | .write key request cancelled goals => (s.writeTask host key request).map fun after =>
    {after with jobs := cancelJobs cancelled s.jobs, goals := s.goals ++ goals}
  | .cancel key request => (s.writeTask host key request).map fun after =>
    {after with jobs := cancelJobsOf key.workspaceId key.taskId s.jobs}
  | .enqueue request => (request.apply host s.jobs).map fun jobs => {s with jobs}
  | .sweep now => some {s with jobs := sweepStalePlanningJobs now s.jobs}

end PlanState

inductive PlanAction (ι : Type)
  | worker (i : ι) (action : WorkerAction)
  | owner (action : OwnerAction)

/-- Workers and the owner, in any interleaving, from any tables. -/
def planSystem (ι : Type) [DecidableEq ι] : System (PlanState ι) (PlanAction ι) where
  init s := (∀ i, (s.workers i).todo = [] ∧ (s.workers i).phase = .idle) ∧ ∀ key, s.holder key = none
  next s action := match action with
    | .worker i action => s.workerNext host i action
    | .owner action => s.ownerNext host action

end OpenTimeline.Planning
