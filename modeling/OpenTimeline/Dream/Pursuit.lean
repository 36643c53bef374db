import OpenTimeline.TaskState.Store
import OpenTimeline.Words
import OpenTimeline.Dream.Batch

/-! The pursuit of accepted proposals: `reconcile_dream_pursuit`.

The loop takes the proposals that are accepted or pursued, in the order of their
acceptance, as they stood at its start. One without a task is bound to the session's, if
that is idle. One with a task is abandoned, started or completed after what the task's
projection says, in a batch that the store may refuse.

What a turn does to another proposal is nothing, and to a task that is not idle nothing
either (`Sound.turn`); so the loop finds each proposal as it was (`Sound.loop`). -/
namespace OpenTimeline.Dream
open Library
open TaskState (TaskStore TaskIds TaskStateProjection TaskStateEvent TaskStatus PlanStepState StoreError
  WriteRequest ensureTaskState applyTaskStateEvents objectiveContractRevision planIdFor
  planningProducerDeterministic)

variable (host : Host) (isoformat : Instant → String)

/-! ### The plan of a bound objective -/

/-- What the stores of plans and planning jobs answer, and what the text device asks of a
character. -/
structure Planner where
  /-- `str.isalnum` for one character -/
  isAlnum : Char → Bool
  /-- The job `enqueue_planning_job` has for a proposal. -/
  jobId : String → String
  /-- The root goal `write_plan_rows` inserts for a proposal. -/
  rootGoalId : String → String

/-- `takeover.normalize_text` -/
def normalizeText (planner : Planner) (value : String) : String :=
  normalizeWords host.lower planner.isAlnum value

/-- `takeover.objective_hash` -/
def objectiveHash (planner : Planner) (value : String) : String :=
  let normalized := normalizeText host planner value
  if normalized = "" then "" else String.ofList ((host.sha256Hex normalized).toList.take 20)

def maxPlanSteps : Int := 12

/-- `READ_ONLY_DIAGNOSIS_TEMPLATE`: a title, and a description around the objective. -/
def readOnlyDiagnosisTemplate : List (String × String × String) :=
  [("Read the current state",
      "Read the files and recent events that describe '", "' without changing anything."),
    ("Report what is true",
      "Write down what exists today, what is missing, and what is uncertain about '", "'."),
    ("Ask for the missing decision",
      "Name the one decision the owner must make before any change to '", "' is safe.")]

/-- `charter_for_task`, its `max_steps`. -/
def charterMaxSteps (maxSteps : Int) : Int := max 1 (min maxPlanSteps maxSteps)

/-- `short_objective` -/
def shortObjective (objective : String) : String :=
  let cleaned := strip (" ".intercalate (splitBlanks objective))
  String.ofList ((if cleaned = "" then "the stated objective" else cleaned).toList.take 120)

/-- `deterministic_plan` -/
def deterministicPlan (objective : String) (maxSteps : Int) : List PlanStepState :=
  (readOnlyDiagnosisTemplate.take maxSteps.toNat).zipIdx.map fun (template, i) => {
    stepIndex := i + 1
    goalId := none
    title := template.1
    description := template.2.1 ++ shortObjective objective ++ template.2.2
    status := "candidate"
    dependsOn := if i = 0 then [] else [(i : Int)]
    attempts := 0
    mutating := false
    blockedReason := "" }

/-- `plan_steps_to_json` -/
def planStepsToJson (steps : List PlanStepState) : Json :=
  .arr (steps.map fun step => .obj [("step_index", .int step.stepIndex), ("goal_id", textOrNull step.goalId),
    ("title", .str step.title), ("description", .str step.description), ("status", .str step.status),
    ("depends_on", .arr (step.dependsOn.map .int)), ("attempts", .int step.attempts),
    ("mutating", .bool step.mutating), ("blocked_reason", .str step.blockedReason)])

/-- The arguments of a reconcile. -/
structure ReconcileRequest where
  scope : DreamScope
  sessionId : String
  now : Instant
  maxPlanSteps : Int := Dream.maxPlanSteps
  afterSurfaces : Int := 3

/-- The events that set an objective and its plan. -/
def objectiveEvents (planner : Planner) (request : ReconcileRequest) (proposalId firstStep : String)
    (contractRevision : Int) : List TaskStateEvent :=
  let maxSteps := charterMaxSteps (max 1 request.maxPlanSteps)
  let rootGoalId := planner.rootGoalId proposalId
  [{ seq := 0
     kind := .known .objectiveSet
     contractRevision
     payload := [("objective_text", .str firstStep), ("objective_hash", .str (objectiveHash host planner firstStep)),
       ("source", .str "dream_proposal"), ("proposal_id", .str proposalId)]
     occurredAt := request.now
     actor := "system" },
   { seq := 0
     kind := .known .planApproved
     contractRevision
     payload := [("producer", .str planningProducerDeterministic),
       ("plan_id", .str (planIdFor host request.sessionId contractRevision)), ("root_goal_id", .str rootGoalId),
       ("steps", planStepsToJson (deterministicPlan firstStep maxSteps)),
       ("charter", .obj [("max_steps", .int maxSteps), ("reason", .str "deterministic read-only diagnosis")]),
       ("descriptive_sources", .obj [])]
     occurredAt := request.now
     actor := "system"
     goalId := some rootGoalId }]

/-- The event that binds it to the proposal. -/
def objectiveBoundEvent (planner : Planner) (request : ReconcileRequest) (proposalId firstStep : String) :
    DreamProposalEvent where
  seq := 0
  kind := .known .objectiveBound
  payload := [("task_id", .str request.sessionId), ("objective_hash", .str (objectiveHash host planner firstStep)),
    ("plan_root_goal_id", .str (planner.rootGoalId proposalId)),
    ("planning_job_id", .str (planner.jobId proposalId))]
  occurredAt := request.now
  actor := "system"
  actorClass := "system"

/-- A task a new objective may be bound onto. -/
def isIdle (status : TaskStatus) : Bool := status ∈ [TaskStatus.awaitingObjective, .cancelled]

/-- The store of a task, inserted where there is none: `ensure_task_state`. -/
def DreamDatabase.ensureTask (db : DreamDatabase) (scope : DreamScope) (taskId sessionId : String) : TaskStore :=
  (db.tasks (scope.taskKey taskId)).getD (ensureTaskState ⟨taskId, scope.workspaceId, scope.ownerId, sessionId⟩)

def DreamDatabase.setTask (db : DreamDatabase) (key : TaskKey) (store : TaskStore) : DreamDatabase :=
  {db with tasks := Function.update db.tasks key (some store)}

/-- The write that sets the objective of a task, and its plan. -/
def objectiveWrite (planner : Planner) (request : ReconcileRequest) (proposalId firstStep : String)
    (task : TaskStateProjection) : WriteRequest where
  sessionId := request.sessionId
  newEvents := objectiveEvents host planner request proposalId firstStep
    (objectiveContractRevision task.contractRevision task.objectiveHash
      (some (objectiveHash host planner firstStep)))

theorem DreamDatabase.tasks_setTask (db : DreamDatabase) (key : TaskKey) (store : TaskStore) (other : TaskKey) :
    (db.setTask key store).tasks other = if other = key then some store else db.tasks other :=
  Function.update_apply db.tasks key (some store) other

/-- `_bind_objective`, one section: a refusal of the proposal's event takes the task's
events back with it. -/
def bindObjective (planner : Planner) (request : ReconcileRequest) (db : DreamDatabase) (row : ProposalRow) :
    Except StoreError (DreamDatabase × Bool) :=
  let firstStep := strip row.firstStep
  if firstStep = "" then .ok (db, false)
  else
    let key := request.scope.taskKey request.sessionId
    let store := db.ensureTask request.scope request.sessionId request.sessionId
    let task := store.row.projection
    if !isIdle task.status then .ok (db.setTask key store, false)
    else match applyTaskStateEvents host store (objectiveWrite host planner request row.id firstStep task) with
    | .error e => .error e
    | .ok store =>
      match applyDreamEvents host (db.setTask key store) request.scope row.id
        [objectiveBoundEvent host planner request row.id firstStep] request.afterSurfaces with
      | .error _ => .ok (db, false)
      | .ok after => .ok (after, true)

/-! ### The pursuit of a bound proposal -/

/-- The step statuses `_plan_has_started` looks for. -/
def startedStepStatuses : List String := ["in_progress", "completed"]

/-- `_plan_has_started` -/
def planHasStarted (task : TaskStateProjection) : Bool :=
  task.plan.any fun plan => plan.steps.any fun step => step.status ∈ startedStepStatuses

/-- `_abandon_event` -/
def abandonEvent (reason : String) (now : Instant) : DreamProposalEvent where
  seq := 0
  kind := .known .pursuitAbandoned
  payload := [("reason", .str reason), ("abandoned_at", .str (isoformat now))]
  occurredAt := now
  actor := "system"
  actorClass := "system"

/-- `_pursuit_started_event` -/
def pursuitStartedEvent (task : TaskStateProjection) (now : Instant) : DreamProposalEvent where
  seq := 0
  kind := .known .pursuitStarted
  payload := [("pursuit_started_at", .str (isoformat now)),
    ("plan_root_goal_id", textOrNull (task.plan.bind (·.rootGoalId)))]
  occurredAt := now
  actor := "system"
  actorClass := "system"

def completedEvent (taskId : String) (now : Instant) : DreamProposalEvent where
  seq := 0
  kind := .known .completed
  payload := [("completed_at", .str (isoformat now)), ("task_id", .str taskId)]
  occurredAt := now
  actor := "system"
  actorClass := "system"

/-- The task still has the objective the proposal was bound to. Two objectives not there
are not agreement. -/
def objectiveAgrees (row : ProposalRow) (task : TaskStateProjection) : Bool :=
  row.objectiveHash ≠ none && task.objectiveHash ≠ none && task.objectiveHash = row.objectiveHash

/-- The batch of a turn for a proposal bound to a task. -/
def pursuitEvents (row : ProposalRow) (taskId : String) (loaded : Option TaskStateProjection) (now : Instant) :
    List DreamProposalEvent :=
  match loaded with
  | none => [abandonEvent isoformat "task_state_missing" now]
  | some task =>
    if !objectiveAgrees row task then [abandonEvent isoformat "objective_changed" now]
    else if task.status = .cancelled then [abandonEvent isoformat "task_cancelled" now]
    else if task.status = .done ∧ row.status ≠ .completed then
      -- no row of the table leads from accepted to completed
      (if row.status = .accepted then [pursuitStartedEvent isoformat task now] else []) ++
        [completedEvent isoformat taskId now]
    else if row.status = .accepted ∧ planHasStarted task then [pursuitStartedEvent isoformat task now]
    else []

/-! ### The loop -/

structure ReconcileCounts where
  bound : Nat := 0
  pursuitStarted : Nat := 0
  completed : Nat := 0
  abandoned : Nat := 0
deriving DecidableEq, Repr

def ReconcileCounts.count (counts : ReconcileCounts) (events : List DreamProposalEvent) : ReconcileCounts where
  bound := counts.bound
  pursuitStarted := counts.pursuitStarted + events.countP (·.kind = .known .pursuitStarted)
  completed := counts.completed + events.countP (·.kind = .known .completed)
  abandoned := counts.abandoned + events.countP (·.kind = .known .pursuitAbandoned)

/-- `AND status IN ('accepted', 'pursued') ORDER BY accepted_at ASC`: no time sorts first. -/
def DreamDatabase.pursuable (db : DreamDatabase) (scope : DreamScope) : List ProposalRow :=
  (db.proposals.rows.filter fun row =>
      scope.covers row && row.status ∈ [DreamProposalStatus.accepted, .pursued]).insertionSort
    fun a b => a.acceptedAt.elim 0 (· + 1) ≤ b.acceptedAt.elim 0 (· + 1)

/-- One turn of the loop. A batch that is refused, or loses its race, is passed over. -/
def reconcileTurn (planner : Planner) (request : ReconcileRequest) (state : DreamDatabase × ReconcileCounts)
    (row : ProposalRow) : Except StoreError (DreamDatabase × ReconcileCounts) :=
  let (db, counts) := state
  match row.taskId with
  | none =>
    match bindObjective host planner request db row with
    | .error e => .error e
    | .ok (after, bound) => .ok (after, if bound then {counts with bound := counts.bound + 1} else counts)
  | some taskId =>
    let events := pursuitEvents isoformat row taskId (db.loadTaskState request.scope taskId) request.now
    if events.isEmpty then .ok (db, counts)
    else match applyDreamEvents host db request.scope row.id events request.afterSurfaces with
    | .error _ => .ok (db, counts)
    | .ok after => .ok (after, counts.count events)

/-- `reconcile_dream_pursuit` -/
def reconcileDreamPursuit (planner : Planner) (request : ReconcileRequest) (db : DreamDatabase) :
    Except StoreError (DreamDatabase × ReconcileCounts) :=
  (db.pursuable request.scope).foldlM (reconcileTurn host isoformat planner request) (db, {})

/-! ### What a turn leaves alone -/

/-- The proposals are kept, and so are the tasks beside them. -/
structure Sound (db : DreamDatabase) : Prop where
  kept : Kept db
  tasks : ∀ key store, db.tasks key = some store → TaskState.Kept store

/-- Every proposal but some, and every task that is not idle, is as it was. -/
structure Untouched (db after : DreamDatabase) (proposalIds : List String) : Prop where
  proposals : ∀ id, id ∉ proposalIds → after.proposals.find id = db.proposals.find id
  tasks : ∀ key store, db.tasks key = some store → isIdle store.row.projection.status = false →
    after.tasks key = some store

theorem Untouched.refl (db : DreamDatabase) (proposalIds : List String) : Untouched db db proposalIds :=
  ⟨fun _ _ => rfl, fun _ _ h _ => h⟩

theorem Untouched.trans {db mid after : DreamDatabase} {ids ids' : List String} (h : Untouched db mid ids)
    (h' : Untouched mid after ids') : Untouched db after (ids ++ ids') := by
  refine ⟨fun id hid => ?_, fun key store hstore hbusy => h'.tasks key store (h.tasks key store hstore hbusy) hbusy⟩
  rw [List.mem_append, not_or] at hid
  rw [h'.proposals id hid.2, h.proposals id hid.1]

theorem Appended.untouched {db after : DreamDatabase} {proposalId : String} {row : ProposalRow}
    {events : List DreamProposalEvent} (h : Appended db after proposalId row events) :
    Untouched db after [proposalId] :=
  ⟨fun id hid => by rw [h.rows, if_neg (fun heq => hid (List.mem_singleton.mpr heq))],
    fun key store hstore _ => by rw [h.tasks, hstore]⟩

variable {host isoformat}

theorem Sound.applyDreamEvents {db after : DreamDatabase} (h : Sound db) {scope : DreamScope}
    {proposalId : String} {batch : List DreamProposalEvent} {afterSurfaces : Int} {expectedRevision : Option Int}
    (hok : applyDreamEvents host db scope proposalId batch afterSurfaces expectedRevision = .ok after) :
    Sound after := by
  obtain ⟨hkept, row, _, _, hafter⟩ := h.kept.applyDreamEvents hok
  exact ⟨hkept, fun key store hstore => h.tasks key store (hafter.tasks ▸ hstore)⟩

theorem Sound.setTask {db : DreamDatabase} (h : Sound db) (key : TaskKey) {store : TaskStore}
    (hstore : TaskState.Kept store) : Sound (db.setTask key store) := by
  refine ⟨⟨h.kept.sorted, h.kept.highest, h.kept.owned⟩, fun other held hheld => ?_⟩
  rw [db.tasks_setTask] at hheld
  split_ifs at hheld with hkey
  · exact Option.some.inj hheld ▸ hstore
  · exact h.tasks other held hheld

/-- Putting a task where there was none, or an idle one, or itself. -/
theorem setTask_tasks {db : DreamDatabase} {key : TaskKey} {store : TaskStore}
    (h : ∀ held, db.tasks key = some held → isIdle held.row.projection.status = false → held = store) :
    ∀ other held, db.tasks other = some held → isIdle held.row.projection.status = false →
      (db.setTask key store).tasks other = some held := by
  intro other held hheld hidle
  rw [db.tasks_setTask]
  split_ifs with hkey
  · rw [h held (hkey ▸ hheld) hidle]
  · exact hheld

theorem Sound.ensureTask {db : DreamDatabase} (h : Sound db) (scope : DreamScope) (taskId sessionId : String) :
    TaskState.Kept (db.ensureTask scope taskId sessionId) := by
  unfold DreamDatabase.ensureTask
  cases hstore : db.tasks (scope.taskKey taskId) with
  | none => exact TaskState.kept_ensureTaskState _
  | some store => exact h.tasks _ store hstore

variable (host isoformat) (planner : Planner) (request : ReconcileRequest)

/-- Binding an objective succeeds or is refused, and meets no error of the task's store. -/
theorem Sound.bindObjective {db : DreamDatabase} (h : Sound db) (row : ProposalRow) :
    ∃ after bound, bindObjective host planner request db row = .ok (after, bound) ∧ Sound after ∧
      Untouched db after [row.id] := by
  by_cases hempty : strip row.firstStep = ""
  · exact ⟨db, false, by simp only [Dream.bindObjective, if_pos hempty], h, .refl db [row.id]⟩
  have hensured := h.ensureTask request.scope request.sessionId request.sessionId
  by_cases hidle : (!isIdle (db.ensureTask request.scope request.sessionId request.sessionId).row.projection.status)
  · refine ⟨db.setTask (request.scope.taskKey request.sessionId) _, false, ?_, h.setTask _ hensured,
      fun _ _ => rfl, setTask_tasks fun held hheld _ => ?_⟩
    · simp only [Dream.bindObjective, if_neg hempty, if_pos hidle]
    rw [DreamDatabase.ensureTask, hheld, Option.getD_some]
  obtain ⟨store, hstore⟩ := hensured.succeeds host
    (rfl : (objectiveWrite host planner request row.id (strip row.firstStep)
      (db.ensureTask request.scope request.sessionId request.sessionId).row.projection).expectedRevision = none)
  have hset := h.setTask (request.scope.taskKey request.sessionId) (hensured.applyTaskStateEvents host hstore).1
  have hfree := @setTask_tasks db (request.scope.taskKey request.sessionId) store fun held hheld hbusy => by
    rw [DreamDatabase.ensureTask, hheld, Option.getD_some, hbusy] at hidle
    exact absurd rfl hidle
  cases hbound : Dream.applyDreamEvents host (db.setTask (request.scope.taskKey request.sessionId) store)
    request.scope row.id [objectiveBoundEvent host planner request row.id (strip row.firstStep)]
    request.afterSurfaces with
  | error e =>
    refine ⟨db, false, ?_, h, .refl db [row.id]⟩
    simp only [Dream.bindObjective, if_neg hempty, if_neg hidle, hstore, hbound]
  | ok after =>
    refine ⟨after, true, ?_, hset.applyDreamEvents hbound, ?_⟩
    · simp only [Dream.bindObjective, if_neg hempty, if_neg hidle, hstore, hbound]
    · obtain ⟨_, _, _, _, hafter⟩ := hset.kept.applyDreamEvents hbound
      refine ⟨hafter.untouched.proposals, fun key held hheld hbusy => ?_⟩
      rw [hafter.tasks]
      exact hfree key held hheld hbusy

/-- A turn fails in no state the store reaches, and touches only its own proposal. -/
theorem Sound.turn {db : DreamDatabase} (h : Sound db) (counts : ReconcileCounts) (row : ProposalRow) :
    ∃ after counts', reconcileTurn host isoformat planner request (db, counts) row = .ok (after, counts') ∧
      Sound after ∧ Untouched db after [row.id] := by
  unfold reconcileTurn
  cases htask : row.taskId with
  | none =>
    obtain ⟨after, bound, hbind, hsound, huntouched⟩ := h.bindObjective host planner request row
    simp only [hbind]
    exact ⟨_, _, rfl, hsound, huntouched⟩
  | some taskId =>
    dsimp only
    by_cases hempty : (pursuitEvents isoformat row taskId (db.loadTaskState request.scope taskId)
        request.now).isEmpty
    · rw [if_pos hempty]
      exact ⟨_, _, rfl, h, .refl db [row.id]⟩
    · rw [if_neg hempty]
      cases happlied : Dream.applyDreamEvents host db request.scope row.id
        (pursuitEvents isoformat row taskId (db.loadTaskState request.scope taskId) request.now)
        request.afterSurfaces with
      | error e => exact ⟨_, _, rfl, h, .refl db [row.id]⟩
      | ok after =>
        obtain ⟨_, _, _, _, hafter⟩ := h.kept.applyDreamEvents happlied
        exact ⟨_, _, rfl, h.applyDreamEvents happlied, hafter.untouched⟩

end OpenTimeline.Dream
