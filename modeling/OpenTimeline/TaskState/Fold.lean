import OpenTimeline.Library.Selection
import OpenTimeline.TaskState.Status

/-! The fold: a task's event log replayed into its projection.

`foldStep` is one turn of the loop of `fold_task_state`, over the loop's own
accumulators. Events are first put in order (`orderedEvents`) and, past
`max_events`, cut to a pinned window (`retainedEvents`). The accumulators are
then read out once, through the status table, into the projection. -/
namespace OpenTimeline.TaskState
open Library

variable (host : Host)

/-! ### Order and truncation -/

/-- `_payload_digest` -/
def payloadDigest (payload : Payload) : String :=
  String.ofList ((host.sha256Hex (canonicalJson (.obj payload))).toList.take 12)

/-- `_sort_key` -/
def sortKey (event : TaskStateEvent) : ℤ ×ₗ String ×ₗ String :=
  toLex (event.seq, toLex (event.kind.str, canonicalJson (.obj event.payload)))

/-- The key `_dedupe` compares. -/
def dedupeKey (event : TaskStateEvent) : ℤ × String × String :=
  (event.seq, event.kind.str, payloadDigest host event.payload)

/-- `_dedupe(sorted(events, key=_sort_key))` -/
def orderedEvents (events : List TaskStateEvent) : List TaskStateEvent :=
  arrange sortKey (dedupeKey host) events

/-- `max(0, max_events - len(PINNED_KINDS))` -/
def tailSize (maxEvents : Int) : Nat := (maxEvents - pinnedKinds.length).toNat

/-- The latest event of each pinned kind and the newest `tailSize` events. -/
def windowEvents (maxEvents : Int) (ordered : List TaskStateEvent) : List TaskStateEvent :=
  orderedEvents host (pins TaskStateEvent.kind pinnedKinds ordered ++ newest (tailSize maxEvents) ordered)

def truncates (maxEvents : Int) (ordered : List TaskStateEvent) : Bool := maxEvents < ordered.length

/-- The events the loop runs over. -/
def retainedEvents (maxEvents : Int) (events : List TaskStateEvent) : List TaskStateEvent :=
  let ordered := orderedEvents host events
  if truncates maxEvents ordered then windowEvents host maxEvents ordered else ordered

theorem dedupeKey_of_sortKey (a b : TaskStateEvent) (h : sortKey a = sortKey b) :
    dedupeKey host a = dedupeKey host b := by
  simp only [sortKey, EmbeddingLike.apply_eq_iff_eq, Prod.mk.injEq] at h
  simp only [dedupeKey, payloadDigest, h.1, h.2.1, h.2.2]

theorem arranged_orderedEvents (events : List TaskStateEvent) :
    Arranged sortKey (dedupeKey host) (orderedEvents host events) :=
  arranged_arrange (dedupeKey_of_sortKey host) events

/-! ### One event -/

/-- The accumulators of the loop. -/
structure FoldState where
  contractRevision : Int := 0
  objectiveText : String := ""
  objectiveHash : Option String := none
  objectiveSetAt : Option Instant := none
  objectiveSetSeq : Int := 0
  constraints : Dict String ApprovedConstraint := ∅
  decisions : Dict String OpenDecision := ∅
  plan : Option ApprovedPlan := none
  steps : Dict Int PlanStepState := ∅
  effects : Dict String UnresolvedEffect := ∅
  latestVerification : Option VerificationRef := none
  citations : List String := []
  cancelledAt : Option Instant := none
  cancelledSeq : Int := 0
  lastCancelSeq : Int := 0
  cancelReason : String := ""
  unknownKinds : List String := []

def FoldState.note (st : FoldState) (kind : String) : FoldState :=
  {st with unknownKinds := st.unknownKinds ++ [kind]}

/-- `_cite`: a citation that is not a uuid is dropped and counted. -/
def FoldState.cite (st : FoldState) (value : String) : FoldState :=
  if value = "" then st
  else if host.isUuid value then {st with citations := st.citations.insert value}
  else st.note "citation_not_uuid"

/-- `_plan_id_for` -/
def planIdFor (taskId : String) (contractRevision : Int) : String :=
  host.uuid5 (taskId ++ "|" ++ toString contractRevision)

/-- Bumps only where the owner restated the objective. -/
def objectiveContractRevision (current : Int) (currentHash newHash : Option String) : Int :=
  if newHash = none ∨ newHash = some "" ∨ newHash = currentHash then current else current + 1

def FoldState.objectiveSet (st : FoldState) (event : TaskStateEvent) : FoldState :=
  let newHash := optText (event.payload.get "objective_hash")
  let revived : Bool := match st.cancelledAt with
    | none => false
    | some at' => Later (event.occurredAt, event.seq) (at', st.cancelledSeq)
  { st with
    contractRevision := objectiveContractRevision st.contractRevision st.objectiveHash newHash
    objectiveText := text (event.payload.get "objective_text") ""
    objectiveHash := newHash
    objectiveSetAt := some event.occurredAt
    objectiveSetSeq := event.seq
    cancelledAt := if revived then none else st.cancelledAt
    cancelledSeq := if revived then 0 else st.cancelledSeq
    cancelReason := if revived then "" else st.cancelReason }

def FoldState.constraintRevoked (st : FoldState) (event : TaskStateEvent) : FoldState :=
  let constraintId := text (event.payload.get "constraint_id") ""
  match st.constraints.lookup constraintId with
  | none => st
  | some existing =>
    let revoked := { existing with
      revokedAt := some ((dtFromJson host (event.payload.get "revoked_at")).getD event.occurredAt)
      reason := orElse (text (event.payload.get "reason") existing.reason) existing.reason }
    {st with constraints := st.constraints.insert constraintId revoked}

def FoldState.decisionResolved (st : FoldState) (event : TaskStateEvent) : FoldState :=
  let decisionId := text (event.payload.get "decision_id") ""
  match st.decisions.lookup decisionId with
  | none => st
  | some existing => {st with decisions := st.decisions.insert decisionId {existing with superseded := true}}

/-- The placeholder a `PLAN_REQUESTED` event opens. -/
def requestedPlan (taskId : String) (current : Int) (event : TaskStateEvent) : ApprovedPlan where
  taskId
  planId := planIdFor host taskId current
  contractRevision := current
  state := .pending
  producer := text (event.payload.get "producer") ""
  rootGoalId := none
  steps := []
  approvedAt := none

/-- Provenance only: it never downgrades a plan already held under this contract. -/
def FoldState.planRequested (taskId : String) (st : FoldState) (event : TaskStateEvent) : FoldState :=
  if st.plan.any (fun plan => plan.contractRevision = st.contractRevision) then st
  else {st with plan := some (requestedPlan host taskId st.contractRevision event), steps := ∅}

/-- The plan a `PLAN_APPROVED` event carries, folded at revision `current`. -/
def approvedPlan (taskId : String) (current : Int) (event : TaskStateEvent) : ApprovedPlan :=
  let planContract := if event.contractRevision = 0 then current else event.contractRevision
  { taskId
    planId := orElse (text (event.payload.get "plan_id") "") (planIdFor host taskId planContract)
    contractRevision := planContract
    state := .approved
    producer := orElse (text (event.payload.get "producer") planningProducerDeterministic)
      planningProducerDeterministic
    rootGoalId := optText (event.payload.get "root_goal_id")
    steps := planStepsFromJson host (event.payload.get "steps")
    approvedAt := some event.occurredAt }

def FoldState.planApproved (taskId : String) (st : FoldState) (event : TaskStateEvent) : FoldState :=
  { st with
    plan := some (approvedPlan host taskId st.contractRevision event)
    steps := Dict.ofList PlanStepState.stepIndex (planStepsFromJson host (event.payload.get "steps")) }

def FoldState.planInvalidated (st : FoldState) : FoldState :=
  {st with plan := st.plan.map fun plan => {plan with state := .invalidated}}

/-- What a step event makes of its step; `none` where a blocked step is dropped, which
would launder a stall into a completion. -/
def stepAfter (kind : TaskStateEventKind) (event : TaskStateEvent) (step : PlanStepState) :
    Option PlanStepState :=
  match kind with
  | .stepStarted =>
    some {step with status := "executing", attempts := step.attempts + 1, blockedReason := ""}
  | .stepCompleted => some {step with status := "done", blockedReason := ""}
  | .stepBlocked =>
    let blockedReason := text (event.payload.get "blocked_reason") ""
    some {step with status := blockingStepStatus, blockedReason := blockedReason}
  | _ =>
    if stepStatus host step.status = blockingStepStatus then none
    else some {step with status := "dropped"}

/-- The branch the four step kinds share. -/
def FoldState.stepEvent (st : FoldState) (kind : TaskStateEventKind) (event : TaskStateEvent) : FoldState :=
  let index := integer host (event.payload.get "step_index") (-1)
  match st.steps.lookup index with
  | none => st.note (kind.value ++ ":unknown_step")
  | some step =>
    match stepAfter host kind event step with
    | none => st.note "step_dropped:blocked"
    | some after => {st with steps := st.steps.insert index after}

def FoldState.verificationRecorded (st : FoldState) (event : TaskStateEvent) : FoldState :=
  match verificationFromJson host event.payload with
  | none => st
  | some ref => ref.evidenceEventIds.foldl (FoldState.cite host) {st with latestVerification := some ref}

def FoldState.cancellationRequested (st : FoldState) (event : TaskStateEvent) : FoldState :=
  { st with
    cancelledAt := some event.occurredAt
    cancelledSeq := event.seq
    lastCancelSeq := max st.lastCancelSeq event.seq
    cancelReason := orElse (text (event.payload.get "reason") cancelReasonTaskCancelled)
      cancelReasonTaskCancelled }

/-- The branches of the loop, one per kind. -/
def applyKind (taskId : String) (st : FoldState) (kind : TaskStateEventKind) (event : TaskStateEvent) :
    FoldState :=
  match kind with
  | .objectiveSet => st.objectiveSet event
  | .objectiveCleared => {st with objectiveText := "", objectiveHash := none}
  | .constraintGranted =>
    match constraintFromJson host event.payload with
    | none => st
    | some constraint => {st with constraints := st.constraints.insert constraint.constraintId constraint}
  | .constraintRevoked => st.constraintRevoked host event
  | .decisionOpened =>
    match decisionFromJson host event.payload with
    | none => st
    | some decision => {st with decisions := st.decisions.insert decision.decisionId decision}
  | .decisionResolved => st.decisionResolved event
  | .planRequested => st.planRequested host taskId event
  | .planApproved => st.planApproved host taskId event
  | .planInvalidated => st.planInvalidated
  | .stepStarted | .stepCompleted | .stepBlocked | .stepDropped => st.stepEvent host kind event
  | .effectRecorded =>
    match effectFromJson host event.payload with
    | none => st
    | some effect => {st with effects := st.effects.insert effect.effectId effect}
  | .effectResolved => {st with effects := st.effects.erase (text (event.payload.get "effect_id") "")}
  | .verificationRecorded => st.verificationRecorded host event
  | .cancellationRequested => st.cancellationRequested event

/-- Stamped with a contract older than `current`, on a kind the contract filter
does not exempt: it still cites, it no longer decides. -/
def superseded (current : Int) (event : TaskStateEvent) : Bool :=
  event.kind ∉ contractExemptKinds && event.contractRevision < current

/-- One turn of the loop. -/
def foldStep (taskId : String) (st : FoldState) (event : TaskStateEvent) : FoldState :=
  let cited := st.cite host (event.sourceEventId.getD "")
  match event.kind with
  | .unknown name => cited.note name
  | .known kind =>
    if superseded cited.contractRevision event then cited else applyKind host taskId cited kind event

def foldEvents (taskId : String) (events : List TaskStateEvent) : FoldState :=
  events.foldl (foldStep host taskId) {}

/-! ### The projection -/

/-- The identifiers a fold is called with. -/
structure TaskIds where
  taskId : String
  workspaceId : String
  ownerId : String
  sessionId : String
deriving DecidableEq, Repr

/-- The task of the concrete runs. -/
def exampleIds : TaskIds := ⟨"t", "w", "o", "s"⟩

structure TaskStateProjection where
  ids : TaskIds
  revision : Int
  contractRevision : Int
  objectiveText : String
  objectiveHash : Option String
  objectiveSetAt : Option Instant
  objectiveSetSeq : Int
  status : TaskStatus
  nextPermittedAction : NextPermittedAction
  constraints : List ApprovedConstraint
  openDecisions : List OpenDecision
  plan : Option ApprovedPlan
  unresolvedEffects : List UnresolvedEffect
  latestVerification : Option VerificationRef
  citations : List String
  cancelledAt : Option Instant
  cancelledSeq : Int
  lastCancelSeq : Int
  cancelReason : String
deriving DecidableEq, Repr

structure FoldResult where
  projection : TaskStateProjection
  sourceRevision : String
  unknownKinds : List String
  truncated : Bool
deriving DecidableEq, Repr

/-- The plan with its steps as the step events left them. -/
def FoldState.folded (st : FoldState) : Option ApprovedPlan :=
  st.plan.map fun plan => {plan with steps := st.steps.sortedValues}

def FoldState.parts (st : FoldState) : StatusInputs where
  cancelledAt := st.cancelledAt
  cancelledSeq := st.cancelledSeq
  objectiveSetAt := st.objectiveSetAt
  objectiveSetSeq := st.objectiveSetSeq
  objectiveText := st.objectiveText
  contractRevision := st.contractRevision
  openDecisions := st.decisions.sortedValues
  plan := st.folded
  unresolvedEffects := st.effects.sortedValues
  latestVerification := st.latestVerification

def FoldState.projection (st : FoldState) (ids : TaskIds) (revision : Int) : TaskStateProjection where
  ids
  revision
  contractRevision := st.contractRevision
  objectiveText := st.objectiveText
  objectiveHash := st.objectiveHash
  objectiveSetAt := st.objectiveSetAt
  objectiveSetSeq := st.objectiveSetSeq
  status := (deriveStatus host st.parts).1
  nextPermittedAction := (deriveStatus host st.parts).2
  constraints := st.constraints.sortedValues
  openDecisions := st.decisions.sortedValues
  plan := st.folded
  unresolvedEffects := st.effects.sortedValues
  latestVerification := st.latestVerification
  citations := st.citations.insertionSort (· ≤ ·)
  cancelledAt := st.cancelledAt
  cancelledSeq := st.cancelledSeq
  lastCancelSeq := st.lastCancelSeq
  cancelReason := st.cancelReason

/-- The text `_source_revision` digests: `seq:kind:payload_digest`, joined by `|`. -/
def sourceText (events : List TaskStateEvent) : String :=
  "|".intercalate (events.map fun event =>
    toString event.seq ++ ":" ++ event.kind.str ++ ":" ++ payloadDigest host event.payload)

/-- The first 32 hex digits of a digest. -/
def digest32 (text : String) : String := String.ofList ((host.sha256Hex text).toList.take 32)

/-- `_source_revision` -/
def sourceRevision (events : List TaskStateEvent) : String :=
  if events.isEmpty then "empty" else digest32 host (sourceText host events)

/-- `fold_task_state`. It takes the time for its signature only. -/
def foldTaskState (events : List TaskStateEvent) (ids : TaskIds) (revision maxEvents : Int) : FoldResult :=
  let retained := retainedEvents host maxEvents events
  let st := foldEvents host ids.taskId retained
  { projection := st.projection host ids revision
    sourceRevision := sourceRevision host retained
    unknownKinds := st.unknownKinds
    truncated := truncates maxEvents (orderedEvents host events) }

end OpenTimeline.TaskState
