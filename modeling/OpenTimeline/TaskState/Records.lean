import OpenTimeline.Host

/-! The task-state vocabulary, its records and their JSON decoders.

A decoder is total: an unknown key is ignored, and a missing or wrong-typed
value takes the default. The records keep the source's fields; an event kind
this build does not know is kept by name, and cannot be one it does know. -/
namespace OpenTimeline.TaskState

/-! ### Vocabulary -/

inductive TaskStateEventKind
  | objectiveSet | objectiveCleared
  | constraintGranted | constraintRevoked
  | decisionOpened | decisionResolved
  | planRequested | planApproved | planInvalidated
  | stepStarted | stepCompleted | stepBlocked | stepDropped
  | effectRecorded | effectResolved
  | verificationRecorded
  | cancellationRequested
deriving DecidableEq, Repr

def TaskStateEventKind.value : TaskStateEventKind → String
  | .objectiveSet => "objective_set"
  | .objectiveCleared => "objective_cleared"
  | .constraintGranted => "constraint_granted"
  | .constraintRevoked => "constraint_revoked"
  | .decisionOpened => "decision_opened"
  | .decisionResolved => "decision_resolved"
  | .planRequested => "plan_requested"
  | .planApproved => "plan_approved"
  | .planInvalidated => "plan_invalidated"
  | .stepStarted => "step_started"
  | .stepCompleted => "step_completed"
  | .stepBlocked => "step_blocked"
  | .stepDropped => "step_dropped"
  | .effectRecorded => "effect_recorded"
  | .effectResolved => "effect_resolved"
  | .verificationRecorded => "verification_recorded"
  | .cancellationRequested => "cancellation_requested"

/-- `_KNOWN_KINDS` -/
def knownKinds : List String :=
  [TaskStateEventKind.objectiveSet, .objectiveCleared, .constraintGranted, .constraintRevoked,
    .decisionOpened, .decisionResolved, .planRequested, .planApproved, .planInvalidated,
    .stepStarted, .stepCompleted, .stepBlocked, .stepDropped, .effectRecorded, .effectResolved,
    .verificationRecorded, .cancellationRequested].map TaskStateEventKind.value

/-- The kind of a stored row: `TaskStateEventKind | str`. -/
inductive EventKind
  | known (kind : TaskStateEventKind)
  | unknown (name : {s : String // s ∉ knownKinds})
deriving DecidableEq, Repr

def EventKind.str : EventKind → String
  | .known kind => kind.value
  | .unknown name => name.val

/-- Kinds are told apart by their strings, as the source compares them. -/
theorem EventKind.str_injective : Function.Injective EventKind.str := by
  intro a b h
  have hknown : ∀ k : TaskStateEventKind, k.value ∈ knownKinds := by
    intro k
    cases k <;> decide
  cases a with
  | known a =>
    cases b with
    | known b =>
      revert h
      cases a <;> cases b <;> decide
    | unknown b => exact absurd ((show a.value = b.val from h) ▸ hknown a) b.property
  | unknown a =>
    cases b with
    | known b => exact absurd ((show a.val = b.value from h) ▸ hknown b) a.property
    | unknown b => exact congrArg _ (Subtype.ext h)

inductive TaskStatus
  | awaitingObjective | planning | active | blocked | awaitingDecision | awaitingVerification
  | done | cancelled
deriving DecidableEq, Repr

inductive NextPermittedAction
  | awaitOwnerObjective | awaitPlanning | executeStep | awaitDecision | awaitVerification
  | resolveEffects | blocked | none
deriving DecidableEq, Repr

inductive PlanState
  | absent | pending | approved | invalidated
deriving DecidableEq, Repr

/-- `CONTRACT_EXEMPT_KINDS` -/
def contractExemptKinds : List EventKind :=
  [.known .objectiveSet, .known .objectiveCleared, .known .cancellationRequested,
    .known .effectRecorded, .known .effectResolved, .known .verificationRecorded]

/-- `PINNED_KIND_VALUES`, the pinned kinds in the order of their strings. -/
def pinnedKinds : List EventKind :=
  [.known .cancellationRequested, .known .objectiveCleared, .known .objectiveSet]

example : (pinnedKinds.map EventKind.str).Pairwise (· < ·) := by decide

def maxTaskStateEventsPerFold : Int := 2000
def planningProducerDeterministic : String := "deterministic"
def cancelReasonTaskCancelled : String := "task_cancelled"
/-- No projection carries this revision: `UNKNOWN_CONTRACT_REVISION`. -/
def unknownContractRevision : Int := -1
def verificationPassStates : List String := ["passed"]
def terminalStepStatuses : List String := ["done", "dropped"]
def blockingStepStatus : String := "blocked"

/-! ### Records -/

structure TaskStateEvent where
  seq : Int
  kind : EventKind
  contractRevision : Int
  payload : Payload
  occurredAt : Instant
  actor : String := ""
  sourceEventId : Option String := none
  directiveId : Option String := none
  goalId : Option String := none

structure ApprovedConstraint where
  constraintId : String
  kind : String
  scopeDigest : String
  contractRevision : Int
  grantedAt : Instant
  expiresAt : Option Instant
  revokedAt : Option Instant
  reason : String
deriving DecidableEq, Repr

structure OpenDecision where
  decisionId : String
  family : String
  questionText : String
  alternatives : List String
  openedAt : Instant
  contractRevision : Int
  superseded : Bool
deriving DecidableEq, Repr

structure PlanStepState where
  stepIndex : Int
  goalId : Option String
  title : String
  description : String
  status : String
  dependsOn : List Int
  attempts : Int
  mutating : Bool
  blockedReason : String
deriving DecidableEq, Repr

structure UnresolvedEffect where
  effectId : String
  kind : String
  description : String
  openedAt : Instant
  directiveId : Option String
  paths : List String
deriving DecidableEq, Repr

structure VerificationRef where
  verificationId : String
  directiveId : Option String
  state : String
  method : String
  recordedAt : Instant
  contractRevision : Int
  planId : Option String
  evidenceEventIds : List String
  summary : String
deriving DecidableEq, Repr

structure ApprovedPlan where
  taskId : String
  planId : String
  contractRevision : Int
  state : PlanState
  producer : String
  rootGoalId : Option String
  steps : List PlanStepState
  approvedAt : Option Instant
deriving DecidableEq, Repr

/-! ### Decoders -/

section Decoders
variable (host : Host)

/-- `_text` -/
def text (raw : Json) (default : String) : String :=
  match raw with
  | .str s => s
  | .null | .arr _ | .obj _ => default
  | .bool b => if b then "True" else "False"
  | .int n => toString n
  | .float x => x.repr

/-- `value or default` on strings. -/
def orElse (value default : String) : String := if value = "" then default else value

/-- `_opt_text` -/
def optText (raw : Json) : Option String := if text raw "" = "" then none else some (text raw "")

/-- `_integer` -/
def integer (raw : Json) (default : Int) : Int :=
  match raw with
  | .int n => n
  | .float x => x.trunc
  | .str s => (host.parseInt (strip s)).getD default
  | _ => default

/-- `_flag` -/
def flag (raw : Json) (default : Bool) : Bool :=
  match raw with
  | .bool b => b
  | .int n => n != 0
  | .float x => !x.isZero
  | .str s =>
    if host.lower (strip s) ∈ ["true", "1", "yes"] then true
    else if host.lower (strip s) ∈ ["false", "0", "no", ""] then false
    else default
  | _ => default

/-- `_text_tuple` -/
def textTuple : Json → List String
  | .arr items => (items.map fun item => text item "").filter fun t => t ≠ ""
  | _ => []

/-- `_int_tuple`: containers are skipped. -/
def intTuple : Json → List Int
  | .arr items => items.filterMap fun
    | .arr _ | .obj _ => none
    | item => some (integer host item 0)
  | _ => []

/-- `_mappings` -/
def mappings : Json → List Payload
  | .arr items => items.filterMap fun
    | .obj fields => some fields
    | _ => none
  | _ => []

/-- `_dt_from_json` -/
def dtFromJson : Json → Option Instant
  | .str s => if strip s = "" then none else (host.fromIsoFormat s).map (·.instant)
  | _ => none

/-- One item of `constraints_from_json`. -/
def constraintFromJson (item : Payload) : Option ApprovedConstraint :=
  let constraintId := text (item.get "constraint_id") ""
  if constraintId = "" then none
  else some {
    constraintId
    kind := orElse (text (item.get "kind") "permit") "permit"
    scopeDigest := text (item.get "scope_digest") ""
    contractRevision := integer host (item.get "contract_revision") 0
    grantedAt := (dtFromJson host (item.get "granted_at")).getD epoch
    expiresAt := dtFromJson host (item.get "expires_at")
    revokedAt := dtFromJson host (item.get "revoked_at")
    reason := text (item.get "reason") "" }

/-- One item of `decisions_from_json`. -/
def decisionFromJson (item : Payload) : Option OpenDecision :=
  let decisionId := text (item.get "decision_id") ""
  if decisionId = "" then none
  else some {
    decisionId
    family := text (item.get "family") ""
    questionText := text (item.get "question_text") ""
    alternatives := textTuple (item.get "alternatives")
    openedAt := (dtFromJson host (item.get "opened_at")).getD epoch
    contractRevision := integer host (item.get "contract_revision") 0
    superseded := flag host (item.get "superseded") false }

/-- One item of `plan_steps_from_json`. -/
def planStepFromJson (item : Payload) : PlanStepState where
  stepIndex := integer host (item.get "step_index") 0
  goalId := optText (item.get "goal_id")
  title := text (item.get "title") ""
  description := text (item.get "description") ""
  status := orElse (text (item.get "status") "candidate") "candidate"
  dependsOn := intTuple host (item.get "depends_on")
  attempts := integer host (item.get "attempts") 0
  mutating := flag host (item.get "mutating") false
  blockedReason := text (item.get "blocked_reason") ""

/-- `plan_steps_from_json` -/
def planStepsFromJson (raw : Json) : List PlanStepState := (mappings raw).map (planStepFromJson host)

/-- One item of `effects_from_json`. -/
def effectFromJson (item : Payload) : Option UnresolvedEffect :=
  let effectId := text (item.get "effect_id") ""
  if effectId = "" then none
  else some {
    effectId
    kind := orElse (text (item.get "kind") "directive") "directive"
    description := text (item.get "description") ""
    openedAt := (dtFromJson host (item.get "opened_at")).getD epoch
    directiveId := optText (item.get "directive_id")
    paths := textTuple (item.get "paths") }

/-- `effects_from_json` -/
def effectsFromJson (raw : Json) : List UnresolvedEffect := (mappings raw).filterMap (effectFromJson host)

/-- `verification_from_json` -/
def verificationFromJson (raw : Payload) : Option VerificationRef :=
  let verificationId := text (raw.get "verification_id") ""
  if verificationId = "" then none
  else some {
    verificationId
    directiveId := optText (raw.get "directive_id")
    state := orElse (text (raw.get "state") "unverified") "unverified"
    method := orElse (text (raw.get "method") "none") "none"
    recordedAt := (dtFromJson host (raw.get "recorded_at")).getD epoch
    contractRevision := integer host (raw.get "contract_revision") 0
    planId := optText (raw.get "plan_id")
    evidenceEventIds := textTuple (raw.get "evidence_event_ids")
    summary := text (raw.get "summary") "" }

end Decoders
end OpenTimeline.TaskState
