import OpenTimeline.TaskState.Constraints
import OpenTimeline.TaskState.Raising

/-! The JSON columns of a task's row.

A column is written by `canonical_json`, so what is loaded of it has the keys of its objects in order
(`Json.sorted`); a decoder finds the same under a key (`get_sorted`). A record the decoders can have made has no
empty text where they drop one or put a default (`Filled`), and each such record is read back as it was written,
if its times can be written. -/
namespace OpenTimeline

/-! ### Sorted objects -/

mutual

def Json.sorted : Json → Json
  | .null => .null
  | .bool b => .bool b
  | .int n => .int n
  | .float x => .float x
  | .str s => .str s
  | .arr items => .arr (sortedItems items)
  | .obj fields => .obj ((sortedFields fields).insertionSort fun a b => a.1 ≤ b.1)

def sortedItems : List Json → List Json
  | [] => []
  | x :: rest => x.sorted :: sortedItems rest

def sortedFields : List (String × Json) → List (String × Json)
  | [] => []
  | (key, x) :: rest => (key, x.sorted) :: sortedFields rest

end

def Payload.sorted (p : Payload) : Payload := (sortedFields p).insertionSort fun a b => a.1 ≤ b.1

mutual

/-- The numbers of a value. -/
def Json.ints : Json → List Int
  | .int n => [n]
  | .arr items => intsOfItems items
  | .obj fields => intsOfFields fields
  | .null | .bool _ | .float _ | .str _ => []

def intsOfItems : List Json → List Int
  | [] => []
  | x :: rest => x.ints ++ intsOfItems rest

def intsOfFields : List (String × Json) → List Int
  | [] => []
  | (_, x) :: rest => x.ints ++ intsOfFields rest

end

/-- An `int` of more digits has no `str`. -/
def maxStrDigits : Nat := 4300

/-- Every number of a value has a text, and `canonical_json` does not raise. -/
def Json.Dumps (value : Json) : Prop := ∀ n ∈ value.ints, n.natAbs < 10 ^ maxStrDigits

instance (value : Json) : Decidable value.Dumps := inferInstanceAs (Decidable (∀ n ∈ value.ints, _))

end OpenTimeline

namespace OpenTimeline.TaskState
open Library

variable (host : Host) (isoformat : Instant → String)

/-! ### Encoders -/

def OpenDecision.toPayload (decision : OpenDecision) : Payload :=
  [("decision_id", .str decision.decisionId), ("family", .str decision.family),
    ("question_text", .str decision.questionText), ("alternatives", .arr (decision.alternatives.map .str)),
    ("opened_at", dtToJson isoformat (some decision.openedAt)), ("contract_revision", .int decision.contractRevision),
    ("superseded", .bool decision.superseded)]

def textOrNull (value : Option String) : Json := (value.map Json.str).getD .null

def PlanStepState.toPayload (step : PlanStepState) : Payload :=
  [("step_index", .int step.stepIndex), ("goal_id", textOrNull step.goalId), ("title", .str step.title),
    ("description", .str step.description), ("status", .str step.status),
    ("depends_on", .arr (step.dependsOn.map .int)), ("attempts", .int step.attempts),
    ("mutating", .bool step.mutating), ("blocked_reason", .str step.blockedReason)]

def ApprovedPlan.toPayload (plan : ApprovedPlan) : Payload :=
  [("task_id", .str plan.taskId), ("plan_id", .str plan.planId), ("contract_revision", .int plan.contractRevision),
    ("state", .str plan.state.value), ("producer", .str plan.producer), ("root_goal_id", textOrNull plan.rootGoalId),
    ("steps", .arr (plan.steps.map fun step => .obj step.toPayload)),
    ("approved_at", dtToJson isoformat plan.approvedAt)]

def UnresolvedEffect.toPayload (effect : UnresolvedEffect) : Payload :=
  [("effect_id", .str effect.effectId), ("kind", .str effect.kind), ("description", .str effect.description),
    ("opened_at", dtToJson isoformat (some effect.openedAt)), ("directive_id", textOrNull effect.directiveId),
    ("paths", .arr (effect.paths.map .str))]

def VerificationRef.toPayload (ref : VerificationRef) : Payload :=
  [("verification_id", .str ref.verificationId), ("directive_id", textOrNull ref.directiveId), ("state", .str ref.state),
    ("method", .str ref.method), ("recorded_at", dtToJson isoformat (some ref.recordedAt)),
    ("contract_revision", .int ref.contractRevision), ("plan_id", textOrNull ref.planId),
    ("evidence_event_ids", .arr (ref.evidenceEventIds.map .str)), ("summary", .str ref.summary)]

def constraintsToJson (constraints : List ApprovedConstraint) : Json :=
  .arr (constraints.map fun constraint => .obj (constraint.toPayload isoformat))

def decisionsToJson (decisions : List OpenDecision) : Json :=
  .arr (decisions.map fun decision => .obj (decision.toPayload isoformat))

def effectsToJson (effects : List UnresolvedEffect) : Json :=
  .arr (effects.map fun effect => .obj (effect.toPayload isoformat))

def approvedPlanToJson (plan : Option ApprovedPlan) : Json := (plan.map fun plan => Json.obj (plan.toPayload isoformat)).getD .null

def verificationToJson (ref : Option VerificationRef) : Json := (ref.map fun ref => Json.obj (ref.toPayload isoformat)).getD .null

/-! ### Records as the decoders make them -/

structure ApprovedConstraint.Filled (constraint : ApprovedConstraint) : Prop where
  constraintId : constraint.constraintId ≠ ""
  kind : constraint.kind ≠ ""

structure OpenDecision.Filled (decision : OpenDecision) : Prop where
  decisionId : decision.decisionId ≠ ""
  alternatives : "" ∉ decision.alternatives

structure PlanStepState.Filled (step : PlanStepState) : Prop where
  goalId : step.goalId ≠ some ""
  status : step.status ≠ ""

structure ApprovedPlan.Filled (plan : ApprovedPlan) : Prop where
  planId : plan.planId ≠ ""
  rootGoalId : plan.rootGoalId ≠ some ""
  steps : ∀ step ∈ plan.steps, step.Filled

structure UnresolvedEffect.Filled (effect : UnresolvedEffect) : Prop where
  effectId : effect.effectId ≠ ""
  kind : effect.kind ≠ ""
  directiveId : effect.directiveId ≠ some ""
  paths : "" ∉ effect.paths

structure VerificationRef.Filled (ref : VerificationRef) : Prop where
  verificationId : ref.verificationId ≠ ""
  directiveId : ref.directiveId ≠ some ""
  state : ref.state ≠ ""
  method : ref.method ≠ ""
  planId : ref.planId ≠ some ""
  evidenceEventIds : "" ∉ ref.evidenceEventIds

/-! ### Values that are read back -/

section Values
variable {host isoformat}

@[simp] theorem sorted_dtToJson (at' : Option Instant) : (dtToJson isoformat at').sorted = dtToJson isoformat at' := by
  cases at' <;> rfl

@[simp] theorem sorted_textOrNull (value : Option String) : (textOrNull value).sorted = textOrNull value := by
  cases value <;> rfl

/-- A time is read as it was written. -/
def Readable (host : Host) (isoformat : Instant → String) (t : Instant) : Prop :=
  dtFromJson host (.str (isoformat t)) = some t

def ApprovedConstraint.times (constraint : ApprovedConstraint) : List Instant :=
  constraint.grantedAt :: (constraint.expiresAt.toList ++ constraint.revokedAt.toList)

end Values

end OpenTimeline.TaskState
