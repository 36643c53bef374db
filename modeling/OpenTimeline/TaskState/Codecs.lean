import OpenTimeline.TaskState.Records

/-! The codecs of the stored columns: the decoders of `Records` over whole columns. -/
namespace OpenTimeline.TaskState

variable (host : Host)

structure PlanCharter where
  maxSteps : Int
  reason : String := ""
deriving DecidableEq, Repr

/-- `MAX_PLAN_STEPS` -/
def PlanCharter.maxPlanSteps : Int := 12

def PlanState.value : PlanState → String
  | .absent => "absent"
  | .pending => "pending"
  | .approved => "approved"
  | .invalidated => "invalidated"

/-- `PlanState(value)`, `ABSENT` where it raises. -/
def planState (value : String) : PlanState :=
  ([.absent, .pending, .approved, .invalidated].find? fun state => state.value = value).getD .absent

/-- `isinstance(raw, Mapping)` -/
def mapping : Json → Option Payload
  | .obj fields => some fields
  | _ => none

def constraintsFromJson (raw : Json) : List ApprovedConstraint := (mappings raw).filterMap (constraintFromJson host)

def decisionsFromJson (raw : Json) : List OpenDecision := (mappings raw).filterMap (decisionFromJson host)

/-- `approved_plan_from_json` of an object -/
def approvedPlanFromJson (raw : Payload) : Option ApprovedPlan :=
  let planId := text (raw.get "plan_id") ""
  if planId = "" then none
  else some {
    taskId := text (raw.get "task_id") ""
    planId
    contractRevision := integer host (raw.get "contract_revision") 0
    state := planState (orElse (text (raw.get "state") "absent") "absent")
    producer := text (raw.get "producer") ""
    rootGoalId := optText (raw.get "root_goal_id")
    steps := planStepsFromJson host (raw.get "steps")
    approvedAt := dtFromJson host (raw.get "approved_at") }

/-- `charter_from_json` of an object -/
def charterFromJson (raw : Payload) : PlanCharter where
  maxSteps := integer host (raw.get "max_steps") PlanCharter.maxPlanSteps
  reason := text (raw.get "reason") ""

end OpenTimeline.TaskState
