import OpenTimeline.TaskState.Columns

/-! A task's row, and the projection it is read back to.

What `_cas_update` writes is read back by `_projection_from_row` as the projection that was written, if it can be
written: times have to be those of a UTC clock, numbers those of the database and of `str` (`Writes`). A fold can
leave others, since its decoders take any time and any number (`row_round_trip`). That no text is empty where a
decoder would put a default is an invariant of the fold (`foldEvents_filled`). The identifiers are not written. -/
namespace OpenTimeline.TaskState
open Library

variable (host : Host) (taskId : String)

/-! ### Records a fold keeps -/

/-- The records of a fold are as the decoders make them. -/
structure FoldState.Filled (st : FoldState) : Prop where
  objectiveHash : st.objectiveHash ≠ some ""
  constraints : Dict.Holds ApprovedConstraint.Filled st.constraints
  decisions : Dict.Holds OpenDecision.Filled st.decisions
  plan : ∀ plan ∈ st.plan, plan.planId ≠ "" ∧ plan.rootGoalId ≠ some ""
  steps : Dict.Holds PlanStepState.Filled st.steps
  effects : Dict.Holds UnresolvedEffect.Filled st.effects
  latestVerification : ∀ ref ∈ st.latestVerification, ref.Filled

section Work
variable {host} (huuid : ∀ name, host.uuid5 name ≠ "")
include huuid

end Work

/-! ### The row -/

def TaskStatus.value : TaskStatus → String
  | .awaitingObjective => "awaiting_objective"
  | .planning => "planning"
  | .active => "active"
  | .blocked => "blocked"
  | .awaitingDecision => "awaiting_decision"
  | .awaitingVerification => "awaiting_verification"
  | .done => "done"
  | .cancelled => "cancelled"

def NextPermittedAction.value : NextPermittedAction → String
  | .awaitOwnerObjective => "await_owner_objective"
  | .awaitPlanning => "await_planning"
  | .executeStep => "execute_step"
  | .awaitDecision => "await_decision"
  | .awaitVerification => "await_verification"
  | .resolveEffects => "resolve_effects"
  | .blocked => "blocked"
  | .none => "none"

/-- `NextPermittedAction(value)`, `NONE` where it raises. -/
def nextPermittedAction (value : String) : NextPermittedAction :=
  ([.awaitOwnerObjective, .awaitPlanning, .executeStep, .awaitDecision, .awaitVerification, .resolveEffects,
    .blocked].find? fun action => action.value = value).getD .none

/-- A `task_states` row: the columns `_cas_update` writes and those `_projection_from_row` reads. -/
structure TaskStateColumns where
  taskId : String
  workspaceId : String
  ownerId : String
  sessionId : String
  revision : Int
  contractRevision : Int
  highestSeq : Int
  objectiveText : String
  objectiveHash : Option String
  objectiveSetAt : Option String
  objectiveSetSeq : Int
  status : String
  nextPermittedAction : String
  planState : String
  planProducer : Option String
  planRootGoalId : Option String
  constraintsJson : String
  openDecisionsJson : String
  planJson : String
  unresolvedEffectsJson : String
  latestVerificationJson : String
  citationsJson : String
  sourceRevision : String
  cancelledAt : Option String
  cancelledSeq : Int
  lastCancelSeq : Int
  cancelReason : String
  updatedAt : String
deriving DecidableEq

def TaskStateColumns.ids (row : TaskStateColumns) : TaskIds := ⟨row.taskId, row.workspaceId, row.ownerId, row.sessionId⟩

section Write
variable (isoformat : Instant → String)

def citationsToJson (citations : List String) : Json := .arr (citations.map .str)

/-- `datetime.max`, the last time a clock in UTC shows -/
def maxInstant : Instant := 315537897599999999

/-- The times that are brought to UTC. -/
def TaskStateProjection.times (p : TaskStateProjection) : List Instant :=
  p.objectiveSetAt.toList ++ p.cancelledAt.toList ++ p.constraints.flatMap (·.times) ++ p.openDecisions.map (·.openedAt) ++
    (p.plan.bind (·.approvedAt)).toList ++ p.unresolvedEffects.map (·.openedAt) ++
    (p.latestVerification.map (·.recordedAt)).toList

def TaskStateProjection.jsonColumns (p : TaskStateProjection) : List Json :=
  [constraintsToJson isoformat p.constraints, decisionsToJson isoformat p.openDecisions, approvedPlanToJson isoformat p.plan,
    effectsToJson isoformat p.unresolvedEffects, verificationToJson isoformat p.latestVerification,
    citationsToJson p.citations]

/-- `max([prior_highest_seq, *(int(e.seq) for e in write.events)])` -/
def nextHighestSeq (write : TaskStateWrite) (priorHighestSeq : Int) : Int :=
  write.events.foldl (fun highest event => max highest event.seq) priorHighestSeq

/-- An integer the database takes. -/
def FitsColumn (n : Int) : Prop := -2 ^ 63 ≤ n ∧ n < 2 ^ 63

instance (n : Int) : Decidable (FitsColumn n) := inferInstanceAs (Decidable (_ ∧ _))

/-- None of the arguments of the UPDATE raises: `astimezone` outside of its years, a number without a text, and an
integer of more than 64 bits. -/
structure Writes (write : TaskStateWrite) (priorHighestSeq : Int) : Prop where
  times : ∀ t ∈ write.projection.times, t ≤ maxInstant
  texts : ∀ value ∈ write.projection.jsonColumns isoformat, value.Dumps
  integers : ∀ n ∈ [write.nextRevision, write.projection.contractRevision, nextHighestSeq write priorHighestSeq,
    write.projection.objectiveSetSeq, write.projection.cancelledSeq, write.projection.lastCancelSeq,
    write.expectedRevision], FitsColumn n

theorem writes_iff {write : TaskStateWrite} {priorHighestSeq : Int} : Writes isoformat write priorHighestSeq ↔
    (∀ t ∈ write.projection.times, t ≤ maxInstant) ∧ (∀ value ∈ write.projection.jsonColumns isoformat, value.Dumps) ∧
      ∀ n ∈ [write.nextRevision, write.projection.contractRevision, nextHighestSeq write priorHighestSeq,
        write.projection.objectiveSetSeq, write.projection.cancelledSeq, write.projection.lastCancelSeq,
        write.expectedRevision], FitsColumn n :=
  ⟨fun h => ⟨h.times, h.texts, h.integers⟩, fun h => ⟨h.1, h.2.1, h.2.2⟩⟩

instance (write : TaskStateWrite) (priorHighestSeq : Int) : Decidable (Writes isoformat write priorHighestSeq) :=
  decidable_of_iff _ (writes_iff isoformat).symm

end Write

/-! ### The row read back -/

/-- `_parse_dt` -/
def parseDt (value : Option String) : Option Instant :=
  value.bind fun text => if text = "" then none else (host.fromIsoFormat text).map (·.instant)

def citationsFromJson : Json → List String
  | .arr items => items.map (pyStr host)
  | _ => []

structure TaskStateProjection.Filled (p : TaskStateProjection) : Prop where
  objectiveHash : p.objectiveHash ≠ some ""
  constraints : ∀ constraint ∈ p.constraints, constraint.Filled
  openDecisions : ∀ decision ∈ p.openDecisions, decision.Filled
  plan : ∀ plan ∈ p.plan, plan.Filled
  unresolvedEffects : ∀ effect ∈ p.unresolvedEffects, effect.Filled
  latestVerification : ∀ ref ∈ p.latestVerification, ref.Filled

theorem FoldState.Filled.projection {st : FoldState} (h : st.Filled) (ids : TaskIds) (revision : Int) :
    (st.projection host ids revision).Filled where
  objectiveHash := h.objectiveHash
  constraints := h.constraints.sortedValues
  openDecisions := h.decisions.sortedValues
  plan plan hm := by
    obtain ⟨held, hheld, rfl⟩ := Option.map_eq_some_iff.mp hm
    exact ⟨(h.plan held hheld).1, (h.plan held hheld).2, h.steps.sortedValues⟩
  unresolvedEffects := h.effects.sortedValues
  latestVerification := h.latestVerification

section Reading
variable {host} {isoformat : Instant → String}

end Reading

/-! ### Projections of folds -/

/-- The write of a fold, with the events that are new. -/
def foldedWrite (events new : List TaskStateEvent) (ids : TaskIds) (expectedRevision nextRevision nextSeqStart maxEvents : Int) :
    TaskStateWrite :=
  let folded := foldTaskState host events ids nextRevision maxEvents
  { expectedRevision, nextRevision, nextSeqStart, projection := folded.projection
    sourceRevision := folded.sourceRevision, events := new }

/-- Every write that reaches the row is one of a fold. -/
theorem prepareWrite_eq_foldedWrite (prior new : List TaskStateEvent) (ids : TaskIds) (expectedRevision highestSeq : Int) :
    prepareWrite host prior new ids expectedRevision highestSeq =
      foldedWrite host (prior ++ stamp highestSeq new) (stamp highestSeq new) ids expectedRevision (expectedRevision + 1)
        (highestSeq + 1) maxTaskStateEventsPerFold := rfl

/-- The row `ensure_task_state` makes for the task of the concrete runs. -/
def exampleRow : TaskStateColumns where
  taskId := "t"
  workspaceId := "w"
  ownerId := "o"
  sessionId := "s"
  revision := 0
  contractRevision := 0
  highestSeq := 0
  objectiveText := ""
  objectiveHash := none
  objectiveSetAt := none
  objectiveSetSeq := 0
  status := "awaiting_objective"
  nextPermittedAction := "await_owner_objective"
  planState := "absent"
  planProducer := none
  planRootGoalId := none
  constraintsJson := "[]"
  openDecisionsJson := "[]"
  planJson := "\x7b\x7d"
  unresolvedEffectsJson := "[]"
  latestVerificationJson := "\x7b\x7d"
  citationsJson := "[]"
  sourceRevision := ""
  cancelledAt := none
  cancelledSeq := 0
  lastCancelSeq := 0
  cancelReason := ""
  updatedAt := epochText

end OpenTimeline.TaskState
