import OpenTimeline.Library.OrderedDict
import OpenTimeline.Library.Regex
import OpenTimeline.Library.Table
import OpenTimeline.Words

/-! The decision observations of Lite and what writes them.

An observation enters by the plain path, which leaves what the behaviour columns hold to
their defaults, or as behaviour evidence, which writes them all. Then it is marked as
superseded, or a review of it is resolved. The guards of the schema run on every start:
they add the columns that are not there, and set five columns of every row. -/
namespace OpenTimeline.Memory
open Library

/-- `BEHAVIOR_LIFECYCLE_STATUSES` -/
inductive LifecycleStatus
  | active | superseded | rejected
deriving DecidableEq, Repr

/-- A row of `decision_observations`. -/
structure Observation where
  id : String
  ts : String
  consumerId : String
  workspaceId : String
  subjectUserId : String
  situationType : String
  situationSummary : String
  userResponse : String
  outcome : Option String
  outcomeSentiment : Option String
  supersededBy : Option String
  objectiveText : String
  selectedChoice : String
  lifecycleStatus : LifecycleStatus
  validFrom : String
  learningEligible : Bool
  storageDecision : String
  /-- The columns that no operation here reads but the guard of the decision policy. -/
  others : Payload

/-- A row of `decision_opportunities`, by what an observation takes from it. -/
structure Opportunity where
  id : String
  projectId : Json
  decisionFamily : Json
  taskId : Json

inductive ReviewStatus
  | pending | promoted | rejected
deriving DecidableEq, Repr

inductive ReviewTarget
  | evidence | processModel
deriving DecidableEq, Repr

/-- A row of `behavior_memory_reviews`. -/
structure MemoryReview where
  id : String
  workspaceId : String
  subjectUserId : String
  targetType : ReviewTarget
  targetId : String
  title : String
  rationale : String
  status : ReviewStatus
  source : String
  reviewerId : Option String
  reviewNote : String
  createdAt : String
  resolvedAt : Option String

/-- The tables, and the columns the observations have. -/
structure MemoryDatabase where
  columns : List String
  observations : Table Observation.id
  opportunities : List Opportunity
  reviews : Table MemoryReview.id
  /-- `behavior_shadow_predictions` has its column `policy_json`. -/
  hasPolicy : Bool

/-! ### The guards of the schema -/

/-- A column a guard adds, and what the rows there are hold in it then. -/
structure Column where
  name : String
  fill : Observation → Observation
  keeps : ∀ row, (fill row).id = row.id

def Column.other (name : String) (default : Json) : Column :=
  ⟨name, fun row => { row with others := assign name default row.others }, fun _ => rfl⟩

/-- `_ensure_takeover_v3_schema` -/
def takeoverColumns : List Column :=
  [.other "embedding" .null, ⟨"superseded_by", fun row => { row with supersededBy := none }, fun _ => rfl⟩]

/-- `_ensure_behavior_fidelity_schema` -/
def fidelityColumns : List Column :=
  [⟨"subject_user_id", fun row => { row with subjectUserId := "" }, fun _ => rfl⟩,
   ⟨"objective_text", fun row => { row with objectiveText := "" }, fun _ => rfl⟩,
   .other "constraints_json" (.str "\x7b\x7d"),
   .other "available_choices_json" (.str "[]"),
   ⟨"selected_choice", fun row => { row with selectedChoice := "" }, fun _ => rfl⟩,
   .other "action_taken" (.str ""),
   .other "correction_text" (.str ""),
   .other "memory_class" (.str "decision"),
   .other "evidence_source" (.str "inferred"),
   ⟨"lifecycle_status", fun row => { row with lifecycleStatus := .active }, fun _ => rfl⟩,
   ⟨"valid_from", fun row => { row with validFrom := "" }, fun _ => rfl⟩,
   .other "valid_until" .null,
   .other "contradicts_ids_json" (.str "[]"),
   .other "confirmed_at" .null,
   .other "behavior_schema_version" (.str "v1"),
   .other "redaction_applied" (.int 0),
   ⟨"learning_eligible", fun row => { row with learningEligible := false }, fun _ => rfl⟩,
   .other "storage_score" (.float ⟨"0.0", 0, true⟩),
   ⟨"storage_decision", fun row => { row with storageDecision := "audit_only" }, fun _ => rfl⟩]

/-- `_ensure_trusted_capture_schema` -/
def captureColumns : List Column :=
  [.other "opportunity_id" .null, .other "origin_kind" .null, .other "capture_receipt_id" .null,
   .other "extraction_version" .null]

/-- `_ensure_decision_policy_schema` -/
def policyColumns : List Column :=
  [.other "project_id" .null, .other "decision_family" .null, .other "task_id" .null, .other "episode_key" .null]

/-- `if not _column_exists(…): ALTER TABLE … ADD COLUMN …` -/
def addColumn (db : MemoryDatabase) (column : Column) : MemoryDatabase :=
  if column.name ∈ db.columns then db
  else { db with
    columns := db.columns ++ [column.name]
    observations := db.observations.update column.fill column.keeps }

def ensureColumns (columns : List Column) (db : MemoryDatabase) : MemoryDatabase := columns.foldl addColumn db

/-- What `_ensure_behavior_fidelity_schema` sets on every row, at every start. -/
def backfill (row : Observation) : Observation :=
  { row with
    subjectUserId := if row.subjectUserId = "" then row.consumerId else row.subjectUserId
    objectiveText := if row.objectiveText = "" then row.situationSummary else row.objectiveText
    selectedChoice := if row.selectedChoice = "" then row.userResponse else row.selectedChoice
    validFrom := if row.validFrom = "" then row.ts else row.validFrom
    lifecycleStatus := if row.supersededBy.isNone then .active else .superseded }

def ensureBehaviorFidelitySchema (db : MemoryDatabase) : MemoryDatabase :=
  let db := ensureColumns fidelityColumns db
  { db with observations := db.observations.update backfill fun _ => rfl }

/-- What the guard of the decision policy takes from the opportunity an observation came of. -/
def fromOpportunity (opportunities : List Opportunity) (row : Observation) : Observation :=
  match row.others.get "project_id", row.others.get "opportunity_id" with
  | .null, .str id =>
    match opportunities.find? (·.id = id) with
    | none => row
    | some opportunity =>
      let others := assign "project_id" opportunity.projectId row.others
      let others := assign "decision_family" opportunity.decisionFamily others
      { row with others := assign "task_id" opportunity.taskId others }
  | _, _ => row

theorem fromOpportunity_id (opportunities : List Opportunity) (row : Observation) :
    (fromOpportunity opportunities row).id = row.id := by
  unfold fromOpportunity
  split
  · split <;> rfl
  · rfl

/-- The data change at the end stands behind a fence: it is made on the first pass alone. -/
def ensureDecisionPolicySchema (db : MemoryDatabase) : MemoryDatabase :=
  let firstMigrationPass := !db.hasPolicy
  let db := { ensureColumns policyColumns db with hasPolicy := true }
  if firstMigrationPass then
    { db with observations := db.observations.update (fromOpportunity db.opportunities) (fromOpportunity_id _) }
  else db

/-- `init_db`, on the observations. -/
def initDb (db : MemoryDatabase) : MemoryDatabase :=
  ensureDecisionPolicySchema (ensureColumns captureColumns
    (ensureBehaviorFidelitySchema (ensureColumns takeoverColumns db)))

/-! ### The operations -/

/-- What the store asks of the language, and of the classifier of situations. -/
structure MemoryHost extends Host where
  isoformat : Instant → String
  /-- `_canonical_situation_type` -/
  canonicalSituationType : String → String

/-- `WHERE … AND workspace_id = ? AND subject_user_id = ?` -/
def inScope (workspaceId subjectUserId : String) (row : Observation) : Bool :=
  row.workspaceId = workspaceId && row.subjectUserId = subjectUserId

section Plain
variable (host : MemoryHost)

def positiveTokens : List String :=
  ["positive", "success", "succeeded", "resolved", "fixed", "helpful", "approved", "allow", "completed", "done"]

def negativeTokens : List String :=
  ["negative", "fail", "failed", "error", "blocked", "unhelpful", "denied", "timeout", "abandon", "rollback"]

/-- `part in text` -/
def occursIn (part text : String) : Bool := (Regex.lit part).found text.toList

/-- `_sentiment_polarity_lite` -/
def sentimentPolarity (value : Option String) : Int :=
  let token := host.lower (strip (value.getD ""))
  if token = "" then 0
  else if positiveTokens.any (occursIn · token) then 1
  else if negativeTokens.any (occursIn · token) then -1
  else 0

/-- `_observation_polarity_lite` -/
def observationPolarity (outcome outcomeSentiment : Option String) : Int :=
  let sentiment := sentimentPolarity host outcomeSentiment
  if sentiment ≠ 0 then sentiment else sentimentPolarity host outcome

/-- `lower(trim(text))` of SQLite: the blank is trimmed, the letters of ASCII fold. -/
def lowerTrim (text : String) : String :=
  String.ofList ((stripChars (· = ' ') text.toList).map Char.toLower)

/-- What the plain path gets, by `obs.get`. -/
structure ObservationInput where
  consumerId : Option String
  workspaceId : Option String
  situationType : String
  situationSummary : String
  userResponse : String
  outcome : Option String
  outcomeSentiment : Option String
  others : Payload

/-- The row as the plain path inserts it. -/
def plainRow (id : String) (now : Instant) (obs : ObservationInput) : Observation where
  id := id
  ts := host.isoformat now
  consumerId := obs.consumerId.getD "unknown"
  workspaceId := obs.workspaceId.getD "default"
  subjectUserId := ""
  situationType := host.canonicalSituationType obs.situationType
  situationSummary := collapse obs.situationSummary
  userResponse := obs.userResponse
  outcome := obs.outcome
  outcomeSentiment := obs.outcomeSentiment
  supersededBy := none
  objectiveText := ""
  selectedChoice := ""
  lifecycleStatus := .active
  validFrom := ""
  learningEligible := false
  storageDecision := "audit_only"
  others := obs.others

/-- The ids `_mark_superseded_observations_lite` marks: among the newest fifty of the same
situation, those of the opposite polarity. -/
def staleIds (rows : List Observation) (new : Observation) : List String :=
  let polarity := observationPolarity host new.outcome new.outcomeSentiment
  let summary := collapse (host.lower (strip new.situationSummary))
  if polarity = 0 ∨ summary = "" then []
  else
    let same := rows.filter fun row =>
      row.workspaceId = new.workspaceId && row.consumerId = new.consumerId && row.situationType = new.situationType &&
        row.supersededBy.isNone && row.id ≠ new.id && lowerTrim row.situationSummary = summary
    ((same.insertionSort fun a b => b.ts ≤ a.ts).take 50).filterMap fun row =>
      if observationPolarity host row.outcome row.outcomeSentiment = polarity * -1 then some row.id else none

/-- `_mark_superseded_observations_lite` -/
def markSuperseded (observations : Table Observation.id) (new : Observation) : Table Observation.id :=
  let stale := staleIds host observations.rows new
  observations.updateWhere (fun row => row.id ∈ stale && row.supersededBy.isNone)
    (fun row => { row with supersededBy := some new.id }) fun _ => rfl

/-- `save_observation_lite` -/
def saveObservation (db : MemoryDatabase) (id : String) (now : Instant) (obs : ObservationInput) :
    Option MemoryDatabase := do
  let row := plainRow host id now obs
  let observations ← db.observations.insert row
  some { db with observations := markSuperseded host observations row }

end Plain

section Evidence
variable (host : MemoryHost)

/-- Who saves a piece of behaviour evidence, and for whom. -/
structure EvidenceScope where
  consumerId : String
  workspaceId : String
  subjectUserId : String

/-- Behaviour evidence as it is given to the store; a text that is not there is empty. -/
structure EvidenceInput where
  situationType : String
  situationSummary : String
  objectiveText : String
  selectedChoice : String
  outcome : String
  outcomeSentiment : Option String
  lifecycleStatus : Option LifecycleStatus
  validFrom : String
  supersedesObservationId : Option String
  others : Payload

structure StorageGate where
  learningEligible : Bool
  decision : String

/-- `str(evidence.get("lifecycle_status") or "active")` -/
def EvidenceInput.status (evidence : EvidenceInput) : LifecycleStatus := evidence.lifecycleStatus.getD .active

def evidenceRow (id : String) (now : Instant) (scope : EvidenceScope) (evidence : EvidenceInput) (gate : StorageGate) :
    Observation where
  id := id
  ts := host.isoformat now
  consumerId := scope.consumerId
  workspaceId := scope.workspaceId
  subjectUserId := scope.subjectUserId
  situationType := if evidence.situationType = "" then "routine_task" else evidence.situationType
  situationSummary := evidence.situationSummary
  userResponse := evidence.selectedChoice
  outcome := if evidence.outcome = "" then none else some evidence.outcome
  outcomeSentiment := evidence.outcomeSentiment
  supersededBy := none
  objectiveText := evidence.objectiveText
  selectedChoice := evidence.selectedChoice
  lifecycleStatus := evidence.status
  validFrom := if evidence.validFrom = "" then host.isoformat now else evidence.validFrom
  learningEligible := gate.learningEligible
  storageDecision := if gate.decision = "" then "audit_only" else gate.decision
  others := evidence.others

/-- `UPDATE … SET superseded_by = ?, lifecycle_status = 'superseded' WHERE …` -/
def supersede (observations : Table Observation.id) (scope : EvidenceScope) (id supersedes : String) :
    Table Observation.id :=
  observations.updateWhere
    (fun row => row.id = supersedes && inScope scope.workspaceId scope.subjectUserId row && row.supersededBy.isNone)
    (fun row => { row with supersededBy := some id, lifecycleStatus := .superseded }) fun _ => rfl

/-- `save_behavior_evidence_lite`. The id is drawn here: the evidence cannot name it. -/
def saveBehaviorEvidence (db : MemoryDatabase) (id : String) (now : Instant) (scope : EvidenceScope)
    (evidence : EvidenceInput) (gate : StorageGate) : Option MemoryDatabase := do
  guard (evidence.supersedesObservationId ≠ some id)
  let observations ← db.observations.insert (evidenceRow host id now scope evidence gate)
  match evidence.supersedesObservationId with
  | none => some { db with observations }
  | some supersedes => some { db with observations := supersede observations scope id supersedes }

end Evidence

section Reviews
variable (host : MemoryHost)

/-- What a review is asked for. -/
structure ReviewInput where
  workspaceId : String
  subjectUserId : String
  targetType : ReviewTarget
  targetId : String
  title : String
  rationale : String
  source : String
  status : ReviewStatus

def firstChars (n : Nat) (text : String) : String := String.ofList (text.toList.take n)

/-- `create_memory_review` -/
def createMemoryReview (db : MemoryDatabase) (id : String) (now : Instant) (review : ReviewInput) :
    Option MemoryDatabase :=
  let existing := db.reviews.rows.find? fun row =>
    row.workspaceId = review.workspaceId && row.subjectUserId = review.subjectUserId &&
      row.targetType = review.targetType && row.targetId = review.targetId
  if existing.isSome then some db
  else do
    let reviews ← db.reviews.insert
      { id, workspaceId := review.workspaceId, subjectUserId := review.subjectUserId
        targetType := review.targetType, targetId := review.targetId
        title := firstChars 500 review.title, rationale := firstChars 1000 review.rationale
        status := review.status, source := firstChars 80 review.source
        reviewerId := none, reviewNote := "", createdAt := host.isoformat now
        resolvedAt := if review.status = .pending then none else some (host.isoformat now) }
    some { db with reviews }

/-- A reviewer's resolution of a review. -/
structure Resolution where
  workspaceId : String
  subjectUserId : String
  reviewId : String
  reviewerId : String
  /-- `decision == "promote"` -/
  promote : Bool
  note : String

/-- The review a resolution reads: pending, and in its scope. -/
def pendingReview (db : MemoryDatabase) (resolution : Resolution) : Option MemoryReview :=
  (db.reviews.find resolution.reviewId).filter fun review =>
    review.workspaceId = resolution.workspaceId && review.subjectUserId = resolution.subjectUserId &&
      review.status = .pending

/-- What a resolution sets on the observation under review. -/
def judge (promote : Bool) (row : Observation) : Observation :=
  { row with
    learningEligible := promote
    storageDecision := if promote then "learn" else "rejected"
    lifecycleStatus := if promote then row.lifecycleStatus else .rejected }

/-- `resolve_memory_review`, on the reviews and the observations. -/
def resolveMemoryReview (db : MemoryDatabase) (now : Instant) (resolution : Resolution) : Option MemoryDatabase := do
  let review ← pendingReview db resolution
  let reviews := db.reviews.updateWhere (fun row => row.id = resolution.reviewId)
    (fun row => { row with
      status := if resolution.promote then .promoted else .rejected
      reviewerId := some resolution.reviewerId
      reviewNote := firstChars 1000 resolution.note
      resolvedAt := some (host.isoformat now) }) fun _ => rfl
  match review.targetType with
  | .processModel => some { db with reviews }
  | .evidence =>
    some { db with
      reviews
      observations := db.observations.updateWhere
        (fun row => row.id = review.targetId && inScope resolution.workspaceId resolution.subjectUserId row)
        (judge resolution.promote) fun _ => rfl }

end Reviews
end OpenTimeline.Memory
