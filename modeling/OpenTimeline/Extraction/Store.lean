import OpenTimeline.Extraction.Candidates

/-! The tables a decision is captured in.

A question is frozen with a prediction of its answer. An answer writes an observation and a
human resolution, resolves the prediction and closes the question; a correction writes an
observation and a resolution after the latest one. The UPDATEs of a question and of a
prediction go by what is still open; the INSERTs go by nothing. -/
namespace OpenTimeline.Extraction
open Library

/-! ### Rows -/

structure EventRow where
  id : String
  payload : Json

structure OpportunityRow where
  id : String
  workspaceId : String
  subjectUserId : String
  sessionId : String
  projectId : Option String
  questionText : String
  alternatives : List String
  shadowPredictionId : Option String
  status : OpportunityStatus := .open
  relayedAt : Option Instant := none
  resolvedAt : Option Instant := none
  expiresAt : Option Instant
  createdAt : Instant
  frozenAt : Instant
deriving DecidableEq, Repr

inductive PredictionState
  | pending
  | resolved
  | unanswered
  | missingLabel
  | extractionError
  | abandoned
deriving DecidableEq, Repr

inductive PredictionStage
  | prospective
  | retrospective
deriving DecidableEq, Repr

structure ShadowCorrection where
  at_ : Instant
  receiptId : String
  selectedChoice : String
  candidateId : String
deriving DecidableEq, Repr

structure PredictionRow where
  id : String
  predictedChoice : Option String
  abstained : Bool
  frozenAt : Option Instant
  actualChoice : String := ""
  correct : Option Bool := none
  observationId : Option String := none
  resolvedAt : Option Instant := none
  resolutionState : PredictionState := .pending
  resolutionSource : Option String := none
  humanSourceRef : Option String := none
  resolutionSourceEventId : Option String := none
  predictionStage : PredictionStage := .prospective
  corrections : List ShadowCorrection := []
deriving DecidableEq, Repr

inductive CandidateStatus
  | new
  | promoted
  | pendingReview
  | discarded
deriving DecidableEq, Repr

/-- The columns of a candidate are the candidate's own fields, `contradicted` apart. -/
structure CandidateRow where
  id : String
  receiptId : String
  sourceEventId : Option String
  workspaceId : String
  subjectUserId : String
  candidate : DecisionCandidate
  promotion : Promotion
  promotionReason : Option String := none
  status : CandidateStatus := .new
  promotedObservationId : Option String := none
  reviewId : Option String := none
  createdAt : Instant
deriving DecidableEq, Repr

/-- The columns of `uq_decision_candidates_span`. -/
structure SpanKey where
  receiptId : String
  extractionVersion : String
  spanSha256 : String
deriving DecidableEq, Repr

def DecisionCandidate.spanKey (receiptId : String) (candidate : DecisionCandidate) : SpanKey :=
  ⟨receiptId, candidate.extractionVersion, candidate.spanSha256⟩

def CandidateRow.spanKey (row : CandidateRow) : SpanKey := row.candidate.spanKey row.receiptId

inductive EvidenceSource
  | explicit
  | correction
  | inferred
  | backfill
deriving DecidableEq, Repr

structure Evidence where
  workspaceId : String
  subjectUserId : String
  evidenceSource : EvidenceSource
  confirmedAt : Option Instant
  opportunityId : Option String
  originKind : OriginKind
  captureReceiptId : String
  extractionVersion : String
  supersedesObservationId : Option String := none

structure ObservationRow where
  id : String
  evidence : Evidence
  supersededBy : Option String := none

structure ResolutionRow where
  id : String
  opportunityId : String
  workspaceId : String
  subjectUserId : String
  receiptId : Option String
  sourceEventId : Option String
  candidateId : Option String
  selectedChoice : String
  correctionText : String
  statedRationale : Option String
  resolutionSource : String
  humanSourceRef : String
  observationId : Option String
  supersedesResolutionId : Option String
  resolvedAt : Instant
deriving DecidableEq, Repr

structure ReviewRow where
  id : String
  workspaceId : String
  subjectUserId : String
  targetType : String
  targetId : String
  title : String
  rationale : String
  source : String
deriving DecidableEq, Repr

structure CaptureDb where
  events : Table EventRow.id
  receipts : Table ReceiptRow.id
  opportunities : Table OpportunityRow.id
  predictions : Table PredictionRow.id
  candidates : Table CandidateRow.spanKey
  observations : Table ObservationRow.id
  resolutions : Table ResolutionRow.id
  reviews : Table ReviewRow.id

/-- Nothing has been asked or said. -/
def CaptureDb.empty : CaptureDb where
  events := ⟨[], List.nodup_nil⟩
  receipts := ⟨[], List.nodup_nil⟩
  opportunities := ⟨[], List.nodup_nil⟩
  predictions := ⟨[], List.nodup_nil⟩
  candidates := ⟨[], List.nodup_nil⟩
  observations := ⟨[], List.nodup_nil⟩
  resolutions := ⟨[], List.nodup_nil⟩
  reviews := ⟨[], List.nodup_nil⟩

/-- `uuid.uuid4()`: one that is not in use. -/
structure Uuid4 where
  draw : List String → String
  draw_notMem : ∀ used, draw used ∉ used

variable (host : TextHost) (uuid4 : Uuid4)

/-! ### Questions -/

/-- `opportunity_to_model` -/
def OpportunityRow.toModel (row : OpportunityRow) : DecisionOpportunity where
  opportunityId := row.id
  questionText := row.questionText
  alternatives := row.alternatives
  status := row.status
  frozenAt := row.frozenAt
  expiresAt := row.expiresAt

/-- Whose questions are looked up, and from when on. -/
structure Subject where
  workspaceId : String
  subjectUserId : String
  projectId : Option String
  since : Instant

/-- A question of the subject's, in the project if both are in one. -/
def Subject.has (subject : Subject) (row : OpportunityRow) : Bool :=
  row.workspaceId = subject.workspaceId && row.subjectUserId = subject.subjectUserId &&
    row.projectId.all fun rowProject => subject.projectId.all (rowProject = ·)

/-- `ORDER BY created_at DESC` -/
def newestFirst (rows : List OpportunityRow) : List OpportunityRow :=
  rows.insertionSort fun a b => b.createdAt ≤ a.createdAt

/-- `open_opportunities_for_subject` -/
def openOpportunitiesForSubject (subject : Subject) (answerMoment expiryAt : Instant)
    (opportunities : Table OpportunityRow.id) : List OpportunityRow :=
  newestFirst (opportunities.rows.filter fun row => subject.has row && row.status = .open &&
    subject.since ≤ row.createdAt && row.frozenAt ≤ answerMoment && row.expiresAt.all (expiryAt < ·))

/-- `resolved_opportunities_for_subject` -/
def resolvedOpportunitiesForSubject (subject : Subject) (opportunities : Table OpportunityRow.id) :
    List OpportunityRow :=
  newestFirst (opportunities.rows.filter fun row => subject.has row && row.status = .resolved &&
    row.resolvedAt.any (subject.since ≤ ·))

/-- `resolve_opportunity` -/
def resolveOpportunity (opportunityId : String) (resolvedAt : Instant) (opportunities : Table OpportunityRow.id) :
    Table OpportunityRow.id :=
  opportunities.updateWhere (fun row => row.id = opportunityId && row.status = .open)
    (fun row => {row with status := .resolved, resolvedAt := some resolvedAt}) fun _ => rfl

/-! ### Predictions -/

/-- `resolve_prediction_fields`, its `correct`. -/
def predictionCorrect (row : PredictionRow) (actualChoice : String) : Option Bool :=
  match row.predictedChoice with
  | some predicted =>
    if row.abstained || predicted = "" then none
    else some (strip (host.casefold predicted) = strip (host.casefold actualChoice))
  | none => none

/-- `resolve_shadow_prediction` -/
def resolveShadowPrediction (predictionId actualChoice : String) (observationId : Option String)
    (resolutionSource humanSourceRef : String) (resolutionSourceEventId : Option String) (resolvedAt : Instant)
    (retrospective : Bool) (predictions : Table PredictionRow.id) : Table PredictionRow.id :=
  predictions.updateWhere (fun row => row.id = predictionId && row.resolutionState = .pending) (fun row => {row with
    actualChoice
    correct := predictionCorrect host row actualChoice
    observationId
    resolvedAt := some resolvedAt
    resolutionState := .resolved
    resolutionSource := some resolutionSource
    humanSourceRef := some humanSourceRef
    resolutionSourceEventId
    predictionStage := if retrospective then .retrospective else row.predictionStage }) fun _ => rfl

/-- `mark_shadow_unresolved`, for some predictions. -/
def markShadowUnresolved (predictionIds : List String) (state : PredictionState) (source : Option String)
    (predictions : Table PredictionRow.id) : Table PredictionRow.id :=
  predictions.updateWhere (fun row => row.id ∈ predictionIds && row.resolutionState = .pending) (fun row => {row with
    resolutionState := state
    resolutionSource := source.or row.resolutionSource }) fun _ => rfl

/-- `append_shadow_correction` -/
def appendShadowCorrection (predictionId : String) (correction : ShadowCorrection)
    (predictions : Table PredictionRow.id) : Table PredictionRow.id :=
  predictions.updateWhere (fun row => row.id = predictionId)
    (fun row => {row with corrections := row.corrections ++ [correction]}) fun _ => rfl

/-- `is_retrospective` -/
def isRetrospective (predictionAt : Option Instant) (answerAt : Instant) : Bool := predictionAt.all (answerAt ≤ ·)

/-! ### Evidence and reviews -/

/-- `save_behavior_evidence_lite`, up to its commit; the id of the observation. -/
def saveBehaviorEvidence (evidence : Evidence) (observations : Table ObservationRow.id) :
    Table ObservationRow.id × String :=
  let id := uuid4.draw (observations.rows.map (·.id))
  let inserted := observations.add ⟨id, evidence, none⟩ (uuid4.draw_notMem _)
  (match evidence.supersedesObservationId with
    | none => inserted
    | some superseded => inserted.updateWhere (fun row => row.id = superseded &&
        row.evidence.workspaceId = evidence.workspaceId && row.evidence.subjectUserId = evidence.subjectUserId &&
        row.supersededBy = none) (fun row => {row with supersededBy := some id}) fun _ => rfl,
    id)

/-- `create_memory_review`; the id of the review there is. -/
def createMemoryReview (workspaceId subjectUserId targetType targetId title rationale source : String)
    (reviews : Table ReviewRow.id) : Table ReviewRow.id × String :=
  match reviews.rows.find? fun row => row.workspaceId = workspaceId && row.subjectUserId = subjectUserId &&
      row.targetType = targetType && row.targetId = targetId with
  | some row => (reviews, row.id)
  | none =>
    let id := uuid4.draw (reviews.rows.map (·.id))
    (reviews.add ⟨id, workspaceId, subjectUserId, targetType, targetId, prefixOf 500 title, prefixOf 1000 rationale,
      prefixOf 80 source⟩ (uuid4.draw_notMem _), id)

/-! ### Resolutions -/

structure HumanResolution where
  opportunityId : String
  selectedChoice : String
  resolutionSource : String
  humanSourceRef : String
  resolvedAt : Instant
  correctionText : String := ""
  statedRationale : Option String := none
  supersedesResolutionId : Option String := none

/-- `insert_human_resolution` -/
def insertHumanResolution (resolution : HumanResolution) (workspaceId subjectUserId : String)
    (receiptId sourceEventId candidateId observationId : Option String) (resolutions : Table ResolutionRow.id) :
    Table ResolutionRow.id :=
  let id := uuid4.draw (resolutions.rows.map (·.id))
  resolutions.add {
    id
    opportunityId := resolution.opportunityId
    workspaceId
    subjectUserId
    receiptId
    sourceEventId
    candidateId
    selectedChoice := prefixOf 500 resolution.selectedChoice
    correctionText := prefixOf 1000 resolution.correctionText
    statedRationale := resolution.statedRationale
    resolutionSource := resolution.resolutionSource
    humanSourceRef := resolution.humanSourceRef
    observationId
    supersedesResolutionId := resolution.supersedesResolutionId
    resolvedAt := resolution.resolvedAt } (uuid4.draw_notMem _)

/-- `latest_resolution_for_opportunity`; of those of one moment, the one written last. -/
def latestResolutionForOpportunity (opportunityId : String) (resolutions : Table ResolutionRow.id) :
    Option ResolutionRow :=
  (sortOn (·.resolvedAt) (resolutions.rows.filter (·.opportunityId = opportunityId))).getLast?

/-! ### Closing questions without an answer -/

/-- Open questions are closed, and their predictions given up. -/
def closeWhere (closes : OpportunityRow → Bool) (status : OpportunityStatus) (state : PredictionState)
    (source : String) (now : Instant) (db : CaptureDb) : CaptureDb :=
  let due := fun row : OpportunityRow => row.status = .open && closes row
  {db with
    opportunities := db.opportunities.updateWhere due
      (fun row => {row with status, resolvedAt := some now}) fun _ => rfl
    predictions := markShadowUnresolved ((db.opportunities.rows.filter due).filterMap (·.shadowPredictionId)) state
      (some source) db.predictions }

/-- `sweep_stale_opportunities`: those relayed and not labelled since, and those past their time. -/
def sweepStaleOpportunities (settings : Settings) (now : Instant) (db : CaptureDb) : CaptureDb :=
  let cutoff := now - settings.captureOpportunityTtlSeconds.toNat * 1000000
  closeWhere (fun row => row.expiresAt.any (· < now)) .expired .unanswered "sweep" now
    (closeWhere (fun row => row.relayedAt.any (· < cutoff)) .expired .missingLabel "executor_relayed" now db)

/-- `close_opportunities` -/
def closeOpportunities (workspaceId subjectUserId sessionId : String) (abandoned : Bool) (resolvedAt : Instant)
    (db : CaptureDb) : CaptureDb :=
  closeWhere (fun row => row.workspaceId = workspaceId && row.subjectUserId = subjectUserId &&
      row.sessionId = sessionId) (if abandoned then .abandoned else .expired)
    (if abandoned then .abandoned else .unanswered) "sweep" resolvedAt db

/-- `mark_opportunity_relayed`, its time. -/
def markOpportunityRelayed (opportunityId : String) (relayedAt : Instant) (db : CaptureDb) : CaptureDb :=
  {db with
    opportunities := db.opportunities.updateWhere (fun row => row.id = opportunityId && row.status = .open)
      (fun row => {row with relayedAt := some relayedAt}) fun _ => rfl }

/-! ### What comes in -/

/-- A question that is put to the human, and what is predicted of its answer. -/
structure Question where
  workspaceId : String
  subjectUserId : String
  sessionId : String
  projectId : Option String
  questionText : String
  alternatives : List String
  expiresAt : Option Instant
  predictedChoice : Option String
  abstained : Bool

/-- `freeze_shadow_prediction` and `insert_opportunity` -/
def freezeQuestion (question : Question) (now : Instant) (db : CaptureDb) : CaptureDb :=
  let predictionId := uuid4.draw (db.predictions.rows.map (·.id))
  {db with
    predictions := db.predictions.add {
      id := predictionId
      predictedChoice := question.predictedChoice
      abstained := question.abstained
      frozenAt := some now } (uuid4.draw_notMem _)
    opportunities := db.opportunities.add {
      id := uuid4.draw (db.opportunities.rows.map (·.id))
      workspaceId := question.workspaceId
      subjectUserId := question.subjectUserId
      sessionId := question.sessionId
      projectId := question.projectId
      questionText := prefixOf 4000 question.questionText
      alternatives := question.alternatives
      shadowPredictionId := some predictionId
      expiresAt := question.expiresAt
      createdAt := now
      frozenAt := now } (uuid4.draw_notMem _) }

/-- A message of the human's. -/
structure Capture where
  payload : Json
  workspaceId : String
  subjectUserId : String
  originKind : OriginKind
  capturePrincipal : String
  projectId : Option String
  observedAt : Instant
  ingestedAt : Instant

/-- `store_event` and `insert_receipt` -/
def captureInput (capture : Capture) (db : CaptureDb) : CaptureDb :=
  let eventId := uuid4.draw (db.events.rows.map (·.id))
  {db with
    events := db.events.add ⟨eventId, capture.payload⟩ (uuid4.draw_notMem _)
    receipts := db.receipts.add {
      id := uuid4.draw (db.receipts.rows.map (·.id))
      workspaceId := capture.workspaceId
      subjectUserId := capture.subjectUserId
      originKind := capture.originKind
      capturePrincipal := capture.capturePrincipal
      eventId := some eventId
      projectId := capture.projectId
      observedAt := capture.observedAt
      ingestedAt := capture.ingestedAt } (uuid4.draw_notMem _) }

end OpenTimeline.Extraction
