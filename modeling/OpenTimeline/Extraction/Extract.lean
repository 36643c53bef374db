import OpenTimeline.Extraction.Store

/-! The extraction of a receipt: `_extract_one`.

What the receipt says about the questions that are open is extracted once, and each
candidate is then inserted, unless one under its span is there, and promoted, discarded or
held for review. The evidence of a candidate is committed by the function that writes it
(`beginCandidate`); what follows from it comes after (`settleCandidate`). -/
namespace OpenTimeline.Extraction
open Library

variable (host : TextHost) (uuid4 : Uuid4)

/-! ### What is read -/

/-- `_load_receipt_content` -/
def loadReceiptContent (db : CaptureDb) (receipt : ReceiptRow) : Except String String :=
  match receipt.eventId.filter (· ≠ "") with
  | none => .error "receipt has no source event"
  | some eventId =>
    match db.events.find eventId with
    | none => .error "source event missing"
    | some event =>
      match event.payload with
      | .null => .ok ""
      | .obj fields =>
        if fields.any (·.1 = "_tce_encrypted") then
          .error "decrypt: encrypted payloads are not supported by the lite backend"
        else .ok (pyStr host.toHost ((Payload.get fields "input_excerpt").or (.str "")))
      | _ => .error "decrypt: payload is not an object"

/-- What an extraction goes by, read before its first INSERT. -/
structure Loaded where
  receipt : ReceiptRow
  /-- When the human answered. -/
  observedAt : Instant
  /-- When the answer came in, or was given if that is later. -/
  expiryAt : Instant
  openRows : List OpportunityRow
  resolvedRows : List OpportunityRow
  candidates : List DecisionCandidate

/-- `_answer_moment` -/
def answerMoment (receipt : ReceiptRow) : Instant := min receipt.observedAt receipt.ingestedAt

def ExtractCall.load (call : ExtractCall) (db : CaptureDb) (receipt : ReceiptRow) : Except String Loaded :=
  match loadReceiptContent host db receipt with
  | .error error => .error error
  | .ok content =>
    let observedAt := answerMoment receipt
    let expiryAt := max observedAt receipt.ingestedAt
    let subject : Subject := {
      workspaceId := receipt.workspaceId
      subjectUserId := receipt.subjectUserId
      projectId := receipt.projectId
      since := observedAt - call.settings.captureOpportunityTtlSeconds.toNat * 1000000 }
    let openRows := openOpportunitiesForSubject subject observedAt expiryAt db.opportunities
    let resolvedRows := resolvedOpportunitiesForSubject subject db.opportunities
    .ok {
      receipt, observedAt, expiryAt, openRows, resolvedRows
      candidates := extractCandidates host
        {content, originKind := some receipt.originKind, projectId := receipt.projectId}
        (resolvedRows.map (·.toModel)) (openRows.map (·.toModel)) call.version }

/-! ### The branches of the loop -/

inductive Branch
  | answer (target : OpportunityRow)
  | correction (target : OpportunityRow)
  | hold (target : Option OpportunityRow)

/-- The branch a candidate takes, unless it is discarded. -/
def branch (loaded : Loaded) (openRows : List OpportunityRow) (candidate : DecisionCandidate) : Option Branch :=
  let target := candidate.opportunityId.bind fun id => openRows.find? (·.id = id)
  let resolved := candidate.opportunityId.bind fun id => loaded.resolvedRows.find? (·.id = id)
  let promotion := promotionDecision candidate (openRows.map (·.toModel)) loaded.observedAt loaded.expiryAt
  match promotion, candidate.kind, target, resolved with
  | .promote, .answer, some target, _ => some (.answer target)
  | .promote, .correction, _, some resolved => some (.correction resolved)
  | .discard, _, _, _ => none
  | _, _, target, resolved => some (.hold (target.or resolved))

/-- `_discard_reason` -/
def discardReason (candidate : DecisionCandidate) : String :=
  if candidate.contradicted then "contradictory" else candidate.kind.value

/-- `_pending_reason` -/
def pendingReason (candidate : DecisionCandidate) (opportunity : Option OpportunityRow) : String :=
  if candidate.originKind = .importedTranscript then "imported_transcript"
  else if candidate.kind ∈ [.preference, .rejection, .freeText] then candidate.kind.value
  else if candidate.opportunityId = none then "no_unique_target"
  else if opportunity.all (·.status ≠ .open) then "target_not_open"
  else "ambiguous_target"

/-- `_update_candidate` -/
def updateCandidate (candidateId : String) (status : CandidateStatus) (reason : String)
    (observationId reviewId : Option String) (candidates : Table CandidateRow.spanKey) :
    Table CandidateRow.spanKey :=
  candidates.updateWhere (fun row => row.id = candidateId) (fun row => {row with
    status
    promotionReason := some reason
    promotedObservationId := observationId.or row.promotedObservationId
    reviewId := reviewId.or row.reviewId }) fun _ => rfl

/-- A candidate's row, under an id that is new. -/
def newCandidate (call : ExtractCall) (receipt : ReceiptRow) (candidate : DecisionCandidate) (promotion : Promotion)
    (candidates : Table CandidateRow.spanKey) : CandidateRow where
  id := uuid4.draw (candidates.rows.map (·.id))
  receiptId := receipt.id
  sourceEventId := receipt.eventId
  workspaceId := receipt.workspaceId
  subjectUserId := receipt.subjectUserId
  candidate
  promotion
  createdAt := call.now

/-- `INSERT OR IGNORE INTO decision_candidates`; the id of the row, if no row had its span. -/
def insertCandidate (call : ExtractCall) (receipt : ReceiptRow) (candidate : DecisionCandidate)
    (promotion : Promotion) (db : CaptureDb) : Option (CaptureDb × String) :=
  let row := newCandidate uuid4 call receipt candidate promotion db.candidates
  (db.candidates.insert row).map fun candidates => ({db with candidates}, row.id)

/-! ### Evidence -/

/-- The evidence of a receipt, with the keys only the server sets. -/
def evidenceOf (call : ExtractCall) (receipt : ReceiptRow) (evidenceSource : EvidenceSource)
    (confirmedAt : Option Instant) (opportunityId supersedesObservationId : Option String) : Evidence where
  workspaceId := receipt.workspaceId
  subjectUserId := receipt.subjectUserId
  evidenceSource
  confirmedAt
  opportunityId
  originKind := .humanInput
  captureReceiptId := receipt.id
  extractionVersion := call.version
  supersedesObservationId

/-- A candidate whose evidence is committed, and what is still to come of it. -/
structure Pending where
  candidate : DecisionCandidate
  candidateId : String
  branch : Branch
  observationId : String
  /-- The resolution a correction comes after. -/
  previous : Option ResolutionRow

def branchEvidence (call : ExtractCall) (receipt : ReceiptRow) (candidate : DecisionCandidate)
    (previous : Option ResolutionRow) : Branch → Evidence
  | .answer target => evidenceOf call receipt .explicit (some call.now) (some target.id) none
  | .correction target =>
    evidenceOf call receipt .correction (some call.now) (some target.id) (previous.bind (·.observationId))
  | .hold target =>
    let source := if candidate.originKind = .importedTranscript then .backfill else .inferred
    evidenceOf call receipt source none ((target.map (·.id)).or candidate.opportunityId) none

inductive Begun
  /-- The span is there. -/
  | ignored
  | discarded (db : CaptureDb)
  | written (db : CaptureDb) (pending : Pending)

/-- A turn of the loop, up to the commit of the evidence. -/
def beginCandidate (call : ExtractCall) (loaded : Loaded) (openRows : List OpportunityRow)
    (candidate : DecisionCandidate) (db : CaptureDb) : Begun :=
  let promotion := promotionDecision candidate (openRows.map (·.toModel)) loaded.observedAt loaded.expiryAt
  match insertCandidate uuid4 call loaded.receipt candidate promotion db with
  | none => .ignored
  | some (db, candidateId) =>
    match branch loaded openRows candidate with
    | none => .discarded {db with
        candidates := updateCandidate candidateId .discarded (discardReason candidate) none none db.candidates }
    | some taken =>
      let previous := match taken with
        | .correction target => latestResolutionForOpportunity target.id db.resolutions
        | _ => none
      let (observations, observationId) :=
        saveBehaviorEvidence uuid4 (branchEvidence call loaded.receipt candidate previous taken) db.observations
      .written {db with observations} ⟨candidate, candidateId, taken, observationId, previous⟩

/-! ### What follows -/

/-- `_promote_answer`, after its evidence. -/
def settleAnswer (call : ExtractCall) (receipt : ReceiptRow) (pending : Pending) (target : OpportunityRow)
    (db : CaptureDb) : CaptureDb :=
  let selected := pending.candidate.selectedOption.getD ""
  let resolution : HumanResolution := {
    opportunityId := target.id
    selectedChoice := selected
    resolutionSource := "host_capture"
    humanSourceRef := receipt.id
    resolvedAt := call.now
    statedRationale := pending.candidate.statedRationale }
  {db with
    resolutions := insertHumanResolution uuid4 resolution receipt.workspaceId receipt.subjectUserId (some receipt.id)
      receipt.eventId (some pending.candidateId) (some pending.observationId) db.resolutions
    predictions := match target.shadowPredictionId with
      | none => db.predictions
      | some shadowId =>
        let frozenAt := (db.predictions.find shadowId).bind (·.frozenAt)
        resolveShadowPrediction host shadowId selected (some pending.observationId) "host_capture" receipt.id
          receipt.eventId call.now (isRetrospective frozenAt (answerMoment receipt)) db.predictions
    opportunities := resolveOpportunity target.id call.now db.opportunities
    candidates := updateCandidate pending.candidateId .promoted "unique_open_opportunity"
      (some pending.observationId) none db.candidates }

/-- `_promote_correction`, after its evidence. -/
def settleCorrection (call : ExtractCall) (receipt : ReceiptRow) (pending : Pending) (target : OpportunityRow)
    (db : CaptureDb) : CaptureDb :=
  let candidate := pending.candidate
  let selected := (candidate.selectedOption.filter (· ≠ "")).getD (prefixOf 500 candidate.supportingSpan)
  let resolution : HumanResolution := {
    opportunityId := target.id
    selectedChoice := selected
    resolutionSource := "host_capture"
    humanSourceRef := receipt.id
    resolvedAt := call.now
    correctionText := prefixOf 1000 candidate.supportingSpan
    statedRationale := candidate.statedRationale
    supersedesResolutionId := pending.previous.map (·.id) }
  {db with
    resolutions := insertHumanResolution uuid4 resolution receipt.workspaceId receipt.subjectUserId (some receipt.id)
      receipt.eventId (some pending.candidateId) (some pending.observationId) db.resolutions
    predictions := match target.shadowPredictionId with
      | none => db.predictions
      | some shadowId =>
        appendShadowCorrection shadowId ⟨call.now, receipt.id, selected, pending.candidateId⟩ db.predictions
    candidates := updateCandidate pending.candidateId .promoted "correction" (some pending.observationId) none
      db.candidates }

/-- `_hold_for_review`, after its evidence. -/
def settleHeld (call : ExtractCall) (receipt : ReceiptRow) (pending : Pending) (target : Option OpportunityRow)
    (db : CaptureDb) : CaptureDb :=
  let candidate := pending.candidate
  let reason := pendingReason candidate target
  let named := (candidate.selectedOption.filter (· ≠ "")).getD (prefixOf 80 candidate.supportingSpan)
  let (reviews, reviewId) := createMemoryReview uuid4 receipt.workspaceId receipt.subjectUserId "evidence"
    pending.observationId ("Extracted " ++ candidate.kind.value ++ ": " ++ named)
    ("promotion=pending_review reason=" ++ reason ++ "; extraction_version=" ++ call.version) "decision_extraction"
    db.reviews
  {db with
    reviews
    candidates := updateCandidate pending.candidateId .pendingReview reason (some pending.observationId)
      (some reviewId) db.candidates }

def settleCandidate (call : ExtractCall) (receipt : ReceiptRow) (pending : Pending) (db : CaptureDb) : CaptureDb :=
  match pending.branch with
  | .answer target => settleAnswer host uuid4 call receipt pending target db
  | .correction target => settleCorrection uuid4 call receipt pending target db
  | .hold target => settleHeld uuid4 call receipt pending target db

/-! ### The loop -/

structure Counts where
  extracted : Nat := 0
  promoted : Nat := 0
  pendingReview : Nat := 0
  discarded : Nat := 0
deriving DecidableEq, Repr

/-- What a turn of the loop starts from: the questions that are still open for the message. -/
structure Turn where
  db : CaptureDb
  openRows : List OpportunityRow
  counts : Counts := {}

/-- A question that was answered is not answered again by the same message. -/
def openAfter (openRows : List OpportunityRow) : Branch → List OpportunityRow
  | .answer target => openRows.filter (·.id ≠ target.id)
  | _ => openRows

def Counts.add (counts : Counts) : Option Branch → Counts
  | none => {counts with extracted := counts.extracted + 1, discarded := counts.discarded + 1}
  | some (.hold _) => {counts with extracted := counts.extracted + 1, pendingReview := counts.pendingReview + 1}
  | some _ => {counts with extracted := counts.extracted + 1, promoted := counts.promoted + 1}

def Turn.next (call : ExtractCall) (loaded : Loaded) (turn : Turn) (candidate : DecisionCandidate) : Turn :=
  match beginCandidate uuid4 call loaded turn.openRows candidate turn.db with
  | .ignored => turn
  | .discarded db => {turn with db, counts := turn.counts.add none}
  | .written db pending => {
      db := settleCandidate host uuid4 call loaded.receipt pending db
      openRows := openAfter turn.openRows pending.branch
      counts := turn.counts.add (some pending.branch) }

/-- The loop over the candidates. -/
def persistCandidates (call : ExtractCall) (loaded : Loaded) (db : CaptureDb) : Turn :=
  loaded.candidates.foldl (Turn.next host uuid4 call loaded) {db, openRows := loaded.openRows}

/-! ### One receipt -/

/-- After an exception: the predictions of the subject's open questions are given up with the
last attempt. -/
def ExtractCall.giveUp (call : ExtractCall) (receipt : ReceiptRow) (db : CaptureDb) : CaptureDb :=
  if call.settings.maxAttempts ≤ max 1 receipt.extractionAttempts then
    let rows := db.opportunities.rows.filter fun row => row.workspaceId = receipt.workspaceId &&
      row.subjectUserId = receipt.subjectUserId && row.status = .open
    {db with predictions :=
      markShadowUnresolved (rows.filterMap (·.shadowPredictionId)) .extractionError none db.predictions }
  else db

inductive ExtractResult
  | skipped
  | missing
  | extracted (counts : Counts)
  | failed (error : String)
deriving DecidableEq, Repr

/-- What an extraction goes by, if its claim hits and nothing is missing. -/
def ExtractCall.loads (call : ExtractCall) (db : CaptureDb) : Option Loaded :=
  if call.claims db.receipts then
    let db := {db with receipts := call.claim db.receipts}
    (db.receipts.find call.receiptId).bind fun receipt => (call.load host db receipt).toOption
  else none

def extractOne (call : ExtractCall) (db : CaptureDb) : CaptureDb × ExtractResult :=
  if !call.claims db.receipts then (db, .skipped)
  else
    let db := {db with receipts := call.claim db.receipts}
    match db.receipts.find call.receiptId with
    | none => (db, .missing)
    | some receipt =>
      match call.load host db receipt with
      | .error error =>
        (call.giveUp receipt {db with receipts := call.fail receipt error db.receipts}, .failed (prefixOf 200 error))
      | .ok loaded =>
        let turn := persistCandidates host uuid4 call loaded db
        ({turn.db with receipts := call.finish turn.db.receipts}, .extracted turn.counts)

variable {host uuid4}

theorem extractOne_of_loads {call : ExtractCall} {db : CaptureDb} {loaded : Loaded}
    (h : call.loads host db = some loaded) :
    let turn := persistCandidates host uuid4 call loaded {db with receipts := call.claim db.receipts}
    extractOne host uuid4 call db =
      ({turn.db with receipts := call.finish turn.db.receipts}, .extracted turn.counts) := by
  unfold ExtractCall.loads at h
  split_ifs at h with hclaims
  obtain ⟨receipt, hreceipt, hload⟩ := Option.bind_eq_some_iff.mp h
  rw [toOption_eq_some_iff] at hload
  simp only [extractOne, hclaims, hreceipt, hload, Bool.not_true, Bool.false_eq_true, if_false]

theorem load_candidates {call : ExtractCall} {db : CaptureDb} {receipt : ReceiptRow} {loaded : Loaded}
    (h : call.load host db receipt = .ok loaded) {candidate : DecisionCandidate} (hmem : candidate ∈ loaded.candidates) :
    candidate.extractionVersion = call.version := by
  unfold ExtractCall.load at h
  split at h
  · cases h
  · cases h
    simp only at hmem
    exact extractCandidates_version host hmem

end OpenTimeline.Extraction
