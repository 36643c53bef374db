import OpenTimeline.Extraction.Extract
import OpenTimeline.Library.Transaction
import OpenTimeline.Library.Transition

/-! The extraction of the worker: `_process_receipt`.

The worker commits as it goes. The observation of a candidate is committed by the function
that writes it, and the candidate's own row names it after a second commit; an attempt that
finds the row under a candidate's span unfinished goes on with what the row names. A write
that is not committed is seen by its own attempt alone, and an INSERT waits for another's
under the same span. -/
namespace OpenTimeline.Extraction
open Library

variable (host : TextHost) (maybeDecryptPayload : Payload → Except String Payload) (uuid4 : Uuid4)

/-! ### What is read -/

/-- `_as_dict` -/
def asDict : Json → Payload
  | .obj fields => fields
  | .str text =>
    if strip text = "" then []
    else match host.loads text with
      | some (.obj fields) => fields
      | _ => []
  | _ => []

/-- `_load_content` -/
def loadContent (db : CaptureDb) (receipt : ReceiptRow) : Except String String :=
  match receipt.eventId with
  | none => .error "content: receipt has no source event"
  | some eventId =>
    match db.events.find eventId with
    | none => .error "content: source event missing"
    | some event =>
      match maybeDecryptPayload (asDict host event.payload) with
      | .error error => .error ("decrypt: " ++ error)
      | .ok payload => .ok (pyStr host.toHost ((Payload.get payload "input_excerpt").or (.str "")))

/-- What `_extract_receipt` goes by. -/
def ExtractCall.loadReceipt (call : ExtractCall) (db : CaptureDb) (receipt : ReceiptRow) : Except String Loaded :=
  match loadContent host maybeDecryptPayload db receipt with
  | .error error => .error error
  | .ok content =>
    let observedAt := answerMoment receipt
    let expiryAt := max observedAt receipt.ingestedAt
    let subject : Subject := {
      workspaceId := receipt.workspaceId
      subjectUserId := receipt.subjectUserId
      projectId := receipt.projectId
      since := observedAt - call.settings.captureOpportunityTtlSeconds.toNat * 1000000 }
    let openRows := openOpportunitiesForSubject subject observedAt expiryAt db.opportunities
    let resolvedRows := resolvedOpportunitiesForSubject subject db.opportunities
    .ok {
      receipt, observedAt, expiryAt, openRows, resolvedRows
      candidates := extractCandidates host
        {content, originKind := some receipt.originKind, projectId := receipt.projectId}
        (resolvedRows.map (·.toModel)) (openRows.map (·.toModel)) call.version }

namespace Loaded
variable (loaded : Loaded) (candidate : DecisionCandidate)

/-- The questions that were open at first count to the end. -/
def promotion : Promotion :=
  promotionDecision candidate (loaded.openRows.map (·.toModel)) loaded.observedAt loaded.expiryAt

/-- `rows_by_id.get(candidate.opportunity_id or "")` -/
def targetRow : Option OpportunityRow :=
  candidate.opportunityId.bind fun id =>
    (loaded.resolvedRows.find? (·.id = id)).or (loaded.openRows.find? (·.id = id))

/-- The branch `_persist_candidate` takes, unless the candidate is discarded. -/
def branchOf : Option Branch :=
  match loaded.promotion candidate, candidate.kind, loaded.targetRow candidate with
  | .discard, _, _ => none
  | .promote, .answer, some target => some (.answer target)
  | .promote, .correction, some target => some (.correction target)
  | _, _, target => some (.hold target)

end Loaded

def Promotion.value : Promotion → String
  | .promote => "promote"
  | .pendingReview => "pending_review"
  | .discard => "discard"

/-- `_promotion_reason` -/
def promotionReason (candidate : DecisionCandidate) : Promotion → String
  | .discard => if candidate.contradicted then "contradictory" else candidate.kind.value
  | .promote =>
    if candidate.contradicted then "contradictory"
    else if candidate.kind = .correction then "correction" else "unique_open_opportunity"
  | .pendingReview =>
    if candidate.contradicted then "contradictory"
    else if candidate.originKind = .importedTranscript then "imported_transcript"
    else match candidate.kind with
      | .answer => "ambiguous_or_expired_target"
      | .correction => "correction_without_unique_target"
      | kind => kind.value

/-! ### A candidate that is taken up -/

structure Taken where
  candidate : DecisionCandidate
  candidateId : String
  branch : Branch
  /-- The resolution a correction comes after. -/
  previous : Option ResolutionRow

/-- What `_save_evidence` has written. -/
def Taken.saved (taken : Taken) (observationId : String) : Pending :=
  ⟨taken.candidate, taken.candidateId, taken.branch, observationId, taken.previous⟩

/-- The evidence of a candidate. -/
def Taken.evidence (call : ExtractCall) (receipt : ReceiptRow) (taken : Taken) : Evidence :=
  let source : EvidenceSource := if taken.candidate.originKind = .importedTranscript then .backfill else .inferred
  let evidence : Evidence := match taken.branch with
    | .answer target => evidenceOf call receipt .explicit (some call.now) (some target.id) none
    | .correction target =>
      evidenceOf call receipt .correction (some call.now) (some target.id) (taken.previous.bind (·.observationId))
    | .hold target => evidenceOf call receipt source none (target.map (·.id)) none
  {evidence with originKind := taken.candidate.originKind}

/-- The row `_insert_candidate` inserts. -/
def insertedCandidate (call : ExtractCall) (loaded : Loaded) (candidate : DecisionCandidate) (id : String) :
    CandidateRow :=
  let promotion := loaded.promotion candidate
  { id
    receiptId := loaded.receipt.id
    sourceEventId := loaded.receipt.eventId
    workspaceId := loaded.receipt.workspaceId
    subjectUserId := loaded.receipt.subjectUserId
    candidate
    promotion
    promotionReason := some (promotionReason candidate promotion)
    status := if promotion = .discard then .discarded else .new
    createdAt := call.now }

/-- The checkpoint of `_save_evidence`: `UPDATE decision_candidates SET promoted_observation_id`. -/
def recordObservation (candidateId observationId : String) (candidates : Table CandidateRow.spanKey) :
    Table CandidateRow.spanKey :=
  candidates.updateWhere (fun row => row.id = candidateId)
    (fun row => {row with promotedObservationId := some observationId}) fun _ => rfl

/-- The UPDATE that brings a candidate to an end, whatever its status is. -/
def endCandidate (candidateId : String) (status : CandidateStatus) (observationId : String)
    (reviewId : Option String) (candidates : Table CandidateRow.spanKey) : Table CandidateRow.spanKey :=
  candidates.updateWhere (fun row => row.id = candidateId) (fun row => {row with
    status
    promotedObservationId := some observationId
    reviewId := reviewId.or row.reviewId }) fun _ => rfl

/-! ### Writes -/

/-- What follows the evidence of a candidate: `_promote_answer`, `_promote_correction` or
the last UPDATE of `_queue_review`. -/
structure Ending extends Pending where
  call : ExtractCall
  receipt : ReceiptRow
  /-- A resolution is inserted. -/
  resolves : Bool
  reviewId : Option String := none

namespace Ending
variable (ending : Ending)

def resolution : Option HumanResolution :=
  let candidate := ending.candidate
  match ending.resolves, ending.branch with
  | true, .answer target => some {
      opportunityId := target.id
      selectedChoice := candidate.selectedOption.getD ""
      resolutionSource := "host_capture"
      humanSourceRef := ending.receipt.id
      resolvedAt := ending.call.now
      statedRationale := candidate.statedRationale }
  | true, .correction target => some {
      opportunityId := target.id
      selectedChoice := (candidate.selectedOption.filter (· ≠ "")).getD (prefixOf 500 candidate.supportingSpan)
      resolutionSource := "host_capture"
      humanSourceRef := ending.receipt.id
      resolvedAt := ending.call.now
      correctionText := prefixOf 1000 candidate.supportingSpan
      statedRationale := candidate.statedRationale
      supersedesResolutionId := ending.previous.map (·.id) }
  | _, _ => none

def predictions (table : Table PredictionRow.id) : Table PredictionRow.id :=
  let candidate := ending.candidate
  match ending.branch with
  | .hold _ => table
  | .answer target =>
    match target.shadowPredictionId with
    | none => table
    | some shadowId =>
      let frozenAt := (table.find shadowId).bind (·.frozenAt)
      resolveShadowPrediction host shadowId (candidate.selectedOption.getD "") (some ending.observationId)
        "host_capture" ending.receipt.id ending.receipt.eventId ending.call.now
        (isRetrospective frozenAt (answerMoment ending.receipt)) table
  | .correction target =>
    match target.shadowPredictionId with
    | none => table
    | some shadowId =>
      appendShadowCorrection shadowId {
        at_ := ending.call.now
        receiptId := ending.receipt.id
        selectedChoice := (candidate.selectedOption.filter (· ≠ "")).getD (prefixOf 500 candidate.supportingSpan)
        candidateId := ending.candidateId } table

def status : CandidateStatus :=
  match ending.branch with
  | .hold _ => .pendingReview
  | _ => .promoted

def apply (db : CaptureDb) : CaptureDb := {db with
  resolutions := match ending.resolution with
    | none => db.resolutions
    | some resolution => insertHumanResolution uuid4 resolution ending.receipt.workspaceId
        ending.receipt.subjectUserId (some ending.receipt.id) ending.receipt.eventId (some ending.candidateId)
        (some ending.observationId) db.resolutions
  predictions := ending.predictions host db.predictions
  opportunities := match ending.branch with
    | .answer target => resolveOpportunity target.id ending.call.now db.opportunities
    | _ => db.opportunities
  candidates := endCandidate ending.candidateId ending.status ending.observationId ending.reviewId db.candidates }

end Ending

/-- What an attempt writes between two commits. -/
inductive Write
  | insert (row : CandidateRow)
  | finish (ending : Ending)

def Write.apply : Write → CaptureDb → CaptureDb
  | .insert row, db => {db with candidates := (db.candidates.insert row).getD db.candidates}
  | .finish ending, db => ending.apply host uuid4 db

def Write.inserts (key : SpanKey) : Write → Bool
  | .insert row => row.spanKey = key
  | .finish _ => false

/-! ### Attempts -/

/-- How far an attempt has got. -/
inductive WorkerPhase
  | claimed
  /-- with the candidates still to be gone through -/
  | between (loaded : Loaded) (todo : List DecisionCandidate)
  /-- the candidate has no observation on record; `inserted`: the attempt has inserted it itself -/
  | entered (loaded : Loaded) (todo : List DecisionCandidate) (taken : Taken) (inserted : Bool)
  /-- the observation is committed -/
  | saved (loaded : Loaded) (todo : List DecisionCandidate) (pending : Pending)
  /-- the candidate names it; `resumed`: it did so when it was taken up -/
  | recorded (loaded : Loaded) (todo : List DecisionCandidate) (pending : Pending) (resumed : Bool)

structure WorkerAttempt where
  call : ExtractCall
  /-- What the claim returned. -/
  receipt : ReceiptRow
  phase : WorkerPhase := .claimed

structure WorkerState (ι : Type) where
  store : Transactions CaptureDb ι Write
  attempts : ι → Option WorkerAttempt
  /-- The candidates' ids that were drawn. -/
  drawn : List String
  /-- The candidate an observation was written for. No column says it. -/
  writtenFor : String → Option String

inductive WorkerStep (ι : Type)
  | ask (question : Question) (now : Instant)
  | ingest (capture : Capture)
  | relay (opportunityId : String) (now : Instant)
  | sweep (settings : Settings) (now : Instant)
  | close (workspaceId subjectUserId sessionId : String) (abandoned : Bool) (now : Instant)
  /-- evidence that is not of a receipt, and a resolution by an operator -/
  | feedback (evidence : Evidence) (resolution : HumanResolution)
  | claim (i : ι) (call : ExtractCall)
  | read (i : ι)
  | enter (i : ι)
  | save (i : ι)
  | checkpoint (i : ι)
  | settle (i : ι)
  | finish (i : ι)
  | fail (i : ι) (error : String)
  | crash (i : ι)

/-- `_mark_extraction_error`, with the last attempt. -/
def ExtractCall.markExtractionError (call : ExtractCall) (receipt : ReceiptRow) (db : CaptureDb) : CaptureDb :=
  if call.settings.maxAttempts ≤ max 1 receipt.extractionAttempts then
    let observedAt := answerMoment receipt
    let since := observedAt - call.settings.captureOpportunityTtlSeconds.toNat * 1000000
    let rows := db.opportunities.rows.filter fun row => row.workspaceId = receipt.workspaceId &&
      row.subjectUserId = receipt.subjectUserId && row.status = .open && since ≤ row.createdAt &&
      row.createdAt ≤ observedAt
    {db with
      predictions := markShadowUnresolved (rows.filterMap (·.shadowPredictionId)) .extractionError
        (some "host_capture") db.predictions }
  else db

section System
variable {ι : Type} [DecidableEq ι]

namespace WorkerState
variable (s : WorkerState ι)

def set (i : ι) (attempt : Option WorkerAttempt) : WorkerState ι :=
  {s with attempts := Function.update s.attempts i attempt}

/-- What the others do is committed at once. -/
def setDb (db : CaptureDb) : WorkerState ι := {s with store := {s.store with db}}

/-- The database as an attempt sees it. -/
def view (i : ι) : CaptureDb := s.store.view (Write.apply host uuid4) i

def commit (i : ι) : WorkerState ι := {s with store := s.store.commit (Write.apply host uuid4) i}

/-- An INSERT under this span waits for another attempt. -/
def waits (i : ι) (key : SpanKey) : Bool := s.store.pending.any fun p => p.1 ≠ i && p.2.inserts key

/-- `_resolution_exists` -/
def resolutionExists (i : ι) (candidateId : String) : Bool :=
  (s.view host uuid4 i).resolutions.rows.any (·.candidateId = some candidateId)

/-- A candidate is taken up, under the observation on record if there is one. -/
def take (i : ι) (attempt : WorkerAttempt) (loaded : Loaded) (candidate : DecisionCandidate)
    (todo : List DecisionCandidate) (candidateId : String) (existing : Option String) (inserted : Bool) : WorkerState ι :=
  match loaded.branchOf candidate with
  | none => s.set i (some {attempt with phase := .between loaded todo})
  | some branch =>
    let previous := match branch with
      | .correction target => latestResolutionForOpportunity target.id (s.view host uuid4 i).resolutions
      | _ => none
    let taken : Taken := {candidate, candidateId, branch, previous}
    match existing with
    | none => s.set i (some {attempt with phase := .entered loaded todo taken inserted})
    | some observationId =>
      s.set i (some {attempt with phase := .recorded loaded todo (taken.saved observationId) true})

/-- `_insert_candidate`, and what `_persist_candidate` makes of it. -/
def enter (i : ι) (attempt : WorkerAttempt) (loaded : Loaded) (candidate : DecisionCandidate)
    (todo : List DecisionCandidate) : Option (WorkerState ι) :=
  match (s.view host uuid4 i).candidates.find (candidate.spanKey loaded.receipt.id) with
  | some row =>
    if row.status ≠ .new then some (s.set i (some {attempt with phase := .between loaded todo}))
    else some (s.take host uuid4 i attempt loaded candidate todo row.id row.promotedObservationId false)
  | none =>
    if s.waits i (candidate.spanKey loaded.receipt.id) then none
    else
      let id := uuid4.draw s.drawn
      let row := insertedCandidate attempt.call loaded candidate id
      some ({s with store := s.store.write i (.insert row), drawn := id :: s.drawn}.take host uuid4 i attempt loaded
        candidate todo id none true)

/-- `_save_evidence`, up to the commit of the function it calls. -/
def save (i : ι) (attempt : WorkerAttempt) (loaded : Loaded) (todo : List DecisionCandidate) (taken : Taken) :
    WorkerState ι :=
  let s := s.commit host uuid4 i
  let evidence := taken.evidence attempt.call loaded.receipt
  let (observations, observationId) := saveBehaviorEvidence uuid4 evidence s.store.db.observations
  {s.setDb {s.store.db with observations} with
    writtenFor := Function.update s.writtenFor observationId (some taken.candidateId) }.set i
      (some {attempt with phase := .saved loaded todo (taken.saved observationId)})

/-- The end of a candidate; a review is committed before its candidate names it. -/
def settle (i : ι) (attempt : WorkerAttempt) (loaded : Loaded) (todo : List DecisionCandidate) (pending : Pending)
    (resumed : Bool) : WorkerState ι :=
  let ending : Ending := {
    toPending := pending
    call := attempt.call
    receipt := loaded.receipt
    resolves := !resumed || !s.resolutionExists host uuid4 i pending.candidateId }
  let after := match pending.branch with
    | .hold _ =>
      let s := s.commit host uuid4 i
      let candidate := pending.candidate
      let promotion := loaded.promotion candidate
      let named := (candidate.selectedOption.filter (· ≠ "")).getD candidate.supportingSpan
      let (reviews, reviewId) := createMemoryReview uuid4 loaded.receipt.workspaceId loaded.receipt.subjectUserId
        "evidence" pending.observationId ("Extracted " ++ candidate.kind.value ++ ": " ++ prefixOf 80 named)
        ("promotion=" ++ promotion.value ++ " reason=" ++ promotionReason candidate promotion ++
          "; extraction_version=" ++ attempt.call.version) "decision_extraction" s.store.db.reviews
      let s := s.setDb {s.store.db with reviews}
      {s with store := s.store.write i (.finish {ending with reviewId := some reviewId})}
    | _ => {s with store := s.store.write i (.finish ending)}
  after.set i (some {attempt with phase := .between loaded todo})

def next : WorkerStep ι → Option (WorkerState ι)
  | .ask question now => some (s.setDb (freezeQuestion uuid4 question now s.store.db))
  | .ingest capture => some (s.setDb (captureInput uuid4 capture s.store.db))
  | .relay opportunityId now => some (s.setDb (markOpportunityRelayed opportunityId now s.store.db))
  | .sweep settings now => some (s.setDb (sweepStaleOpportunities settings now s.store.db))
  | .close workspaceId subjectUserId sessionId abandoned now =>
    some (s.setDb (closeOpportunities workspaceId subjectUserId sessionId abandoned now s.store.db))
  | .feedback evidence resolution =>
    let db := s.store.db
    let (observations, observationId) := saveBehaviorEvidence uuid4 evidence db.observations
    some (s.setDb {db with
      observations
      resolutions := insertHumanResolution uuid4 resolution evidence.workspaceId evidence.subjectUserId none none none
        (some observationId) db.resolutions })
  | .claim i call =>
    match s.attempts i with
    | some _ => none
    | none =>
      let db := s.store.db
      if call.claims db.receipts then
        let receipts := call.claim db.receipts
        (receipts.find call.receiptId).map fun receipt => (s.setDb {db with receipts}).set i (some {call, receipt})
      else some s
  | .read i =>
    match s.attempts i with
    | some ⟨call, receipt, .claimed⟩ =>
      match call.loadReceipt host maybeDecryptPayload s.store.db receipt with
      | .ok loaded => some (s.set i (some ⟨call, receipt, .between loaded loaded.candidates⟩))
      | .error _ => none
    | _ => none
  | .enter i =>
    match s.attempts i with
    | some ⟨call, receipt, .between loaded (candidate :: todo)⟩ =>
      s.enter host uuid4 i ⟨call, receipt, .claimed⟩ loaded candidate todo
    | _ => none
  | .save i =>
    match s.attempts i with
    | some ⟨call, receipt, .entered loaded todo taken _⟩ =>
      some (s.save host uuid4 i ⟨call, receipt, .claimed⟩ loaded todo taken)
    | _ => none
  | .checkpoint i =>
    match s.attempts i with
    | some ⟨call, receipt, .saved loaded todo pending⟩ =>
      let db := s.store.db
      let candidates := recordObservation pending.candidateId pending.observationId db.candidates
      some ((s.setDb {db with candidates}).set i (some ⟨call, receipt, .recorded loaded todo pending false⟩))
    | _ => none
  | .settle i =>
    match s.attempts i with
    | some ⟨call, receipt, .recorded loaded todo pending resumed⟩ =>
      some (s.settle host uuid4 i ⟨call, receipt, .claimed⟩ loaded todo pending resumed)
    | _ => none
  | .finish i =>
    match s.attempts i with
    | some ⟨call, _, .between _ []⟩ =>
      let s := s.commit host uuid4 i
      some ((s.setDb {s.store.db with receipts := call.finish s.store.db.receipts}).set i none)
    | _ => none
  | .fail i error =>
    (s.attempts i).map fun attempt =>
      let s := {s with store := s.store.rollback i}
      let db := {s.store.db with receipts := attempt.call.fail attempt.receipt error s.store.db.receipts}
      (s.setDb (attempt.call.markExtractionError attempt.receipt db)).set i none
  | .crash i => some ({s with store := s.store.rollback i}.set i none)

end WorkerState

/-- Any number of workers, their steps in any order, with what others write between them. -/
def workerSystem (ι : Type) [DecidableEq ι] : System (WorkerState ι) (WorkerStep ι) where
  init s := s = ⟨{db := .empty}, fun _ => none, [], fun _ => none⟩
  next := WorkerState.next host maybeDecryptPayload uuid4

end System

end OpenTimeline.Extraction
