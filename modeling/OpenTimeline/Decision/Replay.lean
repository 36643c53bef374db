import OpenTimeline.Decision.Support
import OpenTimeline.Library.Table

/-! A decision frozen in three tables, and rebuilt from them.

The request of a decision leaves its family, its time and its advisor on the prediction's
row, its situation in that row's query, its options on the opportunity, and of its evidence
the ids. What is rebuilt from the rows has the same fingerprint, as long as the observations
are still there (`replay_fingerprint`). -/
namespace OpenTimeline.Decision
open Library

/-- A datetime with its offset from UTC. -/
structure ZonedTime where
  instant : Instant
  offset : Int
deriving DecidableEq

/-- What writing a request down and rebuilding it asks of the language besides. -/
structure ReplayHost extends PolicyHost where
  /-- `value.isoformat()` -/
  isoformatIn : ZonedTime → String
  /-- `_parse_ts` -/
  parseTs : String → Option ZonedTime

namespace ReplayHost

/-- The calls of the policy, for a request whose times are in one zone. -/
def inZone (host : ReplayHost) (offset : Int) : PolicyHost :=
  { host.toPolicyHost with isoformat := fun instant => host.isoformatIn ⟨instant, offset⟩ }

end ReplayHost

/-- A request, with the zone its time is given in. -/
structure ZonedRequest extends DecisionRequest where
  offset : Int

/-- `fingerprint` -/
def ZonedRequest.fingerprint (host : ReplayHost) (request : ZonedRequest) : String :=
  request.toDecisionRequest.fingerprint (host.inZone request.offset)

def isBlank (text : String) : Bool := strip text = ""

/-! ### Writing -/

/-- A row of `behavior_shadow_predictions`, by the columns a replay reads; its JSON columns
are decoded. -/
structure PredictionRow where
  id : String
  sessionId : String
  workspaceId : String
  subjectUserId : String
  decisionFamily : String
  query : Json
  frozenAt : String
  createdAt : String
  evidenceCutoffAt : Option String
  evidenceRevision : String
  retrievalVersion : Option String := none
  modelId : Option String := none
  runtimeVersion : Option String := none
  promptSha256 : Option String := none
  episodeKey : Option String := none
  projectId : Option String := none
  requestFingerprint : Option String := none
  policy : Json := .obj []
  offeredEvidenceIds : Json := .arr []
  decisionAt : Option String := none
  advisorPresent : Int := 0
  advisorRecommendedOption : Option String := none

/-- A row of `decision_opportunities`, by the columns a replay reads. -/
structure OpportunityRow where
  id : String
  objectiveHash : Option String
  projectId : Option String
  episodeKey : String
  alternatives : Json

/-- What the site that freezes a decision has beside the request. -/
structure Freeze where
  predictionId : String
  opportunityId : String
  sessionId : String
  workspaceId : String
  subjectUserId : String
  objectiveHash : Option String
  projectId : Option String
  situationSummary : String
  objectiveText : String
  constraints : Payload
  snapshot : Payload
  alternatives : List String
  frozenAt : ZonedTime

section Write
variable (host : ReplayHost)

/-- The query the site writes, with the situation type of the request. -/
def Freeze.query (freeze : Freeze) (situationType : String) : Payload :=
  [("situation_type", .str situationType), ("situation_summary", .str freeze.situationSummary),
    ("objective_text", .str freeze.objectiveText), ("constraints", .obj freeze.constraints),
    ("context_snapshot", .obj freeze.snapshot)]

/-- `freeze_shadow_prediction` -/
def freezeShadowPrediction (freeze : Freeze) (request : ZonedRequest) : PredictionRow where
  id := freeze.predictionId
  sessionId := freeze.sessionId
  workspaceId := freeze.workspaceId
  subjectUserId := freeze.subjectUserId
  decisionFamily := request.decisionFamily
  query := .obj (freeze.query request.situationType)
  frozenAt := host.isoformatIn freeze.frozenAt
  createdAt := host.isoformatIn freeze.frozenAt
  evidenceCutoffAt := request.evidenceCutoffAt.map fun cutoff => host.isoformatIn ⟨cutoff, request.offset⟩
  evidenceRevision := request.evidenceRevision

/-- `replay_inputs_payload`, the ids of the evidence that was offered. -/
def offeredEvidenceIds (request : ZonedRequest) : List String :=
  request.evidenceRows.map (EvidenceRow.id host.toPolicyHost)

variable {R : Type}

/-- The result's payload, by its texts. -/
def DecisionResult.payload (result : DecisionResult R) (evidenceIds : List String) : Payload :=
  [("evidence_observation_ids", .arr (evidenceIds.map .str)),
    ("decision_policy_revision", .str result.decisionPolicyRevision),
    ("retrieval_version", .str result.retrievalVersion), ("thresholds_sha", .str result.thresholdsSha),
    ("tuning_sha", .str result.tuningSha), ("evidence_revision", .str result.evidenceRevision)]

def liteModelId : String := "none:lite"
def liteRuntimeVersion : String := "lite"

/-- `persist_policy_decision` -/
def persistPolicyDecision (row : PredictionRow) (freeze : Freeze) (request : ZonedRequest) (result : DecisionResult R) :
    PredictionRow :=
  let offered := offeredEvidenceIds host request
  { row with
    modelId := some liteModelId
    runtimeVersion := some liteRuntimeVersion
    promptSha256 := result.promptSha256
    retrievalVersion := some result.retrievalVersion
    episodeKey := some request.episodeKey
    projectId := freeze.projectId
    requestFingerprint := some result.requestFingerprint
    offeredEvidenceIds := .arr (offered.map .str)
    decisionAt := some (host.isoformatIn ⟨request.decisionAt, request.offset⟩)
    advisorPresent := if request.advisor.isSome then 1 else 0
    advisorRecommendedOption := request.advisor.bind (·.recommendedOption)
    policy := .obj (result.payload (validateCitedIds result.evidenceObservationIds offered).1) }

/-- `insert_opportunity` -/
def insertOpportunity (freeze : Freeze) (request : ZonedRequest) : OpportunityRow where
  id := freeze.opportunityId
  objectiveHash := freeze.objectiveHash
  projectId := freeze.projectId
  episodeKey := request.episodeKey
  alternatives := .arr (freeze.alternatives.map .str)

/-- The row a replay selects: the prediction, joined to its opportunity. -/
structure ReplayRow where
  prediction : PredictionRow
  opportunity : OpportunityRow

/-- What the three writers leave of a decision. -/
def frozenRow (freeze : Freeze) (request : ZonedRequest) (result : DecisionResult R) : ReplayRow where
  prediction := persistPolicyDecision host (freezeShadowPrediction host freeze request) freeze request result
  opportunity := insertOpportunity freeze request

end Write

/-! ### Reading -/

/-- An observation of today, as `_evidence_from_row` reads it. -/
structure StoredObservation where
  id : String
  columns : EvidenceRow

def StoredObservation.evidence (observation : StoredObservation) : EvidenceRow :=
  ("id", .json (.str observation.id)) :: observation.columns

section Read
variable (host : ReplayHost)

/-- The texts of a list that are not blank; of what is no list, none. -/
def nonBlankTexts : Json → List String
  | .arr items => (items.map (pyStr host.toHost)).filter (!isBlank ·)
  | _ => []

/-- `_replay_json` -/
def replayJson : Json → Payload
  | .obj fields => fields
  | _ => []

/-- `replay_candidate_options` -/
def replayCandidateOptions (row : ReplayRow) : List String :=
  match row.opportunity.alternatives with
  | .arr (item :: items) => nonBlankTexts host (.arr (item :: items))
  | _ => nonBlankTexts host ((replayJson row.prediction.query).get "available_choices")

/-- `replay_offered_evidence_ids` -/
def replayOfferedEvidenceIds (row : ReplayRow) : List String := nonBlankTexts host row.prediction.offeredEvidenceIds

/-- `replay_evidence_rows`: the rows in the order they were offered in, and the ids that are
there no more. -/
def replayEvidenceRows (observations : Table StoredObservation.id) (row : ReplayRow) : List EvidenceRow × List String :=
  let offered := replayOfferedEvidenceIds host row
  (offered.filterMap fun key => (observations.find key).map (·.evidence),
    offered.filter fun key => (observations.find key).isNone)

/-- `str(value or "")` -/
def textOf (value : Json) : String := pyStr host.toHost (value.or (.str ""))

/-- `a or b`, of columns that may be null. -/
def orElse (a b : Option String) : Option String := if a.all (· = "") then b else a

/-- `replay_request_from_row`, at a time to fall back on. -/
def replayRequestFromRow (now : ZonedTime) (row : ReplayRow) (evidence : List EvidenceRow) : ZonedRequest :=
  let query := replayJson row.prediction.query
  let policy := replayJson row.prediction.policy
  let time := ((row.prediction.decisionAt.bind host.parseTs).or
    ((host.parseTs row.prediction.frozenAt).or (host.parseTs row.prediction.createdAt))).getD now
  let prediction := row.prediction
  { decisionFamily := prediction.decisionFamily
    situationType := textOf host (query.get "situation_type")
    situationSummary := textOf host (query.get "situation_summary")
    objectiveText := textOf host ((query.get "objective_text").or (query.get "objective"))
    constraints := replayJson (query.get "constraints")
    contextSnapshot := replayJson (query.get "context_snapshot")
    candidateOptions := replayCandidateOptions host row
    evidenceRows := evidence
    decisionAt := time.instant
    offset := time.offset
    workspaceId := prediction.workspaceId
    subjectUserId := prediction.subjectUserId
    projectId := (orElse prediction.projectId row.opportunity.projectId).filter (· ≠ "")
    episodeKey := (orElse prediction.episodeKey (some row.opportunity.episodeKey)).getD ""
    evidenceRevision :=
      if prediction.evidenceRevision ≠ "" then prediction.evidenceRevision
      else textOf host (policy.get "evidence_revision")
    evidenceCutoffAt := (prediction.evidenceCutoffAt.bind host.parseTs).map (·.instant)
    retrievalVersion := (orElse prediction.retrievalVersion (some (textOf host (policy.get "retrieval_version")))).getD ""
    modelId := prediction.modelId.getD ""
    runtimeVersion := prediction.runtimeVersion.getD ""
    advisor :=
      if prediction.advisorPresent ≠ 0 then some {
        recommendedOption := prediction.advisorRecommendedOption
        abstained := prediction.advisorRecommendedOption.isNone
        abstainReason := none
        evidenceIds := []
        conflictingEvidenceIds := []
        advisorNote := none
        parseState := "parsed"
        promptSha256 := prediction.promptSha256.getD ""
        modelId := prediction.modelId.getD ""
        runtimeVersion := prediction.runtimeVersion.getD "" }
      else none }

end Read

/-! ### The rebuilt request -/

section Rebuilt
variable {host : ReplayHost}

theorem textOf_str (text : String) : textOf host (.str text) = text := by
  by_cases htext : text = ""
  · subst htext
    rfl
  · have htruthy : truthy (.str text) = true := by simp [truthy, htext]
    rw [textOf, Json.or, if_pos htruthy]
    rfl

theorem nonBlankTexts_str (texts : List String) :
    nonBlankTexts host (.arr (texts.map .str)) = texts.filter (!isBlank ·) := by
  have hitems : (texts.map Json.str).map (pyStr host.toHost) = texts := by
    rw [List.map_map]
    exact List.map_id texts
  rw [nonBlankTexts, hitems]

/-- The options come back as the site offered them, without the blank ones. -/
theorem replayCandidateOptions_frozenRow {R : Type} (freeze : Freeze) (request : ZonedRequest)
    (result : DecisionResult R) :
    replayCandidateOptions host (frozenRow host freeze request result) = freeze.alternatives.filter (!isBlank ·) := by
  have halternatives : (frozenRow host freeze request result).opportunity.alternatives =
      .arr (freeze.alternatives.map .str) := rfl
  rw [replayCandidateOptions, halternatives]
  cases hoptions : freeze.alternatives with
  | nil => rfl
  | cons option options =>
    rw [← @nonBlankTexts_str host]
    rfl

theorem id_evidence (observation : StoredObservation) :
    EvidenceRow.id host.toPolicyHost observation.evidence = observation.id := by
  have hget : observation.evidence.get "id" = .json (.str observation.id) := by
    simp [EvidenceRow.get, StoredObservation.evidence]
  by_cases hid : observation.id = "" <;> simp [EvidenceRow.id, hget, Value.text, Value.or, Value.truthy, truthy, hid,
    Value.str, pyStr]

/-- An id that is not blank and that an observation has. -/
def Resolves (observations : Table StoredObservation.id) (id : String) : Prop :=
  isBlank id = false ∧ ∃ observation, observations.find id = some observation

/-- Where every id resolves, the rows that are read have the ids, in their order. -/
theorem ids_filterMap_find {observations : Table StoredObservation.id} {ids : List String}
    (h : ∀ id ∈ ids, Resolves observations id) :
    ((ids.filterMap fun key => (observations.find key).map (·.evidence)).map (EvidenceRow.id host.toPolicyHost)) = ids ∧
      ids.filter (fun key => (observations.find key).isNone) = [] ∧ ids.filter (!isBlank ·) = ids := by
  induction ids with
  | nil => simp
  | cons id ids ih =>
    obtain ⟨hrows, hmissing, hblank⟩ := ih fun other hother => h other (List.mem_cons_of_mem _ hother)
    obtain ⟨hid, observation, hfind⟩ := h id (List.mem_cons_self ..)
    have hsame : observation.id = id := (Table.find_eq_some_iff.mp hfind).2
    refine ⟨?_, ?_, ?_⟩
    · rw [List.filterMap_cons, hfind, Option.map_some, List.map_cons, id_evidence, hsame, hrows]
    · rw [List.filter_cons, hfind, Option.isNone_some, if_neg Bool.false_ne_true, hmissing]
    · rw [List.filter_cons, hid, Bool.not_false, if_pos rfl, hblank]

/-- The terms the fingerprint hashes, as far as they come from a request. -/
structure SameTerms (host : ReplayHost) (a b : ZonedRequest) : Prop where
  decisionFamily : a.decisionFamily = b.decisionFamily
  situationType : a.situationType = b.situationType
  candidateOptions : a.candidateOptions = b.candidateOptions
  evidenceIds : offeredEvidenceIds host a = offeredEvidenceIds host b
  decisionAt : a.decisionAt = b.decisionAt ∧ a.offset = b.offset
  evidenceRevision : a.evidenceRevision = b.evidenceRevision
  retrievalVersion : a.retrievalVersion = b.retrievalVersion
  advisorPresent : a.advisor.isSome = b.advisor.isSome
  advisorOption : a.advisor.bind (·.recommendedOption) = b.advisor.bind (·.recommendedOption)

theorem SameTerms.fingerprint {a b : ZonedRequest} (h : SameTerms host a b) : a.fingerprint host = b.fingerprint host := by
  have hids : a.evidenceRows.map (EvidenceRow.id (host.inZone b.offset)) =
      b.evidenceRows.map (EvidenceRow.id (host.inZone b.offset)) := h.evidenceIds
  simp only [ZonedRequest.fingerprint, DecisionRequest.fingerprint, h.decisionFamily, h.situationType,
    h.candidateOptions, h.decisionAt.1, h.decisionAt.2, h.evidenceRevision, h.retrievalVersion, h.advisorPresent,
    h.advisorOption, hids]

/-- Every result carries the versions of its request. -/
theorem decide_versions {policyHost : PolicyHost} {R : Type} [Floats R] {request : DecisionRequest}
    {result : DecisionResult R} (h : decide policyHost request = .ok result) :
    result.retrievalVersion = request.retrievalVersion ∧ result.evidenceRevision = request.evidenceRevision := by
  obtain ⟨findings, _, rfl⟩ | ⟨judgement, _, rfl⟩ := decide_cases h
  · exact ⟨rfl, rfl⟩
  · exact ⟨rfl, rfl⟩

theorem replayEvidenceRows_frozenRow {R : Type} {observations : Table StoredObservation.id} {freeze : Freeze}
    {request : ZonedRequest} {result : DecisionResult R}
    (hresolves : ∀ id ∈ offeredEvidenceIds host request, Resolves observations id) :
    (replayEvidenceRows host observations (frozenRow host freeze request result)).1.map
        (EvidenceRow.id host.toPolicyHost) = offeredEvidenceIds host request ∧
      (replayEvidenceRows host observations (frozenRow host freeze request result)).2 = [] := by
  obtain ⟨hrows, hmissing, hblank⟩ := @ids_filterMap_find host _ _ hresolves
  have hoffered : replayOfferedEvidenceIds host (frozenRow host freeze request result) =
      offeredEvidenceIds host request := (nonBlankTexts_str _).trans hblank
  simp only [replayEvidenceRows, hoffered]
  exact ⟨hrows, hmissing⟩

/-- What a replay rebuilds of a decision agrees with it in every term of the fingerprint. -/
theorem sameTerms_replay {R : Type} [Floats R] {observations : Table StoredObservation.id} {freeze : Freeze}
    {request : ZonedRequest} {result : DecisionResult R} (now : ZonedTime)
    (hresult : decide (host.inZone request.offset) request.toDecisionRequest = .ok result)
    (hoptions : request.candidateOptions = freeze.alternatives.filter (!isBlank ·))
    (htime : host.parseTs (host.isoformatIn ⟨request.decisionAt, request.offset⟩) =
      some ⟨request.decisionAt, request.offset⟩)
    (hresolves : ∀ id ∈ offeredEvidenceIds host request, Resolves observations id) :
    SameTerms host (replayRequestFromRow host now (frozenRow host freeze request result)
      (replayEvidenceRows host observations (frozenRow host freeze request result)).1) request := by
  obtain ⟨hversion, hrevision⟩ := decide_versions hresult
  have horElse (text : String) : (orElse (some text) (some text)).getD "" = text := by
    by_cases htext : text = "" <;> simp [orElse, htext]
  exact
    { decisionFamily := rfl
      situationType := textOf_str _
      candidateOptions := (replayCandidateOptions_frozenRow ..).trans hoptions.symm
      evidenceIds := (replayEvidenceRows_frozenRow hresolves).1
      decisionAt := by simp [replayRequestFromRow, frozenRow, persistPolicyDecision, htime]
      evidenceRevision := by
        show (if request.evidenceRevision ≠ "" then request.evidenceRevision
          else textOf host (.str result.evidenceRevision)) = request.evidenceRevision
        rw [textOf_str, hrevision, ite_self]
      retrievalVersion := by
        show (orElse (some result.retrievalVersion) (some (textOf host (.str result.retrievalVersion)))).getD "" =
          request.retrievalVersion
        rw [textOf_str, hversion, horElse]
      advisorPresent := by
        cases hadvisor : request.advisor <;>
          simp [replayRequestFromRow, frozenRow, persistPolicyDecision, hadvisor]
      advisorOption := by
        cases hadvisor : request.advisor <;>
          simp [replayRequestFromRow, frozenRow, persistPolicyDecision, hadvisor] }

/-- While every observation that was offered resolves, none is missing, and the request that
is rebuilt from the rows has the fingerprint of the one that was decided, which is also the
one on the row. -/
theorem replay_fingerprint {R : Type} [Floats R] (observations : Table StoredObservation.id) (freeze : Freeze)
    (request : ZonedRequest) (result : DecisionResult R) (now : ZonedTime)
    (hresult : decide (host.inZone request.offset) request.toDecisionRequest = .ok result)
    (hoptions : request.candidateOptions = freeze.alternatives.filter (!isBlank ·))
    (htime : host.parseTs (host.isoformatIn ⟨request.decisionAt, request.offset⟩) =
      some ⟨request.decisionAt, request.offset⟩)
    (hresolves : ∀ id ∈ offeredEvidenceIds host request, Resolves observations id) :
    let row := frozenRow host freeze request result
    let evidence := replayEvidenceRows host observations row
    evidence.2 = [] ∧
      (replayRequestFromRow host now row evidence.1).fingerprint host = request.fingerprint host ∧
      row.prediction.requestFingerprint = some (request.fingerprint host) := by
  refine ⟨(replayEvidenceRows_frozenRow hresolves).2,
    (sameTerms_replay now hresult hoptions htime hresolves).fingerprint, ?_⟩
  obtain ⟨findings, _, rfl⟩ | ⟨judgement, _, rfl⟩ := decide_cases hresult
  · rfl
  · rfl

end Rebuilt

/-! ### A run -/

/-- A host that writes the time of the run as one text, and reads it back. -/
def replayHost : ReplayHost :=
  { exampleHost with
    isoformatIn := fun _ => "2026-09-09T09:30:00+05:30"
    parseTs := fun text => if text = "2026-09-09T09:30:00+05:30" then some ⟨epoch, 19800⟩ else none }

/-- The example request, in a zone east of UTC, with an advisor who names no option. -/
def replayedRequest : ZonedRequest :=
  { exampleRequest with
    offset := 19800
    candidateOptions := []
    projectId := none
    advisor := some ⟨none, true, none, [], [], none, "parsed", "", "", ""⟩ }

/-- It was frozen from options that were all blank. -/
def replayedFreeze : Freeze :=
  ⟨"prediction", "opportunity", "session", "w", "u", none, none, "", "", [], [], [" ", ""], ⟨epoch, 0⟩⟩

/-- The observations of the example request. -/
def replayedObservations : Table StoredObservation.id :=
  ⟨[⟨"a", exampleRow "a"⟩, ⟨"b", exampleRow "b"⟩], by decide⟩

theorem replay_fingerprint_example : ∃ result : DecisionResult ℚ,
    decide (replayHost.inZone 19800) replayedRequest.toDecisionRequest = .ok result ∧
      (replayRequestFromRow replayHost ⟨0, 0⟩ (frozenRow replayHost replayedFreeze replayedRequest result)
        (replayEvidenceRows replayHost replayedObservations
          (frozenRow replayHost replayedFreeze replayedRequest result)).1).fingerprint replayHost =
        replayedRequest.fingerprint replayHost := by
  have hdecided : (decide (replayHost.inZone 19800) replayedRequest.toDecisionRequest :
      Except PyError (DecisionResult ℚ)) = .ok _ := rfl
  have hresolves : ∀ id ∈ offeredEvidenceIds replayHost replayedRequest, Resolves replayedObservations id := by
    have hids : offeredEvidenceIds replayHost replayedRequest = ["a", "b"] := by decide +kernel
    rw [hids]
    simp [Resolves, replayedObservations, Table.find, isBlank, strip, stripChars, isSpace]
  exact ⟨_, hdecided, (replay_fingerprint replayedObservations replayedFreeze replayedRequest _ ⟨0, 0⟩ hdecided
    (by decide +kernel) (by decide +kernel) hresolves).2.1⟩

end OpenTimeline.Decision
