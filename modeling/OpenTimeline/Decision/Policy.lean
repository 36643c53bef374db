import OpenTimeline.Decision.Evidence

/-! `decide`, stage by stage.

Stages one to nine read the request without its advisor: they settle the request or leave
a `Judgement` (`deliberate`). The gates and the advisor then make a result of the judgement
(`conclude`), and `finish` fills in what every result carries. -/
namespace OpenTimeline.Decision
open Library

variable (host : PolicyHost)

/-! ### Digests -/

/-- `hashlib.sha256(text.encode("utf-8")).hexdigest()[:32]` -/
def digest32 (text : String) : String := String.ofList ((host.sha256Hex text).toList.take 32)

/-- `tuning_sha` -/
def PolicyTuning.tuningSha (tuning : PolicyTuning) : String :=
  digest32 host (dumps (.obj [
    ("allow_unscoped_project_evidence", .bool tuning.allowUnscopedProjectEvidence),
    ("advisor_required_families", .arr (tuning.advisorRequiredFamilies.map .str))]))

/-- `query` -/
def DecisionRequest.query (request : DecisionRequest) : EvidenceRow :=
  [("situation_type", .json (.str request.situationType)),
    ("situation_summary", .json (.str request.situationSummary)),
    ("objective_text", .json (.str request.objectiveText)), ("constraints", .json (.obj request.constraints)),
    ("context_snapshot", .json (.obj request.contextSnapshot))]

/-- `fingerprint` -/
def DecisionRequest.fingerprint (request : DecisionRequest) : String :=
  let sorted : List String → Json := fun texts => .arr ((texts.insertionSort (· ≤ ·)).map .str)
  digest32 host (dumps (.obj [
    ("decision_family", .str request.decisionFamily),
    ("situation_type", .str request.situationType),
    ("candidate_options", sorted request.candidateOptions),
    ("evidence_ids", sorted (request.evidenceRows.map (EvidenceRow.id host))),
    ("decision_at", .str (host.isoformat request.decisionAt)),
    ("evidence_revision", .str request.evidenceRevision),
    ("retrieval_version", .str request.retrievalVersion),
    ("decision_policy_revision", .str decisionPolicyRevision),
    ("thresholds_sha", .str host.thresholdsSha),
    ("advisor_present", .bool request.advisor.isSome),
    ("advisor_option", ((request.advisor.bind (·.recommendedOption)).map .str).getD .null)]))

/-! ### Small helpers -/

/-- `validate_cited_ids`: the ids kept, and how many were dropped. -/
def validateCitedIds (claimed offered : List String) : List String × Nat :=
  let allowed := (offered.map strip).filter (· ≠ "")
  let candidates := (claimed.map strip).filter (· ≠ "")
  ((candidates.filter (· ∈ allowed)).reverse.dedup.reverse, (candidates.filter (· ∉ allowed)).length)

section
variable {R : Type} [Floats R]

/-- `_reason_for_asking` -/
def reasonForAsking (abstainReason : Option AbstainReason) (adequacy : Adequacy R)
    (rankedOptions : List (RankedOption R)) : Option String :=
  abstainReason.map fun reason => match reason with
    | .noCandidateMatch =>
      if rankedOptions.isEmpty then
        "I do not have a set of options to choose between here — what are the choices?"
      else "None of your past decisions map onto the options on the table — which one applies?"
    | .noEligibleEvidence =>
      "Nothing in your history is eligible to go on here — how do you want to handle this?"
    | .inadequateEvidence =>
      let shortfall := ", ".intercalate adequacy.shortfalls
      "Not enough to go on (" ++ (if shortfall = "" then "too little evidence" else shortfall) ++
        ") — which option do you want?"
    | .outOfDistribution => "Nothing similar enough in your history to go on — what would you do here?"
    | .conflictingEvidence => "Two past decisions here disagree — which one applies?"
    | .advisorForced => "I could not settle this one — which option do you want?"

variable (R) in
/-- `_exposure` -/
def exposure (request : DecisionRequest) : Bool × ExposureState × Option String :=
  match request.qualification with
  | none => (false, .noQualification, none)
  | some record =>
    let refused : ExposureState → Bool × ExposureState × Option String :=
      fun state => (false, state, some record.qualificationId)
    if record.state ≠ .qualified then
      refused (if record.state = .expired then .qualificationExpired else .noQualification)
    else if record.expiresAt ≤ request.decisionAt then refused .qualificationExpired
    else
      let bound := record.decisionPolicyRevision = decisionPolicyRevision && record.modelId = request.modelId &&
        record.runtimeVersion = request.runtimeVersion && record.retrievalVersion = request.retrievalVersion &&
        record.thresholdsSha = host.thresholdsSha && record.tuningSha = request.tuning.tuningSha host &&
        record.decisionFamily = request.decisionFamily && record.projectId = request.projectId &&
        record.promptSha256 = (request.advisor.map (·.promptSha256)).getD ""
      let baseline := record.learningEligibleAtQualification
      let grown := request.learningEligibleTotal - baseline
      if !bound then refused .bindingMismatch
      else if 0 < baseline ∧ (evidenceDriftMaxGrowth : R) < Floats.near ((grown : ℚ) / baseline) then
        refused .evidenceDrift
      else (true, .exposed, some record.qualificationId)

/-- `_median` -/
def median (values : List R) : R :=
  let ordered := values.insertionSort (· ≤ ·)
  let middle := ordered.length / 2
  if ordered.isEmpty then Floats.near 0
  else if ordered.length % 2 = 1 then ordered.getD middle (Floats.near 0)
  else (ordered.getD (middle - 1) (Floats.near 0) + ordered.getD middle (Floats.near 0)) / Floats.near 2

/-- `_empty_adequacy` -/
def emptyAdequacy (shortfalls : List String := []) : Adequacy R where
  eligibleCount := 0
  neighbourCount := 0
  aboveFloorCount := 0
  effectiveSampleSize := Floats.near 0
  topSimilarity := Floats.near 0
  topOverlap := Floats.near 0
  agreementShare := Floats.near 0
  learningEligibleCount := 0
  medianEvidenceAgeDays := Floats.near 0
  adequate := false
  shortfalls

/-! ### Results -/

/-- The keyword arguments of `finish`. -/
structure Findings (R : Type) [Floats R] where
  status : DecisionStatus
  selectedOption : Option String := none
  rankedOptions : List (RankedOption R) := []
  evidenceObservationIds : List String := []
  evidenceRole : String := "considered"
  conflictingObservationIds : List String := []
  abstainReason : Option AbstainReason := none
  oodStatus : OodStatus := .unknown
  oodScore : R := Floats.near 1
  conflictStatus : ConflictStatus := .none
  policyScore : R := Floats.near 0
  adequacy : Adequacy R := emptyAdequacy
  suggestedAction : Option String := none
  advisorAgreement : Option AdvisorAgreement := none
  advisorCitationOverlap : Option R := none
  advisorNote : Option String := none
  appliedRuleId : Option String := none
  ruleLayer : Bool := false
  diagnostics : List (String × Nat) := []

/-- Whether an advisor was there to answer, where no stage asks it. -/
def DecisionRequest.advisorPresence (request : DecisionRequest) : AdvisorAgreement :=
  if request.advisor.all fun advisor => advisor.parseState = "parsed" then .absent else .unavailable

/-- `finish` -/
def finish (request : DecisionRequest) (findings : Findings R) : DecisionResult R :=
  let exposed := if findings.ruleLayer then (true, ExposureState.ruleLayer, none) else exposure host R request
  { status := findings.status
    selectedOption := findings.selectedOption
    rankedOptions := findings.rankedOptions
    evidenceObservationIds := findings.evidenceObservationIds
    evidenceRole := findings.evidenceRole
    conflictingObservationIds := findings.conflictingObservationIds
    abstainReason := findings.abstainReason
    reasonForAsking := reasonForAsking findings.abstainReason findings.adequacy findings.rankedOptions
    oodStatus := findings.oodStatus
    oodScore := Floats.round6 (Floats.clamp findings.oodScore)
    conflictStatus := findings.conflictStatus
    policyScore := Floats.round6 (Floats.clamp findings.policyScore)
    adequacy := findings.adequacy
    suggestedAction := findings.suggestedAction
    advisorAgreement := findings.advisorAgreement.getD request.advisorPresence
    advisorCitationOverlap := findings.advisorCitationOverlap
    advisorNote := findings.advisorNote
    appliedRuleId := findings.appliedRuleId
    decisionPolicyRevision := Decision.decisionPolicyRevision
    retrievalVersion := request.retrievalVersion
    promptSha256 := request.advisor.map (·.promptSha256)
    thresholdsSha := host.thresholdsSha
    tuningSha := request.tuning.tuningSha host
    evidenceRevision := request.evidenceRevision
    evidenceCutoffAt := request.evidenceCutoffAt
    qualificationId := exposed.2.2
    exposed := exposed.1
    exposureState := exposed.2.1
    requestFingerprint := request.fingerprint host
    diagnostics := findings.diagnostics }

end
end OpenTimeline.Decision
