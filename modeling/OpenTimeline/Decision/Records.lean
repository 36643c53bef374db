import OpenTimeline.Library.Floats
import OpenTimeline.Json

/-! The vocabulary of the decision policy, its inputs and its result.

An evidence row is a mapping whose values are JSON or datetimes. Numbers are those of any
format. The instant a decision is made at is aware. -/
namespace OpenTimeline.Decision
open Library

/-- The library calls of the policy, beside those of a `Host`. -/
structure PolicyHost extends Host where
  /-- `str(value)` of a datetime -/
  strTime : Datetime → String
  /-- `isoformat` of an aware datetime -/
  isoformat : Instant → String
  /-- `THRESHOLDS_SHA`, the digest of the module's constants -/
  thresholdsSha : String

/-! ### Values -/

/-- A value of an evidence row. -/
inductive Value
  | json (v : Json)
  | time (t : Datetime)

def Value.null : Value := .json .null

def Value.truthy : Value → Bool
  | .json v => OpenTimeline.truthy v
  | .time _ => true

/-- `value or default` -/
def Value.or (value default : Value) : Value := if value.truthy then value else default

/-- `str(value)` -/
def Value.str (host : PolicyHost) : Value → String
  | .json v => pyStr host.toHost v
  | .time t => host.strTime t

/-- `str(value or "")` -/
def Value.text (host : PolicyHost) (value : Value) : String := (value.or (.json (.str ""))).str host

/-- `Mapping[str, Any]`, its keys in insertion order. -/
abbrev EvidenceRow := List (String × Value)

/-- `row.get(key)` -/
def EvidenceRow.get (row : EvidenceRow) (key : String) : Value := (row.lookup key).getD .null

/-- `str(row.get("id") or "")` -/
def EvidenceRow.id (host : PolicyHost) (row : EvidenceRow) : String := (row.get "id").text host

/-! ### Vocabulary -/

inductive DecisionStatus
  | selected | abstained | ruleApplied
deriving DecidableEq, Repr

inductive AbstainReason
  | noEligibleEvidence | noCandidateMatch | inadequateEvidence | outOfDistribution | conflictingEvidence
  | advisorForced
deriving DecidableEq, Repr

inductive OodStatus
  | inDistribution | outOfDistribution | unknown
deriving DecidableEq, Repr

inductive ConflictStatus
  | none | splitVote | explicitContradiction
deriving DecidableEq, Repr

inductive AdvisorAgreement
  | absent | agreed | disagreed | abstained | unavailable
deriving DecidableEq, Repr

inductive QualificationState
  | qualified | notQualified | expired | invalidated | demoted
deriving DecidableEq, Repr

inductive ExposureState
  | exposed | noQualification | qualificationExpired | bindingMismatch | evidenceDrift | ruleLayer
deriving DecidableEq, Repr

def decisionPolicyRevision : String := "p4-2026-09"

/-! ### Thresholds -/

section
variable {R : Type} [Floats R]

def similarityFloor : R := Floats.near 0.30
def oodOverlapFloor : R := Floats.near 0.20
def conflictShareRatio : R := Floats.near 0.80
def minAgreementShare : R := Floats.near 0.60
def minEffectiveSample : R := Floats.near 1.5
def evidenceDriftMaxGrowth : R := Floats.near 0.50

end

def maxNeighbours : Nat := 12

/-! ### Inputs -/

/-- The frozen set of families is kept sorted, as `tuning_sha` reads it. -/
structure PolicyTuning where
  allowUnscopedProjectEvidence : Bool := true
  advisorRequiredFamilies : List String := []

structure ExplicitRule where
  ruleId : String
  statement : String
  priority : Int
  scopeProjectId : Option String

structure AdvisorContribution where
  recommendedOption : Option String
  abstained : Bool
  abstainReason : Option String
  evidenceIds : List String
  conflictingEvidenceIds : List String
  advisorNote : Option String
  parseState : String
  promptSha256 : String
  modelId : String
  runtimeVersion : String

structure Qualification where
  qualificationId : String
  state : QualificationState
  projectId : Option String
  decisionFamily : String
  decisionPolicyRevision : String
  modelId : String
  runtimeVersion : String
  promptSha256 : String
  retrievalVersion : String
  thresholdsSha : String
  tuningSha : String
  evidenceCutoffAt : Option Instant
  learningEligibleAtQualification : Int
  expiresAt : Instant

structure DecisionRequest where
  decisionFamily : String
  situationType : String
  situationSummary : String
  objectiveText : String
  constraints : Payload
  contextSnapshot : Payload
  candidateOptions : List String
  evidenceRows : List EvidenceRow
  decisionAt : Instant
  workspaceId : String
  subjectUserId : String
  projectId : Option String
  episodeKey : String
  evidenceRevision : String
  evidenceCutoffAt : Option Instant
  retrievalVersion : String
  modelId : String
  runtimeVersion : String
  learningEligibleTotal : Int := 0
  qualification : Option Qualification := none
  explicitRules : List ExplicitRule := []
  advisor : Option AdvisorContribution := none
  tuning : PolicyTuning := {}

/-! ### The result -/

structure RankedOption (R : Type) where
  option : String
  share : R
  supportingObservationIds : List String
deriving DecidableEq

structure Adequacy (R : Type) where
  eligibleCount : Nat
  neighbourCount : Nat
  aboveFloorCount : Nat
  effectiveSampleSize : R
  topSimilarity : R
  topOverlap : R
  agreementShare : R
  learningEligibleCount : Nat
  medianEvidenceAgeDays : R
  adequate : Bool
  shortfalls : List String
deriving DecidableEq

structure DecisionResult (R : Type) where
  status : DecisionStatus
  selectedOption : Option String
  rankedOptions : List (RankedOption R)
  evidenceObservationIds : List String
  evidenceRole : String
  conflictingObservationIds : List String
  abstainReason : Option AbstainReason
  reasonForAsking : Option String
  oodStatus : OodStatus
  oodScore : R
  conflictStatus : ConflictStatus
  policyScore : R
  adequacy : Adequacy R
  suggestedAction : Option String
  advisorAgreement : AdvisorAgreement
  advisorCitationOverlap : Option R
  advisorNote : Option String
  appliedRuleId : Option String
  decisionPolicyRevision : String
  retrievalVersion : String
  promptSha256 : Option String
  thresholdsSha : String
  tuningSha : String
  evidenceRevision : String
  evidenceCutoffAt : Option Instant
  qualificationId : Option String
  exposed : Bool
  exposureState : ExposureState
  requestFingerprint : String
  diagnostics : List (String × Nat)

/-! ### JSON text

`json.dumps(value, sort_keys=True)`. -/

mutual

def dumps : Json → String
  | .null => "null"
  | .bool b => if b then "true" else "false"
  | .int n => toString n
  | .float x => x.repr
  | .str s => asciiString s
  | .arr items => "[" ++ ", ".intercalate (dumpsItems items) ++ "]"
  | .obj fields =>
    "\x7b" ++ ", ".intercalate (((dumpsFields fields).insertionSort (fun a b => a.1 ≤ b.1)).map
      (fun f => asciiString f.1 ++ ": " ++ f.2)) ++ "\x7d"

def dumpsItems : List Json → List String
  | [] => []
  | x :: rest => dumps x :: dumpsItems rest

def dumpsFields : List (String × Json) → List (String × String)
  | [] => []
  | (key, x) :: rest => (key, dumps x) :: dumpsFields rest

end

/-- `default=str` -/
def Value.dumps (host : PolicyHost) : Value → String
  | .json v => Decision.dumps v
  | .time t => asciiString (host.strTime t)

example : dumps (.obj [("b", .str "é"), ("a", .arr [.null, .int 1])]) =
    "\x7b\"a\": [null, 1], \"b\": \"\\u00e9\"\x7d" := by decide

end OpenTimeline.Decision
