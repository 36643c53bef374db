import OpenTimeline.Decision.Advisor

/-! What the fingerprint of a request covers.

The fingerprint digests a JSON text, whose strings can be read back one after the other
(`prefixFree_asciiString`). So two requests with one fingerprint agree on the family, the
situation type, the time, the evidence revision and the retrieval version, as far as the
digest tells them apart. `decide` reads fifteen fields more, and each of them alone can
change the decision (`fingerprint_determines_iff`). -/
namespace OpenTimeline.Decision
open Library

/-! ### The text -/

section
variable (host : PolicyHost)

/-- What the fingerprint of a request digests. -/
def fingerprintText (request : DecisionRequest) : String :=
  let sorted : List String → Json := fun texts => .arr ((texts.insertionSort (· ≤ ·)).map .str)
  dumps (.obj [
    ("decision_family", .str request.decisionFamily),
    ("situation_type", .str request.situationType),
    ("candidate_options", sorted request.candidateOptions),
    ("evidence_ids", sorted (request.evidenceRows.map (EvidenceRow.id host))),
    ("decision_at", .str (host.isoformat request.decisionAt)),
    ("evidence_revision", .str request.evidenceRevision),
    ("retrieval_version", .str request.retrievalVersion),
    ("decision_policy_revision", .str decisionPolicyRevision),
    ("thresholds_sha", .str host.thresholdsSha),
    ("advisor_present", .bool request.advisor.isSome),
    ("advisor_option", ((request.advisor.bind (·.recommendedOption)).map .str).getD .null)])

theorem fingerprint_eq (request : DecisionRequest) :
    request.fingerprint host = digest32 host (fingerprintText host request) := rfl

/-- The entries of the text, by key. -/
theorem dumps_sorted (family type options ids time revision version policy thresholds present option : Json) :
    dumps (.obj [("decision_family", family), ("situation_type", type), ("candidate_options", options),
        ("evidence_ids", ids), ("decision_at", time), ("evidence_revision", revision), ("retrieval_version", version),
        ("decision_policy_revision", policy), ("thresholds_sha", thresholds), ("advisor_present", present),
        ("advisor_option", option)]) =
      "\x7b" ++ ", ".intercalate ([("advisor_option", option), ("advisor_present", present),
        ("candidate_options", options), ("decision_at", time), ("decision_family", family),
        ("decision_policy_revision", policy), ("evidence_ids", ids), ("evidence_revision", revision),
        ("retrieval_version", version), ("situation_type", type), ("thresholds_sha", thresholds)].map
          fun entry => asciiString entry.1 ++ ": " ++ dumps entry.2) ++ "\x7d" := by
  simp only [dumps, dumpsFields, List.insertionSort, List.foldr, List.orderedInsert, String.reduceLE, ↓reduceIte,
    List.map]

theorem eq_of_fingerprintText {a b : DecisionRequest} (hoptions : a.candidateOptions = b.candidateOptions)
    (hrows : a.evidenceRows = b.evidenceRows) (hadvisor : a.advisor = b.advisor)
    (h : fingerprintText host a = fingerprintText host b) :
    host.isoformat a.decisionAt = host.isoformat b.decisionAt ∧ a.decisionFamily = b.decisionFamily ∧
      a.evidenceRevision = b.evidenceRevision ∧ a.retrievalVersion = b.retrievalVersion ∧
      a.situationType = b.situationType := by
  have hstr : ∀ text, dumps (.str text) = asciiString text := fun _ => rfl
  have h := congrArg String.toList h
  simp only [fingerprintText, dumps_sorted, hoptions, hrows, hadvisor, hstr, List.map, String.toList_append,
    String.toList_intercalate, List.intercalate_cons_cons, List.intercalate_singleton, List.append_assoc,
    List.append_cancel_left_eq] at h
  obtain ⟨htime, h⟩ := prefixFree_asciiString _ _ _ _ h
  obtain ⟨hfamily, h⟩ := prefixFree_asciiString _ _ _ _ (by simpa only [List.append_cancel_left_eq] using h)
  obtain ⟨hrevision, h⟩ := prefixFree_asciiString _ _ _ _ (by simpa only [List.append_cancel_left_eq] using h)
  obtain ⟨hversion, h⟩ := prefixFree_asciiString _ _ _ _ (by simpa only [List.append_cancel_left_eq] using h)
  obtain ⟨htype, h⟩ := prefixFree_asciiString _ _ _ _ (by simpa only [List.append_cancel_left_eq] using h)
  exact ⟨htime, hfamily, hrevision, hversion, htype⟩

end

/-! ### Fields -/

/-- The fields of a request. -/
inductive RequestField
  | decisionFamily | situationType | situationSummary | objectiveText | constraints | contextSnapshot
  | candidateOptions | evidenceRows | decisionAt | workspaceId | subjectUserId | projectId | episodeKey
  | evidenceRevision | evidenceCutoffAt | retrievalVersion | modelId | runtimeVersion | learningEligibleTotal
  | qualification | explicitRules | advisor | tuning
deriving DecidableEq, Repr

/-- Two requests have the same there. -/
def RequestField.Agree : RequestField → DecisionRequest → DecisionRequest → Prop
  | .decisionFamily, a, b => a.decisionFamily = b.decisionFamily
  | .situationType, a, b => a.situationType = b.situationType
  | .situationSummary, a, b => a.situationSummary = b.situationSummary
  | .objectiveText, a, b => a.objectiveText = b.objectiveText
  | .constraints, a, b => a.constraints = b.constraints
  | .contextSnapshot, a, b => a.contextSnapshot = b.contextSnapshot
  | .candidateOptions, a, b => a.candidateOptions = b.candidateOptions
  | .evidenceRows, a, b => a.evidenceRows = b.evidenceRows
  | .decisionAt, a, b => a.decisionAt = b.decisionAt
  | .workspaceId, a, b => a.workspaceId = b.workspaceId
  | .subjectUserId, a, b => a.subjectUserId = b.subjectUserId
  | .projectId, a, b => a.projectId = b.projectId
  | .episodeKey, a, b => a.episodeKey = b.episodeKey
  | .evidenceRevision, a, b => a.evidenceRevision = b.evidenceRevision
  | .evidenceCutoffAt, a, b => a.evidenceCutoffAt = b.evidenceCutoffAt
  | .retrievalVersion, a, b => a.retrievalVersion = b.retrievalVersion
  | .modelId, a, b => a.modelId = b.modelId
  | .runtimeVersion, a, b => a.runtimeVersion = b.runtimeVersion
  | .learningEligibleTotal, a, b => a.learningEligibleTotal = b.learningEligibleTotal
  | .qualification, a, b => a.qualification = b.qualification
  | .explicitRules, a, b => a.explicitRules = b.explicitRules
  | .advisor, a, b => a.advisor = b.advisor
  | .tuning, a, b => a.tuning = b.tuning

/-- The fields `decide` reads that the fingerprint leaves out, the options for their order,
the rows for all but their ids and the advisor for all but the option it names. -/
def uncoveredFields : List RequestField :=
  [.situationSummary, .objectiveText, .constraints, .contextSnapshot, .candidateOptions, .evidenceRows, .projectId,
    .evidenceCutoffAt, .modelId, .runtimeVersion, .learningEligibleTotal, .qualification, .explicitRules, .advisor,
    .tuning]

/-- The digest and the time's text tell two requests apart where they differ. -/
structure ToldApart (host : PolicyHost) (a b : DecisionRequest) : Prop where
  digest : a.fingerprint host = b.fingerprint host → fingerprintText host a = fingerprintText host b
  time : host.isoformat a.decisionAt = host.isoformat b.decisionAt → a.decisionAt = b.decisionAt

/-! ### What is enough -/

/-- The owner and the episode change no decision. -/
theorem decide_owner (host : PolicyHost) {R : Type} [Floats R] (request : DecisionRequest)
    (workspaceId subjectUserId episodeKey : String) :
    (decide host {request with workspaceId, subjectUserId, episodeKey} : Except PyError (DecisionResult R)) =
      decide host request := rfl

theorem decide_eq_of_agree {host : PolicyHost} {R : Type} [Floats R] {a b : DecisionRequest} (htold : ToldApart host a b)
    (hsame : a.fingerprint host = b.fingerprint host) (hagree : ∀ field ∈ uncoveredFields, field.Agree a b) :
    (decide host a : Except PyError (DecisionResult R)) = decide host b := by
  simp only [uncoveredFields, List.forall_mem_cons, RequestField.Agree] at hagree
  obtain ⟨hsummary, hobjective, hconstraints, hcontext, hoptions, hrows, hproject, hcutoff, hmodel, hruntime, htotal,
    hqualification, hrules, hadvisor, htuning, -⟩ := hagree
  obtain ⟨htime, hfamily, hrevision, hversion, htype⟩ :=
    eq_of_fingerprintText host hoptions hrows hadvisor (htold.digest hsame)
  have htime := htold.time htime
  have hb : {a with workspaceId := b.workspaceId, subjectUserId := b.subjectUserId, episodeKey := b.episodeKey} = b := by
    rw [hsummary, hobjective, hconstraints, hcontext, hoptions, hrows, hproject, hcutoff, hmodel, hruntime, htotal,
      hqualification, hrules, hadvisor, htuning, htime, hfamily, hrevision, hversion, htype]
  rw [← decide_owner host a b.workspaceId b.subjectUserId b.episodeKey, hb]

/-! ### What is needed

One field is changed at a time, in a request in which the decision depends on it. -/

/-- Another value of one of the fields, under the same fingerprint. -/
def RequestField.vary : RequestField → DecisionRequest → DecisionRequest
  | .situationSummary, request => {request with situationSummary := "no"}
  | .objectiveText, request => {request with objectiveText := "it"}
  | .constraints, request => {request with constraints := [("at", .str "hq")]}
  | .contextSnapshot, request => {request with contextSnapshot := [("on", .str "ci")]}
  | .candidateOptions, request => {request with candidateOptions := request.candidateOptions.reverse}
  | .evidenceRows, request =>
    {request with
      evidenceRows := request.evidenceRows.map fun row => ("lifecycle_status", .json (.str "withdrawn")) :: row}
  | .projectId, request => {request with projectId := none}
  | .evidenceCutoffAt, request => {request with evidenceCutoffAt := some epoch}
  | .modelId, request => {request with modelId := "m"}
  | .runtimeVersion, request => {request with runtimeVersion := "1"}
  | .learningEligibleTotal, request => {request with learningEligibleTotal := 3}
  | .qualification, request => {request with qualification := none}
  | .explicitRules, request => {request with explicitRules := []}
  | .advisor, request => {request with advisor := request.advisor.map fun advisor => {advisor with abstained := true}}
  | .tuning, request => {request with tuning := {allowUnscopedProjectEvidence := false}}
  | _, request => request

theorem agree_vary {field other : RequestField} (h : other ≠ field) (request : DecisionRequest) :
    other.Agree request (field.vary request) := by
  cases field <;> cases other <;> first | exact absurd rfl h | rfl

/-- A choice made before. -/
def exampleChoice (id : String) : EvidenceRow :=
  [("id", .json (.str id)), ("ts", .time ⟨epoch, true⟩), ("situation_summary", .json (.str "fix")),
    ("selected_choice", .json (.str "yes")), ("evidence_source", .json (.str "explicit"))]

/-- A request that comes to a vote, with an advisor who agrees. -/
def votedRequest : DecisionRequest :=
  {exampleRequest with
    situationType := ""
    situationSummary := "fix"
    objectiveText := ""
    candidateOptions := ["yes"]
    evidenceRows := [exampleChoice "a", exampleChoice "b"]
    advisor := some (exampleAdvisor "yes")}

/-- One that a rule settles. -/
def ruledRequest : DecisionRequest :=
  {exampleRequest with candidateOptions := ["B", "b"], explicitRules := [⟨"r", "b", 0, some "p"⟩]}

/-- One that is refused, under a qualification. -/
def qualifiedRequest (state : QualificationState) : DecisionRequest :=
  {exampleRequest with
    candidateOptions := []
    qualification := some {
      qualificationId := "q"
      state
      projectId := some "p"
      decisionFamily := "release"
      decisionPolicyRevision
      modelId := ""
      runtimeVersion := ""
      promptSha256 := ""
      retrievalVersion := ""
      thresholdsSha := ""
      tuningSha := ({} : PolicyTuning).tuningSha exampleHost
      evidenceCutoffAt := none
      learningEligibleAtQualification := 1
      expiresAt := epoch + 1}}

/-- A request whose decision depends on a field. -/
def RequestField.sample : RequestField → DecisionRequest
  | .candidateOptions | .explicitRules | .projectId => ruledRequest
  | .modelId | .runtimeVersion | .learningEligibleTotal => qualifiedRequest .qualified
  | .qualification | .evidenceCutoffAt => qualifiedRequest .expired
  | _ => votedRequest

theorem fingerprintText_vary (field : RequestField) :
    fingerprintText exampleHost field.sample = fingerprintText exampleHost (field.vary field.sample) := by
  cases field <;> rfl

theorem fingerprint_vary (field : RequestField) :
    field.sample.fingerprint exampleHost = (field.vary field.sample).fingerprint exampleHost := by
  rw [fingerprint_eq, fingerprint_eq, fingerprintText_vary]

theorem toldApart_vary (field : RequestField) :
    ToldApart exampleHost field.sample (field.vary field.sample) where
  digest _ := fingerprintText_vary field
  time _ := by cases field <;> rfl

/-- What the decisions below differ in. -/
def differences (outcome : Except PyError (DecisionResult ℚ)) : 
    Option (Option String × ℚ × ExposureState × Option Instant) :=
  outcome.toOption.map fun result =>
    (result.selectedOption, result.adequacy.topOverlap, result.exposureState, result.evidenceCutoffAt)

theorem decide_vary : ∀ field ∈ uncoveredFields,
    differences (decide exampleHost field.sample) ≠ differences (decide exampleHost (field.vary field.sample)) := by
  decide +kernel

/-- Two requests under one fingerprint that agree on some fields are decided alike, whatever
they are, just where the fields are all those the fingerprint leaves out. -/
theorem fingerprint_determines_iff (fields : Set RequestField) :
    (∀ (R : Type) (_ : Floats R) host (a b : DecisionRequest), ToldApart host a b →
      a.fingerprint host = b.fingerprint host → (∀ field ∈ fields, field.Agree a b) →
        (decide host a : Except PyError (DecisionResult R)) = decide host b) ↔
      ∀ field ∈ uncoveredFields, field ∈ fields := by
  constructor
  · intro h field hfield
    by_contra hout
    have hdecided := h ℚ exactFloats exampleHost _ _ (toldApart_vary field) (fingerprint_vary field) fun other hother =>
      agree_vary (ne_of_mem_of_not_mem hother hout) field.sample
    exact decide_vary field hfield (congrArg differences hdecided)
  · intro h R _ host a b htold hsame hagree
    exact decide_eq_of_agree htold hsame fun field hfield => hagree field (h field hfield)

/-- One field is enough to answer another question: the summary of the situation. -/
theorem fingerprint_misses_summary : ¬ ∀ (R : Type) (_ : Floats R) host (a b : DecisionRequest), ToldApart host a b →
    a.fingerprint host = b.fingerprint host → (decide host a : Except PyError (DecisionResult R)) = decide host b := by
  intro h
  have hsummary : RequestField.situationSummary ∈ uncoveredFields := by decide
  have htold := toldApart_vary .situationSummary
  have hdecided := h ℚ exactFloats exampleHost _ _ htold (fingerprint_vary .situationSummary)
  exact decide_vary _ hsummary (congrArg differences hdecided)

end OpenTimeline.Decision
