import OpenTimeline.Library.Table
import OpenTimeline.Directive.Transitions
import OpenTimeline.Service
import OpenTimeline.Verification.Criteria

/-! The verification store of Lite.

Criteria are frozen once for a directive. A verification grades evidence against them and
writes a row whatever the verdict; a row names its directive and no task
(`recordVerification_results`). -/
namespace OpenTimeline.Verification
open Library TaskState Directive

variable (host : Host)

/-! ### Rows -/

/-- A row of `acceptance_criteria`. -/
structure CriteriaRow where
  workspaceId : String
  ownerId : String
  taskId : Option String
  charterId : Option String
  /-- what `_criteria_from_row` reads -/
  criteria : AcceptanceCriteria

/-- The columns of `directive_executions` a verification reads and writes. -/
structure DirectiveRow where
  directiveId : String
  workspaceId : String
  userId : String
  sessionId : String
  state : DirectiveState
  claimedExecutor : Option String
  verificationState : String

/-- A row of `verification_results`. -/
structure ResultRow where
  id : String
  workspaceId : String
  ownerId : String
  taskId : Option String
  directiveId : String
  criteriaId : String
  criteriaDigestAtRun : String
  corpusDigestAtRun : String
  criteriaDigestMatch : Bool
  corpusDigestMatch : Bool
  verdict : String
  reason : String
  runnerPrincipal : String
  executingIdentity : String
  platform : String
  commitSha : Option String
  treeSha : Option String
  checks : List CheckResult
  reviewerModel : Option Payload
  recordedAt : Instant

/-- The columns of `task_states` that a completion reads. -/
structure TaskRow where
  workspaceId : String
  ownerId : String
  taskId : String
  status : TaskStatus

structure VerificationDatabase where
  directives : Table DirectiveRow.directiveId
  criteria : List CriteriaRow
  results : Table ResultRow.id
  tasks : List TaskRow

structure VerificationSettings where
  verificationEnabled : Bool
  verificationRunnerPrincipal : String
  verificationReviewerModelEnabled : Bool
  verificationMaxChecks : Int
  verificationCheckTimeoutSeconds : Int

/-! ### Freezing -/

structure FreezeCall where
  workspaceId : String
  ownerId : String
  taskId : Option String
  directiveId : String
  charterId : Option String
  checks : List AcceptanceCheck
  corpusManifest : List (String × String)
  frozenBy : String
  now : Instant
  /-- `str(uuid.uuid4())` -/
  newId : String

inductive FreezeError
  | criteriaInvalid (error : CriteriaInvalid)
  /-- `CriteriaFrozen` -/
  | criteriaFrozen (directiveId : String)
  | refused (failure : Failure)

/-- `load_acceptance_criteria` -/
def loadAcceptanceCriteria (db : VerificationDatabase) (directiveId : String) : Option AcceptanceCriteria :=
  (db.criteria.find? fun row => row.criteria.directiveId = directiveId).map (·.criteria)

/-- The row a freeze inserts. -/
def FreezeCall.row (call : FreezeCall) (normalised : List AcceptanceCheck) : CriteriaRow where
  workspaceId := call.workspaceId
  ownerId := call.ownerId
  taskId := call.taskId
  charterId := call.charterId
  criteria := {
    criteriaId := call.newId
    directiveId := call.directiveId
    checks := normalised
    criteriaDigest := criteriaDigest host normalised
    corpusDigest := corpusDigest host call.corpusManifest
    corpusManifest := call.corpusManifest
    frozenAt := call.now
    frozenBy := call.frozenBy
    policyRevision := "p3-2026-09" }

/-- `freeze_acceptance_criteria` -/
def freezeAcceptanceCriteria (settings : VerificationSettings) (call : FreezeCall) (db : VerificationDatabase) :
    Except FreezeError (VerificationDatabase × AcceptanceCriteria) :=
  match validateChecks host call.checks settings.verificationMaxChecks settings.verificationCheckTimeoutSeconds with
  | .error e => .error (.criteriaInvalid e)
  | .ok normalised =>
    if !call.corpusManifest.any (fun entry => entry.1 ∈ decidingFilePaths) then
      .error (.refused (.http 422 [("error", .str "corpus_manifest_incomplete"),
        ("message", .str "the corpus manifest must cover at least one build-deciding file"),
        ("deciding_file_paths", .arr (decidingFilePaths.map .str))]))
    else if (loadAcceptanceCriteria db call.directiveId).isSome then .error (.criteriaFrozen call.directiveId)
    else if call.newId ∈ db.criteria.map (·.criteria.criteriaId) then .error (.refused .integrityError)
    else
      let row := call.row host normalised
      .ok ({db with criteria := db.criteria ++ [row]}, row.criteria)

/-! ### Grading -/

structure RecordCall where
  workspaceId : String
  userId : String
  directiveId : String
  evidence : VerificationEvidence
  runnerPrincipal : String
  now : Instant
  /-- `str(uuid.uuid4())` -/
  newId : String

/-- The row a verification inserts: no task, and the verdict as `VERIFICATION_VERDICTS` has it. -/
def RecordCall.row (call : RecordCall) (settings : VerificationSettings) (criteria : AcceptanceCriteria)
    (outcome : VerificationOutcome) (executingIdentity : String) : ResultRow where
  id := call.newId
  workspaceId := call.workspaceId
  ownerId := call.userId
  taskId := none
  directiveId := call.directiveId
  criteriaId := criteria.criteriaId
  criteriaDigestAtRun := criteria.criteriaDigest
  corpusDigestAtRun := call.evidence.observedCorpusDigest
  criteriaDigestMatch := outcome.criteriaDigestMatch
  corpusDigestMatch := outcome.corpusDigestMatch
  verdict := outcome.verdict.value
  reason := outcome.reason
  runnerPrincipal := call.runnerPrincipal
  executingIdentity
  platform := call.evidence.platform
  commitSha := call.evidence.commitSha
  treeSha := call.evidence.treeSha
  checks := call.evidence.results
  reviewerModel := if settings.verificationReviewerModelEnabled then call.evidence.reviewerModel else none
  recordedAt := call.now

/-- The section of `record_verification`. The projection of the verdict writes the task
states. -/
def recordSection (settings : VerificationSettings)
    (projectGraded : DirectiveRow → VerificationOutcome → List TaskRow → Except Failure (List TaskRow))
    (call : RecordCall) (db : VerificationDatabase) : Except Failure (VerificationDatabase × VerificationOutcome) :=
  match (db.directives.find call.directiveId).filter fun row =>
    row.workspaceId = call.workspaceId && row.userId = call.userId with
  | none => refuse 403 "unknown_directive"
  | some row =>
    if !row.state.isTerminal then refuse 409 "directive_not_terminal"
      [("message", .str "a verification only means anything after a report")]
    else match loadAcceptanceCriteria db call.directiveId with
    | none => refuse 409 "criteria_not_frozen"
    | some criteria =>
      let executingIdentity := row.claimedExecutor.getD ""
      let outcome := decideVerdict host call.evidence.results criteria call.evidence.observedCorpusDigest
        call.runnerPrincipal executingIdentity
      match db.results.insert (call.row settings criteria outcome executingIdentity) with
      | none => .error .integrityError
      | some results => do
        let directives := db.directives.updateWhere
          (fun row => row.directiveId = call.directiveId && row.workspaceId = call.workspaceId &&
            row.userId = call.userId)
          (fun row => {row with verificationState := verificationStateForVerdict outcome.verdict}) fun _ => rfl
        let tasks ← projectGraded row outcome db.tasks
        return ({db with results, directives, tasks}, outcome)

/-- `record_verification` -/
def recordVerification (settings : VerificationSettings)
    (projectGraded : DirectiveRow → VerificationOutcome → List TaskRow → Except Failure (List TaskRow))
    (call : RecordCall) (db : VerificationDatabase) : VerificationDatabase × Except Failure VerificationOutcome :=
  if !settings.verificationEnabled then (db, refuse 503 "verification_disabled")
  else if call.runnerPrincipal ≠ settings.verificationRunnerPrincipal then
    (db, refuse 403 "unknown_runner"
      [("message", .str "the authenticated identity is not the configured verification runner")])
  else runCasSection (recordSection host settings projectGraded call) db

/-! ### What is written -/

variable {host} {db db' : VerificationDatabase}

theorem freezeAcceptanceCriteria_results {settings : VerificationSettings} {call : FreezeCall}
    {criteria : AcceptanceCriteria} (h : freezeAcceptanceCriteria host settings call db = .ok (db', criteria)) :
    db'.results = db.results := by
  unfold freezeAcceptanceCriteria at h
  split at h
  · cases h
  split_ifs at h
  cases h
  rfl

/-- What a verification that is recorded has graded, and the row it has written. -/
theorem recordVerification_ok {settings : VerificationSettings}
    {projectGraded : DirectiveRow → VerificationOutcome → List TaskRow → Except Failure (List TaskRow)}
    {call : RecordCall} {outcome : VerificationOutcome}
    (h : recordVerification host settings projectGraded call db = (db', .ok outcome)) :
    ∃ row criteria, db.directives.find call.directiveId = some row ∧
      loadAcceptanceCriteria db call.directiveId = some criteria ∧
      outcome = decideVerdict host call.evidence.results criteria call.evidence.observedCorpusDigest
        call.runnerPrincipal (row.claimedExecutor.getD "") ∧
      db.results.insert (call.row settings criteria outcome (row.claimedExecutor.getD "")) = some db'.results ∧
      db'.criteria = db.criteria := by
  unfold recordVerification at h
  split_ifs at h
  · cases h
  · cases h
  have hsection := runCasSection_ok h
  unfold recordSection at hsection
  split at hsection
  · cases hsection
  rename_i row hrow
  split at hsection
  · cases hsection
  split at hsection
  · cases hsection
  rename_i criteria hcriteria
  simp only at hsection
  split at hsection
  · cases hsection
  rename_i results hinsert
  obtain ⟨tasks, _, hsection⟩ := bind_ok hsection
  cases hsection
  exact ⟨row, criteria, (Option.filter_eq_some_iff.mp hrow).1, hcriteria, rfl, hinsert, rfl⟩

/-- A verification that is not recorded leaves the store as it was. -/
theorem recordVerification_error {settings : VerificationSettings}
    {projectGraded : DirectiveRow → VerificationOutcome → List TaskRow → Except Failure (List TaskRow)}
    {call : RecordCall} {e : Failure}
    (h : recordVerification host settings projectGraded call db = (db', .error e)) : db' = db := by
  unfold recordVerification at h
  split_ifs at h
  · cases h
    rfl
  · cases h
    rfl
  · exact runCasSection_error h

/-- A verification writes at most one row, of no task and with a verdict of the graders. -/
theorem recordVerification_results {settings : VerificationSettings}
    {projectGraded : DirectiveRow → VerificationOutcome → List TaskRow → Except Failure (List TaskRow)}
    {call : RecordCall} :
    (recordVerification host settings projectGraded call db).1.results = db.results ∨
      ∃ row : ResultRow, (recordVerification host settings projectGraded call db).1.results.rows =
        db.results.rows ++ [row] ∧ row.taskId = none ∧ ∃ verdict : Verdict, row.verdict = verdict.value := by
  cases hrecord : recordVerification host settings projectGraded call db with
  | mk after reply =>
    cases reply with
    | error e => exact Or.inl (congrArg VerificationDatabase.results (recordVerification_error hrecord))
    | ok outcome =>
      obtain ⟨row, criteria, _, _, _, hinsert, _⟩ := recordVerification_ok hrecord
      exact Or.inr ⟨_, Table.insert_eq_some hinsert, rfl, outcome.verdict, rfl⟩

end OpenTimeline.Verification
