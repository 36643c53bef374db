import OpenTimeline.TaskState.Grading

/-! Acceptance criteria and the verdict on evidence.

Checks are normalised before they are frozen. The verdict is of the evidence alone: who
grades, which digests agree, which checks have a result, and the exit codes. -/
namespace OpenTimeline.Verification
open TaskState (Verdict)

variable (host : Host)

/-! ### Vocabulary -/

/-- `DECIDING_FILE_PATHS` -/
def decidingFilePaths : List String :=
  ["pyproject.toml", "conftest.py", "setup.cfg", "tox.ini", "pytest.ini", "ruff.toml", ".ruff.toml", "uv.lock",
    "poetry.lock", "requirements.txt", "Makefile"]

structure AcceptanceCheck where
  checkId : String
  argv : List String
  cwdRel : String
  expectExitCode : Int
  timeoutSeconds : Int
deriving DecidableEq

structure AcceptanceCriteria where
  criteriaId : String
  directiveId : String
  checks : List AcceptanceCheck
  criteriaDigest : String
  corpusDigest : String
  /-- `(repo-relative path, sha256)` -/
  corpusManifest : List (String × String)
  frozenAt : Instant
  frozenBy : String
  policyRevision : String
deriving DecidableEq

structure CheckResult where
  checkId : String
  argv : List String
  exitCode : Int
  durationMs : Int
  stdoutSha256 : String
  stderrSha256 : String
  excerpt : String

structure VerificationEvidence where
  directiveId : String
  results : List CheckResult
  observedCorpusDigest : String
  observedCorpusManifest : List (String × String)
  platform : String
  commitSha : Option String
  treeSha : Option String
  reviewerModel : Option Payload

structure VerificationOutcome where
  verdict : Verdict
  reason : String
  criteriaDigestMatch : Bool
  corpusDigestMatch : Bool

/-! ### Digests -/

def AcceptanceCheck.toJson (check : AcceptanceCheck) : Json :=
  .obj [("check_id", .str check.checkId), ("argv", .arr (check.argv.map .str)), ("cwd_rel", .str check.cwdRel),
    ("expect_exit_code", .int check.expectExitCode), ("timeout_seconds", .int check.timeoutSeconds)]

/-- `criteria_digest` -/
def criteriaDigest (checks : List AcceptanceCheck) : String :=
  host.sha256Hex (canonicalJson (.arr ((checks.insertionSort fun a b => a.checkId ≤ b.checkId).map (·.toJson))))

/-- `corpus_digest` -/
def corpusDigest (manifest : List (String × String)) : String :=
  host.sha256Hex (canonicalJson (.arr
    ((manifest.insertionSort fun a b => toLex a ≤ toLex b).map fun entry => .arr [.str entry.1, .str entry.2])))

/-! ### Checks -/

/-- `CriteriaInvalid` -/
structure CriteriaInvalid where
  field : String
  message : String

def CriteriaInvalid.unless (condition : Bool) (field message : String) : Except CriteriaInvalid Unit :=
  if condition then .ok () else .error ⟨field, message⟩

/-- `str(check.cwd_rel or ".").strip() or "."` -/
def normalCwd (cwdRel : String) : String :=
  TaskState.orElse (strip (TaskState.orElse cwdRel ".")) "."

/-- The body of the loop of `validate_checks`. -/
def validateCheck (maxTimeoutSeconds : Int) (seen : List String) (check : AcceptanceCheck) :
    Except CriteriaInvalid AcceptanceCheck := do
  let checkId := strip check.checkId
  let named := host.repr (.str checkId)
  CriteriaInvalid.unless (checkId ≠ "") "check_id" "check_id must be non-empty"
  CriteriaInvalid.unless (checkId ∉ seen) "check_id" ("duplicate check_id " ++ named)
  CriteriaInvalid.unless (!check.argv.isEmpty) "argv" ("check " ++ named ++ " has an empty argv")
  CriteriaInvalid.unless (startsWith (check.argv.headD "") "/") "argv"
    ("check " ++ named ++ " argv[0] must be an absolute path (no PATH resolution, no shell)")
  let cwdRel := normalCwd check.cwdRel
  CriteriaInvalid.unless (!startsWith cwdRel "/" && ".." ∉ splitSlash cwdRel) "cwd_rel"
    ("check " ++ named ++ " cwd_rel must be relative with no '..'")
  CriteriaInvalid.unless (1 ≤ check.timeoutSeconds) "timeout_seconds"
    ("check " ++ named ++ " timeout_seconds must be >= 1")
  return {check with checkId, cwdRel, timeoutSeconds := min check.timeoutSeconds maxTimeoutSeconds}

/-- The loop of `validate_checks`. -/
def validateEach (maxTimeoutSeconds : Int) :
    List String → List AcceptanceCheck → Except CriteriaInvalid (List AcceptanceCheck)
  | _, [] => .ok []
  | seen, check :: rest => do
    let normalised ← validateCheck host maxTimeoutSeconds seen check
    let others ← validateEach maxTimeoutSeconds (seen ++ [normalised.checkId]) rest
    return normalised :: others

/-- `validate_checks` -/
def validateChecks (checks : List AcceptanceCheck) (maxChecks maxTimeoutSeconds : Int) :
    Except CriteriaInvalid (List AcceptanceCheck) := do
  CriteriaInvalid.unless (1 ≤ checks.length) "checks" "at least 1 acceptance check is required"
  CriteriaInvalid.unless (checks.length ≤ maxChecks) "checks"
    ("at most " ++ toString maxChecks ++ " acceptance checks are allowed")
  validateEach host maxTimeoutSeconds [] checks

/-! ### The verdict -/

/-- `by_id`: a later check of an id replaces an earlier one. -/
def checkOf (checks : List AcceptanceCheck) (checkId : String) : Option AcceptanceCheck :=
  checks.reverse.find? fun check => check.checkId = checkId

/-- The loop over the results that gathers `evidenced`, or the reason it stops for. -/
def evidenced (checks : List AcceptanceCheck) : List String → List CheckResult → Except String (List String)
  | seen, [] => .ok seen
  | seen, result :: rest =>
    if result.checkId ∈ seen then .error ("duplicate_check:" ++ result.checkId)
    else if (checkOf checks result.checkId).isNone then .error ("unknown_check:" ++ result.checkId)
    else evidenced checks (seen ++ [result.checkId]) rest

/-- The result does not have the exit code its check expects. -/
def CheckResult.misses (result : CheckResult) (checks : List AcceptanceCheck) : Bool :=
  (checkOf checks result.checkId).any fun want => result.exitCode ≠ want.expectExitCode

/-- `decide_verdict` -/
def decideVerdict (results : List CheckResult) (criteria : AcceptanceCriteria)
    (observedCorpusDigest runnerPrincipal executingIdentity : String) : VerificationOutcome :=
  if criteria.checks = [] then ⟨.failed, "empty_criteria_set", false, false⟩
  else if criteriaDigest host criteria.checks ≠ criteria.criteriaDigest then
    ⟨.failed, "criteria_digest_mismatch", false, false⟩
  else if runnerPrincipal = executingIdentity then ⟨.inconclusive, "runner_is_executing_identity", true, false⟩
  else if criteria.frozenBy ≠ "" ∧ criteria.frozenBy = executingIdentity then
    ⟨.inconclusive, "criteria_frozen_by_executing_identity", true, false⟩
  else if observedCorpusDigest ≠ criteria.corpusDigest then ⟨.failed, "corpus_digest_mismatch", true, false⟩
  else match evidenced criteria.checks [] results with
  | .error reason => ⟨.inconclusive, reason, true, true⟩
  | .ok seen =>
    if criteria.checks.any (fun check => check.checkId ∉ seen) then ⟨.inconclusive, "incomplete_check_set", true, true⟩
    else match results.find? (·.misses criteria.checks) with
    | some result =>
      ⟨.failed, "check_failed:" ++ result.checkId ++ ":exit=" ++ toString result.exitCode, true, true⟩
    | none => ⟨.passed, "all_checks_matched", true, true⟩

end OpenTimeline.Verification
