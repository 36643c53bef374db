import OpenTimeline.Directive.Transitions
import OpenTimeline.Service
import OpenTimeline.Verification.Criteria

/-! What the supervisor is asked to do, and what it reads of it.

The API answers for the status of a session with two lists of directives. The supervisor looks for the directive
it dispatches under three keys of the answer, none of which the API writes (`find_status`): it grades by the
default tokens and gives its agent the generic prompt, whatever was recorded (`never_runs_asked`). A directive
under one of these keys would have its tokens read, and no text: its row has neither an objective nor a note
(`promptFor_shaped`). -/
namespace OpenTimeline.Supervisor
open Directive Verification

/-! ### The API's answer -/

/-- A row of `directive_executions`, as `_directive_from_row` reads it. -/
structure DirectiveExecution where
  directiveId : String
  sessionId : String
  workspaceId : String
  userId : String
  goalId : Option String := none
  objectiveHash : Option String := none
  actionKind : String := "execute"
  attempt : Int := 1
  state : DirectiveState := .pending
  requiresPermit : Bool := false
  permitId : Option String := none
  claimedBy : Option String := none
  startedAt : Option Instant := none
  finishedAt : Option Instant := none
  expiresAt : Option Instant := none
  failureClass : Option String := none
  failureReason : Option String := none
  retryStrategy : Option String := none
  /-- `meta` -/
  info : Payload := []
  createdAt : Instant
  updatedAt : Instant
  leaseGeneration : Int := 0
  claimedExecutor : Option String := none
  leaseExpiresAt : Option Instant := none
  verificationState : String := "unverified"
  reportIdempotencyKey : Option String := none
  cancelledAt : Option Instant := none
  cancelReason : Option String := none

/-- `ExecutionStatusResponse` -/
structure ExecutionStatusResponse where
  sessionId : String
  pending : List DirectiveExecution
  recent : List DirectiveExecution
  generatedAt : Instant
  captureDeliveryState : String := "unknown"
  taskStateRevision : Int := 0
  nextPermittedAction : String := "none"
  verificationState : String := "unverified"
  unresolvedEffects : List Payload := []
  enforcementTier : Option String := none

section Wire
variable (isoformat : Instant → String)

def jsonText (value : Option String) : Json := (value.map Json.str).getD .null

def jsonTime (value : Option Instant) : Json := jsonText (value.map isoformat)

/-- The directive as the answer has it. -/
def DirectiveExecution.toPayload (d : DirectiveExecution) : Payload :=
  [("directive_id", .str d.directiveId), ("session_id", .str d.sessionId), ("workspace_id", .str d.workspaceId),
    ("user_id", .str d.userId), ("goal_id", jsonText d.goalId), ("objective_hash", jsonText d.objectiveHash),
    ("action_kind", .str d.actionKind), ("attempt", .int d.attempt), ("state", .str d.state.value),
    ("requires_permit", .bool d.requiresPermit), ("permit_id", jsonText d.permitId),
    ("claimed_by", jsonText d.claimedBy), ("started_at", jsonTime isoformat d.startedAt),
    ("finished_at", jsonTime isoformat d.finishedAt), ("expires_at", jsonTime isoformat d.expiresAt),
    ("failure_class", jsonText d.failureClass), ("failure_reason", jsonText d.failureReason),
    ("retry_strategy", jsonText d.retryStrategy), ("meta", .obj d.info), ("created_at", .str (isoformat d.createdAt)),
    ("updated_at", .str (isoformat d.updatedAt)), ("lease_generation", .int d.leaseGeneration),
    ("claimed_executor", jsonText d.claimedExecutor), ("lease_expires_at", jsonTime isoformat d.leaseExpiresAt),
    ("verification_state", .str d.verificationState), ("report_idempotency_key", jsonText d.reportIdempotencyKey),
    ("cancelled_at", jsonTime isoformat d.cancelledAt), ("cancel_reason", jsonText d.cancelReason)]

def ExecutionStatusResponse.toPayload (response : ExecutionStatusResponse) : Payload :=
  [("session_id", .str response.sessionId),
    ("pending", .arr (response.pending.map fun d => .obj (d.toPayload isoformat))),
    ("recent", .arr (response.recent.map fun d => .obj (d.toPayload isoformat))),
    ("generated_at", .str (isoformat response.generatedAt)),
    ("capture_delivery_state", .str response.captureDeliveryState),
    ("task_state_revision", .int response.taskStateRevision),
    ("next_permitted_action", .str response.nextPermittedAction),
    ("verification_state", .str response.verificationState),
    ("unresolved_effects", .arr (response.unresolvedEffects.map .obj)),
    ("enforcement_tier", jsonText response.enforcementTier)]

end Wire

/-- `ORDER BY key DESC LIMIT limit`, equal keys in the order of the table. -/
def newestRows (key : DirectiveExecution → Instant) (limit : Nat) (rows : List DirectiveExecution) :
    List DirectiveExecution := (rows.insertionSort fun a b => key b ≤ key a).take limit

/-- `execution_status` -/
def executionStatus (rows : List DirectiveExecution) (auth : AuthContext) (sessionId : String) (now : Instant)
    (captureDeliveryState : String) : ExecutionStatusResponse :=
  let own := rows.filter fun d =>
    d.sessionId = sessionId && d.workspaceId = auth.workspaceId && d.userId = auth.userId
  { sessionId
    pending := newestRows (·.createdAt) 20 (own.filter fun d => d.state ∈ [DirectiveState.pending, .inProgress])
    recent := newestRows (·.updatedAt) 30 own
    generatedAt := now
    captureDeliveryState }

/-! ### What the supervisor reads of it -/

section Reading
variable (host : Host)

/-- The keys `_directive_meta` and `_prompt_for` look under. -/
def statusKeys : List String := ["pending_execution", "directive", "latest_directive"]

def asMapping : Json → Option Payload
  | .obj fields => some fields
  | _ => none

/-- The object under a key, if it is the directive. -/
def directiveUnder (status : Payload) (directiveId key : String) : Option Payload :=
  (asMapping (status.get key)).filter fun row => pyStr host ((row.get "directive_id").or (.str "")) = directiveId

/-- `_directive_meta`, of an answer that is none where the API refuses -/
def directiveMeta (status : Option Payload) (directiveId : String) : Payload :=
  match status with
  | none => []
  | some status =>
    (statusKeys.findSome? fun key =>
      (directiveUnder host status directiveId key).bind fun row => asMapping (row.get "meta")).getD []

def genericPrompt (directiveId : String) : String := "Work the TCE directive " ++ directiveId ++ "."

/-- `_prompt_for` -/
def promptFor (directiveId : String) (status : Option Payload) : String :=
  match status with
  | none => genericPrompt directiveId
  | some status =>
    (statusKeys.findSome? fun key =>
      (directiveUnder host status directiveId key).bind fun row =>
        let objective := ((row.get "objective").or (row.get "note")).or (.str "")
        if truthy objective then some (pyStr host objective) else none).getD (genericPrompt directiveId)

/-! ### Checks -/

def containerPython : String := "/usr/local/bin/python3"

def defaultVerificationTokens : List String := ["build", "test", "lint"]

/-- `verification_tokens` -/
def verificationTokens (info : Payload) : List String :=
  let tokens := match info.get "verification_required" with
    | .str s => ((s.toList.splitOn ',').map String.ofList).map strip
    | .arr items => items.map fun item => strip (pyStr host item)
    | _ => defaultVerificationTokens
  tokens.filter (· ≠ "")

def check (checkId : String) (argv : List String) (timeout : Int) : AcceptanceCheck :=
  ⟨checkId, argv, ".", 0, timeout⟩

/-- `CHECK_TEMPLATES`, under an interpreter. -/
def checkTemplate (python token : String) : Option AcceptanceCheck :=
  match token with
  | "build" => some (check "build" [python, "-m", "compileall", "-q", "."] 600)
  | "test" => some (check "test" [python, "-m", "pytest", "-q", "tests/unit"] 900)
  | "lint" => some (check "lint" [python, "-m", "ruff", "check", "."] 300)
  | _ => none

/-- `interpreter_for_tier`, `none` where it raises -/
def interpreterForTier (tier pythonBinary : String) : Option String :=
  if tier = "container" then some containerPython
  else if pythonBinary = "" then none
  else some pythonBinary

/-- `build_checks`: one check for each token there is a template of. -/
def buildChecks (tokens : List String) (pythonBinary tier : String) : Option (List AcceptanceCheck) :=
  (interpreterForTier tier pythonBinary).map fun python =>
    (tokens.foldl (fun (acc : List String × List AcceptanceCheck) token =>
      match checkTemplate python token with
      | none => acc
      | some made => if token ∈ acc.1 then acc else (token :: acc.1, acc.2 ++ [made])) ([], [])).2

/-- The checks `dispatch_once` freezes for a directive. -/
def frozenChecks (status : Option Payload) (directiveId pythonBinary tier : String) : Option (List AcceptanceCheck) :=
  buildChecks (verificationTokens host (directiveMeta host status directiveId)) pythonBinary tier

/-! ### The directive it was asked to run -/

/-- The supervisor reads what is recorded for a directive: its meta, and a prompt of its own. -/
structure RunsAsked (status : Option Payload) (d : DirectiveExecution) : Prop where
  info : directiveMeta host status d.directiveId = d.info
  prompt : promptFor host d.directiveId status ≠ genericPrompt d.directiveId

variable (isoformat : Instant → String)

/-- The API writes none of the keys. -/
theorem get_status (response : ExecutionStatusResponse) {key : String} (hkey : key ∈ statusKeys) :
    (response.toPayload isoformat).get key = .null := by
  simp only [statusKeys, List.mem_cons, List.not_mem_nil, or_false] at hkey
  obtain rfl | rfl | rfl := hkey <;> rfl

theorem directiveUnder_status (response : ExecutionStatusResponse) (directiveId : String) {key : String}
    (hkey : key ∈ statusKeys) : directiveUnder host (response.toPayload isoformat) directiveId key = none := by
  rw [directiveUnder, get_status isoformat response hkey]
  rfl

/-- Nothing is found under the keys, whatever is looked for there. -/
theorem find_status {α : Type} (response : ExecutionStatusResponse) (directiveId : String) (read : Payload → Option α) :
    (statusKeys.findSome? fun key =>
      (directiveUnder host (response.toPayload isoformat) directiveId key).bind read) = none := by
  rw [List.findSome?_eq_none_iff]
  intro key hkey
  rw [directiveUnder_status host isoformat response directiveId hkey, Option.bind_none]

theorem directiveMeta_status (response : ExecutionStatusResponse) (directiveId : String) :
    directiveMeta host (some (response.toPayload isoformat)) directiveId = [] := by
  simp only [directiveMeta, find_status, Option.getD_none]

theorem promptFor_status (response : ExecutionStatusResponse) (directiveId : String) :
    promptFor host directiveId (some (response.toPayload isoformat)) = genericPrompt directiveId := by
  simp only [promptFor, find_status, Option.getD_none]

/-- A directive's row has no text of its own to be a prompt. -/
theorem promptFor_shaped (status : Payload) (directiveId : String)
    (h : ∀ key ∈ statusKeys, ∀ row ∈ asMapping (status.get key), ∃ d : DirectiveExecution, row = d.toPayload isoformat) :
    promptFor host directiveId (some status) = genericPrompt directiveId := by
  have hnone : (statusKeys.findSome? fun key =>
      (directiveUnder host status directiveId key).bind fun row =>
        let objective := ((row.get "objective").or (row.get "note")).or (.str "")
        if truthy objective then some (pyStr host objective) else none) = none := by
    rw [List.findSome?_eq_none_iff]
    intro key hkey
    rw [Option.bind_eq_none_iff]
    intro row hrow
    obtain ⟨d, rfl⟩ := h key hkey row (Option.mem_filter_iff.mp hrow).1
    rfl
  simp only [promptFor, hnone, Option.getD_none]

/-- Whatever is recorded for a directive, its run is graded by the default tokens, and its agent is given the
generic prompt. -/
theorem never_runs_asked (rows : List DirectiveExecution) (auth : AuthContext) (sessionId : String) (now : Instant)
    (captureDeliveryState : String) (d : DirectiveExecution) (pythonBinary tier : String) :
    let status := some ((executionStatus rows auth sessionId now captureDeliveryState).toPayload isoformat)
    ¬RunsAsked host status d ∧
      frozenChecks host status d.directiveId pythonBinary tier = buildChecks defaultVerificationTokens pythonBinary tier ∧
      promptFor host d.directiveId status = genericPrompt d.directiveId := by
  intro status
  have hprompt := promptFor_status host isoformat (executionStatus rows auth sessionId now captureDeliveryState) d.directiveId
  refine ⟨fun h => h.prompt hprompt, ?_, hprompt⟩
  rw [frozenChecks, directiveMeta_status]
  rfl

end Reading

/-- A directive with a task of its own, waiting to be run. -/
def askedDirective : DirectiveExecution where
  directiveId := "d"
  sessionId := "s"
  workspaceId := "w"
  userId := "u"
  info := [("objective", .str "Fix the parser."), ("verification_required", .str "lint")]
  createdAt := epoch
  updatedAt := epoch

theorem asked_directive_missed :
    let response := executionStatus [askedDirective] ⟨"w", "u", "u", "supervisor"⟩ "s" epoch "unknown"
    askedDirective ∈ response.pending ∧
      ¬RunsAsked (asciiHost [] []) (some (response.toPayload fun _ => "")) askedDirective := by
  refine ⟨List.mem_singleton_self _, fun h => h.prompt ?_⟩
  decide +kernel

end OpenTimeline.Supervisor
