import OpenTimeline.Host
import OpenTimeline.Directive.Lease

/-! The writers of a directive's row.

Each writer takes the row it has read and replies with the fenced UPDATE it runs, or
with what it refuses. Rows are as `_directive_from_row` reads them. The gates that can
only refuse before the rule is asked (the capture channel, the charter, the milestone's
form) are not modelled, nor is what a writer returns of a row it leaves alone.

An UPDATE that hits its row is a commit of the lease protocol
(`FencedUpdate.Performs.commit`), with one exception: the rule is asked for the state a
report names, and a report that fails validation is written as failed. It is a commit all the
same unless it is then failed without the permit that the table asks of a failure
(`reportExecution_underTable_iff`). -/
namespace OpenTimeline.Directive

variable (host : Host)

/-- A row of `directive_executions`. -/
structure DirectiveExecution extends Ownership where
  directiveId : String
  userId : String
  objectiveHash : Option String
  requiresPermit : Bool
  permitId : Option String
  claimedBy : Option String
  startedAt : Option Datetime
  expiresAt : Option Datetime
  leaseExpiresAt : Option Datetime
  createdAt : Datetime
  updatedAt : Datetime
deriving DecidableEq, Repr

structure Settings where
  takeoverExecutionClaimTtlSeconds : Nat
  takeoverLeaseStrict : Bool
  permitScopeDigestEnforced : Bool
  effectJournalEnabled : Bool
  dispatchStartupReconcileBatch : Nat
deriving DecidableEq, Repr

/-! ### Times -/

/-- `value + timedelta(seconds=seconds)` -/
def addSeconds (value : Datetime) (seconds : Nat) : Datetime :=
  {value with instant := value.instant + seconds * 1000000}

/-- `value - timedelta(seconds=seconds)` -/
def subSeconds (value : Datetime) (seconds : Nat) : Datetime :=
  {value with instant := value.instant - seconds * 1000000}

/-- `_as_utc` -/
def asUtc (value : Datetime) : Datetime := {value with aware := true}

/-! ### Permits -/

/-- A row of `execution_permits`. -/
structure Permit where
  decision : Option String
  expiresAt : Option Datetime
  userId : Option String
  directiveId : Option String
  objectiveHash : Option String
  scopeDigest : Option String
  charterId : Option String
  actionKind : String
  targetPaths : List String
  commandPreview : Option String
deriving DecidableEq, Repr

inductive PermitPhase
  | claim | report
deriving DecidableEq, Repr

def permitScopeDigest (actionKind : String) (targetPaths : List String) (commandPreview : Option String) :
    String :=
  host.sha256Hex (canonicalJson (.obj [("action_kind", .str actionKind),
    ("target_paths", .arr ((targetPaths.dedup.insertionSort (· ≤ ·)).map .str)),
    ("command_preview", .str (commandPreview.getD ""))]))

/-- The arguments of `permit_binding_ok`. -/
structure PermitBinding where
  permitDecision : Option String
  permitExpiresAt : Option Datetime
  permitUserId : Option String
  permitDirectiveId : Option String
  permitObjectiveHash : Option String
  permitScopeDigest : Option String := none
  expectedScopeDigest : Option String := none
  scopeDigestEnforced : Bool := false
  permitCharterId : Option String := none
  activeCharterId : Option String := none
  directiveId : String
  directiveUserId : String
  directiveObjectiveHash : Option String
  startedAt : Option Datetime
  now : Datetime
  phase : PermitPhase

/-- Both are there and they differ. -/
def differ (a b : Option String) : Bool := a.isSome && b.isSome && a != b

/-- `permit_binding_ok` -/
def permitBindingOk (b : PermitBinding) : Bool × String :=
  if b.permitDecision ≠ some "allow" then (false, "permit_not_allowed")
  else if b.scopeDigestEnforced ∧ (b.permitScopeDigest = none ∨ b.expectedScopeDigest = none) then
    (false, "permit_scope_digest_missing")
  else if differ b.permitScopeDigest b.expectedScopeDigest then (false, "permit_scope_digest_mismatch")
  else if differ b.permitCharterId b.activeCharterId then (false, "permit_charter_superseded")
  else if differ b.permitUserId (some b.directiveUserId) then (false, "permit_scope_mismatch")
  else if differ b.permitDirectiveId (some b.directiveId) then (false, "permit_scope_mismatch")
  else if b.permitObjectiveHash ≠ none ∧ b.permitObjectiveHash ≠ b.directiveObjectiveHash then
    (false, "permit_scope_mismatch")
  else match b.permitExpiresAt with
    | none => (true, "ok")
    | some permitExpiresAt =>
      let expiresAt := asUtc permitExpiresAt
      match b.phase with
      | .claim => if (asUtc b.now).instant < expiresAt.instant then (true, "ok") else (false, "permit_expired")
      | .report => match b.startedAt with
        | some startedAt =>
          if (asUtc startedAt).instant ≤ expiresAt.instant then (true, "ok")
          else (false, "permit_expired_before_start")
        | none => (false, "permit_expired_before_start")

/-! ### Replies -/

/-- A fenced UPDATE: its WHERE clause and what it sets. -/
structure FencedUpdate where
  state : DirectiveState
  leaseGeneration : Nat
  /-- `AND claimed_executor = ?`, where the statement has it. -/
  executor : Option String
  set : DirectiveExecution → DirectiveExecution
  set_directiveId : ∀ row, (set row).directiveId = row.directiveId

def FencedUpdate.apply (update : FencedUpdate) (row : DirectiveExecution) : Option DirectiveExecution :=
  if row.state = update.state ∧ row.leaseGeneration = update.leaseGeneration ∧
      (update.executor = none ∨ row.claimedExecutor = update.executor) then
    some (update.set row)
  else none

inductive Reply
  /-- 409, with the reason of its detail where it has one. -/
  | refused (reason : Option String) (message : String)
  | raised (error : PyError)
  | unchanged
  | writes (update : FencedUpdate)

/-- A refused transition, as `_reject_directive_transition` words it. -/
def TransitionDecision.refused (decision : TransitionDecision) (permitReason : String) : Reply :=
  if decision.reason = .permitInvalid then
    .refused (some ("permit_invalid:" ++ permitReason)) ("execution permit rejected: " ++ permitReason)
  else .refused (some decision.reason.value) decision.message

/-! ### claim_execution -/

structure ClaimRequest where
  /-- `auth.consumer` -/
  executorId : String
  claimedBy : String
  now : Datetime
  /-- The permit the lookup finds for a directive that has none attached. -/
  lookup : Option String
  /-- The row of the permit attached or found. -/
  permit : Option Permit
  activeCharterId : Option String

/-- The permit of a claim: the one it attaches to a directive that has none, when it
expires, and what its binding says. -/
def ClaimRequest.permitCheck (settings : Settings) (request : ClaimRequest) (d : DirectiveExecution) :
    Except String (Option String × Option Datetime × Bool × String) :=
  if !d.requiresPermit then .ok (none, none, true, "ok")
  else if d.permitId = none ∧ request.lookup = none then
    .error "directive requires permit but no permit_id attached"
  else match request.permit with
    | none => .error "permit not approved"
    | some permit => .ok (if d.permitId = none then request.lookup else none, permit.expiresAt,
      permitBindingOk {
        permitDecision := permit.decision
        permitExpiresAt := permit.expiresAt
        permitUserId := permit.userId
        permitDirectiveId := permit.directiveId
        permitObjectiveHash := permit.objectiveHash
        permitScopeDigest := permit.scopeDigest
        expectedScopeDigest :=
          some (permitScopeDigest host permit.actionKind permit.targetPaths permit.commandPreview)
        scopeDigestEnforced := settings.permitScopeDigestEnforced
        permitCharterId := permit.charterId
        activeCharterId := request.activeCharterId
        directiveId := d.directiveId
        directiveUserId := d.userId
        directiveObjectiveHash := d.objectiveHash
        startedAt := none
        now := request.now
        phase := .claim })

/-- `now + ttl`, or the permit's expiry where that is sooner. -/
def claimExpires (settings : Settings) (now : Datetime) (permitExpires : Option Datetime) :
    Except PyError Datetime :=
  let ttl := addSeconds now (max 30 settings.takeoverExecutionClaimTtlSeconds)
  match permitExpires with
  | none => .ok ttl
  | some permitExpires => do
    let sooner ← permitExpires.lt ttl
    return if sooner then permitExpires else ttl

/-- `claim_execution` -/
def claimExecution (settings : Settings) (request : ClaimRequest) (d : DirectiveExecution) : Reply :=
  if d.state.isTerminal then .unchanged
  else if d.state = .inProgress then
    let reclaim := validateTransition {
      currentState := d.state
      claimedBy := d.claimedExecutor
      leaseGeneration := some d.leaseGeneration
      requested := .inProgress
      actor := request.executorId
      actorLease := none }
    if reclaim.allowed then .unchanged else .refused (some reclaim.reason.value) reclaim.message
  else match request.permitCheck host settings d with
    | .error detail => .refused none detail
    | .ok (attached, permitExpires, permitOk, permitReason) =>
      let decision := validateTransition {
        currentState := d.state
        claimedBy := d.claimedExecutor
        leaseGeneration := some d.leaseGeneration
        requested := .inProgress
        actor := request.executorId
        actorLease := none
        permitOk }
      if !decision.allowed then decision.refused permitReason
      else match claimExpires settings request.now permitExpires with
        | .error error => .raised error
        | .ok expires => .writes {
            state := .pending
            leaseGeneration := d.leaseGeneration
            executor := none
            set := fun row => {row with
              state := .inProgress
              permitId := attached <|> row.permitId
              claimedBy := some request.claimedBy
              claimedExecutor := some request.executorId
              leaseGeneration := decision.nextLease
              leaseExpiresAt := some expires
              startedAt := row.startedAt <|> some request.now
              expiresAt := some expires
              updatedAt := request.now }
            set_directiveId := fun _ => rfl }

/-! ### report_execution -/

/-- `_CANCELLATION_STATES` -/
def cancellationStates : List DirectiveState := [.cancelled, .rejected]

structure ReportRequest where
  /-- `auth.consumer` -/
  executorId : String
  state : DirectiveState
  leaseGeneration : Option Nat
  now : Datetime
  /-- The row of the directive's permit. -/
  permit : Option Permit
  /-- What the dependency plan and the typed contract of the report fail on. -/
  validationErrors : List String

namespace ReportRequest

/-- What the directive's permit says of a report. -/
def permitBinding (request : ReportRequest) (d : DirectiveExecution) : Bool × String :=
  match d.permitId, request.permit with
  | some _, some permit => permitBindingOk {
      permitDecision := permit.decision
      permitExpiresAt := permit.expiresAt
      permitUserId := permit.userId
      permitDirectiveId := permit.directiveId
      permitObjectiveHash := permit.objectiveHash
      directiveId := d.directiveId
      directiveUserId := d.userId
      directiveObjectiveHash := d.objectiveHash
      startedAt := d.startedAt
      now := request.now
      phase := .report }
  | _, _ => (false, "permit_missing")

/-- Only a report that names succeeded or failed is asked for its permit. -/
def permitCheck (request : ReportRequest) (d : DirectiveExecution) : Bool × String :=
  if d.requiresPermit ∧ request.state ∈ [DirectiveState.succeeded, .failed] then request.permitBinding d
  else (true, "ok")

/-- A report that fails validation is a failure, whatever it names. -/
def effectiveState (request : ReportRequest) : DirectiveState :=
  if request.validationErrors ≠ [] then .failed else request.state

end ReportRequest

/-- `report_execution` -/
def reportExecution (settings : Settings) (request : ReportRequest) (d : DirectiveExecution) : Reply :=
  -- a report of a terminal directive is replayed or refused
  if d.state.isTerminal then .unchanged
  else
    let (permitOk, permitReason) := request.permitCheck d
    let decision := validateTransition {
      currentState := d.state
      claimedBy := d.claimedExecutor
      leaseGeneration := some d.leaseGeneration
      requested := request.state
      actor := request.executorId
      actorLease := request.leaseGeneration
      permitOk
      requireLeaseEcho := settings.takeoverLeaseStrict }
    if !decision.allowed then decision.refused permitReason
    else if request.state ∈ cancellationStates then .writes {
      state := d.state
      leaseGeneration := d.leaseGeneration
      executor := none
      set := fun row => {row with state := request.state, updatedAt := request.now}
      set_directiveId := fun _ => rfl }
    else .writes {
      state := .inProgress
      leaseGeneration := d.leaseGeneration
      executor := some request.executorId
      set := fun row => {row with state := request.effectiveState, updatedAt := request.now}
      set_directiveId := fun _ => rfl }

/-! ### Cancellation and the live reaper -/

/-- What `cancel_task_state` does to one directive of the task. -/
def cancelDirective (now : Datetime) (d : DirectiveExecution) : Reply :=
  let decision := validateTransition {
    currentState := d.state
    claimedBy := d.claimedExecutor
    leaseGeneration := some d.leaseGeneration
    requested := .cancelled
    actor := systemActor
    actorLease := none }
  if !decision.allowed then .unchanged
  else .writes {
    state := d.state
    leaseGeneration := d.leaseGeneration
    executor := none
    set := fun row => {row with state := .cancelled, updatedAt := now}
    set_directiveId := fun _ => rfl }

/-- `max(120, claim_ttl * 3)` -/
def staleWindowSeconds (settings : Settings) : Nat := max 120 (settings.takeoverExecutionClaimTtlSeconds * 3)

/-- The reap of `_load_pending_directive`, of a directive in `state`. -/
def reapDirective (state : DirectiveState) (claimedBy : Option String) (now : Datetime)
    (d : DirectiveExecution) : Reply :=
  let decision := validateTransition {
    currentState := state
    claimedBy
    leaseGeneration := some d.leaseGeneration
    requested := .abandoned
    actor := systemActor
    actorLease := none }
  if !decision.allowed then .unchanged
  else .writes {
    state
    leaseGeneration := d.leaseGeneration
    executor := none
    set := fun row => {row with
      state := .abandoned
      leaseGeneration := decision.nextLease
      updatedAt := now }
    set_directiveId := fun _ => rfl }

/-- A pending directive whose claim window has closed. -/
def DirectiveExecution.claimWindowClosed (now : Datetime) (d : DirectiveExecution) : Except PyError Bool :=
  match d.expiresAt with
  | some expiresAt => if d.state = .pending then expiresAt.lt now else .ok false
  | none => .ok false

/-- Work in progress that went stale. -/
def DirectiveExecution.workStale (settings : Settings) (now : Datetime) (d : DirectiveExecution) :
    Except PyError Bool :=
  if d.state = .inProgress then
    (d.startedAt.getD d.updatedAt).lt (subSeconds now (staleWindowSeconds settings))
  else .ok false

/-- `_load_pending_directive` -/
def loadPendingDirective (settings : Settings) (now : Datetime) (d : DirectiveExecution) : Reply :=
  match d.claimWindowClosed now with
  | .error error => .raised error
  | .ok true => reapDirective .pending none now d
  | .ok false => match d.workStale settings now with
    | .error error => .raised error
    | .ok true => reapDirective .inProgress d.claimedExecutor now d
    | .ok false => .unchanged

/-! ### Writers commit -/

/-- The update is the commit of `request` on the row `seen`. -/
structure FencedUpdate.Performs (update : FencedUpdate) (request : FencedRequest)
    (seen : DirectiveExecution) : Prop where
  state : update.state = seen.state
  lease : update.leaseGeneration = seen.leaseGeneration
  allowed : (validateTransition (request.attempt seen.toOwnership)).allowed
  set : ∀ row, row.state = seen.state → row.leaseGeneration = seen.leaseGeneration →
    (update.set row).toOwnership = row.toOwnership.moved request.actor request.requested
      (validateTransition (request.attempt seen.toOwnership)).nextLease

/-- No UPDATE that the rule allows asks for a terminal row. -/
theorem FencedUpdate.Performs.not_terminal {update : FencedUpdate} {request : FencedRequest} {seen : DirectiveExecution}
    (h : update.Performs request seen) : ¬ update.state.isTerminal := by
  obtain ⟨t, ht⟩ := grantedBy_of_allowed h.allowed
  rw [h.state]
  exact ht.not_terminal

theorem FencedUpdate.apply_eq_some {update : FencedUpdate} {row row' : DirectiveExecution}
    (h : update.apply row = some row') : row.state = update.state ∧
      row.leaseGeneration = update.leaseGeneration ∧
      (update.executor = none ∨ row.claimedExecutor = update.executor) ∧ row' = update.set row := by
  unfold apply at h
  split_ifs at h with hwhere
  exact ⟨hwhere.1, hwhere.2.1, hwhere.2.2, (Option.some.inj h).symm⟩

theorem FencedUpdate.Performs.commit {update : FencedUpdate} {request : FencedRequest}
    {seen row row' : DirectiveExecution} (h : update.Performs request seen)
    (happly : update.apply row = some row') :
    request.commit seen.toOwnership row.toOwnership = some row'.toOwnership := by
  obtain ⟨hstate, hlease, _, rfl⟩ := apply_eq_some happly
  rw [h.state] at hstate
  rw [h.lease] at hlease
  rw [FencedRequest.commit, if_pos ⟨h.allowed, hstate, hlease⟩, h.set row hstate hlease]

def ClaimRequest.fenced (request : ClaimRequest) (permitOk : Bool) : FencedRequest where
  requested := .inProgress
  actor := request.executorId
  actorLease := none
  permitOk := permitOk

theorem claimExecution_performs {settings : Settings} {request : ClaimRequest} {seen : DirectiveExecution}
    {update : FencedUpdate} (h : claimExecution host settings request seen = .writes update) :
    ∃ attached expires permitOk reason,
      request.permitCheck host settings seen = .ok (attached, expires, permitOk, reason) ∧
        update.Performs (request.fenced permitOk) seen := by
  unfold claimExecution at h
  by_cases hterminal : seen.state.isTerminal
  · rw [if_pos hterminal] at h
    cases h
  rw [if_neg hterminal] at h
  by_cases hprogress : seen.state = .inProgress
  · rw [if_pos hprogress] at h
    dsimp only at h
    split_ifs at h
  rw [if_neg hprogress] at h
  have hpending : seen.state = .pending := by
    cases hstate : seen.state <;> simp [hstate, DirectiveState.isTerminal, DirectiveState.terminalStates] at *
  cases hcheck : request.permitCheck host settings seen with
  | error detail =>
    rw [hcheck] at h
    cases h
  | ok checked =>
    obtain ⟨attached, expires, permitOk, reason⟩ := checked
    rw [hcheck] at h
    dsimp only at h
    split_ifs at h with hrefused
    · unfold TransitionDecision.refused at h
      split_ifs at h
    · cases hexpires : claimExpires settings request.now expires with
      | error error =>
        rw [hexpires] at h
        cases h
      | ok until_ =>
        rw [hexpires] at h
        cases h
        refine ⟨attached, expires, permitOk, reason, rfl, hpending.symm, rfl, ?_, fun row hrow _ => ?_⟩
        · simp only [Bool.not_eq_true', Bool.not_eq_false] at hrefused
          exact hrefused
        · simp [Ownership.moved, ClaimRequest.fenced, hrow, hpending, FencedRequest.attempt]

/-- What the system actor asks of a directive. -/
def systemRequest (requested : DirectiveState) : FencedRequest where
  requested := requested
  actor := systemActor
  actorLease := none

theorem cancelDirective_performs {now : Datetime} {seen : DirectiveExecution} {update : FencedUpdate}
    (h : cancelDirective now seen = .writes update) : update.Performs (systemRequest .cancelled) seen := by
  unfold cancelDirective at h
  dsimp only at h
  split_ifs at h with hrefused
  simp only [Bool.not_eq_true', Bool.not_eq_false] at hrefused
  obtain ⟨t, ht⟩ := grantedBy_of_allowed hrefused
  cases h
  refine ⟨rfl, rfl, hrefused, fun row _ hlease => ?_⟩
  have hbumps : ¬ t.bumpsLease := by
    simp [(mem_allowedTransitions ht.mem).bumps, ht.target]
  have hdecision : validateTransition ((systemRequest .cancelled).attempt seen.toOwnership) =
      t.decision seen.leaseGeneration := validateTransition_of_grantedBy ht
  rw [hdecision]
  simp [Ownership.moved, Transition.decision, hbumps, hlease, systemRequest]

theorem reapDirective_performs {claimedBy : Option String} {now : Datetime} {seen : DirectiveExecution}
    {update : FencedUpdate} (h : reapDirective seen.state claimedBy now seen = .writes update) :
    update.Performs (systemRequest .abandoned) seen := by
  unfold reapDirective at h
  dsimp only at h
  split_ifs at h with hrefused
  simp only [Bool.not_eq_true', Bool.not_eq_false] at hrefused
  obtain ⟨t, ht⟩ := grantedBy_of_allowed hrefused
  have hclaim : t.requiresClaim = false := (mem_allowedTransitions ht.mem).reap ht.target
  -- the reap of a pending directive names no claimant to the rule, which does not ask
  have ht' : ((systemRequest .abandoned).attempt seen.toOwnership).GrantedBy t :=
    ⟨ht.mem, ht.source, ht.target, ht.system, fun _ htarget => by simp [ht.target] at htarget,
      fun hholder => by simp [hclaim] at hholder, ht.permit⟩
  cases h
  refine ⟨rfl, rfl, ?_, fun row _ _ => ?_⟩
  · rw [validateTransition_of_grantedBy ht']
    rfl
  · rw [validateTransition_of_grantedBy ht, validateTransition_of_grantedBy ht']
    simp [Ownership.moved, systemRequest, Attempt.currentLease, FencedRequest.attempt]

theorem DirectiveExecution.pending_of_claimWindowClosed {now : Datetime} {d : DirectiveExecution}
    (h : d.claimWindowClosed now = .ok true) : d.state = .pending := by
  unfold claimWindowClosed at h
  cases hexpires : d.expiresAt with
  | none => simp [hexpires] at h
  | some expiresAt =>
    simp only [hexpires] at h
    split_ifs at h with hstate
    · exact hstate
    · cases h

theorem DirectiveExecution.inProgress_of_workStale {settings : Settings} {now : Datetime}
    {d : DirectiveExecution} (h : d.workStale settings now = .ok true) : d.state = .inProgress := by
  unfold workStale at h
  split_ifs at h with hstate
  · exact hstate
  · cases h

theorem loadPendingDirective_performs {settings : Settings} {now : Datetime} {seen : DirectiveExecution}
    {update : FencedUpdate} (h : loadPendingDirective settings now seen = .writes update) :
    update.Performs (systemRequest .abandoned) seen := by
  unfold loadPendingDirective at h
  split at h
  case h_1 => cases h
  case h_2 hclosed =>
    rw [← DirectiveExecution.pending_of_claimWindowClosed hclosed] at h
    exact reapDirective_performs h
  case h_3 =>
    split at h
    case h_1 => cases h
    case h_2 hstale =>
      rw [← DirectiveExecution.inProgress_of_workStale hstale] at h
      exact reapDirective_performs h
    case h_3 => cases h

/-! ### Reports -/

namespace ReportRequest

/-- The state the report writes. -/
def written (request : ReportRequest) : DirectiveState :=
  if request.state ∈ cancellationStates then request.state else request.effectiveState

/-- The report as the table would have it: for the state it writes, with what the
directive's permit says where it has one. -/
def fenced (settings : Settings) (request : ReportRequest) (d : DirectiveExecution) : FencedRequest where
  requested := request.written
  actor := request.executorId
  actorLease := request.leaseGeneration
  permitOk := !d.requiresPermit || (request.permitBinding d).1
  requireLeaseEcho := settings.takeoverLeaseStrict

end ReportRequest

/-- What the rule decides on a report. -/
def ReportRequest.decision (settings : Settings) (request : ReportRequest) (d : DirectiveExecution) :
    TransitionDecision :=
  validateTransition {
    currentState := d.state
    claimedBy := d.claimedExecutor
    leaseGeneration := some d.leaseGeneration
    requested := request.state
    actor := request.executorId
    actorLease := request.leaseGeneration
    permitOk := (request.permitCheck d).1
    requireLeaseEcho := settings.takeoverLeaseStrict }

theorem reportExecution_writes {settings : Settings} {request : ReportRequest} {seen : DirectiveExecution}
    {update : FencedUpdate} (h : reportExecution settings request seen = .writes update) :
    (request.decision settings seen).allowed ∧
      update.leaseGeneration = seen.leaseGeneration ∧
      update.state = (if request.state ∈ cancellationStates then seen.state else .inProgress) ∧
      update.executor = (if request.state ∈ cancellationStates then none else some request.executorId) ∧
      ∀ row, (update.set row).toOwnership =
        ⟨request.written, row.claimedExecutor, row.leaseGeneration⟩ := by
  unfold reportExecution at h
  by_cases hterminal : seen.state.isTerminal
  · rw [if_pos hterminal] at h
    cases h
  rw [if_neg hterminal] at h
  dsimp only at h
  split_ifs at h with hrefused hcancel
  · unfold TransitionDecision.refused at h
    split_ifs at h
  all_goals
    simp only [Bool.not_eq_true', Bool.not_eq_false] at hrefused
    cases h
    refine ⟨hrefused, rfl, by simp [hcancel], by simp [hcancel], fun row => ?_⟩
    simp [ReportRequest.written, hcancel]

/-- A report that hits its row was decided on that row, and on work in progress unless
it cancels or rejects. -/
theorem reportExecution_fresh {settings : Settings} {request : ReportRequest}
    {seen row row' : DirectiveExecution} {update : FencedUpdate}
    (h : reportExecution settings request seen = .writes update) (happly : update.apply row = some row')
    (hseen : seen.toOwnership.Advances row.toOwnership) :
    seen.toOwnership = row.toOwnership ∧ (request.state ∉ cancellationStates → seen.state = .inProgress) := by
  obtain ⟨hallowed, hlease, hstate, _⟩ := reportExecution_writes h
  obtain ⟨hrow, hrowLease, _⟩ := FencedUpdate.apply_eq_some happly
  rw [hstate] at hrow
  rw [hlease] at hrowLease
  by_cases hcancel : request.state ∈ cancellationStates
  · rw [if_pos hcancel] at hrow
    exact ⟨hseen.eq_of_state hrow, absurd hcancel⟩
  rw [if_neg hcancel] at hrow
  obtain heq | ⟨hrank, _, hclaim⟩ := hseen
  · exact ⟨heq, fun _ => (congrArg Ownership.state heq).trans hrow⟩
  · -- a pending read: the claim since has raised the lease
    rw [hrow] at hrank
    have hpending : seen.state = .pending := DirectiveState.rank_eq_zero.mp (Nat.lt_one_iff.mp hrank)
    exact absurd hrowLease (hclaim hpending hrow).ne'

/-- The report is what the table has for the state it writes. -/
def ReportRequest.UnderTable (settings : Settings) (request : ReportRequest) (seen : DirectiveExecution) :
    Prop :=
  let decision := validateTransition ((request.fenced settings seen).attempt seen.toOwnership)
  decision.allowed ∧ decision.nextLease = seen.leaseGeneration

/-- A report under the table is a commit of the lease protocol. -/
theorem reportExecution_commit {settings : Settings} {request : ReportRequest}
    {seen row row' : DirectiveExecution} {update : FencedUpdate}
    (h : reportExecution settings request seen = .writes update) (happly : update.apply row = some row')
    (hseen : seen.toOwnership.Advances row.toOwnership) (htable : request.UnderTable settings seen) :
    (request.fenced settings seen).commit seen.toOwnership row.toOwnership = some row'.toOwnership := by
  obtain ⟨hsame, hprogress⟩ := reportExecution_fresh h happly hseen
  obtain ⟨_, _, _, _, hset⟩ := reportExecution_writes h
  obtain ⟨_, _, _, rfl⟩ := FencedUpdate.apply_eq_some happly
  have hclaim : ¬ (row.state = .pending ∧ request.written = .inProgress) := by
    rintro ⟨hrow, hwritten⟩
    have hcancel : request.state ∈ cancellationStates := by
      by_contra hcancel
      have hseenState := hprogress hcancel
      rw [show seen.state = row.state from congrArg Ownership.state hsame, hrow] at hseenState
      cases hseenState
    rw [ReportRequest.written, if_pos hcancel] at hwritten
    simp [hwritten, cancellationStates] at hcancel
  have hlease : seen.leaseGeneration = row.leaseGeneration := congrArg Ownership.leaseGeneration hsame
  have hmoved : row.toOwnership.moved request.executorId request.written seen.leaseGeneration =
      ⟨request.written, row.claimedExecutor, row.leaseGeneration⟩ := by
    rw [Ownership.moved, if_neg hclaim, hlease]
  rw [FencedRequest.commit, if_pos ⟨htable.1, (congrArg Ownership.state hsame).symm, hlease.symm⟩, hset,
    htable.2]
  exact congrArg some hmoved

/-- A report that hits its row leaves the table exactly when it writes a failure that the
directive's permit does not cover, or abandons the directive in the system's name. -/
theorem reportExecution_underTable_iff {settings : Settings} {request : ReportRequest}
    {seen row row' : DirectiveExecution} {update : FencedUpdate}
    (h : reportExecution settings request seen = .writes update) (happly : update.apply row = some row')
    (hseen : seen.toOwnership.Advances row.toOwnership) :
    request.UnderTable settings seen ↔ request.written ≠ .abandoned ∧
      (request.written = .failed → (request.fenced settings seen).permitOk) := by
  obtain ⟨_, hprogress⟩ := reportExecution_fresh h happly hseen
  obtain ⟨hallowed, _⟩ := reportExecution_writes h
  obtain ⟨t, ht⟩ := grantedBy_of_allowed hallowed
  constructor
  · rintro ⟨htable, hlease⟩
    obtain ⟨t', ht'⟩ := grantedBy_of_allowed htable
    have hlawful := mem_allowedTransitions ht'.mem
    have htarget : t'.target = request.written := ht'.target
    refine ⟨fun habandoned => ?_, fun hfailed => ?_⟩
    · have hcancel : request.state ∉ cancellationStates := by
        intro hcancel
        rw [ReportRequest.written, if_pos hcancel] at habandoned
        simp [habandoned, cancellationStates] at hcancel
      have hbumps : t'.bumpsLease := hlawful.bumps.mpr
        (Or.inr ⟨ht'.source.trans (hprogress hcancel), htarget.trans habandoned⟩)
      rw [validateTransition_of_grantedBy ht'] at hlease
      simp [Transition.decision, hbumps, Attempt.currentLease, FencedRequest.attempt] at hlease
    · exact ht'.permit (hlawful.permit.mpr (Or.inr (Or.inr (htarget.trans hfailed))))
  · rintro ⟨hkept, hpermit⟩
    suffices hgrants : ∃ t', ((request.fenced settings seen).attempt seen.toOwnership).GrantedBy t' ∧
        ¬ t'.bumpsLease by
      obtain ⟨t', ht', hbumps⟩ := hgrants
      rw [ReportRequest.UnderTable, validateTransition_of_grantedBy ht']
      simp [Transition.decision, hbumps, Attempt.currentLease, FencedRequest.attempt]
    have hlawful := mem_allowedTransitions ht.mem
    by_cases hfailed : request.written = .failed
    · -- the failure the report is made into, on the claim it was decided on
      have hcancel : request.state ∉ cancellationStates := by
        intro hcancel
        rw [ReportRequest.written, if_pos hcancel] at hfailed
        simp [hfailed, cancellationStates] at hcancel
      have hsource : seen.state = .inProgress := hprogress hcancel
      have hholder := (hlawful.owned (ht.source.trans hsource)).elim ht.holder (Or.inl ∘ ht.system)
      refine ⟨⟨.inProgress, .failed, true, true, false, false, "directive_failed"⟩, ⟨by decide, hsource.symm,
        hfailed.symm, by simp, by simp, fun _ => ?_, fun _ => hpermit hfailed⟩, by simp⟩
      exact hholder.imp_right fun holder => ⟨holder.claimed, holder.named, holder.lease⟩
    · -- the report as it was decided on
      have hwritten : request.written = request.state := by
        unfold ReportRequest.written ReportRequest.effectiveState at hfailed ⊢
        split_ifs at hfailed ⊢ <;> first | rfl | exact absurd rfl hfailed
      have htarget : t.target = request.written := ht.target.trans hwritten.symm
      have hnoClaim : ¬ (t.source = .pending ∧ t.target = .inProgress) := by
        rintro ⟨hsource, hclaim⟩
        have hstate : request.state = .inProgress := ht.target.symm.trans hclaim
        have hprogress := hprogress (by simp [hstate, cancellationStates])
        rw [← show t.source = seen.state from ht.source, hsource] at hprogress
        cases hprogress
      refine ⟨t, ⟨ht.mem, ht.source, htarget, ht.system, ht.unbound, fun hclaim => ?_, fun hasks => ?_⟩, ?_⟩
      · exact (ht.holder hclaim).imp_right fun holder => ⟨holder.claimed, holder.named, holder.lease⟩
      · obtain hclaim | hsucceeded | hfailure := hlawful.permit.mp hasks
        · exact absurd hclaim hnoClaim
        · have hchecked : (request.permitCheck seen).1 := ht.permit hasks
          have hstate : request.state = .succeeded := ht.target.symm.trans hsucceeded
          rw [ReportRequest.permitCheck] at hchecked
          by_cases hrequires : seen.requiresPermit
          · simpa [ReportRequest.fenced, FencedRequest.attempt, hrequires, hstate] using hchecked
          · simp [ReportRequest.fenced, FencedRequest.attempt, hrequires]
        · exact absurd (htarget.symm.trans hfailure) hfailed
      · rw [hlawful.bumps]
        rintro (hclaim | ⟨_, habandoned⟩)
        · exact hnoClaim hclaim
        · exact hkept (htarget.symm.trans habandoned)

end OpenTimeline.Directive
