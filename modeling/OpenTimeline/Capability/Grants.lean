import OpenTimeline.Capability.Operation
import OpenTimeline.Directive.Effects

/-! Capability grants.

A grant is issued after a look at the session's open obligations and at the permit and the
directive it is for, and is consumed later by whoever shows its token and its operation. A
consumption reads the row, then runs at most one of two UPDATEs: one that consumes the row,
with a WHERE clause, and one that marks it expired, with none but the id.

An issue does not see grants alone, so it works on the whole database (`ControlDatabase`);
a consumption works on the table of grants. -/
namespace OpenTimeline.Capability
open Library Directive

variable (host : Host)

/-! ### Rows -/

inductive GrantStatus
  | authorized | denied | consumed | expired
deriving DecidableEq, Repr

/-- A row of `capability_grants`. -/
structure GrantRow where
  id : String
  workspaceId : String
  ownerId : String
  sessionId : String
  directiveId : Option String
  permitId : Option String
  capability : String
  action : String
  resource : String
  actionDigest : String
  tokenHash : String
  status : GrantStatus
  decision : Decision
  reason : String
  riskTier : RiskTier
  mutating : Bool
  redactionApplied : Bool
  createdAt : Instant
  expiresAt : Instant
  consumedAt : Option Instant
  completionRequired : Bool
  charterId : Option String
  completionOutboxId : Option String
  completionRecordedAt : Option Instant
deriving DecidableEq, Repr

/-- `status = 'consumed' AND completion_required = 1 AND completion_recorded_at IS NULL` -/
def GrantRow.obligated (grant : GrantRow) : Bool :=
  grant.status = .consumed && grant.completionRequired && grant.completionRecordedAt = none

/-- A row of `execution_permits`. -/
structure PermitRow extends Permit where
  id : String
  workspaceId : String
  sessionId : String
deriving DecidableEq, Repr

/-- A row of `directive_executions`, with its session. -/
structure DirectiveRow extends DirectiveExecution where
  workspaceId : String
  sessionId : String
deriving DecidableEq, Repr

inductive DeliveryStatus
  | pending | delivered | dead
deriving DecidableEq, Repr

/-- A row of `handoff_outbox`: a completion captured and to be delivered. -/
structure OutboxRow where
  id : String
  workspaceId : String
  ownerId : String
  sessionId : String
  completionKey : String
  payloadHash : Option String
  status : DeliveryStatus
  attempts : Nat
  nextAttemptAt : Instant
  lastError : Option String
  createdAt : Instant
  deliveredAt : Option Instant
deriving DecidableEq, Repr

structure ControlDatabase where
  grants : Table GrantRow.id
  permits : Table PermitRow.id
  directives : Table fun d : DirectiveRow => d.directiveId
  effects : Table EffectRow.effectId
  outbox : Table OutboxRow.id

/-! ### Issue -/

structure IssueCall where
  workspaceId : String
  ownerId : String
  sessionId : String
  operation : Operation
  directiveId : Option String
  permitId : Option String
  ttlSeconds : Option Int
  charterId : Option String
  now : Instant
  /-- `str(uuid.uuid4())` -/
  newId : String
  /-- `secrets.token_urlsafe(32)` -/
  newToken : String

namespace IssueCall

/-- `body.get("session_id") or "default"` -/
def session (call : IssueCall) : String := if call.sessionId = "" then "default" else call.sessionId

/-- `expires_at - now`, in seconds -/
def lifetime (call : IssueCall) : Int :=
  max 30 (min 900 (match call.ttlSeconds with
    | none => 120
    | some seconds => if seconds = 0 then 120 else seconds))

def expiresAt (call : IssueCall) : Instant := call.now + call.lifetime.toNat * 1000000

theorem expiresAt_le (call : IssueCall) : call.expiresAt ≤ call.now + 900 * 1000000 := by
  have hlifetime : call.lifetime.toNat ≤ 900 := by
    simp only [lifetime]
    omega
  exact Nat.add_le_add_left (Nat.mul_le_mul_right _ hlifetime) _

/-- The WHERE clause of the query for open obligations. -/
def sees (call : IssueCall) (grant : GrantRow) : Bool :=
  grant.workspaceId = call.workspaceId && grant.ownerId = call.ownerId && grant.sessionId = call.session &&
    grant.obligated && (call.charterId = none || grant.charterId = none || grant.charterId = call.charterId)

/-- An effect of another directive of the session that is not resolved. -/
def seesEffect (call : IssueCall) (effect : EffectRow) : Bool :=
  effect.workspaceId = call.workspaceId && effect.ownerId = call.ownerId && effect.sessionId = call.session &&
    effect.state.isOpen && (call.directiveId = none || some effect.directiveId ≠ call.directiveId)

/-- The permit and the directive named, where both are of the session. -/
def binding (call : IssueCall) (db : ControlDatabase) : Option (PermitRow × DirectiveRow) := do
  let permit ← (← call.permitId.map db.permits.find)
  let directive ← (← call.directiveId.map db.directives.find)
  if permit.workspaceId = call.workspaceId ∧ permit.sessionId = call.session ∧
      directive.workspaceId = call.workspaceId ∧ directive.userId = call.ownerId ∧
      directive.sessionId = call.session then
    some (permit, directive)
  else none

/-- `permit["expires_at"] and datetime.fromisoformat(…) < now` -/
def permitExpired (call : IssueCall) (permit : PermitRow) : Except PyError Bool :=
  match permit.expiresAt with
  | none => .ok false
  | some expiresAt => expiresAt.lt ⟨call.now, true⟩

/-- What the permit and the directive say. -/
def bindingVerdict (call : IssueCall) (db : ControlDatabase) (registered : String) :
    Except PyError (Decision × String) :=
  match call.binding db with
  | none => .ok (.blocked, "matching directive and permit not found")
  | some (permit, directive) =>
    if permit.decision ≠ some "allow" then .ok (.blocked, "permit is not allowed")
    else do
      let expired ← call.permitExpired permit
      return if expired then (.blocked, "permit expired")
        else if directive.state ≠ .inProgress then (.blocked, "directive must be claimed and in progress")
        else if directive.permitId ≠ call.permitId then (.blocked, "directive is not bound to this permit")
        else (.allow, registered)

/-- The decision on a call, and its reason. -/
def verdict (call : IssueCall) (db : ControlDatabase) : Except PyError (Decision × String) :=
  let policy := capabilityPolicy (normalizeCapability host call.operation.capability)
  if !policy.mutating then .ok (policy.decision, policy.reason)
  else if call.permitId = none ∨ call.directiveId = none then
    .ok (.blocked, "mutating capabilities require directive_id and permit_id")
  else if db.grants.rows.any call.sees then
    .ok (.blocked, "previous mutating action requires completion capture")
  else if db.effects.rows.any call.seesEffect then
    .ok (.blocked, "an effect from another directive in this session is unresolved")
  else if policy.decision = .blocked then .ok (policy.decision, policy.reason)
  else call.bindingVerdict db policy.reason

/-- The permit and the directive that bear a mutating grant, at the time of its issue. -/
structure Bears (call : IssueCall) (permit : PermitRow) (directive : DirectiveRow) : Prop where
  permitId : call.permitId = some permit.id
  directiveId : call.directiveId = some directive.directiveId
  scope : permit.workspaceId = call.workspaceId ∧ permit.sessionId = call.session ∧
    directive.workspaceId = call.workspaceId ∧ directive.userId = call.ownerId ∧ directive.sessionId = call.session
  allowed : permit.decision = some "allow"
  unexpired : ∀ expiresAt, permit.expiresAt = some expiresAt → expiresAt.aware ∧ call.now ≤ expiresAt.instant
  inProgress : directive.state = .inProgress
  bound : directive.permitId = call.permitId

section Verdict
variable {host} {call : IssueCall} {db : ControlDatabase} {permit : PermitRow} {directive : DirectiveRow} {reason : String}

theorem binding_eq_some (h : call.binding db = some (permit, directive)) :
    (call.permitId = some permit.id ∧ db.permits.find permit.id = some permit) ∧
    (call.directiveId = some directive.directiveId ∧ db.directives.find directive.directiveId = some directive) ∧
    permit.workspaceId = call.workspaceId ∧ permit.sessionId = call.session ∧
    directive.workspaceId = call.workspaceId ∧ directive.userId = call.ownerId ∧ directive.sessionId = call.session := by
  unfold binding at h
  simp only [Option.bind_eq_bind, Option.bind_eq_some_iff] at h
  obtain ⟨found, hfound, permit', hpermit, found', hfound', directive', hdirective, h⟩ := h
  split_ifs at h with hscope
  obtain ⟨rfl, rfl⟩ := Prod.mk.inj (Option.some.inj h)
  obtain ⟨permitId, hpermitId, rfl⟩ := Option.map_eq_some_iff.mp hfound
  obtain ⟨directiveId, hdirectiveId, rfl⟩ := Option.map_eq_some_iff.mp hfound'
  obtain rfl := (Table.find_eq_some_iff.mp hpermit).2
  obtain rfl := (Table.find_eq_some_iff.mp hdirective).2
  exact ⟨⟨hpermitId, hpermit⟩, ⟨hdirectiveId, hdirective⟩, hscope⟩

theorem bindingVerdict_allow {registered : String} (h : call.bindingVerdict db registered = .ok (.allow, reason)) :
    ∃ permit directive, db.permits.find permit.id = some permit ∧
      db.directives.find directive.directiveId = some directive ∧ call.Bears permit directive := by
  unfold bindingVerdict at h
  cases hbinding : call.binding db with
  | none =>
    rw [hbinding] at h
    cases h
  | some bound =>
    obtain ⟨permit, directive⟩ := bound
    rw [hbinding] at h
    simp only at h
    by_cases hdecision : permit.decision = some "allow"
    · rw [if_neg (not_not.mpr hdecision)] at h
      obtain ⟨expired, hexpired, h⟩ := bind_ok h
      cases expired with
      | true => cases h
      | false =>
        simp only [Bool.false_eq_true, if_false] at h
        split_ifs at h with hstate hbound
        · cases h
        · cases h
        · obtain ⟨⟨hpermitId, hpermit⟩, ⟨hdirectiveId, hdirective⟩, hscope⟩ := binding_eq_some hbinding
          refine ⟨permit, directive, hpermit, hdirective, hpermitId, hdirectiveId, hscope, hdecision,
            fun expiresAt hsome => ?_, not_not.mp hstate, not_not.mp hbound⟩
          simp only [permitExpired, hsome, Datetime.lt] at hexpired
          split_ifs at hexpired with haware
          exact ⟨haware, by simpa using hexpired⟩
    · rw [if_pos hdecision] at h
      cases h

/-- What an issue that allows a mutating grant has found. -/
theorem verdict_allow (h : call.verdict host db = .ok (.allow, reason))
    (hmutating : (capabilityPolicy (normalizeCapability host call.operation.capability)).mutating = true) :
    (∀ grant ∈ db.grants.rows, call.sees grant = false) ∧ ∃ permit directive,
      db.permits.find permit.id = some permit ∧ db.directives.find directive.directiveId = some directive ∧
      call.Bears permit directive := by
  unfold verdict at h
  simp only [hmutating, Bool.not_true, Bool.false_eq_true, if_false] at h
  split_ifs at h with hids hobligation heffect hblocked
  · cases h
  · cases h
  · cases h
  · rw [hblocked] at h
    cases h
  · exact ⟨by simpa using hobligation, bindingVerdict_allow h⟩

end Verdict

/-- The row of a call that is decided. -/
def row (call : IssueCall) (decision : Decision) (reason : String) : GrantRow :=
  let operation := normalizeCapabilityOperation host call.operation
  let policy := capabilityPolicy operation.capability
  { id := call.newId
    workspaceId := call.workspaceId
    ownerId := call.ownerId
    sessionId := call.session
    directiveId := call.directiveId
    permitId := call.permitId
    capability := operation.capability
    action := operation.action
    resource := operation.resource
    actionDigest := operation.actionDigest
    tokenHash := if decision = .allow then hashCapabilityToken host call.newToken else ""
    status := if decision = .allow then .authorized else .denied
    decision
    reason
    riskTier := policy.riskTier
    mutating := policy.mutating
    redactionApplied := operation.redactionApplied
    createdAt := call.now
    expiresAt := call.expiresAt
    consumedAt := none
    completionRequired := policy.mutating
    charterId := call.charterId
    completionOutboxId := none
    completionRecordedAt := none }

end IssueCall

inductive IssueError
  | raised (error : PyError)
  /-- `sqlite3.IntegrityError` -/
  | integrity

/-- `issue_capability_grant`: the row it inserts, and the token where there is one. -/
def issueCapabilityGrant (call : IssueCall) (db : ControlDatabase) :
    Except IssueError (ControlDatabase × GrantRow × Option String) :=
  match call.verdict host db with
  | .error error => .error (.raised error)
  | .ok (decision, reason) =>
    let row := call.row host decision reason
    match db.grants.insert row with
    | none => .error .integrity
    | some grants => .ok ({db with grants}, row, if decision = .allow then some call.newToken else none)

/-- What an issue that does not raise has decided and inserts. -/
theorem issueCapabilityGrant_ok {call : IssueCall} {db db' : ControlDatabase} {row : GrantRow} {token : Option String}
    (h : issueCapabilityGrant host call db = .ok (db', row, token)) : ∃ decision reason,
      call.verdict host db = .ok (decision, reason) ∧ row = call.row host decision reason ∧
      db.grants.insert row = some db'.grants ∧ db' = {db with grants := db'.grants} := by
  unfold issueCapabilityGrant at h
  split at h
  · cases h
  · rename_i decision reason hverdict
    simp only at h
    split at h
    · cases h
    · rename_i grants hinsert
      cases h
      exact ⟨decision, reason, hverdict, rfl, hinsert, rfl⟩

/-! ### Consumption -/

structure ConsumeCall where
  workspaceId : String
  ownerId : String
  grantId : String
  token : String
  operation : Operation
deriving Repr

structure ConsumeResponse where
  authorized : Bool
  status : GrantStatus
  reason : String
  actionDigest : String
  consumedAt : Option Instant
deriving DecidableEq, Repr

namespace ConsumeCall

def digest (call : ConsumeCall) : String := (normalizeCapabilityOperation host call.operation).actionDigest

/-- The row a consumption reads. -/
def read (call : ConsumeCall) (grants : Table GrantRow.id) : Option GrantRow :=
  (grants.find call.grantId).filter fun grant => grant.workspaceId = call.workspaceId && grant.ownerId = call.ownerId

/-- Why a row that was read is refused, if it is. -/
def refusal (call : ConsumeCall) (now : Instant) (seen : GrantRow) : Option String :=
  if seen.status ≠ .authorized then some "capability grant is not active"
  else if seen.expiresAt < now then some "capability grant expired"
  else if seen.actionDigest ≠ call.digest host then some "operation does not match authorized digest"
  else if !constantTimeTokenMatch host call.token seen.tokenHash then some "invalid capability token"
  else none

/-- The WHERE clause of the UPDATE that consumes. -/
def spendable (call : ConsumeCall) (now : Instant) (grant : GrantRow) : Bool :=
  grant.id = call.grantId && grant.workspaceId = call.workspaceId && grant.ownerId = call.ownerId &&
    grant.status = .authorized && grant.consumedAt = none && now ≤ grant.expiresAt

/-- The UPDATE that consumes, and whether it hit its row. -/
def spend (call : ConsumeCall) (now : Instant) (grants : Table GrantRow.id) : Table GrantRow.id × Bool :=
  (grants.updateWhere (call.spendable now) (fun grant => {grant with status := .consumed, consumedAt := some now})
    fun _ => rfl, grants.rows.any (call.spendable now))

/-- The row that was read was active and is out of date by the call's clock. -/
def findsExpired (now : Instant) (seen : GrantRow) : Bool := seen.expiresAt < now && seen.status = .authorized

/-- The UPDATE that expires: `WHERE id = ?` -/
def expire (call : ConsumeCall) (grants : Table GrantRow.id) : Table GrantRow.id :=
  grants.updateWhere (fun grant => grant.id = call.grantId) (fun grant => {grant with status := .expired}) fun _ => rfl

/-- The first half of a consumption: what it reports, and the grants after the UPDATE that consumes. -/
def attempt (call : ConsumeCall) (now : Instant) (seen : Option GrantRow) (grants : Table GrantRow.id) :
    Table GrantRow.id × Bool × String :=
  match seen with
  | none => (grants, false, "capability grant not found")
  | some row =>
    match call.refusal host now row with
    | some reason => (grants, false, reason)
    | none =>
      let (grants, hit) := call.spend now grants
      (grants, hit, if hit then "authorized" else "capability grant was already consumed")

/-- The second half: the expiry of the row that was read. -/
def settle (call : ConsumeCall) (now : Instant) (seen : Option GrantRow) (grants : Table GrantRow.id) :
    Table GrantRow.id :=
  if seen.any (findsExpired now) then call.expire grants else grants

end ConsumeCall

/-- `consume_capability_grant`, with nothing between its statements. -/
def consumeCapabilityGrant (call : ConsumeCall) (now : Instant) (grants : Table GrantRow.id) :
    Table GrantRow.id × ConsumeResponse :=
  let seen := call.read grants
  let (grants, authorized, reason) := call.attempt host now seen grants
  (call.settle now seen grants, {
    authorized
    status := if authorized then .consumed else .denied
    reason
    actionDigest := call.digest host
    consumedAt := if authorized then some now else none })

end OpenTimeline.Capability
