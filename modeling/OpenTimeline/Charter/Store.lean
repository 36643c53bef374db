import OpenTimeline.Library.Calendar
import OpenTimeline.Library.Table
import OpenTimeline.Service
import OpenTimeline.Charter.Validation

/-! The charter store of Lite.

A charter is created as a draft, approved, and then superseded by the next approval of its
owner or revoked. Narrowings are rows of their own, and those that have not expired are
applied each time the charter is resolved. Times are stored, ordered and compared as their
ISO text. -/
namespace OpenTimeline.Charter
open Library

/-- The library calls of the store, beside those of a `Host`. -/
structure StoreHost extends Host where
  /-- `now + timedelta(seconds=ttl)` -/
  addSeconds : Utc → Int → Utc

variable (host : StoreHost)

/-! ### Rows -/

inductive CharterStatus
  | draft | active | superseded | revoked
deriving DecidableEq, Repr

def CharterStatus.value : CharterStatus → String
  | .draft => "draft"
  | .active => "active"
  | .superseded => "superseded"
  | .revoked => "revoked"

/-- A row of `authority_charters`. -/
structure CharterRow where
  id : String
  workspaceId : String
  ownerId : String
  status : CharterStatus
  /-- the columns of the scope the owner approves -/
  scope : NormalizedCharter
  charterDigest : String
  sourceReceiptId : String
  approvedBy : Option String := none
  approvedAt : Option Utc := none
  createdAt : Utc
  expiresAt : Utc
  revokedAt : Option Utc := none
  revokeReason : Option String := none
  supersededBy : Option String := none

/-- A time as its column has it. -/
def timeColumn (time : Utc) : Json := .str time.val.isoformat

/-- `_row_map`: the columns `charter_from_row` reads, the JSON ones as they decode. -/
def CharterRow.columns (row : CharterRow) : Payload :=
  let strings : List String → Json := fun items => .arr (items.map .str)
  let scope := row.scope
  [("id", .str row.id), ("workspace_id", .str row.workspaceId), ("owner_id", .str row.ownerId),
    ("project_id", scope.projectId.elim .null .str), ("charter_version", .str scope.charterVersion),
    ("policy_revision", .str scope.policyRevision), ("status", .str row.status.value),
    ("enforcement_tier", .str scope.enforcementTier),
    ("credential_risk_acknowledged", .int (if scope.credentialRiskAcknowledged then 1 else 0)),
    ("source_receipt_id", .str row.sourceReceiptId), ("permitted_roots_json", strings scope.permittedRoots),
    ("protected_write_prefixes_json", strings scope.protectedWritePrefixes),
    ("denied_read_paths_json", strings scope.deniedReadPaths),
    ("permitted_capabilities_json", strings scope.permittedCapabilities),
    ("confirm_required_capabilities_json", strings scope.confirmRequiredCapabilities),
    ("egress_mode", .str scope.egressMode),
    ("runtime_allowlist_json",
      .arr (scope.runtimeAllowlist.map fun entry => strings [entry.1, entry.2.1, entry.2.2])),
    ("task_families_json", strings scope.taskFamilies), ("max_attempts", .int scope.caps.maxAttempts),
    ("max_concurrent_dispatches", .int scope.caps.maxConcurrentDispatches),
    ("max_wall_seconds", .int scope.caps.maxWallSeconds), ("budget_minor_units", .int scope.caps.budgetMinorUnits),
    ("budget_currency", .str scope.caps.budgetCurrency), ("spend_enforcement", .str scope.caps.spendEnforcement.value),
    ("charter_digest", .str row.charterDigest), ("approved_by", row.approvedBy.elim .null .str),
    ("approved_at", row.approvedAt.elim .null timeColumn), ("created_at", timeColumn row.createdAt),
    ("expires_at", timeColumn row.expiresAt), ("revoked_at", row.revokedAt.elim .null timeColumn),
    ("revoke_reason", row.revokeReason.elim .null .str), ("superseded_by", row.supersededBy.elim .null .str),
    ("schema_version", .str "v1")]

/-- A row of `charter_narrowings`. -/
structure NarrowingRow where
  id : String
  charterId : String
  workspaceId : String
  ownerId : String
  sessionId : String
  sourceReceiptId : String
  narrowing : Payload
  createdAt : Utc
  expiresAt : Option Zoned

/-- The columns `_load_narrowings` selects. -/
def NarrowingRow.columns (row : NarrowingRow) : Payload :=
  [("id", .str row.id), ("narrowing_json", .obj row.narrowing), ("created_at", timeColumn row.createdAt),
    ("expires_at", row.expiresAt.elim .null fun time => .str time.isoformat)]

/-- A row of `trusted_input_receipts`. -/
structure ReceiptRow where
  id : String
  workspaceId : String
  ownerId : String
  subjectUserId : String

/-- The columns of `execution_permits` a revocation reads and writes. -/
structure PermitRow where
  charterId : Option String
  decision : String
  reason : String
  resolvedAt : Option Utc

structure CharterDatabase where
  charters : Table CharterRow.id
  narrowings : List NarrowingRow
  receipts : List ReceiptRow
  permits : List PermitRow

/-! ### Queries -/

namespace CharterDatabase
variable (db : CharterDatabase)

/-- `_load_row` -/
def loadRow (workspaceId charterId : String) : Option CharterRow :=
  (db.charters.find charterId).filter fun row => row.workspaceId = workspaceId

/-- `_load_narrowings`: times are compared as text. -/
def loadNarrowings (charterId : String) (now : Utc) : List NarrowingRow :=
  (db.narrowings.filter fun row => row.charterId = charterId &&
    row.expiresAt.all fun expiry => now.val.isoformat < expiry.isoformat).insertionSort
      fun a b => a.createdAt.val.isoformat ≤ b.createdAt.val.isoformat

/-- `_require_receipt` -/
def requireReceipt (auth : AuthContext) (receiptId : String) : Except Failure Unit :=
  if db.receipts.any fun receipt => receipt.id = receiptId && receipt.workspaceId = auth.workspaceId &&
      (receipt.ownerId = auth.userId || receipt.subjectUserId = auth.userId ||
        receipt.subjectUserId = auth.behaviorSubjectId) then .ok ()
  else refuse 404 "receipt_not_found"
    [("message", .str "source_receipt_id does not name a trusted input receipt for this workspace")]

/-- `_charter_response`: the charter as it is resolved, where its row can be read. -/
def response (row : CharterRow) (narrowings : List NarrowingRow) : Except Failure ResolvedCharter :=
  passing (charterFromRow host.toHost row.columns (narrowings.map (·.columns)))

/-- The row `load_active_charter` selects. -/
def activeRow (workspaceId ownerId : String) (now : Utc) : Option CharterRow :=
  ((db.charters.rows.filter fun row => row.workspaceId = workspaceId && row.ownerId = ownerId &&
    row.status = .active && row.revokedAt.isNone && now.val.isoformat < row.expiresAt.val.isoformat).insertionSort
      fun a b => (b.approvedAt.map (·.val.isoformat)).getD "" ≤ (a.approvedAt.map (·.val.isoformat)).getD "").head?

/-- `load_active_charter` -/
def loadActiveCharter (workspaceId ownerId : String) (now : Utc) : Except PyError (Option ResolvedCharter) :=
  match db.activeRow workspaceId ownerId now with
  | none => .ok none
  | some row => some <$>
    charterFromRow host.toHost row.columns ((db.loadNarrowings row.id now).map (·.columns))

end CharterDatabase

/-! ### Calls -/

structure CharterSettings where
  charterDefaultTtlSeconds : Int
  charterMinTtlSeconds : Int
  charterMaxTtlSeconds : Int

structure CharterCreateRequest where
  /-- `body.model_dump()` -/
  dump : Payload
  ttlSeconds : Option Int
  sourceReceiptId : String

structure CharterNarrowingRequest where
  charterId : String
  sessionId : String
  sourceReceiptId : String
  removeRoots : List String
  removeCapabilities : List String
  addProtectedWritePrefixes : List String
  addDeniedReadPaths : List String
  enforcementTier : Option String
  egressMode : Option String
  budgetMinorUnits : Option Int
  maxAttempts : Option Int
  maxWallSeconds : Option Int
  maxConcurrentDispatches : Option Int
  expiresAt : Option Zoned
  reason : String

/-- A `CharterInvalid` as the route words it. -/
def charterInvalid {α : Type} : Except CharterError α → Except Failure α
  | .ok a => .ok a
  | .error (.invalid field message) =>
    refuse 422 "charter_invalid" [("field", .str field), ("message", .str message)]
  | .error (.raised e) => .error (.raised e)

/-- What `create_charter` checks before its section: the scope and the seconds it lasts. -/
def checkCreate (settings : CharterSettings) (body : CharterCreateRequest) :
    Except Failure (NormalizedCharter × Int) := do
  let normalized ← charterInvalid (validateCharterPayload host.toHost body.dump)
  let ttl := body.ttlSeconds.getD settings.charterDefaultTtlSeconds
  charterInvalid (require (settings.charterMinTtlSeconds ≤ ttl) "ttl_seconds"
    ("ttl_seconds must be >= " ++ toString settings.charterMinTtlSeconds))
  charterInvalid (require (ttl ≤ settings.charterMaxTtlSeconds) "ttl_seconds"
    ("ttl_seconds must be <= " ++ toString settings.charterMaxTtlSeconds))
  return (normalized, ttl)

/-- The row of a draft. -/
def draftRow (auth : AuthContext) (body : CharterCreateRequest) (scope : NormalizedCharter) (ttl : Int) (now : Utc)
    (newId : String) : CharterRow where
  id := newId
  workspaceId := auth.workspaceId
  ownerId := auth.userId
  status := .draft
  scope
  charterDigest := scope.charterDigest host.toHost
  sourceReceiptId := body.sourceReceiptId
  createdAt := now
  expiresAt := host.addSeconds now ttl

/-- The section of `create_charter`. -/
def createSection (auth : AuthContext) (body : CharterCreateRequest) (scope : NormalizedCharter) (ttl : Int)
    (now : Utc) (newId : String) (db : CharterDatabase) : Except Failure (CharterDatabase × ResolvedCharter) := do
  db.requireReceipt auth body.sourceReceiptId
  match db.charters.insert (draftRow host auth body scope ttl now newId) with
  | none => .error .integrityError
  | some charters =>
    let charter ← CharterDatabase.response host (draftRow host auth body scope ttl now newId) []
    return ({db with charters}, charter)

/-- `create_charter` -/
def createCharter (settings : CharterSettings) (auth : AuthContext) (body : CharterCreateRequest) (now : Utc)
    (newId : String) (db : CharterDatabase) : CharterDatabase × Except Failure ResolvedCharter :=
  match checkCreate host settings body with
  | .error e => (db, .error e)
  | .ok (scope, ttl) => runCasSection (createSection host auth body scope ttl now newId) db

/-- `UPDATE … SET status = 'superseded' … WHERE … status = 'active' AND id <> ?` -/
def supersede (charters : Table CharterRow.id) (workspaceId ownerId charterId : String) : Table CharterRow.id :=
  charters.updateWhere
    (fun row => row.workspaceId = workspaceId && row.ownerId = ownerId && row.status = .active && row.id ≠ charterId)
    (fun row => {row with status := .superseded, supersededBy := some charterId}) fun _ => rfl

/-- `UPDATE … SET status = 'active' … WHERE … status = 'draft'` -/
def activate (charters : Table CharterRow.id) (workspaceId charterId approvedBy : String) (now : Utc) :
    Table CharterRow.id :=
  charters.updateWhere
    (fun row => row.id = charterId && row.workspaceId = workspaceId && row.status = .draft)
    (fun row => {row with status := .active, approvedBy := some approvedBy, approvedAt := some now}) fun _ => rfl

/-- `UPDATE … SET status = 'revoked' … WHERE id = ?` -/
def revoke (charters : Table CharterRow.id) (workspaceId charterId reason : String) (now : Utc) : Table CharterRow.id :=
  charters.updateWhere (fun row => row.id = charterId && row.workspaceId = workspaceId)
    (fun row => {row with
      status := .revoked, revokedAt := some (row.revokedAt.getD now), revokeReason := some reason}) fun _ => rfl

/-- The last statement of a section: its row, read again. -/
def reread (db : CharterDatabase) (workspaceId charterId : String) (now : Utc) :
    Except Failure (CharterDatabase × ResolvedCharter) :=
  match db.loadRow workspaceId charterId with
  | none => .error .assertionError
  | some fresh => do
    let charter ← CharterDatabase.response host fresh (db.loadNarrowings charterId now)
    return (db, charter)

/-- The section of `approve_charter`. -/
def approveSection (auth : AuthContext) (charterId : String) (now : Utc) (db : CharterDatabase) :
    Except Failure (CharterDatabase × ResolvedCharter) :=
  match db.loadRow auth.workspaceId charterId with
  | none => refuse 404 "charter_not_found"
  | some row => match row.status with
    | .active => do
      let charter ← CharterDatabase.response host row (db.loadNarrowings charterId now)
      return (db, charter)
    | .draft =>
      let superseded := supersede db.charters auth.workspaceId row.ownerId charterId
      reread host {db with charters := activate superseded auth.workspaceId charterId auth.userId now} auth.workspaceId
        charterId now
    | status => refuse 409 "charter_not_draft"
      [("message", .str ("a charter in status '" ++ status.value ++ "' cannot be approved"))]

/-- The section of `revoke_charter`, which also blocks the permits issued under the charter. -/
def revokeSection (auth : AuthContext) (charterId reason : String) (now : Utc) (db : CharterDatabase) :
    Except Failure (CharterDatabase × ResolvedCharter) :=
  match db.loadRow auth.workspaceId charterId with
  | none => refuse 404 "charter_not_found"
  | some _ =>
    let permits := db.permits.map fun permit =>
      if permit.charterId = some charterId ∧ permit.decision = "allow" ∧ permit.resolvedAt = none then
        {permit with decision := "blocked", reason := "charter_revoked", resolvedAt := some now}
      else permit
    reread host {db with charters := revoke db.charters auth.workspaceId charterId reason now, permits}
      auth.workspaceId charterId now

/-- The narrowing of a request. -/
def CharterNarrowingRequest.narrowing (body : CharterNarrowingRequest) : Payload :=
  let strings : List String → Json := fun items => .arr (items.map .str)
  let number : Option Int → Json := fun n => n.elim .null .int
  [("remove_roots", strings body.removeRoots), ("remove_capabilities", strings body.removeCapabilities),
    ("add_protected_write_prefixes", strings body.addProtectedWritePrefixes),
    ("add_denied_read_paths", strings body.addDeniedReadPaths),
    ("enforcement_tier", body.enforcementTier.elim .null .str), ("egress_mode", body.egressMode.elim .null .str),
    ("budget_minor_units", number body.budgetMinorUnits), ("max_attempts", number body.maxAttempts),
    ("max_wall_seconds", number body.maxWallSeconds),
    ("max_concurrent_dispatches", number body.maxConcurrentDispatches), ("reason", .str body.reason)]

/-- `str(body.session_id or "default")` -/
def CharterNarrowingRequest.sessionOrDefault (body : CharterNarrowingRequest) : String :=
  if body.sessionId = "" then "default" else body.sessionId

/-- The section of `apply_narrowing`. -/
def narrowSection (auth : AuthContext) (body : CharterNarrowingRequest) (now : Utc) (newId : String)
    (db : CharterDatabase) : Except Failure (CharterDatabase × ResolvedCharter) :=
  match db.loadRow auth.workspaceId body.charterId with
  | none => refuse 404 "charter_not_found"
  | some row => do
    db.requireReceipt auth body.sourceReceiptId
    if newId ∈ db.narrowings.map (·.id) then .error .integrityError
    else
      let narrowing : NarrowingRow := {
        id := newId
        charterId := body.charterId
        workspaceId := auth.workspaceId
        ownerId := auth.userId
        sessionId := body.sessionOrDefault
        sourceReceiptId := body.sourceReceiptId
        narrowing := body.narrowing
        createdAt := now
        expiresAt := body.expiresAt.or (some row.expiresAt.val) }
      reread host {db with narrowings := db.narrowings ++ [narrowing]} auth.workspaceId body.charterId now

end OpenTimeline.Charter
