import OpenTimeline.Library.Table
import OpenTimeline.Service
import OpenTimeline.Charter.Validation

/-! Dispatch records, and the budget they are opened against.

A row of `dispatch_records` is open until its `finished_at` is set. What the open rows of an
owner reserve, and how many they are, is what an opening is measured by. No two rows are of
one attempt at a directive. -/
namespace OpenTimeline.Dispatch
open Library Charter

variable (host : Host)

/-! ### Inputs -/

structure Settings where
  sandboxSelfTestMaxAgeSeconds : Int
  budgetDefaultMinorUnits : Int
  budgetCurrency : String
deriving DecidableEq, Repr

structure DispatchOpenRequest where
  sessionId : String := "default"
  directiveId : String
  taskId : Option String := none
  attempt : Int := 1
  runtimeId : String
  runtimeVersion : String
  surface : String
  modelId : String := ""
  contractDigest : String := ""
  taskFamily : String := "unspecified"
  enforcementTier : String
  sandboxProvider : String
  sandboxProfileDigest : Option String := none
  sandboxSelfTestId : Option String := none
  providerRunId : String
  providerTurnId : Option String := none
  requestMinorUnits : Option Int := none
deriving DecidableEq, Repr

structure DispatchReconcileRequest where
  outcome : String
  terminalReason : String := ""
  wallMs : Int := 0
  humanInterventionCount : Int := 0
  reconciliation : Payload := []

def readOnlyTaskFamilies : List String := ["read_only_review", "read_only_analysis", "read_only_probe"]

/-- `RUNTIME_CAPABILITIES` -/
def runtimeCapabilities : List (String × List (String × String)) :=
  [("codex/app-server", [("start", "supported"), ("observe", "supported"), ("resume", "supported"),
      ("interrupt", "supported"), ("read_result", "supported"), ("capabilities", "supported")]),
    ("codex/exec", [("start", "supported"), ("observe", "supported"), ("resume", "supported"),
      ("interrupt", "unsupported"), ("read_result", "supported"), ("capabilities", "degraded")]),
    ("claude/stream", [("start", "supported"), ("observe", "supported"), ("resume", "supported"),
      ("interrupt", "supported"), ("read_result", "supported"), ("capabilities", "degraded")]),
    ("claude/oneshot", [("start", "supported"), ("observe", "degraded"), ("resume", "supported"),
      ("interrupt", "unsupported"), ("read_result", "supported"), ("capabilities", "degraded")])]

/-- `capability_matrix_json`: an unknown surface is a `KeyError`. -/
def capabilityMatrixJson (surface : String) : Except Failure (List (String × String)) :=
  match runtimeCapabilities.lookup surface with
  | some matrix => .ok matrix
  | none => .error .keyError

/-! ### The budget -/

structure Reservation where
  reservedMinorUnits : Int
  currency : String
  spendEnforcement : SpendEnforcement
  /-- `max_budget_usd`, in minor units -/
  capApplied : Option Int
deriving DecidableEq, Repr

/-- What `reserve` raises. -/
inductive ReserveError
  | valueError
  | budgetExceeded (reserved requested cap : Int)
deriving DecidableEq, Repr

/-- `reserve` -/
def reserve (cap alreadyReserved request : Int) (currency surface : String) : Except ReserveError Reservation :=
  if request < 0 then .error .valueError
  else if cap < alreadyReserved + request then .error (.budgetExceeded alreadyReserved request cap)
  else .ok {
    reservedMinorUnits := request
    currency := if currency = "" then "USD" else currency
    spendEnforcement := spendEnforcementFor surface
    capApplied := if spendEnforcementFor surface = .enforced then some request else none }

theorem reserve_ok {cap alreadyReserved request : Int} {currency surface : String} {reservation : Reservation}
    (h : reserve cap alreadyReserved request currency surface = .ok reservation) :
    reservation.reservedMinorUnits = request ∧ 0 ≤ request ∧ alreadyReserved + request ≤ cap := by
  unfold reserve at h
  split_ifs at h with hnegative hexceeded
  all_goals
    obtain rfl := Except.ok.inj h
    exact ⟨rfl, not_lt.mp hnegative, not_lt.mp hexceeded⟩

/-- `reserve`, its refusal as the handler words it. -/
def reserveOrRefuse (cap alreadyReserved request : Int) (currency surface : String) : Except Failure Reservation :=
  match reserve cap alreadyReserved request currency surface with
  | .ok reservation => .ok reservation
  | .error .valueError => .error (.raised .valueError)
  | .error (.budgetExceeded reserved requested cap) => refuse 409 "budget_exceeded"
      [("reserved_minor_units", .int reserved), ("requested_minor_units", .int requested),
        ("cap_minor_units", .int cap)]

theorem reserveOrRefuse_ok {cap alreadyReserved request : Int} {currency surface : String} {reservation : Reservation}
    (h : reserveOrRefuse cap alreadyReserved request currency surface = .ok reservation) :
    reservation.reservedMinorUnits = request ∧ 0 ≤ request ∧ alreadyReserved + request ≤ cap := by
  unfold reserveOrRefuse at h
  cases hreserve : reserve cap alreadyReserved request currency surface with
  | ok reserved =>
    rw [hreserve] at h
    obtain rfl := Except.ok.inj h
    exact reserve_ok hreserve
  | error e =>
    rw [hreserve] at h
    cases e <;> cases h

inductive CostSource
  | providerReported | estimated | unavailable
deriving DecidableEq, Repr

/-- `_cost_source_literal` -/
def costSourceLiteral (value : Json) : CostSource :=
  let raw := pyStr host (value.or (.str "unavailable"))
  if raw = "provider_reported" then .providerReported
  else if raw = "estimated" then .estimated
  else .unavailable

structure Reconciliation where
  costMinorUnits : Int
  costSource : CostSource
  tokensInput : Int
  tokensOutput : Int
  tokensCachedInput : Int
  tokensReasoning : Int
  overshootMinorUnits : Int
deriving DecidableEq, Repr

/-- `reconciliation_from_json` -/
def reconciliationFromJson (value : Payload) : Except PyError Reconciliation := do
  let number := fun key => pyInt host ((value.get key).or (.int 0))
  return {
    costMinorUnits := ← number "cost_minor_units"
    costSource := costSourceLiteral host (value.get "cost_source")
    tokensInput := ← number "tokens_input"
    tokensOutput := ← number "tokens_output"
    tokensCachedInput := ← number "tokens_cached_input"
    tokensReasoning := ← number "tokens_reasoning"
    overshootMinorUnits := ← number "overshoot_minor_units" }

/-! ### Rows -/

/-- A row of `dispatch_records`. -/
structure DispatchRecord where
  id : String
  workspaceId : String
  ownerId : String
  sessionId : String
  taskId : Option String
  directiveId : String
  attempt : Int
  charterId : String
  charterDigest : String
  claimedBy : String
  enforcementTier : String
  sandboxProvider : String
  sandboxProfileDigest : Option String
  sandboxSelfTestId : Option String
  runtimeId : String
  runtimeVersion : String
  surface : String
  modelId : String
  contractDigest : String
  capabilityMatrix : List (String × String)
  providerRunId : String
  providerTurnId : Option String
  taskFamily : String
  budgetReservedMinorUnits : Int
  budgetCurrency : String
  spendEnforcement : SpendEnforcement
  capApplied : Option Int
  costMinorUnits : Option Int := none
  costSource : Option CostSource := none
  tokensInput : Int := 0
  tokensOutput : Int := 0
  tokensCachedInput : Int := 0
  tokensReasoning : Int := 0
  humanInterventionCount : Int := 0
  outcome : Option String := none
  terminalReason : Option String := none
  wallMs : Option Int := none
  startedAt : Instant
  finishedAt : Option Instant := none
  reconciledAt : Option Instant := none
  updatedAt : Instant
deriving DecidableEq, Repr

namespace DispatchRecord

/-- `(directive_id, attempt)`, the columns of the unique index -/
def attemptKey (record : DispatchRecord) : String × Int := (record.directiveId, record.attempt)

/-- `workspace_id = ? AND owner_id = ? AND finished_at IS NULL` -/
def isOpenOf (workspaceId ownerId : String) (record : DispatchRecord) : Bool :=
  record.workspaceId = workspaceId && record.ownerId = ownerId && record.finishedAt.isNone

theorem isOpenOf_iff {workspaceId ownerId : String} {record : DispatchRecord} :
    record.isOpenOf workspaceId ownerId ↔
      (record.workspaceId = workspaceId ∧ record.ownerId = ownerId) ∧ record.finishedAt = none := by
  simp [isOpenOf]

end DispatchRecord

def DispatchOpenRequest.attemptKey (body : DispatchOpenRequest) : String × Int := (body.directiveId, body.attempt)

/-- `open_dispatch_count` -/
def openDispatchCount (records : List DispatchRecord) (workspaceId ownerId : String) : Nat :=
  records.countP (DispatchRecord.isOpenOf workspaceId ownerId)

/-- `open_reservation_total` -/
def openReservationTotal (records : List DispatchRecord) (workspaceId ownerId : String) : Int :=
  ((records.filter (DispatchRecord.isOpenOf workspaceId ownerId)).map (·.budgetReservedMinorUnits)).sum

/-- What a reconciliation makes of a row; without one the cost is unknown. -/
def DispatchRecord.reconciled (record : DispatchRecord) (body : DispatchReconcileRequest)
    (reconciliation : Option Reconciliation) (now : Instant) : DispatchRecord :=
  {record with
    outcome := some body.outcome
    terminalReason := some body.terminalReason
    wallMs := some body.wallMs
    humanInterventionCount := body.humanInterventionCount
    costMinorUnits := reconciliation.map (·.costMinorUnits)
    costSource := reconciliation.map (·.costSource)
    tokensInput := (reconciliation.map (·.tokensInput)).getD 0
    tokensOutput := (reconciliation.map (·.tokensOutput)).getD 0
    tokensCachedInput := (reconciliation.map (·.tokensCachedInput)).getD 0
    tokensReasoning := (reconciliation.map (·.tokensReasoning)).getD 0
    finishedAt := some (record.finishedAt.getD now)
    reconciledAt := some now
    updatedAt := now}

/-- The row an opening inserts. -/
def DispatchOpenRequest.row (body : DispatchOpenRequest) (auth : AuthContext) (charter : ResolvedCharter)
    (reservation : Reservation) (capabilityMatrix : List (String × String)) (sandboxSelfTestId : Option String)
    (sessionId id : String) (now : Instant) : DispatchRecord where
  id
  workspaceId := auth.workspaceId
  ownerId := auth.userId
  sessionId
  taskId := body.taskId
  directiveId := body.directiveId
  attempt := body.attempt
  charterId := charter.charterId
  charterDigest := charter.charterDigest
  claimedBy := auth.consumer
  enforcementTier := body.enforcementTier
  sandboxProvider := body.sandboxProvider
  sandboxProfileDigest := body.sandboxProfileDigest
  sandboxSelfTestId
  runtimeId := body.runtimeId
  runtimeVersion := body.runtimeVersion
  surface := body.surface
  modelId := body.modelId
  contractDigest := body.contractDigest
  capabilityMatrix
  providerRunId := body.providerRunId
  providerTurnId := body.providerTurnId
  taskFamily := if body.taskFamily = "" then "unspecified" else body.taskFamily
  budgetReservedMinorUnits := reservation.reservedMinorUnits
  budgetCurrency := reservation.currency
  spendEnforcement := reservation.spendEnforcement
  capApplied := reservation.capApplied
  startedAt := now
  updatedAt := now

/-! ### The table -/

/-- `dispatch_records`: the id is its key, and `(directive_id, attempt)` is unique. -/
structure DispatchTable extends Table DispatchRecord.id where
  attempts : (rows.map DispatchRecord.attemptKey).Nodup

namespace DispatchTable

def empty : DispatchTable := ⟨⟨[], List.nodup_nil⟩, List.nodup_nil⟩

/-- `SELECT … WHERE directive_id = ? AND attempt = ?` -/
def findAttempt (t : DispatchTable) (key : String × Int) : Option DispatchRecord :=
  t.rows.find? fun record => record.attemptKey = key

theorem findAttempt_eq_some_iff {t : DispatchTable} {key : String × Int} {record : DispatchRecord} :
    t.findAttempt key = some record ↔ record ∈ t.rows ∧ record.attemptKey = key :=
  Table.find_eq_some_iff (t := (⟨t.rows, t.attempts⟩ : Table DispatchRecord.attemptKey))

/-- `INSERT`, refused where the id or the attempt is taken. -/
def insert (t : DispatchTable) (record : DispatchRecord) : Option DispatchTable :=
  if hid : record.id ∈ t.rows.map DispatchRecord.id then none
  else if hattempt : record.attemptKey ∈ t.rows.map DispatchRecord.attemptKey then none
  else some {
    rows := t.rows ++ [record]
    nodup := by
      rw [List.map_append, List.nodup_append]
      exact ⟨t.nodup, by simp, by simpa using fun r hr heq => hid (List.mem_map.mpr ⟨r, hr, heq⟩)⟩
    attempts := by
      rw [List.map_append, List.nodup_append]
      exact ⟨t.attempts, by simp, by simpa using fun r hr heq => hattempt (List.mem_map.mpr ⟨r, hr, heq⟩)⟩ }

theorem insert_eq_some {t t' : DispatchTable} {record : DispatchRecord} (h : t.insert record = some t') :
    t'.rows = t.rows ++ [record] := by
  unfold insert at h
  split_ifs at h
  rw [← Option.some.inj h]

/-- `UPDATE … SET … WHERE id = ?`, of a reconciliation. -/
def reconcile (t : DispatchTable) (id : String) (body : DispatchReconcileRequest)
    (reconciliation : Option Reconciliation) (now : Instant) : DispatchTable where
  toTable := t.updateWhere (fun record => record.id = id) (fun record => record.reconciled body reconciliation now)
    fun _ => rfl
  attempts := by
    have hkeys : (t.rows.map fun record =>
        if record.id = id then record.reconciled body reconciliation now else record).map DispatchRecord.attemptKey =
          t.rows.map DispatchRecord.attemptKey := by
      rw [List.map_map]
      refine List.map_congr_left fun record _ => ?_
      simp only [Function.comp_apply]
      split_ifs <;> rfl
    have hattempts := t.attempts
    rw [← hkeys] at hattempts
    simpa [Table.updateWhere, Table.update] using hattempts

theorem find_reconcile {t : DispatchTable} {id : String} {record : DispatchRecord} (h : t.find id = some record)
    (body : DispatchReconcileRequest) (reconciliation : Option Reconciliation) (now : Instant) :
    (t.reconcile id body reconciliation now).find id = some (record.reconciled body reconciliation now) := by
  have hupdate := t.find_updateWhere_key id (fun record => record.reconciled body reconciliation now) (fun _ => rfl) id
  rw [if_pos rfl, h, Option.map_some] at hupdate
  exact hupdate

end DispatchTable

/-- A row of `sandbox_self_tests`. -/
structure SandboxSelfTest where
  selfTestId : String
  workspaceId : String
  sandboxProvider : String
  profileDigest : String
  passed : Bool
  ranAt : Instant
  /-- `ran_at` as it is stored -/
  ranAtText : String
deriving DecidableEq, Repr

/-- `latest_self_test` -/
def latestSelfTest (selfTests : List SandboxSelfTest) (workspaceId sandboxProvider : String) :
    Option SandboxSelfTest :=
  ((selfTests.filter fun test => test.workspaceId = workspaceId && test.sandboxProvider = sandboxProvider).insertionSort
    fun a b => b.ranAt ≤ a.ranAt).head?

/-- The columns of `directive_executions` an opening writes. -/
structure DirectiveDispatch where
  directiveId : String
  workspaceId : String
  dispatchId : Option String
  charterId : Option String
deriving DecidableEq, Repr

structure Database where
  dispatches : DispatchTable
  directives : List DirectiveDispatch
  selfTests : List SandboxSelfTest

end OpenTimeline.Dispatch
