import OpenTimeline.Directive.Effects
import OpenTimeline.Dispatch.Budget

/-! The wire between the supervisor and the API.

The supervisor builds a JSON body and the API's request model takes its fields out of it: a
field it requires and does not find refuses the body, a field it does not know is ignored.

The supervisor sends an intent as an object of its own, where the model requires its fields
beside the others; it opens a dispatch without the sandbox provider the model requires; and it
sends a reconciliation beside the other fields, where the model takes it out of an object of
its own. So no effect and no dispatch is opened, and of a reconciliation only one that says
nothing is stored as it was sent (`roundTrips_iff`). -/
namespace OpenTimeline.Supervisor
open Library Directive Dispatch

/-! ### The request models -/

/-- What the model library makes of the values of a field. -/
structure ModelLibrary where
  /-- whether a `UUID` field takes a text -/
  isUuid : String → Bool
  /-- an `int` field, of a value that is no JSON integer -/
  laxInt : Json → Option Int

namespace ModelLibrary
variable (library : ModelLibrary)

def str : Json → Option String
  | .str s => some s
  | _ => none

def int : Json → Option Int
  | .int n => some n
  | value => library.laxInt value

/-- `Field(ge=least)` -/
def atLeast (least : Int) (value : Json) : Option Int := (library.int value).filter (least ≤ ·)

def uuid : Json → Option String
  | .str s => if library.isUuid s then some s else none
  | _ => none

/-- `T | None` -/
def orNone {α : Type} (read : Json → Option α) : Json → Option (Option α)
  | .null => some none
  | value => (read value).map some

def strs : Json → Option (List String)
  | .arr items => items.mapM str
  | _ => none

def dict : Json → Option Payload
  | .obj fields => some fields
  | _ => none

@[simp] theorem atLeast_natCast (n : Nat) : library.atLeast 0 (.int n) = some (n : Int) := by
  simp [atLeast, int]

/-- A field, and its default if it has one. -/
def field {α : Type} (body : Payload) (key : String) (read : Json → Option α) (default : Option α) : Option α :=
  match body.lookup key with
  | some value => read value
  | none => default

/-- `DispatchOpenRequest(**body)` -/
def dispatchOpenRequest (body : Payload) : Option DispatchOpenRequest := do
  return {
    sessionId := ← field body "session_id" str (some "default")
    directiveId := ← field body "directive_id" library.uuid none
    taskId := ← field body "task_id" (orNone str) (some none)
    attempt := ← field body "attempt" (library.atLeast 1) (some 1)
    runtimeId := ← field body "runtime_id" str none
    runtimeVersion := ← field body "runtime_version" str none
    surface := ← field body "surface" str none
    modelId := ← field body "model_id" str (some "")
    contractDigest := ← field body "contract_digest" str (some "")
    taskFamily := ← field body "task_family" str (some "unspecified")
    enforcementTier := ← field body "enforcement_tier" str none
    sandboxProvider := ← field body "sandbox_provider" str none
    sandboxProfileDigest := ← field body "sandbox_profile_digest" (orNone str) (some none)
    sandboxSelfTestId := ← field body "sandbox_self_test_id" (orNone library.uuid) (some none)
    providerRunId := ← field body "provider_run_id" str none
    providerTurnId := ← field body "provider_turn_id" (orNone str) (some none)
    requestMinorUnits := ← field body "request_minor_units" (orNone (library.atLeast 0)) (some none) }

/-- `DispatchReconcileRequest(**body)` -/
def dispatchReconcileRequest (body : Payload) : Option DispatchReconcileRequest := do
  return {
    outcome := ← field body "outcome" str none
    terminalReason := ← field body "terminal_reason" str (some "")
    wallMs := ← field body "wall_ms" (library.atLeast 0) (some 0)
    humanInterventionCount := ← field body "human_intervention_count" (library.atLeast 0) (some 0)
    reconciliation := ← field body "reconciliation" dict (some []) }

end ModelLibrary

structure EffectOpenRequest where
  sessionId : String
  directiveId : String
  dispatchId : Option String
  taskId : Option String
  kind : String
  capability : String
  resource : String
  argv : List String
  reversibility : String
  description : String
  enforcementTier : String
  actionTracing : String
  leaseGeneration : Int
  providerRunId : Option String
  providerTurnId : Option String
  runtimeId : Option String
  runtimeVersion : Option String
  modelId : Option String
deriving DecidableEq, Repr

open ModelLibrary in
/-- `EffectOpenRequest(**body)` -/
def ModelLibrary.effectOpenRequest (library : ModelLibrary) (body : Payload) : Option EffectOpenRequest := do
  return {
    sessionId := ← field body "session_id" str (some "default")
    directiveId := ← field body "directive_id" library.uuid none
    dispatchId := ← field body "dispatch_id" (orNone library.uuid) (some none)
    taskId := ← field body "task_id" (orNone str) (some none)
    kind := ← field body "kind" str none
    capability := ← field body "capability" str none
    resource := ← field body "resource" str (some "")
    argv := ← field body "argv" strs (some [])
    reversibility := ← field body "reversibility" str none
    description := ← field body "description" str (some "")
    enforcementTier := ← field body "enforcement_tier" str none
    actionTracing := ← field body "action_tracing" str none
    leaseGeneration := ← field body "lease_generation" (library.atLeast 0) (some 0)
    providerRunId := ← field body "provider_run_id" (orNone str) (some none)
    providerTurnId := ← field body "provider_turn_id" (orNone str) (some none)
    runtimeId := ← field body "runtime_id" (orNone str) (some none)
    runtimeVersion := ← field body "runtime_version" (orNone str) (some none)
    modelId := ← field body "model_id" (orNone str) (some none) }

/-! ### What the API stores -/

def effectKinds : List String := ["directive", "write", "command", "commit", "external"]

/-- `_effect_kind` -/
def effectKind (value : String) : String := if strip value ∈ effectKinds then strip value else "external"

/-- `_effect_reversibility` -/
def effectReversibility (value : String) : Reversibility :=
  if strip value = "reversible" then .reversible
  else if strip value = "irreversible" then .irreversible
  else .unknown

def EffectOpenRequest.intent (body : EffectOpenRequest) : EffectIntent where
  kind := effectKind body.kind
  capability := body.capability
  resource := body.resource
  argv := body.argv
  reversibility := effectReversibility body.reversibility
  description := body.description

/-- What `effect_open` calls `open_effect` with. -/
def EffectOpenRequest.call (body : EffectOpenRequest) (auth : AuthContext) (now : Datetime) (newId : String) :
    OpenRequest where
  workspaceId := auth.workspaceId
  ownerId := auth.userId
  sessionId := body.sessionId
  directiveId := body.directiveId
  intent := body.intent
  leaseGeneration := body.leaseGeneration.toNat
  claimedExecutor := auth.consumer
  providerRunId := body.providerRunId
  now
  newId

/-! ### What the supervisor sends -/

variable (host : Host)

/-- `effect_intent_to_json` -/
def effectIntentToJson (intent : EffectIntent) : Json :=
  .obj [("kind", .str intent.kind), ("capability", .str intent.capability), ("resource", .str intent.resource),
    ("argv", .arr (intent.argv.map .str)), ("reversibility", .str intent.reversibility.value),
    ("description", .str intent.description)]

def strOrNull : Option String → Json
  | some s => .str s
  | none => .null

/-- An effect that is opened, the root of a dispatch or one observed in it. -/
structure EffectMessage where
  directiveId : String
  intent : EffectIntent
  enforcementTier : String
  actionTracing : String
  leaseGeneration : Nat
  providerRunId : String
  providerTurnId : Option String
  /-- only of the root -/
  dispatchId : Option String

/-- The body of `dispatch_once` and of `_open_child_effect`, as `ApiClient.open_effect` sends it. -/
def EffectMessage.body (m : EffectMessage) (sessionId : String) : Payload :=
  [("directive_id", .str m.directiveId), ("intent", effectIntentToJson m.intent),
    ("intent_digest", .str (effectIntentDigest host m.intent)), ("enforcement_tier", .str m.enforcementTier),
    ("action_tracing", .str m.actionTracing), ("lease_generation", .int m.leaseGeneration),
    ("provider_run_id", .str m.providerRunId), ("provider_turn_id", strOrNull m.providerTurnId),
    ("state", .str "prepared")] ++
  (match m.dispatchId with
    | some dispatchId => [("dispatch_id", .str dispatchId)]
    | none => []) ++
  [("session_id", .str sessionId)]

structure DispatchMessage where
  directiveId : String
  surface : String
  runtimeId : String
  runtimeVersion : String
  contractDigest : String
  enforcementTier : String
  sandboxProfileDigest : String
  sandboxSelfTestId : String
  wrapperArgv0 : String
  providerRunId : String
  charterId : String

/-- The body of `dispatch_once`, as `ApiClient.open_dispatch` sends it. -/
def DispatchMessage.body (m : DispatchMessage) (sessionId : String) : Payload :=
  [("directive_id", .str m.directiveId), ("surface", .str m.surface), ("runtime_id", .str m.runtimeId),
    ("runtime_version", .str m.runtimeVersion), ("contract_digest", .str m.contractDigest),
    ("enforcement_tier", .str m.enforcementTier), ("sandbox_profile_digest", .str m.sandboxProfileDigest),
    ("sandbox_self_test_id", .str m.sandboxSelfTestId), ("wrapper_argv0", .str m.wrapperArgv0),
    ("provider_run_id", .str m.providerRunId), ("charter_id", .str m.charterId),
    ("task_family", .str "unspecified"), ("session_id", .str sessionId)]

structure ReconcileMessage where
  reconciliation : Reconciliation
  outcome : String
  terminalReason : String
  wallMs : Nat
  humanInterventionCount : Nat

def CostSource.value : CostSource → String
  | .providerReported => "provider_reported"
  | .estimated => "estimated"
  | .unavailable => "unavailable"

/-- The body of `ApiClient.reconcile_dispatch`. -/
def ReconcileMessage.body (m : ReconcileMessage) (sessionId : String) : Payload :=
  [("session_id", .str sessionId), ("cost_minor_units", .int m.reconciliation.costMinorUnits),
    ("cost_source", .str (CostSource.value m.reconciliation.costSource)),
    ("tokens_input", .int m.reconciliation.tokensInput), ("tokens_output", .int m.reconciliation.tokensOutput),
    ("tokens_cached_input", .int m.reconciliation.tokensCachedInput),
    ("tokens_reasoning", .int m.reconciliation.tokensReasoning),
    ("overshoot_minor_units", .int m.reconciliation.overshootMinorUnits), ("outcome", .str m.outcome),
    ("terminal_reason", .str m.terminalReason), ("wall_ms", .int m.wallMs),
    ("human_intervention_count", .int m.humanInterventionCount)]

/-! ### Round trips -/

inductive Message
  | openEffect (m : EffectMessage)
  | openDispatch (m : DispatchMessage)
  | reconcileDispatch (m : ReconcileMessage)

/-- The row has what the reconciliation says. -/
def ReconcileMessage.StoredAs (m : ReconcileMessage) (row : DispatchRecord) : Prop :=
  row.costMinorUnits = some m.reconciliation.costMinorUnits ∧ row.costSource = some m.reconciliation.costSource ∧
    row.tokensInput = m.reconciliation.tokensInput ∧ row.tokensOutput = m.reconciliation.tokensOutput ∧
    row.tokensCachedInput = m.reconciliation.tokensCachedInput ∧
    row.tokensReasoning = m.reconciliation.tokensReasoning

/-- The API takes the body, and what it then stores is what was sent. -/
def Message.RoundTrips (library : ModelLibrary) (sessionId : String) : Message → Prop
  | .openEffect m => ∃ request, library.effectOpenRequest (m.body host sessionId) = some request ∧
      ∀ auth now newId db db' id, Directive.openEffect host db (request.call auth now newId) = .ok (db', id) →
        ∃ row, db'.effects.find id = some row ∧ row.intentDigest = effectIntentDigest host m.intent
  | .openDispatch m => ∃ request, library.dispatchOpenRequest (m.body sessionId) = some request
  | .reconcileDispatch m => ∃ request, library.dispatchReconcileRequest (m.body sessionId) = some request ∧
      ∀ dispatchId now db, (Table.find db.dispatches.toTable dispatchId).isSome →
        ∃ db' row, reconcileSection host dispatchId request now db = .ok (db', row) ∧
          Table.find db'.dispatches.toTable dispatchId = some row ∧ m.StoredAs row

/-- A reconciliation that says nothing of the run: no cost, no source and no tokens. -/
def Message.SaysNothing : Message → Prop
  | .reconcileDispatch m => m.reconciliation.costMinorUnits = 0 ∧ m.reconciliation.costSource = .unavailable ∧
      m.reconciliation.tokensInput = 0 ∧ m.reconciliation.tokensOutput = 0 ∧
      m.reconciliation.tokensCachedInput = 0 ∧ m.reconciliation.tokensReasoning = 0
  | _ => False

variable {host} {library : ModelLibrary} {sessionId : String}

/-- The kind is in the intent, and the model requires it beside it. -/
theorem effectOpenRequest_eq_none (m : EffectMessage) :
    library.effectOpenRequest (m.body host sessionId) = none := by
  have hkind : (m.body host sessionId).lookup "kind" = none := by
    unfold EffectMessage.body
    cases m.dispatchId <;> rfl
  have hfield : ModelLibrary.field (m.body host sessionId) "kind" ModelLibrary.str none = none := by
    rw [ModelLibrary.field, hkind]
  rw [Option.eq_none_iff_forall_ne_some]
  intro request h
  unfold ModelLibrary.effectOpenRequest at h
  -- four fields are read before the kind
  obtain ⟨_, _, h⟩ := Option.bind_eq_some_iff.mp h
  obtain ⟨_, _, h⟩ := Option.bind_eq_some_iff.mp h
  obtain ⟨_, _, h⟩ := Option.bind_eq_some_iff.mp h
  obtain ⟨_, _, h⟩ := Option.bind_eq_some_iff.mp h
  obtain ⟨kind, hread, _⟩ := Option.bind_eq_some_iff.mp h
  rw [hfield] at hread
  cases hread

/-- The model requires the provider of the sandbox, which is not sent. -/
theorem dispatchOpenRequest_eq_none (m : DispatchMessage) : library.dispatchOpenRequest (m.body sessionId) = none := by
  have hprovider : (m.body sessionId).lookup "sandbox_provider" = none := rfl
  have hfield : ModelLibrary.field (m.body sessionId) "sandbox_provider" ModelLibrary.str none = none := by
    rw [ModelLibrary.field, hprovider]
  simp only [ModelLibrary.dispatchOpenRequest, Option.bind_eq_bind, hfield, Option.bind_none, Option.bind_fun_none]

/-- The accounts of a reconciliation are not among the fields of the model. -/
theorem dispatchReconcileRequest_body (m : ReconcileMessage) :
    library.dispatchReconcileRequest (m.body sessionId) =
      some ⟨m.outcome, m.terminalReason, m.wallMs, m.humanInterventionCount, []⟩ := by
  have houtcome : (m.body sessionId).lookup "outcome" = some (.str m.outcome) := rfl
  have hreason : (m.body sessionId).lookup "terminal_reason" = some (.str m.terminalReason) := rfl
  have hwall : (m.body sessionId).lookup "wall_ms" = some (.int m.wallMs) := rfl
  have hcount : (m.body sessionId).lookup "human_intervention_count" = some (.int m.humanInterventionCount) := rfl
  have hreconciliation : (m.body sessionId).lookup "reconciliation" = none := rfl
  simp only [ModelLibrary.dispatchReconcileRequest, ModelLibrary.field, houtcome, hreason, hwall, hcount,
    hreconciliation, ModelLibrary.str, ModelLibrary.atLeast_natCast, Option.bind_eq_bind, Option.bind_some,
    Option.pure_def]

/-- A reconciliation of nothing. -/
theorem reconciliationFromJson_nil :
    reconciliationFromJson host [] = .ok ⟨0, .unavailable, 0, 0, 0, 0, 0⟩ := by
  rfl

variable (host) in
/-- Whatever was sent, the row is reconciled to nothing. -/
theorem reconcileSection_sent (m : ReconcileMessage) {dispatchId : String} {db : Dispatch.Database} {record : DispatchRecord}
    (hfind : Table.find db.dispatches.toTable dispatchId = some record) (now : Instant) :
    ∃ db' row, reconcileSection host dispatchId ⟨m.outcome, m.terminalReason, m.wallMs, m.humanInterventionCount, []⟩
        now db = .ok (db', row) ∧ Table.find db'.dispatches.toTable dispatchId = some row ∧
      row.costMinorUnits = some 0 ∧ row.costSource = some .unavailable ∧ row.tokensInput = 0 ∧ row.tokensOutput = 0 ∧
      row.tokensCachedInput = 0 ∧ row.tokensReasoning = 0 := by
  unfold reconcileSection
  rw [hfind]
  exact ⟨_, _, rfl, DispatchTable.find_reconcile hfind _ _ now, rfl, rfl, rfl, rfl, rfl, rfl⟩

/-- A dispatch that is open. -/
def exampleDispatch : DispatchRecord :=
  (exampleBody "directive").row exampleAuth exampleCharter ⟨0, "USD", .unsupported, none⟩ [] none "session" "dispatch" 0

def oneDispatch : Dispatch.Database where
  dispatches := ⟨⟨[exampleDispatch], by simp⟩, by simp⟩
  directives := []
  selfTests := []

theorem not_roundTrips_openEffect (m : EffectMessage) :
    ¬ (Message.openEffect m).RoundTrips host library sessionId := by
  rintro ⟨request, hrequest, _⟩
  rw [effectOpenRequest_eq_none] at hrequest
  cases hrequest

theorem not_roundTrips_openDispatch (m : DispatchMessage) :
    ¬ (Message.openDispatch m).RoundTrips host library sessionId := by
  rintro ⟨request, hrequest⟩
  rw [dispatchOpenRequest_eq_none] at hrequest
  cases hrequest

theorem nothing_of_roundTrips {m : ReconcileMessage}
    (h : (Message.reconcileDispatch m).RoundTrips host library sessionId) : (Message.reconcileDispatch m).SaysNothing := by
  simp only [Message.RoundTrips, dispatchReconcileRequest_body, Option.some.injEq, exists_eq_left'] at h
  obtain ⟨db', row, hsection, -, hcost, hsource, hinput, houtput, hcached, hreasoning⟩ := h "dispatch" 0 oneDispatch rfl
  have hthere : Table.find oneDispatch.dispatches.toTable "dispatch" = some exampleDispatch := rfl
  obtain ⟨db'', row', hsection', -, hcost', hsource', hinput', houtput', hcached', hreasoning'⟩ :=
    reconcileSection_sent host m hthere 0
  cases hsection.symm.trans hsection'
  exact ⟨Option.some.inj (hcost.symm.trans hcost'), Option.some.inj (hsource.symm.trans hsource'),
    hinput.symm.trans hinput', houtput.symm.trans houtput', hcached.symm.trans hcached',
    hreasoning.symm.trans hreasoning'⟩

/-- A message comes through as it was sent just where it is a reconciliation of nothing. -/
theorem roundTrips_iff (host : Host) (library : ModelLibrary) (sessionId : String) (m : Message) :
    m.RoundTrips host library sessionId ↔ m.SaysNothing := by
  cases m with
  | openEffect m => exact iff_of_false (not_roundTrips_openEffect m) id
  | openDispatch m => exact iff_of_false (not_roundTrips_openDispatch m) id
  | reconcileDispatch m =>
    refine ⟨nothing_of_roundTrips, ?_⟩
    rintro ⟨hcost, hsource, hinput, houtput, hcached, hreasoning⟩
    refine ⟨_, dispatchReconcileRequest_body m, fun dispatchId now db hthere => ?_⟩
    obtain ⟨record, hfind⟩ := Option.isSome_iff_exists.mp hthere
    obtain ⟨db', row, hsection, hrow, hstored⟩ := reconcileSection_sent host m hfind now
    refine ⟨db', row, hsection, hrow, ?_⟩
    rw [ReconcileMessage.StoredAs, hcost, hsource, hinput, houtput, hcached, hreasoning]
    exact hstored

/-! ### Messages of a run -/

def exampleLibrary : ModelLibrary := ⟨fun _ => true, fun _ => none⟩

def exampleRoot : EffectMessage where
  directiveId := "directive"
  intent := ⟨"directive", "process.execute", "/clone", ["sandbox-exec"], .unknown, "dispatch of directive"⟩
  enforcementTier := "os_sandbox"
  actionTracing := "unavailable"
  leaseGeneration := 1
  providerRunId := "run"
  providerTurnId := none
  dispatchId := some "dispatch"

def exampleOpening : DispatchMessage where
  directiveId := "directive"
  surface := "claude/stream"
  runtimeId := "claude"
  runtimeVersion := "2.1"
  contractDigest := "contract"
  enforcementTier := "os_sandbox"
  sandboxProfileDigest := "profile"
  sandboxSelfTestId := "selftest"
  wrapperArgv0 := "sandbox-exec"
  providerRunId := "run"
  charterId := "charter"

/-- A run that cost 250. -/
def exampleSpend : ReconcileMessage := ⟨⟨250, .providerReported, 1000, 200, 0, 0, 0⟩, "succeeded", "", 60000, 0⟩

/-- No message of a run that cost something comes through. -/
theorem run_refused :
    ¬ (Message.openEffect exampleRoot).RoundTrips (asciiHost [] []) exampleLibrary "session" ∧
      ¬ (Message.openDispatch exampleOpening).RoundTrips (asciiHost [] []) exampleLibrary "session" ∧
      ¬ (Message.reconcileDispatch exampleSpend).RoundTrips (asciiHost [] []) exampleLibrary "session" := by
  refine ⟨not_roundTrips_openEffect _, not_roundTrips_openDispatch _, fun h => ?_⟩
  exact absurd (nothing_of_roundTrips h).1 (by decide)

end OpenTimeline.Supervisor
