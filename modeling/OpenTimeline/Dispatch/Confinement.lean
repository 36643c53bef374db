import OpenTimeline.Directive.Filing
import OpenTimeline.Dispatch.Authority
import OpenTimeline.Library.Tenancy

/-! The operations on dispatches and on effects, called from one workspace.

An opening of a dispatch looks for the row of its attempt under the bare directive id, and links the
directive under the bare id; a binding and a reconciliation update under the bare dispatch id; an
opening of an effect looks for the row of its intent, and for the lease, under the bare directive id.
Only a resolution asks for the workspace of the row it names. So a call stays in its workspace where
the rows that its ids name are of the workspace, or where it is refused before it gets to them
(`perform_confined_iff`). -/
namespace OpenTimeline.Dispatch
open Library Charter

variable (host : Host)

/-! ### The routes of a dispatch -/

/-- `dispatch_open`; `charter` is what the charter's gate says. -/
def dispatchOpen (reconcileComplete : Bool) (auth : AuthContext) (idempotencyKey : String)
    (charter : Except Failure (Option ResolvedCharter)) (body : DispatchOpenRequest) (settings : Settings) (now : Instant)
    (newId : String) (db : Database) : Database × Except Failure DispatchRecord :=
  if strip idempotencyKey = "" then (db, refuse 400 "idempotency_key_required")
  else match charter with
    | .error e => (db, .error e)
    | .ok none => (db, refuse 409 "no_active_charter"
        [("reason", .str "no_active_charter"), ("action_kind", .str "execute"),
          ("message", .str "no active authority charter; dispatch has no scope to run under")])
    | .ok (some charter) => openDispatch reconcileComplete auth charter body settings now newId db

/-- A row under the UPDATE of `bind_provider_run`. -/
def DispatchRecord.bind (record : DispatchRecord) (providerRunId : String) (providerTurnId : Option String)
    (now : Instant) : DispatchRecord :=
  {record with providerRunId, providerTurnId, updatedAt := now}

/-- A binding leaves the attempts. -/
theorem attempts_bind (t : DispatchTable) (p : DispatchRecord → Bool) (providerRunId : String)
    (providerTurnId : Option String) (now : Instant) :
    ((t.updateWhere p (fun record => record.bind providerRunId providerTurnId now) fun _ => rfl).rows.map
      DispatchRecord.attemptKey).Nodup := by
  have hkeys : (t.updateWhere p (fun record => record.bind providerRunId providerTurnId now) fun _ => rfl).rows.map
      DispatchRecord.attemptKey = t.rows.map DispatchRecord.attemptKey := t.toTable.map_updateWhere fun _ => rfl
  rw [hkeys]
  exact t.attempts

/-- `bind_provider_run` -/
def DispatchTable.bindProviderRun (t : DispatchTable) (dispatchId providerRunId : String) (providerTurnId : Option String)
    (now : Instant) : DispatchTable where
  toTable := t.updateWhere (fun record => record.id = dispatchId) (fun record => record.bind providerRunId providerTurnId now)
    fun _ => rfl
  attempts := attempts_bind t _ _ _ _

/-- `load_dispatch` -/
def loadDispatch (t : DispatchTable) (dispatchId workspaceId : String) : Option DispatchRecord :=
  (t.find dispatchId).filter (·.workspaceId = workspaceId)

/-- `str(body.get("provider_run_id") or "")` -/
def boundRunId (body : Payload) : String := pyStr host ((body.get "provider_run_id").or (.str ""))

/-- `str(body["provider_turn_id"]) if body.get("provider_turn_id") else None` -/
def boundTurnId (body : Payload) : Option String :=
  if truthy (body.get "provider_turn_id") then some (pyStr host (body.get "provider_turn_id")) else none

/-- `dispatch_bind_provider`: the UPDATE is committed before the row is loaded. -/
def dispatchBindProvider (auth : AuthContext) (dispatchId : String) (body : Payload) (now : Instant) (db : Database) :
    Database × Except Failure DispatchRecord :=
  let db := {db with
    dispatches := db.dispatches.bindProviderRun dispatchId (boundRunId host body) (boundTurnId host body) now}
  match loadDispatch db.dispatches dispatchId auth.workspaceId with
  | none => (db, refuse 404 "dispatch_not_found")
  | some record => (db, .ok record)

/-- `dispatch_reconcile` -/
def dispatchReconcile (dispatchId : String) (body : DispatchReconcileRequest) (now : Instant) (db : Database) :
    Database × Except Failure DispatchRecord :=
  runCasSection (reconcileSection host dispatchId body now) db

/-! ### The tables, and the calls -/

/-- A directive's row is in both halves: the columns that the opening of a dispatch writes are in the one, those that
the fence of an effect reads in the other. -/
structure Tables where
  dispatch : Database
  journal : Directive.Database
  aligned : dispatch.directives.map (·.directiveId) = journal.directives.rows.map (·.directiveId)

/-- Who calls, and what the API knows of the caller. -/
structure TenantCaller where
  auth : AuthContext
  isAdvisor : Bool
  isHuman : Bool
  identityVerified : Bool
deriving DecidableEq, Repr

def TenantCaller.workspaceId (caller : TenantCaller) : String := caller.auth.workspaceId

def TenantCaller.identity (caller : TenantCaller) : Directive.Caller :=
  ⟨caller.workspaceId, caller.auth.consumer, caller.isHuman, caller.identityVerified⟩

/-- What the service goes by. -/
structure ServiceState where
  reconcileComplete : Bool
  dispatch : Settings
  journal : Directive.Settings

inductive TenantCall
  | dispatchOpen (idempotencyKey : String) (charter : Except Failure (Option ResolvedCharter)) (body : DispatchOpenRequest)
      (newId : String)
  | dispatchBindProvider (dispatchId : String) (body : Payload)
  | dispatchReconcile (dispatchId : String) (body : DispatchReconcileRequest)
  | effectOpen (charter : Except Failure Unit) (body : Directive.EffectOpenRequest) (newId : String)
  | effectResolve (charter : Except Failure Unit) (effectId : String) (body : Directive.EffectResolveRequest)

/-- A row that a call answers with. -/
inductive TenantRow
  | dispatch (record : DispatchRecord)
  | effect (record : Directive.EffectRow)

def TenantRow.workspaceId : TenantRow → String
  | .dispatch record => record.workspaceId
  | .effect record => record.workspaceId

abbrev TenantResult := Tables × Except Failure (Option TenantRow)

section Ids
variable {auth : AuthContext} {body : DispatchOpenRequest} {settings : Settings} {now : Instant} {db : Database}

theorem linkDispatch_ids (directives : List DirectiveDispatch) (directiveId dispatchId charterId : String) :
    (linkDispatch directives directiveId dispatchId charterId).map (·.directiveId) = directives.map (·.directiveId) := by
  rw [linkDispatch, List.map_map]
  refine List.map_congr_left fun directive _ => ?_
  rw [Function.comp_apply]
  split_ifs <;> rfl

theorem openDispatch_ids {reconcileComplete : Bool} {charter : ResolvedCharter} {newId : String} :
    (openDispatch reconcileComplete auth charter body settings now newId db).1.directives.map (·.directiveId) =
      db.directives.map (·.directiveId) := by
  unfold openDispatch
  split
  · rfl
  rename_i selfTestId _
  unfold runCasSection
  cases hsection : openSection auth charter body settings now selfTestId newId db with
  | error e => rfl
  | ok result =>
    obtain ⟨after, record⟩ := result
    obtain ⟨-, rfl⟩ | ⟨hattempt, -, -⟩ := openSection_cases hsection
    · rfl
    simp only [openSection, hattempt] at hsection
    split_ifs at hsection
    · cases hsection
    obtain ⟨reservation, -, hsection⟩ := bind_ok hsection
    obtain ⟨matrix, -, hsection⟩ := bind_ok hsection
    split at hsection
    · cases hsection
    · cases hsection
      exact linkDispatch_ids _ _ _ _

theorem dispatchOpen_ids {reconcileComplete : Bool} {idempotencyKey : String}
    {charter : Except Failure (Option ResolvedCharter)} {newId : String} :
    (dispatchOpen reconcileComplete auth idempotencyKey charter body settings now newId db).1.directives.map (·.directiveId) =
      db.directives.map (·.directiveId) := by
  unfold dispatchOpen
  split_ifs
  · rfl
  split
  · rfl
  · rfl
  · exact openDispatch_ids

theorem dispatchBindProvider_ids {dispatchId : String} {body : Payload} :
    (dispatchBindProvider host auth dispatchId body now db).1.directives.map (·.directiveId) =
      db.directives.map (·.directiveId) := by
  unfold dispatchBindProvider
  dsimp only
  split <;> rfl

theorem dispatchReconcile_ids {dispatchId : String} {body : DispatchReconcileRequest} :
    (dispatchReconcile host dispatchId body now db).1.directives.map (·.directiveId) = db.directives.map (·.directiveId) := by
  unfold dispatchReconcile runCasSection reconcileSection
  cases hfound : db.dispatches.find dispatchId with
  | none => rfl
  | some record =>
    cases hparsed : passing (reconciliationFromJson host body.reconciliation) with
    | error e => rfl
    | ok reconciliation => rfl

end Ids

/-- An operation on dispatches, over all the tables. -/
def Tables.onDispatch (db : Tables) (result : Database × Except Failure DispatchRecord)
    (hids : result.1.directives.map (·.directiveId) = db.dispatch.directives.map (·.directiveId)) : TenantResult :=
  ({db with dispatch := result.1, aligned := hids.trans db.aligned}, result.2.map fun record => some (.dispatch record))

/-- An operation on the journal, over all the tables. -/
def Tables.onJournal (db : Tables) (result : Except Failure (Directive.Database × Option Directive.EffectRow)) : TenantResult :=
  match result with
  | .ok (after, record) => ({db with journal := {db.journal with effects := after.effects}}, .ok (record.map .effect))
  | .error e => (db, .error e)

/-- `effect_resolve`, and the record it answers with. -/
def effectResolve (charter : Except Failure Unit) (caller : Directive.Caller) (effectId : String)
    (body : Directive.EffectResolveRequest) (now : Datetime) (db : Directive.Database) :
    Except Failure (Directive.Database × Option Directive.EffectRow) := do
  let after ← Directive.effectResolve charter caller effectId body now db
  let row := (db.effects.find effectId).filter (·.workspaceId = caller.workspaceId)
  return (after, row.bind fun row =>
    (Directive.loadEffectsForDirective after row.directiveId).find? fun record => record.effectId = effectId)

/-- A call of an authenticated caller. -/
def perform (service : ServiceState) (caller : TenantCaller) (now : Datetime) (call : TenantCall) (db : Tables) :
    TenantResult :=
  if caller.isAdvisor then (db, .error (.http 403 [("detail", .str "advisor role is read-only")]))
  else match call with
    | .dispatchOpen idempotencyKey charter body newId => db.onDispatch
        (dispatchOpen service.reconcileComplete caller.auth idempotencyKey charter body service.dispatch now.instant newId
          db.dispatch) dispatchOpen_ids
    | .dispatchBindProvider dispatchId body => db.onDispatch
        (dispatchBindProvider host caller.auth dispatchId body now.instant db.dispatch) (dispatchBindProvider_ids host)
    | .dispatchReconcile dispatchId body => db.onDispatch
        (dispatchReconcile host dispatchId body now.instant db.dispatch) (dispatchReconcile_ids host)
    | .effectOpen charter body newId => db.onJournal (Directive.effectOpen host service.journal charter
        ⟨caller.identity, caller.auth.userId, body, now, newId⟩ db.journal)
    | .effectResolve charter effectId body => db.onJournal
        (effectResolve charter caller.identity effectId body now db.journal)

/-! ### What a call may touch -/

/-- The directive is of another workspace. -/
def Tables.Foreign (db : Tables) (workspaceId directiveId : String) : Prop :=
  ∃ directive ∈ db.dispatch.directives, directive.directiveId = directiveId ∧ directive.workspaceId ≠ workspaceId

def dispatchColumns : Columns DispatchRecord String String String := ⟨(·.id), (·.workspaceId), (·.directiveId)⟩

def effectColumns : Columns Directive.EffectRow String String String := ⟨(·.effectId), (·.workspaceId), (·.directiveId)⟩

def directiveColumns : Columns DirectiveDispatch String String (Option String) :=
  ⟨(·.directiveId), (·.workspaceId), (·.dispatchId)⟩

/-- The call leaves the rows of other workspaces, links no row of its own to a directive of another, and answers with
no row of another. -/
structure Confined (workspaceId : String) (before : Tables) (result : TenantResult) : Prop where
  dispatches : dispatchColumns.Apart workspaceId (before.Foreign workspaceId) before.dispatch.dispatches.rows
    result.1.dispatch.dispatches.rows
  effects : effectColumns.Apart workspaceId (before.Foreign workspaceId) before.journal.effects.rows
    result.1.journal.effects.rows
  directives : directiveColumns.others workspaceId result.1.dispatch.directives =
    directiveColumns.others workspaceId before.dispatch.directives
  claims : result.1.journal.directives = before.journal.directives
  selfTests : result.1.dispatch.selfTests = before.dispatch.selfTests
  answer : ∀ row, result.2 = .ok (some row) → row.workspaceId = workspaceId

/-- The opening gets to its section, under the charter. -/
structure Reaches (service : ServiceState) (caller : TenantCaller) (now : Datetime) (idempotencyKey : String)
    (charter : Except Failure (Option ResolvedCharter)) (resolved : ResolvedCharter) (body : DispatchOpenRequest)
    (db : Tables) : Prop where
  key : strip idempotencyKey ≠ ""
  charter : charter = .ok (some resolved)
  reconciled : service.reconcileComplete = true
  sandbox : if body.enforcementTier = "advisory" then body.taskFamily ∈ readOnlyTaskFamilies
    else Measured db.dispatch.selfTests caller.auth body service.dispatch now.instant

/-- The UPDATE of a binding sets what is there. -/
def DispatchRecord.BoundSo (record : DispatchRecord) (body : Payload) (now : Datetime) : Prop :=
  record.providerRunId = boundRunId host body ∧ record.providerTurnId = boundTurnId host body ∧ record.updatedAt = now.instant

/-- What the call finds under its ids is of the workspace, or the call is refused before. -/
def OwnIds (service : ServiceState) (caller : TenantCaller) (now : Datetime) (db : Tables) : TenantCall → Prop
  | .dispatchOpen idempotencyKey charter body newId => ∀ resolved,
      Reaches service caller now idempotencyKey charter resolved body db →
        (∀ existing, db.dispatch.dispatches.findAttempt body.attemptKey = some existing →
          existing.workspaceId = caller.workspaceId) ∧
        (Admits service.reconcileComplete caller.auth resolved body service.dispatch now.instant newId db.dispatch →
          ¬ db.Foreign caller.workspaceId body.directiveId)
  | .dispatchBindProvider dispatchId body => ∀ record, db.dispatch.dispatches.find dispatchId = some record →
      record.workspaceId = caller.workspaceId ∨ record.BoundSo host body now
  | .dispatchReconcile dispatchId body => ∀ record, db.dispatch.dispatches.find dispatchId = some record →
      record.workspaceId = caller.workspaceId ∨ (reconciliationFromJson host body.reconciliation).isOk = false
  | .effectOpen charter body newId => service.journal.effectJournalEnabled = true → charter.isOk = true →
      (∀ existing, db.journal.effectOf body.directiveId (Directive.effectIntentDigest host body.intent) = some existing →
        existing.workspaceId = caller.workspaceId) ∧
      (db.journal.effectOf body.directiveId (Directive.effectIntentDigest host body.intent) = none →
        (Directive.OpenCall.request ⟨caller.identity, caller.auth.userId, body, now, newId⟩).fenced db.journal = true →
          newId ∉ db.journal.effects.rows.map Directive.EffectRow.effectId → ¬ db.Foreign caller.workspaceId body.directiveId)
  | .effectResolve _ _ _ => True

section Confinement
variable {workspaceId : String} {db : Tables}

theorem onDispatch_confined_iff {result : Database × Except Failure DispatchRecord}
    {hids : result.1.directives.map (·.directiveId) = db.dispatch.directives.map (·.directiveId)} :
    Confined workspaceId db (db.onDispatch result hids) ↔
      dispatchColumns.Apart workspaceId (db.Foreign workspaceId) db.dispatch.dispatches.rows result.1.dispatches.rows ∧
        directiveColumns.others workspaceId result.1.directives = directiveColumns.others workspaceId db.dispatch.directives ∧
        result.1.selfTests = db.dispatch.selfTests ∧
        ∀ record, result.2 = .ok record → record.workspaceId = workspaceId := by
  obtain ⟨after, answer⟩ := result
  constructor
  · intro h
    refine ⟨h.dispatches, h.directives, h.selfTests, fun record hrecord => ?_⟩
    have hanswer : answer = .ok record := hrecord
    exact h.answer (.dispatch record) (by simp [Tables.onDispatch, hanswer, Except.map])
  · rintro ⟨hdispatches, hdirectives, hselfTests, hanswer⟩
    refine ⟨hdispatches, .refl, hdirectives, rfl, hselfTests, fun row hrow => ?_⟩
    cases answer with
    | error e => cases hrow
    | ok record =>
      cases hrow
      exact hanswer record rfl

theorem onJournal_confined_iff {result : Except Failure (Directive.Database × Option Directive.EffectRow)} :
    Confined workspaceId db (db.onJournal result) ↔
      ∀ after record, result = .ok (after, record) →
        effectColumns.Apart workspaceId (db.Foreign workspaceId) db.journal.effects.rows after.effects.rows ∧
          ∀ effect ∈ record, effect.workspaceId = workspaceId := by
  constructor
  · rintro h after record rfl
    refine ⟨h.effects, fun effect heffect => ?_⟩
    obtain rfl : record = some effect := heffect
    exact h.answer (.effect effect) rfl
  · intro h
    cases result with
    | error e => exact ⟨.refl, .refl, rfl, rfl, rfl, fun row hrow => by cases hrow⟩
    | ok result =>
      obtain ⟨after, record⟩ := result
      obtain ⟨heffects, hrecord⟩ := h after record rfl
      refine ⟨.refl, heffects, rfl, rfl, rfl, fun row hrow => ?_⟩
      cases record with
      | none => cases hrow
      | some effect =>
        cases hrow
        exact hrecord effect rfl

/-! ### The opening of a dispatch -/

section Opening
variable {reconcileComplete : Bool} {auth : AuthContext} {charter : ResolvedCharter} {body : DispatchOpenRequest}
  {settings : Settings} {now : Instant} {newId : String} {before : Database}

/-- The row that an opening inserted. -/
structure Inserted (auth : AuthContext) (body : DispatchOpenRequest) (newId : String) (before after : Database)
    (record : DispatchRecord) : Prop where
  id : record.id = newId
  workspace : record.workspaceId = auth.workspaceId
  directive : record.directiveId = body.directiveId
  rows : after.dispatches.rows = before.dispatches.rows ++ [record]
  fresh : ∀ old ∈ before.dispatches.rows, old.id ≠ newId
  directives : ∃ charterId, after.directives = linkDispatch before.directives body.directiveId newId charterId
  selfTests : after.selfTests = before.selfTests

theorem Inserted.apart_iff {after : Database} {record : DispatchRecord} (h : Inserted auth body newId before after record)
    {foreign : String → Prop} :
    dispatchColumns.Apart auth.workspaceId foreign before.dispatches.rows after.dispatches.rows ↔
      ¬ foreign body.directiveId := by
  have hlink : dispatchColumns.link record = body.directiveId := h.directive
  rw [h.rows, Columns.apart_append_iff h.workspace fun old hold hsame => h.fresh old hold (hsame.trans h.id), hlink]

theorem openSection_inserted {selfTestId : Option String} {after : Database} {record : DispatchRecord}
    (hattempt : before.dispatches.findAttempt body.attemptKey = none)
    (h : openSection auth charter body settings now selfTestId newId before = .ok (after, record)) :
    Inserted auth body newId before after record := by
  have hfresh := (openSection_new hattempt h).2.2.2.1
  simp only [openSection, hattempt] at h
  split_ifs at h
  · cases h
  obtain ⟨reservation, -, h⟩ := bind_ok h
  obtain ⟨matrix, -, h⟩ := bind_ok h
  split at h
  · cases h
  · rename_i dispatches hinsert
    cases h
    refine ⟨rfl, rfl, rfl, DispatchTable.insert_eq_some hinsert, fun old hold heq => hfresh ?_, ⟨_, rfl⟩, rfl⟩
    exact List.mem_map.mpr ⟨old, hold, heq⟩

/-- The opening gets past the checks that come before its section. -/
def Checked (reconcileComplete : Bool) (auth : AuthContext) (body : DispatchOpenRequest) (settings : Settings)
    (now : Instant) (before : Database) : Prop :=
  reconcileComplete = true ∧ (if body.enforcementTier = "advisory" then body.taskFamily ∈ readOnlyTaskFamilies
    else Measured before.selfTests auth body settings now)

/-- An opening is refused and changes nothing, or returns the row of its attempt, or inserts one. -/
theorem openDispatch_cases (result : Database × Except Failure DispatchRecord)
    (h : openDispatch reconcileComplete auth charter body settings now newId before = result) :
    (∃ e, result = (before, .error e)) ∨
      (∃ existing, before.dispatches.findAttempt body.attemptKey = some existing ∧
        Checked reconcileComplete auth body settings now before ∧ result = (before, .ok existing)) ∨
      ∃ after record, Admits reconcileComplete auth charter body settings now newId before ∧
        Inserted auth body newId before after record ∧ result = (after, .ok record) := by
  subst h
  unfold openDispatch
  cases hgate : openGate reconcileComplete before.selfTests auth body settings now with
  | error e => exact .inl ⟨e, rfl⟩
  | ok selfTestId =>
    have hchecked := openGate_ok_iff.mp ⟨selfTestId, hgate⟩
    cases hsection : openSection auth charter body settings now selfTestId newId before with
    | error e => exact .inl ⟨e, by simp [runCasSection, hsection]⟩
    | ok result =>
      obtain ⟨after, record⟩ := result
      refine .inr ?_
      obtain ⟨hexisting, rfl⟩ | ⟨hattempt, -, -⟩ := openSection_cases hsection
      · exact .inl ⟨record, hexisting, hchecked, by simp [runCasSection, hsection]⟩
      · obtain ⟨hroom, hrequest, hsurface, hid, -, -⟩ := openSection_new hattempt hsection
        exact .inr ⟨after, record, ⟨hchecked.1, hchecked.2, hattempt, hroom, hrequest, hsurface, hid⟩,
          openSection_inserted hattempt hsection, by simp [runCasSection, hsection]⟩

theorem openDispatch_of_existing {existing : DispatchRecord}
    (hexisting : before.dispatches.findAttempt body.attemptKey = some existing)
    (hchecked : Checked reconcileComplete auth body settings now before) :
    openDispatch reconcileComplete auth charter body settings now newId before = (before, .ok existing) := by
  obtain ⟨selfTestId, hgate⟩ := openGate_ok_iff.mpr hchecked
  unfold openDispatch
  rw [hgate]
  simp only [runCasSection, openSection, hexisting]

theorem openDispatch_of_admits (h : Admits reconcileComplete auth charter body settings now newId before) :
    ∃ after record, Inserted auth body newId before after record ∧
      openDispatch reconcileComplete auth charter body settings now newId before = (after, .ok record) := by
  obtain ⟨record, hmem, hnew, -⟩ := h.inserts
  obtain ⟨e, hresult⟩ | ⟨existing, -, -, hresult⟩ | ⟨after, record, -, hinserted, hresult⟩ := openDispatch_cases _ rfl
  · rw [hresult] at hmem
    exact absurd hmem hnew
  · rw [hresult] at hmem
    exact absurd hmem hnew
  · exact ⟨after, record, hinserted, hresult⟩

/-- An opening leaves other workspaces alone where the row of its attempt is of the workspace, and where the directive
is when it inserts one. -/
theorem openDispatch_confined_iff {reconcileComplete : Bool} {auth : AuthContext} {charter : ResolvedCharter}
    {body : DispatchOpenRequest} {settings : Settings} {now : Instant} {newId : String}
    {hids : (openDispatch reconcileComplete auth charter body settings now newId db.dispatch).1.directives.map
      (·.directiveId) = db.dispatch.directives.map (·.directiveId)} :
    Confined auth.workspaceId db (db.onDispatch
        (openDispatch reconcileComplete auth charter body settings now newId db.dispatch) hids) ↔
      (Checked reconcileComplete auth body settings now db.dispatch →
        ∀ existing, db.dispatch.dispatches.findAttempt body.attemptKey = some existing →
          existing.workspaceId = auth.workspaceId) ∧
      (Admits reconcileComplete auth charter body settings now newId db.dispatch →
        ¬ db.Foreign auth.workspaceId body.directiveId) := by
  rw [onDispatch_confined_iff]
  constructor
  · rintro ⟨hdispatches, -, -, hanswer⟩
    refine ⟨fun hchecked existing hexisting => ?_, fun hadmits => ?_⟩
    · exact hanswer existing (by rw [openDispatch_of_existing hexisting hchecked])
    · obtain ⟨after, record, hinserted, hresult⟩ := openDispatch_of_admits hadmits
      rw [hresult] at hdispatches
      exact hinserted.apart_iff.mp hdispatches
  · rintro ⟨hexistings, hforeign⟩
    obtain ⟨e, hresult⟩ | ⟨existing, hexisting, hchecked, hresult⟩ | ⟨after, record, hadmits, hinserted, hresult⟩ :=
      @openDispatch_cases reconcileComplete auth charter body settings now newId db.dispatch _ rfl
    · rw [hresult]
      exact ⟨.refl, rfl, rfl, fun record hrecord => by cases hrecord⟩
    · rw [hresult]
      refine ⟨.refl, rfl, rfl, fun record hrecord => ?_⟩
      cases hrecord
      exact hexistings hchecked existing hexisting
    · have howned := hforeign hadmits
      rw [hresult]
      refine ⟨hinserted.apart_iff.mpr howned, ?_, hinserted.selfTests, fun record' hrecord' => ?_⟩
      · obtain ⟨charterId, hdirectives⟩ := hinserted.directives
        rw [hdirectives]
        refine (Columns.others_map_iff fun directive => ?_).mpr fun directive hdirective hother => ?_
        · split_ifs <;> rfl
        · exact if_neg fun hid => howned ⟨directive, hdirective, hid, hother⟩
      · cases hrecord'
        exact hinserted.workspace

end Opening

theorem dispatchOpen_confined_iff {service : ServiceState} {caller : TenantCaller} {now : Datetime} {idempotencyKey : String}
    {charter : Except Failure (Option ResolvedCharter)} {body : DispatchOpenRequest} {newId : String} :
    Confined caller.workspaceId db (db.onDispatch (dispatchOpen service.reconcileComplete caller.auth idempotencyKey charter
        body service.dispatch now.instant newId db.dispatch) dispatchOpen_ids) ↔
      OwnIds host service caller now db (.dispatchOpen idempotencyKey charter body newId) := by
  have hrefused (hnone : ∀ resolved, ¬ Reaches service caller now idempotencyKey charter resolved body db)
      {e : Failure} {hids} : Confined caller.workspaceId db (db.onDispatch (db.dispatch, .error e) hids) ↔
        OwnIds host service caller now db (.dispatchOpen idempotencyKey charter body newId) := by
    refine iff_of_true ?_ fun resolved hreaches => absurd hreaches (hnone resolved)
    rw [onDispatch_confined_iff]
    exact ⟨.refl, rfl, rfl, fun record hrecord => by cases hrecord⟩
  by_cases hkey : strip idempotencyKey = ""
  · simp only [dispatchOpen, if_pos hkey]
    exact hrefused fun resolved hreaches => hreaches.key hkey
  simp only [dispatchOpen, if_neg hkey]
  rcases charter with e | _ | resolved
  · exact hrefused fun resolved hreaches => by cases hreaches.charter
  · exact hrefused fun resolved hreaches => by cases hreaches.charter
  refine (@openDispatch_confined_iff db service.reconcileComplete caller.auth resolved body service.dispatch now.instant
    newId openDispatch_ids).trans ?_
  constructor
  · rintro ⟨hexisting, hforeign⟩ resolved' hreaches
    cases hreaches.charter
    exact ⟨hexisting ⟨hreaches.reconciled, hreaches.sandbox⟩, hforeign⟩
  · intro h
    refine ⟨fun hchecked => (h resolved ⟨hkey, rfl, hchecked.1, hchecked.2⟩).1, fun hadmits => ?_⟩
    exact (h resolved ⟨hkey, rfl, hadmits.reconciled, hadmits.sandbox⟩).2 hadmits

/-! ### Binding and reconciling -/

theorem DispatchRecord.bind_eq_self_iff {record : DispatchRecord} {body : Payload} {now : Datetime} :
    record.bind (boundRunId host body) (boundTurnId host body) now.instant = record ↔ record.BoundSo host body now := by
  cases record
  simp only [DispatchRecord.bind, DispatchRecord.BoundSo, DispatchRecord.mk.injEq, true_and]
  tauto

theorem loadDispatch_workspaceId {t : DispatchTable} {dispatchId workspaceId : String} {record : DispatchRecord}
    (h : loadDispatch t dispatchId workspaceId = some record) : record.workspaceId = workspaceId :=
  of_decide_eq_true (Option.filter_eq_some_iff.mp h).2

/-- Wherever it ends, a binding has updated the row of the bare id. -/
theorem dispatchBindProvider_fst {auth : AuthContext} {dispatchId : String} {body : Payload} {now : Instant}
    {before : Database} : (dispatchBindProvider host auth dispatchId body now before).1 =
      {before with dispatches :=
        before.dispatches.bindProviderRun dispatchId (boundRunId host body) (boundTurnId host body) now} := by
  unfold dispatchBindProvider
  dsimp only
  split <;> rfl

theorem dispatchBindProvider_answer {auth : AuthContext} {dispatchId : String} {body : Payload} {now : Instant}
    {before : Database} {record : DispatchRecord}
    (h : (dispatchBindProvider host auth dispatchId body now before).2 = .ok record) :
    record.workspaceId = auth.workspaceId := by
  unfold dispatchBindProvider at h
  dsimp only at h
  split at h
  · cases h
  · rename_i loaded hloaded
    cases h
    exact loadDispatch_workspaceId hloaded

theorem dispatchBindProvider_confined_iff {service : ServiceState} {caller : TenantCaller} {now : Datetime}
    {dispatchId : String} {body : Payload} :
    Confined caller.workspaceId db (db.onDispatch
        (dispatchBindProvider host caller.auth dispatchId body now.instant db.dispatch) (dispatchBindProvider_ids host)) ↔
      OwnIds host service caller now db (.dispatchBindProvider dispatchId body) := by
  have hrows : dispatchColumns.Apart caller.workspaceId (db.Foreign caller.workspaceId) db.dispatch.dispatches.rows
      (db.dispatch.dispatches.bindProviderRun dispatchId (boundRunId host body) (boundTurnId host body) now.instant).rows ↔
        OwnIds host service caller now db (.dispatchBindProvider dispatchId body) := by
    refine Iff.trans (Columns.apart_update_iff (fun _ => rfl) (fun _ => rfl) fun _ => rfl) ?_
    constructor
    · intro h record hrecord
      obtain ⟨hmem, hid⟩ := Table.find_eq_some_iff.mp hrecord
      refine or_iff_not_imp_left.mpr fun hother => ?_
      exact (DispatchRecord.bind_eq_self_iff host).mp (h record hmem hother (decide_eq_true hid))
    · intro h record hmem hother hid
      have hbound := h record (Table.find_eq_some_iff.mpr ⟨hmem, of_decide_eq_true hid⟩)
      exact (DispatchRecord.bind_eq_self_iff host).mpr (hbound.resolve_left hother)
  rw [onDispatch_confined_iff, dispatchBindProvider_fst]
  refine ⟨fun h => hrows.mp h.1, fun h => ⟨hrows.mpr h, rfl, rfl, fun record hrecord => ?_⟩⟩
  exact dispatchBindProvider_answer host hrecord

/-- A reconciliation that parses updates the row of the bare id, and returns it. -/
theorem dispatchReconcile_of_ok {dispatchId : String} {body : DispatchReconcileRequest} {now : Instant} {before : Database}
    {record : DispatchRecord} {reconciliation : Reconciliation} (hrecord : before.dispatches.find dispatchId = some record)
    (hparsed : reconciliationFromJson host body.reconciliation = .ok reconciliation) :
    dispatchReconcile host dispatchId body now before =
      ({before with dispatches := before.dispatches.reconcile dispatchId body (some reconciliation) now},
        .ok (record.reconciled body (some reconciliation) now)) := by
  unfold dispatchReconcile runCasSection reconcileSection
  simp only [hrecord, hparsed]
  rfl

theorem dispatchReconcile_of_refused {dispatchId : String} {body : DispatchReconcileRequest} {now : Instant}
    {before : Database}
    (h : before.dispatches.find dispatchId = none ∨ (reconciliationFromJson host body.reconciliation).isOk = false) :
    ∃ e, dispatchReconcile host dispatchId body now before = (before, .error e) := by
  unfold dispatchReconcile runCasSection reconcileSection
  cases hfound : before.dispatches.find dispatchId with
  | none => exact ⟨_, rfl⟩
  | some record =>
    cases hparsed : reconciliationFromJson host body.reconciliation with
    | error e => exact ⟨_, rfl⟩
    | ok reconciliation =>
      rw [hfound, hparsed] at h
      simp [Except.isOk, Except.toBool] at h

theorem dispatchReconcile_confined_iff {service : ServiceState} {caller : TenantCaller} {now : Datetime}
    {dispatchId : String} {body : DispatchReconcileRequest} :
    Confined caller.workspaceId db (db.onDispatch (dispatchReconcile host dispatchId body now.instant db.dispatch)
        (dispatchReconcile_ids host)) ↔
      OwnIds host service caller now db (.dispatchReconcile dispatchId body) := by
  rw [onDispatch_confined_iff]
  by_cases hrefused : db.dispatch.dispatches.find dispatchId = none ∨
      (reconciliationFromJson host body.reconciliation).isOk = false
  · obtain ⟨e, hresult⟩ := @dispatchReconcile_of_refused host dispatchId body now.instant db.dispatch hrefused
    rw [hresult]
    refine iff_of_true ⟨.refl, rfl, rfl, fun record hrecord => by cases hrecord⟩ fun record hrecord => ?_
    exact .inr (hrefused.resolve_left (by simp [hrecord]))
  · obtain ⟨hfound, hok⟩ := not_or.mp hrefused
    obtain ⟨record, hrecord⟩ := Option.ne_none_iff_exists'.mp hfound
    cases hparsed : reconciliationFromJson host body.reconciliation with
    | error e =>
      rw [hparsed] at hok
      exact absurd rfl hok
    | ok reconciliation =>
      rw [dispatchReconcile_of_ok host hrecord hparsed]
      constructor
      · rintro ⟨-, -, -, hanswer⟩ record' hrecord'
        obtain rfl := Option.some.inj (hrecord.symm.trans hrecord')
        exact .inl (hanswer (record.reconciled body (some reconciliation) now.instant) rfl)
      · intro h
        have hworkspace : record.workspaceId = caller.workspaceId := (h record hrecord).resolve_right hok
        refine ⟨?_, rfl, rfl, fun record' hrecord' => ?_⟩
        · refine Iff.mpr (Columns.apart_update_iff (fun _ => rfl) (fun _ => rfl) fun _ => rfl) ?_
          intro record' hmem hother hid
          have hfind := Table.find_eq_some_iff.mpr ⟨hmem, of_decide_eq_true hid⟩
          obtain rfl := Option.some.inj (hrecord.symm.trans hfind)
          exact absurd hworkspace hother
        · cases hrecord'
          exact hworkspace

/-! ### The opening of an effect -/

theorem mem_loadEffects {journal : Directive.Database} {directiveId : String} {effect : Directive.EffectRow} :
    effect ∈ Directive.loadEffectsForDirective journal directiveId ↔
      effect ∈ journal.effects.rows ∧ effect.directiveId = directiveId := by
  rw [Directive.loadEffectsForDirective, List.mem_insertionSort, List.mem_filter, decide_eq_true_eq]

/-- The record of an id, among those of its directive. -/
theorem find_loadEffects {journal : Directive.Database} {effect : Directive.EffectRow}
    (heffect : effect ∈ journal.effects.rows) :
    ((Directive.loadEffectsForDirective journal effect.directiveId).find? fun record =>
      record.effectId = effect.effectId) = some effect := by
  have hlisted := mem_loadEffects.mpr ⟨heffect, rfl⟩
  cases hfound : (Directive.loadEffectsForDirective journal effect.directiveId).find? fun record =>
      record.effectId = effect.effectId with
  | none => exact absurd (decide_eq_true rfl) (List.find?_eq_none.mp hfound effect hlisted)
  | some found =>
    have hmem := (mem_loadEffects.mp (List.mem_of_find?_eq_some hfound)).1
    have hid : found.effectId = effect.effectId := by simpa using List.find?_some hfound
    rw [List.inj_on_of_nodup_map journal.effects.nodup hmem heffect hid]

section EffectOpening
variable {settings : Directive.Settings} {charter : Except Failure Unit} {call : Directive.OpenCall}
  {journal : Directive.Database}

theorem effectOpen_of_refused (h : settings.effectJournalEnabled = true → charter.isOk = true → False) :
    ∃ e, Directive.effectOpen host settings charter call journal = .error e := by
  unfold Directive.effectOpen
  by_cases hjournal : settings.effectJournalEnabled = true
  · cases charter with
    | error e => exact ⟨e, by simp only [hjournal]; rfl⟩
    | ok => exact (h hjournal rfl).elim
  · rw [Bool.not_eq_true] at hjournal
    exact ⟨_, by simp only [hjournal]; rfl⟩

variable (hjournal : settings.effectJournalEnabled = true) (hcharter : charter.isOk = true)
include hjournal hcharter

/-- Past its gates, the opening does what `open_effect` does. -/
theorem effectOpen_of_ready {result : Except String (Directive.Database × String)}
    (h : Directive.openEffect host journal call.request = result) :
    (∀ reason, result = .error reason → ∃ e, Directive.effectOpen host settings charter call journal = .error e) ∧
      ∀ after effectId, result = .ok (after, effectId) →
        Directive.effectOpen host settings charter call journal = .ok (after,
          (Directive.loadEffectsForDirective after call.body.directiveId).find? fun record => record.effectId = effectId) := by
  cases charter with
  | error e => cases hcharter
  | ok =>
    unfold Directive.effectOpen
    simp only [hjournal, h, Bool.not_true, Bool.false_eq_true, if_false]
    constructor
    · rintro reason rfl
      by_cases hstale : reason = "stale_lease"
      · subst hstale
        exact ⟨_, rfl⟩
      · refine ⟨.integrityError, ?_⟩
        split
        · rename_i hreason
          cases hreason
          exact absurd rfl hstale
        · rfl
        · rename_i hreason
          cases hreason
    · rintro after effectId rfl
      rfl

end EffectOpening

/-- An INSERT is refused where its key is taken. -/
theorem insert_effect_isSome_iff {effects : Table Directive.EffectRow.effectId} {effect : Directive.EffectRow} :
    (effects.insert effect).isSome ↔ effect.effectId ∉ effects.rows.map Directive.EffectRow.effectId := by
  unfold Table.insert
  split_ifs with hfresh <;> simp [hfresh]

/-- What `open_effect` leaves to the other workspaces. -/
theorem openEffect_confined_iff {request : Directive.OpenRequest} :
    (∀ after effectId, Directive.openEffect host db.journal request = .ok (after, effectId) →
        effectColumns.Apart request.workspaceId (db.Foreign request.workspaceId) db.journal.effects.rows after.effects.rows ∧
          ∀ effect ∈ (Directive.loadEffectsForDirective after request.directiveId).find? fun record =>
            record.effectId = effectId, effect.workspaceId = request.workspaceId) ↔
      (∀ existing, db.journal.effectOf request.directiveId (Directive.effectIntentDigest host request.intent) = some existing →
        existing.workspaceId = request.workspaceId) ∧
      (db.journal.effectOf request.directiveId (Directive.effectIntentDigest host request.intent) = none →
        request.fenced db.journal = true → request.newId ∉ db.journal.effects.rows.map Directive.EffectRow.effectId →
          ¬ db.Foreign request.workspaceId request.directiveId) := by
  cases hrow : db.journal.effectOf request.directiveId (Directive.effectIntentDigest host request.intent) with
  | some existing =>
    have hexisting : existing ∈ db.journal.effects.rows := List.mem_of_find?_eq_some hrow
    have hdirective : existing.directiveId = request.directiveId := by
      have hfound := List.find?_some hrow
      simp only [Bool.and_eq_true, decide_eq_true_eq] at hfound
      exact hfound.1
    have hopen : Directive.openEffect host db.journal request = .ok (db.journal, existing.effectId) := by
      simp only [Directive.openEffect, hrow]
    have hanswer := hdirective ▸ find_loadEffects hexisting
    rw [hopen]
    constructor
    · intro h
      refine ⟨?_, fun hnone => by cases hnone⟩
      rintro _ ⟨⟩
      exact (h _ _ rfl).2 existing hanswer
    · rintro h _ _ ⟨⟩
      refine ⟨.refl, fun effect heffect => ?_⟩
      obtain rfl := Option.some.inj (hanswer.symm.trans heffect)
      exact h.1 existing rfl
  | none =>
    by_cases hfenced : request.fenced db.journal = true
    · cases hinsert : db.journal.effects.insert (request.row host db.journal) with
      | none =>
        have hopen : Directive.openEffect host db.journal request = .error "integrity" := by
          simp [Directive.openEffect, hrow, hfenced, hinsert]
        rw [hopen]
        refine iff_of_true (fun _ _ h => by cases h) ⟨fun _ h => (by cases h), fun _ _ hfresh => ?_⟩
        have hsome := insert_effect_isSome_iff.mpr (show (request.row host db.journal).effectId ∉ _ from hfresh)
        rw [hinsert] at hsome
        cases hsome
      | some effects =>
        have hopen : Directive.openEffect host db.journal request = .ok ({db.journal with effects}, request.newId) := by
          simp [Directive.openEffect, hrow, hfenced, hinsert]
        have hfresh := insert_effect_isSome_iff.mp (Option.isSome_iff_exists.mpr ⟨effects, hinsert⟩)
        have hrows := Table.insert_eq_some hinsert
        have hapart : effectColumns.Apart request.workspaceId (db.Foreign request.workspaceId) db.journal.effects.rows
            effects.rows ↔ ¬ db.Foreign request.workspaceId request.directiveId := by
          rw [hrows]
          refine Columns.apart_append_iff rfl fun effect heffect hsame => hfresh ?_
          exact List.mem_map.mpr ⟨effect, heffect, hsame⟩
        have hnew : request.row host db.journal ∈ effects.rows := hrows ▸ List.mem_append_right _ (List.mem_singleton_self _)
        have hanswer := @find_loadEffects {db.journal with effects} _ hnew
        rw [hopen]
        constructor
        · intro h
          exact ⟨fun _ h => (by cases h), fun _ _ _ => hapart.mp (h _ _ rfl).1⟩
        · rintro ⟨-, h⟩ _ _ ⟨⟩
          refine ⟨hapart.mpr (h rfl hfenced hfresh), fun effect heffect => ?_⟩
          obtain rfl := Option.some.inj (hanswer.symm.trans heffect)
          rfl
    · have hopen : Directive.openEffect host db.journal request = .error "stale_lease" := by
        simp [Directive.openEffect, hrow, hfenced]
      rw [hopen]
      exact iff_of_true (fun _ _ h => by cases h) ⟨fun _ h => (by cases h), fun _ h => absurd h hfenced⟩

theorem effectOpen_confined_iff {service : ServiceState} {caller : TenantCaller} {now : Datetime}
    {charter : Except Failure Unit} {body : Directive.EffectOpenRequest} {newId : String} :
    Confined caller.workspaceId db (db.onJournal (Directive.effectOpen host service.journal charter
        ⟨caller.identity, caller.auth.userId, body, now, newId⟩ db.journal)) ↔
      OwnIds host service caller now db (.effectOpen charter body newId) := by
  rw [onJournal_confined_iff]
  by_cases hready : service.journal.effectJournalEnabled = true ∧ charter.isOk = true
  · obtain ⟨hjournal, hcharter⟩ := hready
    have hown := @openEffect_confined_iff host db
      (Directive.OpenCall.request ⟨caller.identity, caller.auth.userId, body, now, newId⟩)
    refine Iff.trans ?_ (hown.trans ⟨fun h _ _ => h, fun h => h hjournal hcharter⟩)
    obtain ⟨herror, hok⟩ := effectOpen_of_ready host hjournal hcharter
      (Eq.refl (Directive.openEffect host db.journal
        (Directive.OpenCall.request ⟨caller.identity, caller.auth.userId, body, now, newId⟩)))
    cases hopen : Directive.openEffect host db.journal
        (Directive.OpenCall.request ⟨caller.identity, caller.auth.userId, body, now, newId⟩) with
    | error reason =>
      obtain ⟨e, he⟩ := herror reason hopen
      rw [he]
      exact iff_of_true (fun _ _ h => by cases h) fun _ _ h => by cases h
    | ok result =>
      obtain ⟨after, effectId⟩ := result
      rw [hok after effectId hopen]
      constructor
      · rintro h _ _ ⟨⟩
        exact h _ _ rfl
      · rintro h _ _ ⟨⟩
        exact h _ _ rfl
  · obtain ⟨e, he⟩ := @effectOpen_of_refused host service.journal charter
      ⟨caller.identity, caller.auth.userId, body, now, newId⟩ db.journal fun hjournal hcharter => hready ⟨hjournal, hcharter⟩
    rw [he]
    refine iff_of_true (fun _ _ h => by cases h) fun hjournal hcharter => absurd ⟨hjournal, hcharter⟩ hready

/-! ### The resolution of an effect -/

/-- A resolution updates no row but the one of its id. -/
theorem resolveEffect_apart {before after : Directive.Database} {request : Directive.ResolveRequest} {hit : Bool}
    {foreign : String → Prop} (h : Directive.resolveEffect before request = .ok (after, hit))
    (hown : ∀ effect ∈ before.effects.rows, effect.effectId = request.effectId → effect.workspaceId = workspaceId) :
    effectColumns.Apart workspaceId foreign before.effects.rows after.effects.rows := by
  unfold Directive.resolveEffect at h
  split at h
  · cases h
    exact .refl
  split at h
  · cases h
  cases h
  refine Iff.mpr (Columns.apart_update_iff (fun _ => rfl) (fun _ => rfl) fun _ => rfl) ?_
  intro effect heffect hother hhit
  simp only [Bool.and_eq_true, decide_eq_true_eq] at hhit
  exact absurd (hown effect heffect hhit.1.1) hother

theorem effectResolve_apart {before after : Directive.Database} {charter : Except Failure Unit}
    {caller : Directive.Caller} {effectId : String} {body : Directive.EffectResolveRequest} {now : Datetime}
    {foreign : String → Prop} (h : Directive.effectResolve charter caller effectId body now before = .ok after)
    (hown : ∀ effect ∈ before.effects.rows, effect.effectId = effectId → effect.workspaceId = caller.workspaceId) :
    effectColumns.Apart caller.workspaceId foreign before.effects.rows after.effects.rows := by
  unfold Directive.effectResolve at h
  split at h
  · cases h
  obtain ⟨-, -, h⟩ := bind_ok h
  obtain ⟨-, -, h⟩ := bind_ok h
  split at h
  · cases h
  · cases h
  · rename_i hresolved
    cases h
    exact resolveEffect_apart hresolved hown

/-- A resolution asks for the workspace of the row first. -/
theorem effectResolve_confined {caller : TenantCaller} {now : Datetime} {charter : Except Failure Unit} {effectId : String}
    {body : Directive.EffectResolveRequest} :
    Confined caller.workspaceId db (db.onJournal (effectResolve charter caller.identity effectId body now db.journal)) := by
  rw [onJournal_confined_iff]
  intro after record h
  obtain ⟨resolved, hresolved, h⟩ := bind_ok h
  cases h
  obtain ⟨row, target, hgranted, -, hrows⟩ := Directive.effectResolve_ok hresolved
  have hown : ∀ effect ∈ db.journal.effects.rows, effect.effectId = effectId → effect.workspaceId = caller.workspaceId := by
    intro effect heffect hid
    have hfind := Table.find_eq_some_iff.mpr ⟨heffect, hid⟩
    obtain rfl := Option.some.inj (hgranted.find.symm.trans hfind)
    exact hgranted.workspace
  refine ⟨effectResolve_apart hresolved hown, fun effect heffect => ?_⟩
  obtain ⟨found, -, hfound⟩ := Option.bind_eq_some_iff.mp heffect
  obtain ⟨hmem, -⟩ := mem_loadEffects.mp (List.mem_of_find?_eq_some hfound)
  have hid : effect.effectId = effectId := by simpa using List.find?_some hfound
  have hafter := hrows effectId
  rw [Table.find_eq_some_iff.mpr ⟨hmem, hid⟩, hgranted.find, Option.map_some, if_pos rfl] at hafter
  rw [Option.some.inj hafter]
  exact hgranted.workspace

/-- A call of any caller, with whatever ids, leaves the rows of other workspaces, links no row of its own to a
directive of another and answers with no row of another, exactly where the rows that its ids find are of the
workspace or it is refused before it gets to them. -/
theorem perform_confined_iff (service : ServiceState) (caller : TenantCaller) (now : Datetime) (call : TenantCall)
    (db : Tables) :
    Confined caller.workspaceId db (perform host service caller now call db) ↔
      caller.isAdvisor = true ∨ OwnIds host service caller now db call := by
  unfold perform
  by_cases hadvisor : caller.isAdvisor = true
  · rw [if_pos hadvisor]
    refine iff_of_true ⟨.refl, .refl, rfl, rfl, rfl, fun row hrow => by cases hrow⟩ (.inl hadvisor)
  rw [if_neg hadvisor, or_iff_right hadvisor]
  cases call with
  | dispatchOpen idempotencyKey charter body newId => exact dispatchOpen_confined_iff host
  | dispatchBindProvider dispatchId body => exact dispatchBindProvider_confined_iff host
  | dispatchReconcile dispatchId body => exact dispatchReconcile_confined_iff host
  | effectOpen charter body newId => exact effectOpen_confined_iff host
  | effectResolve charter effectId body => exact iff_of_true effectResolve_confined trivial

end Confinement

/-! ### A run bound from elsewhere -/

/-- A dispatch of the workspace `w`. -/
def otherDispatch : DispatchRecord :=
  (exampleBody "d").row exampleAuth exampleCharter ⟨5, "USD", .unsupported, none⟩ [] none "default" "x" epoch

/-- The directive and its dispatch, both of the workspace `w`. -/
def otherTables : Tables where
  dispatch := ⟨⟨⟨[otherDispatch], List.nodup_singleton _⟩, List.nodup_singleton _⟩, [⟨"d", "w", some "x", some "c"⟩], []⟩
  journal := ⟨⟨[Directive.exampleDirective], List.nodup_singleton _⟩, ⟨[], List.nodup_nil⟩⟩
  aligned := rfl

/-- Somebody of the workspace `v`. -/
def strangerCaller : TenantCaller := ⟨⟨"v", "p", "p", "supervisor"⟩, false, false, false⟩

/-- The stranger binds a run of its own to the dispatch; the answer says that there is no such dispatch. -/
theorem stranger_binds : ¬ Confined strangerCaller.workspaceId otherTables
    (perform (asciiHost [] []) ⟨true, exampleSettings, Directive.exampleSettings⟩ strangerCaller (Directive.exampleTime 10)
      (.dispatchBindProvider "x" [("provider_run_id", .str "q")]) otherTables) := by
  intro h
  exact absurd (congrArg (List.map (·.providerRunId)) h.dispatches.others) (by decide +kernel)

end OpenTimeline.Dispatch
