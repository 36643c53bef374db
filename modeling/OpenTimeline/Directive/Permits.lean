import OpenTimeline.Service
import OpenTimeline.Library.Selection
import OpenTimeline.Library.Table
import OpenTimeline.Directive.Endpoints

/-! The permit that a claim picks.

A claim of a directive that has no permit takes one row from the session's: the newest that a SQL filter
lets through. The rule that then judges it asks for more than the filter (the charter, the digest of the
scope, and the objective also where the directive has none) and takes an empty column for a wildcard,
which the filter does not. So what the session holds counts only through that one row
(`picks_binding_iff`). -/
namespace OpenTimeline.Directive
open Library

variable (host : Host)

/-! ### Rows -/

/-- A row of `execution_permits`. -/
structure PermitRow where
  id : String
  sessionId : String
  workspaceId : String
  actionKind : String
  targetPaths : List String
  commandPreview : Option String
  decision : String
  reason : String
  expiresAt : Option Datetime
  createdAt : Datetime
  resolvedAt : Option Datetime
  userId : Option String
  requestedBy : Option String
  directiveId : Option String
  attempt : Option Int
  objectiveHash : Option String
  scopeDigest : Option String
  charterId : Option String
deriving DecidableEq, Repr

/-- `str(column) if column else None` -/
def filled (column : Option String) : Option String := column.filter fun text => text ≠ ""

/-- The permit as the rule is given it. -/
def PermitRow.read (row : PermitRow) : Permit where
  decision := filled (some row.decision)
  expiresAt := row.expiresAt
  userId := filled row.userId
  directiveId := filled row.directiveId
  objectiveHash := filled row.objectiveHash
  scopeDigest := filled row.scopeDigest
  charterId := filled row.charterId
  actionKind := row.actionKind
  targetPaths := row.targetPaths
  commandPreview := filled row.commandPreview

/-- A row of `directive_executions`, with its session. -/
structure SessionDirective extends DirectiveExecution where
  workspaceId : String
  sessionId : String
  actionKind : String
  attempt : Int
deriving DecidableEq, Repr

structure PermitDatabase where
  permits : Table PermitRow.id
  directives : Table fun d : SessionDirective => d.directiveId

/-! ### The lookup -/

/-- The WHERE clause of the lookup. -/
def PermitRow.selects (sessionId workspaceId : String) (now : Datetime) (d : SessionDirective) (row : PermitRow) : Bool :=
  row.sessionId = sessionId && row.workspaceId = workspaceId && row.decision = "allow" &&
    row.expiresAt.all (fun expiresAt => now.instant < expiresAt.instant) &&
    (row.userId = none || row.userId = some d.userId) &&
    (row.objectiveHash = none || d.objectiveHash = none || row.objectiveHash = d.objectiveHash) &&
    (row.directiveId = none || row.directiveId = some d.directiveId)

/-- `COALESCE(resolved_at, created_at)` -/
def PermitRow.decidedAt (row : PermitRow) : Instant := (row.resolvedAt.getD row.createdAt).instant

/-- `ORDER BY … DESC LIMIT 1` -/
def PermitDatabase.lookup (db : PermitDatabase) (sessionId workspaceId : String) (now : Datetime)
    (d : SessionDirective) : Option PermitRow :=
  ((db.permits.rows.filter (·.selects sessionId workspaceId now d)).insertionSort
    fun a b => b.decidedAt ≤ a.decidedAt).head?

/-- The permit of an id, where it is of the session. -/
def PermitDatabase.permitOf (db : PermitDatabase) (sessionId workspaceId permitId : String) : Option PermitRow :=
  (db.permits.find permitId).filter fun row => row.sessionId = sessionId && row.workspaceId = workspaceId

/-- The UPDATE of the permit picked: it is the directive's now, where it was nobody's. -/
def PermitRow.attach (d : SessionDirective) (row : PermitRow) : PermitRow :=
  if row.directiveId = none then {row with directiveId := some d.directiveId, attempt := some d.attempt} else row

theorem PermitRow.attach_id (d : SessionDirective) (row : PermitRow) : (row.attach d).id = row.id := by
  unfold attach
  split_ifs <;> rfl

/-- The two UPDATEs that attach a permit to a directive. -/
def PermitDatabase.attach (db : PermitDatabase) (d : SessionDirective) (permitId : String) (now : Datetime) :
    PermitDatabase where
  permits := db.permits.updateWhere (fun row => row.id = permitId) (·.attach d) (PermitRow.attach_id d)
  directives := db.directives.updateWhere (fun row => row.directiveId = d.directiveId)
    (fun row => {row with permitId := some permitId, updatedAt := now}) fun _ => rfl

/-! ### claim_execution -/

/-- The caller's identity, the request and the charter active for the caller. -/
structure ClaimCall where
  workspaceId : String
  userId : String
  consumer : String
  sessionId : String
  directiveId : Option String
  claimedBy : Option String
  now : Datetime
  activeCharterId : Option String

namespace ClaimCall

/-- The row the claim reads: the one named, or the newest that is pending. -/
def row (call : ClaimCall) (db : PermitDatabase) : Option SessionDirective :=
  let own (d : SessionDirective) : Bool :=
    d.sessionId = call.sessionId && d.workspaceId = call.workspaceId && d.userId = call.userId
  match call.directiveId with
  | some directiveId => (db.directives.find directiveId).filter own
  | none => ((db.directives.rows.filter fun d => own d && d.state = .pending).insertionSort
      fun a b => b.createdAt.instant ≤ a.createdAt.instant).head?

/-- The permit that the claim looks for, where the directive needs one and has none. -/
def picked (call : ClaimCall) (db : PermitDatabase) (d : SessionDirective) : Option PermitRow :=
  if d.state = .pending ∧ d.requiresPermit ∧ d.permitId = none then
    db.lookup call.sessionId call.workspaceId call.now d
  else none

/-- The tables once that permit is attached. -/
def attached (call : ClaimCall) (db : PermitDatabase) (d : SessionDirective) : PermitDatabase :=
  match call.picked db d with
  | some permit => db.attach d permit.id call.now
  | none => db

/-- What the rule is asked about. -/
def request (call : ClaimCall) (db : PermitDatabase) (d : SessionDirective) : ClaimRequest where
  executorId := call.consumer
  claimedBy := call.claimedBy.getD call.userId
  now := call.now
  lookup := (call.picked db d).map (·.id)
  permit := ((d.permitId <|> (call.picked db d).map (·.id)).bind
    ((call.attached db d).permitOf call.sessionId call.workspaceId)).map (·.read)
  activeCharterId := call.activeCharterId

end ClaimCall

/-- The row under a fenced UPDATE. -/
def FencedUpdate.onSession (update : FencedUpdate) (d : SessionDirective) : SessionDirective :=
  {d with toDirectiveExecution := (update.apply d.toDirectiveExecution).getD d.toDirectiveExecution}

theorem FencedUpdate.onSession_directiveId (update : FencedUpdate) (d : SessionDirective) :
    (update.onSession d).directiveId = d.directiveId := by
  unfold onSession apply
  split_ifs
  · exact update.set_directiveId _
  · rfl

/-- The transaction of `claim_execution`. The charter gate may refuse before anything is written. -/
def claimSection (settings : Settings) (gate : SessionDirective → Except Failure Unit) (call : ClaimCall)
    (db : PermitDatabase) : Except Failure (PermitDatabase × SessionDirective) :=
  match call.row db with
  | none => .error (.http 404 [("detail", .str "no pending directive found")])
  | some d => do
    gate d
    match claimExecution host settings (call.request db d) d.toDirectiveExecution with
    | .refused reason message => .error (.http 409 [("reason", reason.elim .null .str),
        ("directive_id", .str d.directiveId), ("message", .str message)])
    | .raised e => .error (.raised e)
    -- a terminal directive, or one that is claimed again: what was written is rolled back
    | .unchanged => .ok (db, d)
    | .writes update =>
      let written := (call.attached db d).directives.updateWhere (fun row => row.directiveId = d.directiveId)
        update.onSession update.onSession_directiveId
      .ok ({permits := (call.attached db d).permits, directives := written}, update.onSession d)

/-- `claim_execution`: where the transaction raises it is rolled back. -/
def claimExecutionLite (settings : Settings) (gate : SessionDirective → Except Failure Unit) (call : ClaimCall)
    (db : PermitDatabase) : PermitDatabase × Except Failure SessionDirective :=
  runCasSection (claimSection host settings gate call) db

/-! ### What binds -/

/-- What the rule is asked of a row for a directive. -/
def PermitRow.binding (settings : Settings) (call : ClaimCall) (d : SessionDirective) (row : PermitRow) : PermitBinding where
  permitDecision := row.read.decision
  permitExpiresAt := row.expiresAt
  permitUserId := row.read.userId
  permitDirectiveId := row.read.directiveId
  permitObjectiveHash := row.read.objectiveHash
  permitScopeDigest := row.read.scopeDigest
  expectedScopeDigest := some (permitScopeDigest host row.actionKind row.targetPaths row.read.commandPreview)
  scopeDigestEnforced := settings.permitScopeDigestEnforced
  permitCharterId := row.read.charterId
  activeCharterId := call.activeCharterId
  directiveId := d.directiveId
  directiveUserId := d.userId
  directiveObjectiveHash := d.objectiveHash
  startedAt := none
  now := call.now
  phase := .claim

/-- The row satisfies `permit_binding_ok` for the directive. -/
def PermitRow.Binds (settings : Settings) (call : ClaimCall) (d : SessionDirective) (row : PermitRow) : Prop :=
  (permitBindingOk (row.binding host settings call d)).1 = true

/-- What the rule asks and the filter does not: the charter, the digest of the scope, and the objective where the
directive has none. -/
structure PermitRow.Agrees (settings : Settings) (call : ClaimCall) (d : SessionDirective) (row : PermitRow) : Prop where
  digest : settings.permitScopeDigestEnforced → filled row.scopeDigest ≠ none
  scope : differ (filled row.scopeDigest)
    (some (permitScopeDigest host row.actionKind row.targetPaths (filled row.commandPreview))) = false
  charter : differ (filled row.charterId) call.activeCharterId = false
  objective : d.objectiveHash = none → filled row.objectiveHash = none

/-- The claim gets past the check of its permit. -/
def ClaimCall.Passes (settings : Settings) (call : ClaimCall) (db : PermitDatabase) (d : SessionDirective) : Prop :=
  ∃ attached expires reason, (call.request db d).permitCheck host settings d.toDirectiveExecution =
    .ok (attached, expires, true, reason)

variable {host} {settings : Settings} {call : ClaimCall} {db db' : PermitDatabase} {d : SessionDirective} {row : PermitRow}

theorem differ_eq_false_iff {a b : Option String} : differ a b = false ↔ a = none ∨ b = none ∨ a = b := by
  cases a <;> cases b <;> simp [differ]

theorem filled_eq_some_allow {text : String} : filled (some text) = some "allow" ↔ text = "allow" := by
  unfold filled
  rw [Option.filter_eq_some_iff, Option.some.injEq]
  constructor
  · exact And.left
  · rintro rfl
    exact ⟨rfl, by decide⟩

/-- The grant is valid when the phase asks for it. -/
def PermitBinding.InTime (b : PermitBinding) : Prop :=
  ∀ expiresAt, b.permitExpiresAt = some expiresAt → match b.phase with
    | .claim => b.now.instant < expiresAt.instant
    | .report => ∃ startedAt, b.startedAt = some startedAt ∧ startedAt.instant ≤ expiresAt.instant

/-- The rule, clause by clause. -/
theorem permitBindingOk_iff {b : PermitBinding} : (permitBindingOk b).1 = true ↔
    b.permitDecision = some "allow" ∧
      ¬ (b.scopeDigestEnforced ∧ (b.permitScopeDigest = none ∨ b.expectedScopeDigest = none)) ∧
      differ b.permitScopeDigest b.expectedScopeDigest = false ∧
      differ b.permitCharterId b.activeCharterId = false ∧
      differ b.permitUserId (some b.directiveUserId) = false ∧
      differ b.permitDirectiveId (some b.directiveId) = false ∧
      (b.permitObjectiveHash = none ∨ b.permitObjectiveHash = b.directiveObjectiveHash) ∧ b.InTime := by
  unfold permitBindingOk
  by_cases hdecision : b.permitDecision = some "allow"
  swap
  · simp [hdecision]
  by_cases hdigest : b.scopeDigestEnforced ∧ (b.permitScopeDigest = none ∨ b.expectedScopeDigest = none)
  · rw [if_neg (not_not.mpr hdecision), if_pos hdigest]
    simp [hdigest]
  rw [if_neg (not_not.mpr hdecision), if_neg hdigest]
  by_cases hobjective : b.permitObjectiveHash ≠ none ∧ b.permitObjectiveHash ≠ b.directiveObjectiveHash
  · have hneither : ¬ (b.permitObjectiveHash = none ∨ b.permitObjectiveHash = b.directiveObjectiveHash) := by
      rwa [not_or]
    simp only [hneither, false_and, and_false, iff_false, if_pos hobjective]
    split_ifs <;> simp
  have heither : b.permitObjectiveHash = none ∨ b.permitObjectiveHash = b.directiveObjectiveHash := by
    rwa [not_and_or, not_not, not_not] at hobjective
  rw [if_neg hobjective]
  cases differ b.permitScopeDigest b.expectedScopeDigest
  swap
  · simp
  cases differ b.permitCharterId b.activeCharterId
  swap
  · simp
  cases differ b.permitUserId (some b.directiveUserId)
  swap
  · simp
  cases differ b.permitDirectiveId (some b.directiveId)
  swap
  · simp
  simp only [Bool.false_eq_true, if_false, hdecision, hdigest, heither, not_false_eq_true, true_and,
    PermitBinding.InTime]
  cases b.permitExpiresAt with
  | none => simp
  | some expiresAt =>
    cases b.phase with
    | claim =>
      simp only [asUtc, Option.some.injEq, forall_eq']
      split_ifs with h <;> simp [h]
    | report =>
      cases b.startedAt with
      | none => simp
      | some startedAt =>
        simp only [asUtc, Option.some.injEq, forall_eq', exists_eq_left']
        split_ifs with h <;> simp [h]

theorem binds_iff : row.Binds host settings call d ↔
    row.decision = "allow" ∧ row.Agrees host settings call d ∧ differ (filled row.userId) (some d.userId) = false ∧
      differ (filled row.directiveId) (some d.directiveId) = false ∧
      (filled row.objectiveHash = none ∨ filled row.objectiveHash = d.objectiveHash) ∧
      ∀ expiresAt, row.expiresAt = some expiresAt → call.now.instant < expiresAt.instant := by
  rw [PermitRow.Binds, permitBindingOk_iff]
  constructor
  · rintro ⟨hdecision, hdigest, hscope, hcharter, huser, hdirective, hobjective, htime⟩
    refine ⟨filled_eq_some_allow.mp hdecision, ⟨fun henforced hnone => hdigest ⟨henforced, Or.inl hnone⟩, hscope,
      hcharter, fun hnone => ?_⟩, huser, hdirective, hobjective, htime⟩
    exact hobjective.elim id fun hsame => hsame.trans hnone
  · rintro ⟨hdecision, hagrees, huser, hdirective, hobjective, htime⟩
    refine ⟨filled_eq_some_allow.mpr hdecision, ?_, hagrees.scope, hagrees.charter, huser, hdirective, hobjective, htime⟩
    rintro ⟨henforced, hnone | hnone⟩
    · exact hagrees.digest henforced hnone
    · cases hnone

theorem differ_filled {column : Option String} {text : String} (h : column = none ∨ column = some text) :
    differ (filled column) (some text) = false := by
  rw [differ_eq_false_iff]
  obtain rfl | rfl := h
  · exact Or.inl rfl
  · by_cases hempty : text = ""
    · exact Or.inl (by simp [filled, hempty])
    · exact Or.inr (Or.inr (by simp [filled, hempty]))

/-- On a row that the filter lets through, the rule asks for what the filter does not. -/
theorem binds_iff_of_selects {sessionId workspaceId : String} (h : row.selects sessionId workspaceId call.now d) :
    row.Binds host settings call d ↔ row.Agrees host settings call d := by
  simp only [PermitRow.selects, Bool.and_eq_true, Bool.or_eq_true, decide_eq_true_eq] at h
  obtain ⟨⟨⟨⟨⟨_, hdecision⟩, hexpires⟩, huser⟩, hobjective⟩, hdirective⟩ := h
  rw [binds_iff]
  refine ⟨fun ⟨_, hagrees, _⟩ => hagrees, fun hagrees => ⟨hdecision, hagrees, differ_filled huser,
    differ_filled hdirective, ?_, ?_⟩⟩
  · obtain (hnone | hnone) | hsame := hobjective
    · exact Or.inl (by simp [filled, hnone])
    · exact Or.inl (hagrees.objective hnone)
    · rw [hsame]
      cases hobjective : d.objectiveHash with
      | none => exact Or.inl rfl
      | some hash =>
        by_cases hempty : hash = ""
        · exact Or.inl (by simp [filled, hempty])
        · exact Or.inr (by simp [filled, hempty])
  · intro expiresAt hexpiry
    rw [hexpiry] at hexpires
    simpa using hexpires

/-! ### The row picked -/

/-- The row is the first of the newest that the filter lets through. -/
def PermitRow.Leads (call : ClaimCall) (db : PermitDatabase) (d : SessionDirective) (row : PermitRow) : Prop :=
  FirstNewest PermitRow.decidedAt (db.permits.rows.filter (·.selects call.sessionId call.workspaceId call.now d)) row

theorem lookup_eq_some_iff : db.lookup call.sessionId call.workspaceId call.now d = some row ↔ row.Leads call db d :=
  head?_sorted_eq_some_iff

theorem PermitRow.Leads.mem (h : row.Leads call db d) :
    row ∈ db.permits.rows ∧ row.selects call.sessionId call.workspaceId call.now d :=
  List.mem_filter.mp (FirstNewest.mem h)

theorem PermitRow.Leads.own (h : row.Leads call db d) :
    row.sessionId = call.sessionId ∧ row.workspaceId = call.workspaceId := by
  have hselects := h.mem.2
  simp only [PermitRow.selects, Bool.and_eq_true, decide_eq_true_eq] at hselects
  exact hselects.1.1.1.1.1

/-- The rule makes no difference between nobody's permit and the directive's own. -/
theorem attach_binds_iff : (row.attach d).Binds host settings call d ↔ row.Binds host settings call d := by
  unfold PermitRow.attach
  split_ifs with hnone
  · rw [binds_iff, binds_iff, hnone, differ_filled (Or.inl rfl), differ_filled (Or.inr rfl)]
    exact ⟨fun ⟨hdecision, hagrees, hrest⟩ => ⟨hdecision, ⟨hagrees.1, hagrees.2, hagrees.3, hagrees.4⟩, hrest⟩,
      fun ⟨hdecision, hagrees, hrest⟩ => ⟨hdecision, ⟨hagrees.1, hagrees.2, hagrees.3, hagrees.4⟩, hrest⟩⟩
  · rfl

/-- The permit that the rule is given is the one picked, attached. -/
theorem permitOf_attach (h : row.Leads call db d) :
    (db.attach d row.id call.now).permitOf call.sessionId call.workspaceId row.id = some (row.attach d) := by
  have hfind : (db.attach d row.id call.now).permits.find row.id = some (row.attach d) := by
    have hrow : db.permits.find row.id = some row := Table.find_eq_some_iff.mpr ⟨h.mem.1, rfl⟩
    rw [PermitDatabase.attach, Table.find_updateWhere, hrow]
    simp
  have hown : (row.attach d).sessionId = call.sessionId ∧ (row.attach d).workspaceId = call.workspaceId := by
    unfold PermitRow.attach
    split_ifs <;> exact h.own
  simp [PermitDatabase.permitOf, hfind, hown]

/-- A claim of a directive that has no permit gets past the check exactly when the row picked agrees. -/
theorem passes_iff (hstate : d.state = .pending) (hrequires : d.requiresPermit) (hnone : d.permitId = none) :
    call.Passes host settings db d ↔ ∃ newest : PermitRow, newest.Leads call db d ∧ newest.Agrees host settings call d := by
  have hpicked : call.picked db d = db.lookup call.sessionId call.workspaceId call.now d :=
    if_pos ⟨hstate, hrequires, hnone⟩
  cases hlookup : db.lookup call.sessionId call.workspaceId call.now d with
  | none =>
    rw [hlookup] at hpicked
    refine ⟨fun ⟨_, _, _, h⟩ => ?_, fun ⟨newest, hleads, _⟩ => ?_⟩
    · simp [ClaimRequest.permitCheck, hrequires, hnone, ClaimCall.request, hpicked] at h
    · rw [lookup_eq_some_iff.mpr hleads] at hlookup
      cases hlookup
  | some newest =>
    rw [hlookup] at hpicked
    have hleads : newest.Leads call db d := lookup_eq_some_iff.mp hlookup
    have hpermit : (call.request db d).permit = some (newest.attach d).read := by
      simp [ClaimCall.request, hnone, hpicked, ClaimCall.attached, permitOf_attach hleads]
    have hcheck : (call.request db d).permitCheck host settings d.toDirectiveExecution = .ok (some newest.id,
        (newest.attach d).expiresAt, permitBindingOk ((newest.attach d).binding host settings call d)) := by
      have hfound : (call.request db d).lookup = some newest.id := by simp [ClaimCall.request, hpicked]
      unfold ClaimRequest.permitCheck
      rw [if_neg (by simp [hrequires]), if_neg (by simp [hfound]), hpermit, if_pos hnone, hfound]
      rfl
    have hpasses : call.Passes host settings db d ↔ (newest.attach d).Binds host settings call d := by
      rw [ClaimCall.Passes, hcheck, PermitRow.Binds]
      constructor
      · rintro ⟨_, _, _, h⟩
        rw [Except.ok.injEq, Prod.mk.injEq, Prod.mk.injEq, Prod.ext_iff] at h
        exact h.2.2.1
      · exact fun h => ⟨_, _, _, congrArg Except.ok (Prod.ext rfl (Prod.ext rfl (Prod.ext h rfl)))⟩
    rw [hpasses, attach_binds_iff, binds_iff_of_selects hleads.mem.2]
    refine ⟨fun hagrees => ⟨newest, hleads, hagrees⟩, fun ⟨other, hother, hagrees⟩ => ?_⟩
    rw [← lookup_eq_some_iff, hlookup, Option.some.injEq] at hother
    rwa [hother]

/-- A claim picks a permit that binds wherever the session has one, exactly when the session has none or the row picked
agrees with the directive and its charter. A refused claim leaves every row as it was. -/
theorem picks_binding_iff (hstate : d.state = .pending) (hrequires : d.requiresPermit) (hnone : d.permitId = none) :
    ((call.Passes host settings db d ↔ ∃ row ∈ db.permits.rows, row.sessionId = call.sessionId ∧
        row.workspaceId = call.workspaceId ∧ row.Binds host settings call d) ↔
      (∀ row ∈ db.permits.rows, row.sessionId = call.sessionId → row.workspaceId = call.workspaceId →
        ¬ row.Binds host settings call d) ∨
        ∃ newest : PermitRow, newest.Leads call db d ∧ newest.Agrees host settings call d) ∧
    ∀ gate db' e, claimExecutionLite host settings gate call db = (db', .error e) → db' = db := by
  refine ⟨?_, fun gate db' e h => runCasSection_error h⟩
  rw [passes_iff hstate hrequires hnone]
  constructor
  · intro h
    by_cases hpicked : ∃ newest : PermitRow, newest.Leads call db d ∧ newest.Agrees host settings call d
    · exact Or.inr hpicked
    · exact Or.inl fun row hrow hsession hworkspace hbinds => hpicked (h.mpr ⟨row, hrow, hsession, hworkspace, hbinds⟩)
  · rintro (hnever | ⟨newest, hleads, hagrees⟩)
    · refine ⟨fun ⟨newest, hleads, hagrees⟩ => ?_, fun ⟨row, hrow, hsession, hworkspace, hbinds⟩ =>
        absurd hbinds (hnever row hrow hsession hworkspace)⟩
      exact absurd ((binds_iff_of_selects hleads.mem.2).mpr hagrees)
        (hnever newest hleads.mem.1 hleads.own.1 hleads.own.2)
    · exact iff_of_true ⟨newest, hleads, hagrees⟩ ⟨newest, hleads.mem.1, hleads.own.1, hleads.own.2,
        (binds_iff_of_selects hleads.mem.2).mpr hagrees⟩

/-! ### A claim that moves its directive -/

/-- The permit that a claim is judged by, as it is before the claim. -/
def ClaimCall.judged (call : ClaimCall) (db : PermitDatabase) (d : SessionDirective) : Option PermitRow :=
  (d.permitId <|> (call.picked db d).map (·.id)).bind (db.permitOf call.sessionId call.workspaceId)

theorem permitOf_attached {permitId : String}
    (h : (call.attached db d).permitOf call.sessionId call.workspaceId permitId = some row) :
    ∃ before, db.permitOf call.sessionId call.workspaceId permitId = some before ∧
      (row = before ∨ row = before.attach d) := by
  unfold ClaimCall.attached at h
  cases hpicked : call.picked db d with
  | none =>
    rw [hpicked] at h
    exact ⟨row, h, Or.inl rfl⟩
  | some picked =>
    rw [hpicked] at h
    obtain ⟨hfind, hown⟩ := Option.filter_eq_some_iff.mp h
    dsimp only [PermitDatabase.attach] at hfind
    rw [Table.find_updateWhere] at hfind
    obtain ⟨before, hbefore, rfl⟩ := Option.map_eq_some_iff.mp hfind
    have hkept : (if before.id = picked.id then before.attach d else before) = before ∨
        (if before.id = picked.id then before.attach d else before) = before.attach d := by
      split_ifs
      · exact Or.inr rfl
      · exact Or.inl rfl
    simp only [decide_eq_true_eq] at hown ⊢
    refine ⟨before, Option.filter_eq_some_iff.mpr ⟨hbefore, ?_⟩, hkept⟩
    have hsame : (before.attach d).sessionId = before.sessionId ∧ (before.attach d).workspaceId = before.workspaceId := by
      unfold PermitRow.attach
      split_ifs <;> exact ⟨rfl, rfl⟩
    obtain heq | heq := hkept
    · rwa [heq] at hown
    · rwa [heq, hsame.1, hsame.2] at hown

theorem attach_read (d : SessionDirective) (row : PermitRow) :
    (row.attach d).decision = row.decision ∧ (row.attach d).charterId = row.charterId := by
  unfold PermitRow.attach
  split_ifs <;> exact ⟨rfl, rfl⟩

theorem permit_of_permitCheck {request : ClaimRequest} {d : DirectiveExecution} {attached : Option String}
    {expires : Option Datetime} {reason : String} (hrequires : d.requiresPermit)
    (h : request.permitCheck host settings d = .ok (attached, expires, true, reason)) :
    ∃ permit, request.permit = some permit ∧ permit.decision = some "allow" ∧
      differ permit.charterId request.activeCharterId = false := by
  unfold ClaimRequest.permitCheck at h
  rw [if_neg (by simp [hrequires])] at h
  by_cases hunknown : d.permitId = none ∧ request.lookup = none
  · rw [if_pos hunknown] at h
    cases h
  rw [if_neg hunknown] at h
  cases hpermit : request.permit with
  | none =>
    rw [hpermit] at h
    cases h
  | some permit =>
    rw [hpermit, Except.ok.injEq, Prod.mk.injEq, Prod.mk.injEq, Prod.ext_iff] at h
    have hbinding := permitBindingOk_iff.mp h.2.2.1
    exact ⟨permit, rfl, hbinding.1, hbinding.2.2.2.1⟩

/-- What passes the check is allowed, and under the active charter where both are known. -/
theorem judged_of_passes (hrequires : d.requiresPermit) (h : call.Passes host settings db d) :
    ∃ permit, call.judged db d = some permit ∧ permit.decision = "allow" ∧
      differ (filled permit.charterId) call.activeCharterId = false := by
  obtain ⟨attached, expires, reason, hcheck⟩ := h
  obtain ⟨read, hread, hallow, hcharter⟩ := permit_of_permitCheck hrequires hcheck
  obtain ⟨row, hrow, rfl⟩ := Option.map_eq_some_iff.mp hread
  obtain ⟨permitId, hid, hrow⟩ := Option.bind_eq_some_iff.mp hrow
  obtain ⟨before, hbefore, hsame⟩ := permitOf_attached hrow
  have hcolumns : row.decision = before.decision ∧ row.charterId = before.charterId := by
    obtain rfl | rfl := hsame
    · exact ⟨rfl, rfl⟩
    · exact attach_read d before
  refine ⟨before, Option.bind_eq_some_iff.mpr ⟨permitId, hid, hbefore⟩, ?_, ?_⟩
  · rw [← hcolumns.1]
    exact filled_eq_some_allow.mp hallow
  · rw [← hcolumns.2]
    exact hcharter

theorem permitCheck_of_writes {request : ClaimRequest} {seen : DirectiveExecution} {update : FencedUpdate}
    (hpending : seen.state = .pending) (h : claimExecution host settings request seen = .writes update) : ∃ attached expires reason,
      request.permitCheck host settings seen = .ok (attached, expires, true, reason) := by
  obtain ⟨attached, expires, permitOk, reason, hcheck, hperforms⟩ := claimExecution_performs host h
  obtain ⟨t, ht⟩ := grantedBy_of_allowed hperforms.allowed
  have hpermit : t.requiresPermit :=
    (mem_allowedTransitions ht.mem).permit.mpr (Or.inl ⟨ht.source.trans hpending, ht.target⟩)
  have hok : permitOk = true := ht.permit hpermit
  exact ⟨attached, expires, reason, hok ▸ hcheck⟩

/-- A claim that moves its directive got past the charter's gate and the check of its permit. -/
theorem passes_of_moved {gate : SessionDirective → Except Failure Unit} {moved : SessionDirective}
    (hrow : call.row db = some d) (hpending : d.state = .pending)
    (h : (claimExecutionLite host settings gate call db).2 = .ok moved) (hmoved : moved.state = .inProgress) :
    gate d = .ok () ∧ call.Passes host settings db d := by
  obtain ⟨db', hsection⟩ : ∃ db', claimSection host settings gate call db = .ok (db', moved) :=
    ⟨_, runCasSection_ok (Prod.ext rfl h)⟩
  unfold claimSection at hsection
  rw [hrow] at hsection
  obtain ⟨_, hgate, hsection⟩ := bind_ok hsection
  refine ⟨hgate, ?_⟩
  cases hreply : claimExecution host settings (call.request db d) d.toDirectiveExecution with
  | refused reason message =>
    rw [hreply] at hsection
    cases hsection
  | raised e =>
    rw [hreply] at hsection
    cases hsection
  | unchanged =>
    rw [hreply] at hsection
    cases hsection
    rw [hpending] at hmoved
    cases hmoved
  | writes update => exact permitCheck_of_writes hpending hreply

/-- What an attachment keeps of every permit, a claim keeps. -/
theorem claim_keeps {P : PermitRow → Prop} {gate : SessionDirective → Except Failure Unit}
    (hattach : ∀ d row, P row → P (row.attach d)) (h : ∀ row ∈ db.permits.rows, P row) :
    ∀ row ∈ (claimExecutionLite host settings gate call db).1.permits.rows, P row := by
  have hattached (d : SessionDirective) : ∀ row ∈ (call.attached db d).permits.rows, P row := by
    unfold ClaimCall.attached
    split
    · dsimp only [PermitDatabase.attach]
      exact Table.forall_updateWhere h fun row _ hrow _ => hattach d row hrow
    · exact h
  unfold claimExecutionLite runCasSection
  split
  swap
  · exact h
  rename_i db' moved hsection
  unfold claimSection at hsection
  split at hsection
  · cases hsection
  rename_i d _
  obtain ⟨_, _, hsection⟩ := bind_ok hsection
  cases hreply : claimExecution host settings (call.request db d) d.toDirectiveExecution with
  | refused reason message =>
    rw [hreply] at hsection
    cases hsection
  | raised e =>
    rw [hreply] at hsection
    cases hsection
  | unchanged =>
    rw [hreply] at hsection
    cases hsection
    exact h
  | writes update =>
    rw [hreply] at hsection
    cases hsection
    exact hattached d

def claimSettings : Settings := ⟨900, false, false, true, 200⟩

/-- A permit of one session, issued under a charter. -/
def issuedPermit (id charterId : String) (createdAt : Nat) : PermitRow :=
  { id, charterId := some charterId, createdAt := ⟨epoch + createdAt, true⟩, sessionId := "s", workspaceId := "w",
    actionKind := "edit", targetPaths := [], commandPreview := none, decision := "allow", reason := "policy_allow",
    expiresAt := none, resolvedAt := none, userId := none, requestedBy := none, directiveId := none, attempt := none,
    objectiveHash := none, scopeDigest := none }

def unpermitted : SessionDirective :=
  { state := .pending, claimedExecutor := none, leaseGeneration := 0, directiveId := "d", userId := "u",
    objectiveHash := none, requiresPermit := true, permitId := none, claimedBy := none, startedAt := none,
    expiresAt := none, leaseExpiresAt := none, createdAt := ⟨epoch, true⟩, updatedAt := ⟨epoch, true⟩,
    workspaceId := "w", sessionId := "s", actionKind := "edit", attempt := 1 }

def onePermit : PermitDatabase where
  permits := ⟨[issuedPermit "older" "active" 1], List.nodup_singleton _⟩
  directives := ⟨[unpermitted], List.nodup_singleton _⟩

/-- One permit of the active charter, and a newer one of a charter that has been superseded since. -/
def twoPermits : PermitDatabase where
  permits := ⟨[issuedPermit "older" "active" 1, issuedPermit "newer" "superseded" 2], by decide⟩
  directives := onePermit.directives

def claimCall : ClaimCall := ⟨"w", "u", "executor", "s", none, none, ⟨epoch + 9, true⟩, some "active"⟩

theorem claimCall_binds :
    (issuedPermit "older" "active" 1).Binds (asciiHost [] []) claimSettings claimCall unpermitted := by
  unfold PermitRow.Binds
  decide +kernel

/-- The session's only permit is picked. -/
theorem picks_binding_iff_only : claimCall.Passes (asciiHost [] []) claimSettings onePermit unpermitted := by
  have hleads : (issuedPermit "older" "active" 1).Leads claimCall onePermit unpermitted :=
    ⟨[], [], by decide +kernel, by decide, by decide⟩
  exact ((picks_binding_iff rfl rfl rfl).1.mpr (Or.inr ⟨_, hleads, (binds_iff.mp claimCall_binds).2.1⟩)).mpr
    ⟨_, List.mem_cons_self, rfl, rfl, claimCall_binds⟩

/-- The newer permit is the one picked, and it is refused, although the older one binds. -/
theorem newer_hides_binding : ¬ ∀ (call : ClaimCall) (db : PermitDatabase) (d : SessionDirective), d.state = .pending →
    d.requiresPermit → d.permitId = none → (call.Passes (asciiHost [] []) claimSettings db d ↔
      ∃ row ∈ db.permits.rows, row.sessionId = call.sessionId ∧ row.workspaceId = call.workspaceId ∧
        row.Binds (asciiHost [] []) claimSettings call d) := by
  intro h
  obtain ⟨attached, expires, reason, hpasses⟩ := (h claimCall twoPermits unpermitted rfl rfl rfl).mpr
    ⟨_, List.mem_cons_self, rfl, rfl, claimCall_binds⟩
  have hrefused : ((claimCall.request twoPermits unpermitted).permitCheck (asciiHost [] []) claimSettings
      unpermitted.toDirectiveExecution).toOption.map (·.2.2) = some (false, "permit_charter_superseded") := by
    decide +kernel
  rw [hpasses] at hrefused
  cases hrefused

end OpenTimeline.Directive
