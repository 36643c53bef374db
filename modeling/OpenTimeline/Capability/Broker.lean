import OpenTimeline.Capability.Spending

/-! The capability broker.

Grants are issued and consumed; a completion is captured in the outbox and delivered, at
once or by a drain, and its delivery records it on grants of its session. Beside them permits
are decided and revoked and directives go on. Each call is one step here; that a consumption
is not is the matter of `Spending`.

Whatever is done, a row keeps what it was issued with (`GrantRow.Descends`), and every row
goes back to the call that issued it (`issued_by`). -/
namespace OpenTimeline.Capability
open Library Directive

variable (host : Host)

/-! ### The outbox -/

structure EnqueueCall where
  workspaceId : String
  ownerId : String
  sessionId : String
  completionKey : String
  payloadHash : Option String
  now : Instant
  /-- `str(uuid.uuid4())` -/
  newId : String

namespace EnqueueCall

/-- `str(completion_key)[:240]` -/
def key (call : EnqueueCall) : String := String.ofList (call.completionKey.toList.take 240)

/-- `UNIQUE(workspace_id, owner_id, completion_key)` -/
def isOf (call : EnqueueCall) (row : OutboxRow) : Bool :=
  row.workspaceId = call.workspaceId && row.ownerId = call.ownerId && row.completionKey = call.key

def row (call : EnqueueCall) : OutboxRow where
  id := call.newId
  workspaceId := call.workspaceId
  ownerId := call.ownerId
  sessionId := call.sessionId
  completionKey := call.key
  payloadHash := call.payloadHash
  status := .pending
  attempts := 0
  nextAttemptAt := call.now
  lastError := none
  createdAt := call.now
  deliveredAt := none

/-- `INSERT OR IGNORE` -/
def inserted (call : EnqueueCall) (outbox : Table OutboxRow.id) : Table OutboxRow.id :=
  if outbox.rows.any call.isOf then outbox else (outbox.insert call.row).getD outbox

end EnqueueCall

inductive EnqueueError
  /-- `RuntimeError("handoff outbox insert failed")` -/
  | insertFailed
  /-- `CompletionConflictError` -/
  | conflict (outboxId : String)

/-- `enqueue_handoff` -/
def enqueueHandoff (call : EnqueueCall) (db : ControlDatabase) : Except EnqueueError (ControlDatabase × OutboxRow) :=
  let outbox := call.inserted db.outbox
  match outbox.rows.find? call.isOf with
  | none => .error .insertFailed
  | some row =>
    if differ row.payloadHash call.payloadHash then .error (.conflict row.id)
    else .ok ({db with outbox}, row)

/-- The grants a delivery records a completion on. -/
def OutboxRow.discharges (row : OutboxRow) (grant : GrantRow) : Bool :=
  grant.workspaceId = row.workspaceId && grant.ownerId = row.ownerId && grant.sessionId = row.sessionId &&
    grant.completionRequired && grant.status = .consumed && grant.completionRecordedAt = none

/-- `deliver_handoff`, of a row not delivered yet. -/
def OutboxRow.deliver (row : OutboxRow) (now : Instant) (db : ControlDatabase) : ControlDatabase where
  grants := db.grants.updateWhere row.discharges (fun grant => {grant with
    completionOutboxId := some row.id
    completionRecordedAt := some now }) fun _ => rfl
  permits := db.permits
  directives := db.directives
  effects := db.effects
  outbox := db.outbox.updateWhere (fun other => other.id = row.id) (fun other => {other with
    status := .delivered
    attempts := other.attempts + 1
    lastError := none
    deliveredAt := some now }) fun _ => rfl

theorem OutboxRow.find_deliver (row : OutboxRow) (now : Instant) (db : ControlDatabase) (id : String) :
    (row.deliver now db).grants.find id = (db.grants.find id).map fun grant => if row.discharges grant then
      {grant with completionOutboxId := some row.id, completionRecordedAt := some now} else grant := by
  rw [deliver, Table.find_updateWhere]

/-- What `deliver_handoff_safely` does where a delivery raises. -/
def OutboxRow.fail (row : OutboxRow) (error : String) (now : Instant) (db : ControlDatabase) : ControlDatabase :=
  let attempts := row.attempts + 1
  {db with outbox := db.outbox.updateWhere (fun other => other.id = row.id) (fun other => {other with
    status := if 10 ≤ attempts then .dead else .pending
    attempts := attempts
    lastError := some (String.ofList (error.toList.take 1000))
    nextAttemptAt := now + min 3600 (2 ^ min attempts 10) * 1000000 }) fun _ => rfl}

/-- `deliver_handoff_safely`, with the error that the delivery raises, if it does. -/
def deliverHandoffSafely (outboxId : String) (failure : Option String) (now : Instant) (db : ControlDatabase) :
    ControlDatabase :=
  match db.outbox.find outboxId with
  | none => db
  | some row =>
    if row.status = .delivered then db
    else match failure with
      | none => row.deliver now db
      | some error => row.fail error now db

/-- How the delivery of a row goes, in a drain. -/
structure Attempt where
  failure : Option String
  now : Instant

/-- The rows `drain_pending_handoffs` selects. -/
def pendingHandoffs (now : Instant) (limit : Int) (outbox : Table OutboxRow.id) : List OutboxRow :=
  ((outbox.rows.filter fun row => row.status = .pending && row.nextAttemptAt ≤ now).insertionSort
    fun a b => a.createdAt ≤ b.createdAt).take (max 1 (min 500 limit)).toNat

/-- `drain_pending_handoffs`: each delivery commits. -/
def drainPendingHandoffs (now : Instant) (limit : Int) (attempts : String → Attempt) (db : ControlDatabase) :
    ControlDatabase :=
  (pendingHandoffs now limit db.outbox).foldl (fun db row =>
    deliverHandoffSafely row.id (attempts row.id).failure (attempts row.id).now db) db

/-- The row that is requeued. -/
def OutboxRow.requeued (row : OutboxRow) (now : Instant) : OutboxRow :=
  {row with status := .pending, attempts := 0, nextAttemptAt := now, lastError := some ""}

/-- `requeue_dead_handoff` -/
def requeueHandoff (workspaceId outboxId : String) (now : Instant) (db : ControlDatabase) : ControlDatabase :=
  match db.outbox.find outboxId with
  | none => db
  | some row =>
    if row.workspaceId ≠ workspaceId ∨ row.status ≠ .dead then db
    else
      let dead := fun other : OutboxRow => other.id = outboxId && other.status = .dead
      {db with outbox := db.outbox.updateWhere dead (·.requeued now) fun _ => rfl}

/-! ### Directives -/

/-- A fenced UPDATE, on a row with its session. -/
def DirectiveRow.write (update : FencedUpdate) (row : DirectiveRow) : DirectiveRow :=
  {row with toDirectiveExecution := (update.apply row.toDirectiveExecution).getD row.toDirectiveExecution}

theorem DirectiveRow.write_directiveId (update : FencedUpdate) (row : DirectiveRow) :
    (row.write update).directiveId = row.directiveId := by
  unfold write
  cases happly : update.apply row.toDirectiveExecution with
  | none => rfl
  | some row' =>
    obtain ⟨_, _, _, rfl⟩ := FencedUpdate.apply_eq_some happly
    exact update.set_directiveId _

/-- What a writer of directives does with the row it has read. -/
def writeDirective (reply : DirectiveExecution → Reply) (directiveId : String) (db : ControlDatabase) : ControlDatabase :=
  match db.directives.find directiveId with
  | none => db
  | some seen =>
    match reply seen.toDirectiveExecution with
    | .writes update =>
      let named := fun row : DirectiveRow => decide (row.directiveId = directiveId)
      {db with directives := db.directives.updateWhere named (·.write update) (DirectiveRow.write_directiveId update)}
    | _ => db

/-! ### The system -/

inductive BrokerAction
  | issue (call : IssueCall)
  | consume (call : ConsumeCall) (now : Instant)
  | enqueue (call : EnqueueCall)
  | deliver (outboxId : String) (failure : Option String) (now : Instant)
  | requeue (workspaceId outboxId : String) (now : Instant)
  /-- permits are asked for, decided and revoked -/
  | permits (rows : Table PermitRow.id)
  /-- effects are opened and resolved -/
  | effects (rows : Table EffectRow.effectId)
  | claim (directiveId : String) (request : ClaimRequest)
  | report (directiveId : String) (request : ReportRequest)
  | cancel (directiveId : String) (now : Datetime)

variable (settings : Settings)

/-- Calls of any parties, in any order. -/
def brokerSystem : System ControlDatabase BrokerAction where
  init db := db.grants.rows = [] ∧ db.outbox.rows = []
  next db
    | .issue call => some (match issueCapabilityGrant host call db with
      | .ok (db, _) => db
      | .error _ => db)
    | .consume call now => some {db with grants := (consumeCapabilityGrant host call now db.grants).1}
    | .enqueue call => some (match enqueueHandoff call db with
      | .ok (db, _) => db
      | .error _ => db)
    | .deliver outboxId failure now => some (deliverHandoffSafely outboxId failure now db)
    | .requeue workspaceId outboxId now => some (requeueHandoff workspaceId outboxId now db)
    | .permits rows => some {db with permits := rows}
    | .effects rows => some {db with effects := rows}
    | .claim directiveId request => some (writeDirective (claimExecution host settings request) directiveId db)
    | .report directiveId request => some (writeDirective (reportExecution settings request) directiveId db)
    | .cancel directiveId now => some (writeDirective (cancelDirective now) directiveId db)

variable {host settings} {db db' : ControlDatabase} {action : BrokerAction}

/-- A drain is a run of deliveries. -/
theorem run_drain (now : Instant) (limit : Int) (attempts : String → Attempt) (db : ControlDatabase) :
    (brokerSystem host settings).run db ((pendingHandoffs now limit db.outbox).map fun row =>
      .deliver row.id (attempts row.id).failure (attempts row.id).now) =
      some (drainPendingHandoffs now limit attempts db) := by
  unfold drainPendingHandoffs
  generalize pendingHandoffs now limit db.outbox = rows
  induction rows generalizing db with
  | nil => rfl
  | cons row rest ih =>
    rw [List.map_cons, System.run, List.foldlM_cons]
    exact ih _

/-! ### What a step does to the grants -/

/-- A consumption with nothing in between spends a grant, expires one or does nothing. -/
theorem consumeCapabilityGrant_cases (call : ConsumeCall) (now : Instant) (grants : Table GrantRow.id) :
    ((consumeCapabilityGrant host call now grants).1 = grants ∧
      (consumeCapabilityGrant host call now grants).2.authorized = false) ∨
    (∃ grant, call.read grants = some grant ∧ call.refusal host now grant = none ∧
      (consumeCapabilityGrant host call now grants).2.authorized = true ∧
      ∀ id, (consumeCapabilityGrant host call now grants).1.find id = if id = call.grantId then
        some {grant with status := .consumed, consumedAt := some now} else grants.find id) ∨
    (∃ grant, grants.find call.grantId = some grant ∧ grant.status = .authorized ∧
      (consumeCapabilityGrant host call now grants).2.authorized = false ∧
      ∀ id, (consumeCapabilityGrant host call now grants).1.find id = if id = call.grantId then
        some {grant with status := .expired} else grants.find id) := by
  have hauthorized : (consumeCapabilityGrant host call now grants).2.authorized =
    (call.attempt host now (call.read grants) grants).2.1 := rfl
  have hgrants : (consumeCapabilityGrant host call now grants).1 =
    call.settle now (call.read grants) (call.attempt host now (call.read grants) grants).1 := rfl
  rw [hauthorized, hgrants]
  obtain ⟨hsame, hmiss⟩ | ⟨row, grant, hread, hrefusal, hfind, hstatus, hhit, hrows⟩ :=
    @ConsumeCall.attempt_cases host call now (call.read grants) grants
  · rw [hsame]
    by_cases hexpired : (call.read grants).any (ConsumeCall.findsExpired now) = true
    · obtain ⟨row, hread, hrow⟩ := (Option.any_eq_true _ _).mp hexpired
      have hfind := (ConsumeCall.read_eq_some hread).1
      simp only [ConsumeCall.findsExpired, Bool.and_eq_true, decide_eq_true_eq] at hrow
      refine Or.inr (Or.inr ⟨row, hfind, hrow.2, hmiss, fun id => ?_⟩)
      rw [call.find_settle]
      simp only [hexpired, true_and]
      split_ifs with hid
      · rw [hid, hfind, Option.map_some]
      · rfl
    · exact Or.inl ⟨by rw [ConsumeCall.settle, if_neg hexpired], hmiss⟩
  · obtain rfl : row = grant := Option.some.inj ((ConsumeCall.read_eq_some hread).1.symm.trans hfind)
    have htimely : ¬ (call.read grants).any (ConsumeCall.findsExpired now) = true := by
      rw [hread]
      simp [ConsumeCall.findsExpired, not_lt.mpr (ConsumeCall.refusal_eq_none hrefusal).2.1]
    exact Or.inr (Or.inl ⟨row, hread, hrefusal, hhit, fun id => by
      rw [ConsumeCall.settle, if_neg htimely]
      exact hrows id⟩)

/-- What a step can do to the grants. -/
inductive GrantsMove (host : Host) (db : ControlDatabase) : BrokerAction → Table GrantRow.id → Prop
  | same (action : BrokerAction) : GrantsMove host db action db.grants
  | issues (call : IssueCall) (decision : Decision) (reason : String) (grants : Table GrantRow.id)
      (hverdict : call.verdict host db = .ok (decision, reason))
      (hinsert : db.grants.insert (call.row host decision reason) = some grants) :
      GrantsMove host db (.issue call) grants
  | spends (call : ConsumeCall) (now : Instant) (grant : GrantRow) (grants : Table GrantRow.id)
      (hread : call.read db.grants = some grant) (hrefusal : call.refusal host now grant = none)
      (hauthorized : (consumeCapabilityGrant host call now db.grants).2.authorized = true)
      (hrows : ∀ id, grants.find id = if id = call.grantId then
        some {grant with status := .consumed, consumedAt := some now} else db.grants.find id) :
      GrantsMove host db (.consume call now) grants
  | expires (call : ConsumeCall) (now : Instant) (grant : GrantRow) (grants : Table GrantRow.id)
      (hfind : db.grants.find call.grantId = some grant) (hstatus : grant.status = .authorized)
      (hrows : ∀ id, grants.find id = if id = call.grantId then
        some {grant with status := .expired} else db.grants.find id) :
      GrantsMove host db (.consume call now) grants
  | delivers (row : OutboxRow) (now : Instant) (grants : Table GrantRow.id)
      (hfind : db.outbox.find row.id = some row) (hrow : row.status ≠ .delivered)
      (hrows : ∀ id, grants.find id = (db.grants.find id).map fun grant => if row.discharges grant then
        {grant with completionOutboxId := some row.id, completionRecordedAt := some now} else grant) :
      GrantsMove host db (.deliver row.id none now) grants

theorem writeDirective_grants (reply : DirectiveExecution → Reply) (directiveId : String) (db : ControlDatabase) :
    (writeDirective reply directiveId db).grants = db.grants ∧
      (writeDirective reply directiveId db).outbox = db.outbox := by
  unfold writeDirective
  split
  · exact ⟨rfl, rfl⟩
  · split <;> exact ⟨rfl, rfl⟩

theorem requeueHandoff_grants (workspaceId outboxId : String) (now : Instant) (db : ControlDatabase) :
    (requeueHandoff workspaceId outboxId now db).grants = db.grants := by
  unfold requeueHandoff
  split
  · rfl
  · split_ifs <;> rfl

theorem enqueueHandoff_grants {call : EnqueueCall} {row : OutboxRow} (h : enqueueHandoff call db = .ok (db', row)) :
    db'.grants = db.grants ∧ db'.outbox = call.inserted db.outbox := by
  unfold enqueueHandoff at h
  simp only at h
  split at h
  · cases h
  · split_ifs at h
    cases h
    exact ⟨rfl, rfl⟩

theorem grants_next (h : (brokerSystem host settings).next db action = some db') :
    GrantsMove host db action db'.grants := by
  cases action with
  | issue call =>
    cases h
    cases hissue : issueCapabilityGrant host call db with
    | error => exact .same _
    | ok issued =>
      obtain ⟨decision, reason, hverdict, hrow, hinsert, _⟩ := issueCapabilityGrant_ok host hissue
      rw [hrow] at hinsert
      exact .issues call decision reason _ hverdict hinsert
  | consume call now =>
    cases h
    obtain ⟨hsame, _⟩ | ⟨grant, hread, hrefusal, hauthorized, hrows⟩ | ⟨grant, hfind, hstatus, _, hrows⟩ :=
      consumeCapabilityGrant_cases call now db.grants
    · rw [hsame]
      exact .same _
    · exact .spends call now grant _ hread hrefusal hauthorized hrows
    · exact .expires call now grant _ hfind hstatus hrows
  | enqueue call =>
    cases h
    cases henqueue : enqueueHandoff call db with
    | error => exact .same _
    | ok result =>
      rw [(enqueueHandoff_grants henqueue).1]
      exact .same _
  | deliver outboxId failure now =>
    cases h
    unfold deliverHandoffSafely
    cases hfind : db.outbox.find outboxId with
    | none => exact .same _
    | some row =>
      obtain rfl := (Table.find_eq_some_iff.mp hfind).2
      by_cases hrow : row.status = .delivered
      · simp only [hrow, if_true]
        exact .same _
      · simp only [hrow, if_false]
        cases failure with
        | none => exact .delivers row now _ hfind hrow (row.find_deliver now db)
        | some error => exact .same _
  | requeue workspaceId outboxId now =>
    cases h
    rw [requeueHandoff_grants]
    exact .same _
  | permits rows =>
    cases h
    exact .same _
  | effects rows =>
    cases h
    exact .same _
  | claim directiveId request | report directiveId request | cancel directiveId now =>
    cases h
    rw [(writeDirective_grants _ _ _).1]
    exact .same _

/-! ### Rows and where they come from -/

/-- What a row can become. -/
structure GrantRow.Descends (grant grant' : GrantRow) : Prop where
  eq : grant' = {grant with
    status := grant'.status
    consumedAt := grant'.consumedAt
    completionOutboxId := grant'.completionOutboxId
    completionRecordedAt := grant'.completionRecordedAt }
  status : grant'.status = .authorized → grant.status = .authorized
  consumed : grant.status = .consumed → grant'.status = .consumed ∧ grant'.consumedAt = grant.consumedAt

namespace GrantRow.Descends

theorem refl (grant : GrantRow) : grant.Descends grant := ⟨rfl, fun h => h, fun h => ⟨h, rfl⟩⟩

theorem trans {a b c : GrantRow} (hab : a.Descends b) (hbc : b.Descends c) : a.Descends c where
  eq := by
    rw [hbc.eq, hab.eq]
  status h := hab.status (hbc.status h)
  consumed h := by
    obtain ⟨hb, htime⟩ := hab.consumed h
    obtain ⟨hc, htime'⟩ := hbc.consumed hb
    exact ⟨hc, htime'.trans htime⟩

end GrantRow.Descends

namespace GrantsMove
variable {grants : Table GrantRow.id} {id : String} {grant grant' : GrantRow}

/-- A row that is there stays. -/
theorem descends (h : GrantsMove host db action grants) (hgrant : db.grants.find id = some grant) :
    ∃ grant', grants.find id = some grant' ∧ grant.Descends grant' := by
  cases h with
  | same => exact ⟨grant, hgrant, .refl _⟩
  | issues call decision reason grants _ hinsert =>
    exact ⟨grant, Table.find_insert_of_find hinsert hgrant, .refl _⟩
  | spends call now spent grants hread hrefusal _ hrows =>
    have hfind := (ConsumeCall.read_eq_some hread).1
    by_cases hid : id = call.grantId
    · have hstatus := (ConsumeCall.refusal_eq_none hrefusal).1
      obtain rfl : spent = grant := Option.some.inj (hfind.symm.trans (hid ▸ hgrant))
      refine ⟨_, (hrows id).trans (if_pos hid), rfl, fun _ => hstatus, fun h => ?_⟩
      rw [hstatus] at h
      cases h
    · exact ⟨grant, ((hrows id).trans (if_neg hid)).trans hgrant, .refl _⟩
  | expires call now late grants hfind hstatus hrows =>
    by_cases hid : id = call.grantId
    · obtain rfl : late = grant := Option.some.inj (hfind.symm.trans (hid ▸ hgrant))
      refine ⟨_, (hrows id).trans (if_pos hid), rfl, fun _ => hstatus, fun h => ?_⟩
      rw [hstatus] at h
      cases h
    · exact ⟨grant, ((hrows id).trans (if_neg hid)).trans hgrant, .refl _⟩
  | delivers row now grants _ _ hrows =>
    refine ⟨_, (hrows id).trans (by rw [hgrant, Option.map_some]), ?_⟩
    split_ifs
    · exact ⟨rfl, fun h => h, fun h => ⟨h, rfl⟩⟩
    · exact .refl _

/-- A row that is there was there, or has just been issued. -/
theorem origin (h : GrantsMove host db action grants) (hgrant : grants.find id = some grant') :
    (∃ grant, db.grants.find id = some grant ∧ grant.Descends grant') ∨
    ∃ call decision reason, action = .issue call ∧ call.verdict host db = .ok (decision, reason) ∧
      db.grants.find id = none ∧ grant' = call.row host decision reason := by
  cases hbefore : db.grants.find id with
  | some grant =>
    obtain ⟨after, hafter, hdescends⟩ := h.descends hbefore
    obtain rfl := Option.some.inj (hafter.symm.trans hgrant)
    exact Or.inl ⟨grant, rfl, hdescends⟩
  | none =>
    right
    cases h with
    | same =>
      rw [hbefore] at hgrant
      cases hgrant
    | issues call decision reason grants hverdict hinsert =>
      rw [(Table.find_insert hinsert).2 id] at hgrant
      split_ifs at hgrant with hid
      · exact ⟨call, decision, reason, rfl, hverdict, rfl, (Option.some.inj hgrant).symm⟩
      · rw [hbefore] at hgrant
        cases hgrant
    | spends call now grant grants hread _ _ hrows =>
      have hfind := (ConsumeCall.read_eq_some hread).1
      rw [hrows id] at hgrant
      split_ifs at hgrant with hid
      · rw [← hid, hbefore] at hfind
        cases hfind
      · rw [hbefore] at hgrant
        cases hgrant
    | expires call now grant grants hfind _ hrows =>
      rw [hrows id] at hgrant
      split_ifs at hgrant with hid
      · rw [← hid, hbefore] at hfind
        cases hfind
      · rw [hbefore] at hgrant
        cases hgrant
    | delivers row now grants _ _ hrows =>
      rw [hrows id, hbefore] at hgrant
      cases hgrant

end GrantsMove

theorem descends_run {actions : List BrokerAction} (hrun : (brokerSystem host settings).run db actions = some db')
    {id : String} {grant : GrantRow} (hgrant : db.grants.find id = some grant) :
    ∃ grant', db'.grants.find id = some grant' ∧ grant.Descends grant' := by
  refine System.run_keeps (I := fun t => ∃ grant', t.grants.find id = some grant' ∧ grant.Descends grant')
    (fun t action t' hkept hnext => ?_) hrun ⟨grant, hgrant, .refl _⟩
  obtain ⟨middle, hmiddle, hdescends⟩ := hkept
  obtain ⟨grant', hgrant', hdescends'⟩ := (grants_next hnext).descends hmiddle
  exact ⟨grant', hgrant', hdescends.trans hdescends'⟩

/-- A run to a state that begins with the issue of a row, which has become the row there is. -/
structure IssuedBy (host : Host) (settings : Settings) (db : ControlDatabase) (grant : GrantRow) (before : ControlDatabase)
    (call : IssueCall) (decision : Decision) (reason : String) : Prop where
  reachable : (brokerSystem host settings).Reachable before
  verdict : call.verdict host before = .ok (decision, reason)
  run : ∃ actions, (brokerSystem host settings).run before (.issue call :: actions) = some db
  descends : (call.row host decision reason).Descends grant

/-- Every row goes back to the call that issued it. -/
theorem issued_by (h : (brokerSystem host settings).Reachable db) {id : String} {grant : GrantRow}
    (hgrant : db.grants.find id = some grant) :
    ∃ before call decision reason, IssuedBy host settings db grant before call decision reason := by
  induction h generalizing grant with
  | init hinit =>
    rw [Table.find, hinit.1] at hgrant
    cases hgrant
  | @step db db' action hreach hnext ih =>
    obtain ⟨earlier, hearlier, hdescends⟩ | ⟨call, decision, reason, rfl, hverdict, _, rfl⟩ :=
      (grants_next hnext).origin hgrant
    · obtain ⟨before, call, decision, reason, hissued⟩ := ih hearlier
      obtain ⟨actions, hrun⟩ := hissued.run
      refine ⟨before, call, decision, reason, hissued.reachable, hissued.verdict, ⟨actions ++ [action], ?_⟩,
        hissued.descends.trans hdescends⟩
      exact System.run_concat hrun hnext
    · exact ⟨db, call, decision, reason, hreach, hverdict, ⟨[], by simp [System.run, hnext]⟩, .refl _⟩

/-! ### A broker with one directive -/

/-- A claimed directive and its permit, and nothing else. -/
def exampleControl : ControlDatabase where
  grants := ⟨[], List.nodup_nil⟩
  permits := ⟨[{
    id := "p"
    workspaceId := "w"
    sessionId := "s"
    decision := some "allow"
    expiresAt := none
    userId := none
    directiveId := none
    objectiveHash := none
    scopeDigest := none
    charterId := none
    actionKind := "git"
    targetPaths := []
    commandPreview := none }], List.nodup_singleton _⟩
  directives := ⟨[{
    directiveId := "d"
    workspaceId := "w"
    sessionId := "s"
    state := .inProgress
    claimedExecutor := some "e"
    leaseGeneration := 1
    userId := "o"
    objectiveHash := none
    requiresPermit := true
    permitId := some "p"
    claimedBy := some "e"
    startedAt := some ⟨epoch, true⟩
    expiresAt := none
    leaseExpiresAt := none
    createdAt := ⟨epoch, true⟩
    updatedAt := ⟨epoch, true⟩ }], List.nodup_singleton _⟩
  effects := ⟨[], List.nodup_nil⟩
  outbox := ⟨[], List.nodup_nil⟩

def exampleSettings : Settings := ⟨600, false, false, true, 10⟩

/-- A grant for the directive of `exampleControl`. -/
def exampleIssue (newId : String) (now : Instant) : IssueCall where
  workspaceId := "w"
  ownerId := "o"
  sessionId := "s"
  operation := ⟨"git.write", "push", "r", []⟩
  directiveId := some "d"
  permitId := some "p"
  ttlSeconds := none
  charterId := none
  now
  newId
  newToken := "t"

/-- The consumption of that grant. -/
def exampleUse (grantId : String) : ConsumeCall := ⟨"w", "o", grantId, "t", ⟨"git.write", "push", "r", []⟩⟩

end OpenTimeline.Capability
