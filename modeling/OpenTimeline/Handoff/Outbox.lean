import OpenTimeline.Library.Connection
import OpenTimeline.Capability.Broker

/-! The handoff outbox, statement by statement.

A completion is captured as a row of the outbox. Its delivery writes an event, a handoff
record, the completion on the grants of the session and the status of the row, in one
transaction. Where any statement raises, the transaction is rolled back and the failure goes
on the row, in a transaction of its own, from where a drain retries it and an operator
requeues it. -/
namespace OpenTimeline.Handoff
open Library Directive Capability

/-! ### Rows -/

/-- A row of `handoff_outbox`, with what its delivery writes of it. -/
structure HandoffRow extends OutboxRow where
  directiveId : Option String
  terminalState : String
  source : String
  eventId : String
  handoffRecordId : String
  executorId : Option String
deriving DecidableEq, Repr

/-- A row of `events`, with the columns its unique indexes read. -/
structure EventRow where
  id : String
  ts : Instant
  actor : String
  eventType : String
  /-- `context._tce_workspace` -/
  workspaceId : String
  /-- `context._tce_owner` -/
  ownerId : String
  sessionId : String
  sourceId : Option String
  sourceSeq : Option Nat
  idempotencyKey : Option String
deriving DecidableEq, Repr

/-- A row of `handoff_records`. -/
structure HandoffRecord where
  id : String
  workspaceId : String
  ownerId : String
  sessionId : String
  directiveId : Option String
  ts : Instant
  status : String
  source : String
  eventId : String
  expiresAt : Instant
  executorId : Option String
deriving DecidableEq, Repr

structure Database where
  outbox : Table fun row : HandoffRow => row.id
  events : Table EventRow.id
  records : Table HandoffRecord.id
  grants : Table GrantRow.id

/-! ### Capture -/

structure HandoffCall extends EnqueueCall where
  directiveId : Option String
  terminalState : String
  source : String
  executorId : Option String
  /-- the other two draws of `str(uuid.uuid4())` -/
  newEventId : String
  newRecordId : String

namespace HandoffCall

def row (call : HandoffCall) : HandoffRow where
  toOutboxRow := call.toEnqueueCall.row
  directiveId := call.directiveId
  terminalState := call.terminalState
  source := String.ofList ((if call.source = "" then "native" else call.source).toList.take 64)
  eventId := call.newEventId
  handoffRecordId := call.newRecordId
  executorId := call.executorId

/-- `INSERT OR IGNORE` -/
def inserted (call : HandoffCall) (db : Database) : Database :=
  if db.outbox.rows.any fun row => call.isOf row.toOutboxRow then db
  else {db with outbox := (db.outbox.insert call.row).getD db.outbox}

end HandoffCall

/-- `enqueue_handoff` -/
def enqueueHandoff (call : HandoffCall) (db : Database) : Except EnqueueError (Database × HandoffRow) :=
  let db := call.inserted db
  match db.outbox.rows.find? fun row => call.isOf row.toOutboxRow with
  | none => .error .insertFailed
  | some row =>
    if differ row.payloadHash call.payloadHash then .error (.conflict row.id)
    else .ok (db, row)

/-! ### What a delivery writes -/

def HandoffRow.event (row : HandoffRow) : EventRow where
  id := row.eventId
  ts := row.createdAt
  actor := row.ownerId
  eventType := if row.terminalState = "succeeded" then "TASK_DONE" else "TASK_DECISION"
  workspaceId := row.workspaceId
  ownerId := row.ownerId
  sessionId := row.sessionId
  sourceId := some row.id
  sourceSeq := some 1
  idempotencyKey := some ("completion:" ++ row.completionKey)

def HandoffRow.record (row : HandoffRow) (retentionDays : Int) : HandoffRecord where
  id := row.handoffRecordId
  workspaceId := row.workspaceId
  ownerId := row.ownerId
  sessionId := row.sessionId
  directiveId := row.directiveId
  ts := row.createdAt
  status := row.terminalState
  source := row.source
  eventId := row.eventId
  expiresAt := row.createdAt + (max 1 retentionDays).toNat * 86400000000
  executorId := (row.executorId.filter (· ≠ "")).map strip

/-- The primary key and the two unique indexes of `events`: a NULL conflicts with nothing. -/
def EventRow.conflicts (e e' : EventRow) : Bool :=
  e.id = e'.id ||
  (e.sourceId = e'.sourceId && e.sourceSeq = e'.sourceSeq && e.workspaceId = e'.workspaceId &&
    e.sourceId.isSome && e.sourceSeq.isSome) ||
  (e.idempotencyKey = e'.idempotencyKey && e.workspaceId = e'.workspaceId && e.ownerId = e'.ownerId &&
    e.idempotencyKey.isSome)

namespace Database
variable (db : Database)

/-- `INSERT OR IGNORE INTO events` -/
def insertEvent (event : EventRow) : Database :=
  if db.events.rows.any event.conflicts then db
  else {db with events := (db.events.insert event).getD db.events}

/-- `INSERT OR IGNORE INTO handoff_records` -/
def insertRecord (record : HandoffRecord) : Database :=
  {db with records := (db.records.insert record).getD db.records}

/-- `UPDATE capability_grants` -/
def discharge (row : HandoffRow) (now : Instant) : Database :=
  {db with grants := db.grants.updateWhere row.discharges (fun grant => {grant with
    completionOutboxId := some row.id
    completionRecordedAt := some now }) fun _ => rfl}

/-- `UPDATE handoff_outbox … WHERE id = ?` -/
def updateRow (id : String) (f : HandoffRow → HandoffRow) (hf : ∀ row, (f row).id = row.id) : Database :=
  {db with outbox := db.outbox.updateWhere (fun row => row.id = id) f hf}

end Database

def HandoffRow.delivered (row : HandoffRow) (now : Instant) : HandoffRow :=
  let outboxRow := {row.toOutboxRow with
    status := .delivered
    attempts := row.attempts + 1
    lastError := none
    deliveredAt := some now }
  {row with toOutboxRow := outboxRow}

theorem HandoffRow.delivered_id (row : HandoffRow) (now : Instant) : (row.delivered now).id = row.id := rfl

/-- The row after a failure, from the attempts that were read. -/
def HandoffRow.failed (row : HandoffRow) (read : Nat) (error : String) (now : Instant) : HandoffRow :=
  let attempts := read + 1
  let outboxRow := {row.toOutboxRow with
    status := if 10 ≤ attempts then .dead else .pending
    attempts := attempts
    lastError := some (String.ofList (error.toList.take 1000))
    nextAttemptAt := now + min 3600 (2 ^ min attempts 10) * 1000000 }
  {row with toOutboxRow := outboxRow}

theorem HandoffRow.failed_id (row : HandoffRow) (read : Nat) (error : String) (now : Instant) :
    (row.failed read error now).id = row.id := rfl

/-! ### Delivery -/

/-- The statements of a delivery, in the order they are run. -/
inductive Statement
  | readRow | insertEvent | insertRecord | updateGrants | updateOutbox | commit | readBack
  | readAttempts | updateFailed | commitFailed | readFailed
deriving DecidableEq, Repr

structure DeliverCall where
  outboxId : String
  retentionDays : Int
  now : Instant
  /-- `datetime.now(tz=UTC)` where the delivery has failed -/
  failedAt : Instant
  /-- what a statement raises, or the code in front of it, if it does -/
  raises : Statement → Option String

/-- What a delivery writes of a row, up to its commit. -/
def DeliverCall.statements (call : DeliverCall) (row : HandoffRow) : List (Statement × (Database → Database)) :=
  [(.insertEvent, fun db => db.insertEvent row.event),
   (.insertRecord, fun db => db.insertRecord (row.record call.retentionDays)),
   (.updateGrants, fun db => db.discharge row call.now),
   (.updateOutbox, fun db => db.updateRow row.id (·.delivered call.now) (·.delivered_id call.now))]

/-- `deliver_handoff` -/
def deliverHandoff (call : DeliverCall) (c : Connection Database) : Connection Database × Except String HandoffRow :=
  match call.raises .readRow with
  | some error => (c, .error error)
  | none =>
    match c.view.outbox.find call.outboxId with
    | none => (c, .error call.outboxId)
    | some row =>
      if row.status = .delivered then (c, .ok row)
      else match c.execute call.raises (call.statements row) with
        | (c, some error) => (c, .error error)
        | (c, none) =>
          match call.raises .commit with
          | some error => (c, .error error)
          | none =>
            match call.raises .readBack with
            | some error => (c.commit, .error error)
            | none =>
              match c.view.outbox.find call.outboxId with
              | none => (c.commit, .error "delivered outbox disappeared")
              | some delivered => (c.commit, .ok delivered)

/-- The except branch of `deliver_handoff_safely`. -/
def recordFailure (call : DeliverCall) (error : String) (c : Connection Database) :
    Connection Database × Except String HandoffRow :=
  match call.raises .readAttempts with
  | some error => (c, .error error)
  | none =>
    match c.view.outbox.find call.outboxId with
    | none => (c, .error error)
    | some row =>
      let update := fun db : Database =>
        db.updateRow call.outboxId (·.failed row.attempts error call.failedAt) (·.failed_id row.attempts error call.failedAt)
      match c.execute call.raises [(.updateFailed, update)] with
      | (c, some error) => (c, .error error)
      | (c, none) =>
        match call.raises .commitFailed with
        | some error => (c, .error error)
        | none =>
          match call.raises .readFailed with
          | some error => (c.commit, .error error)
          | none =>
            match c.view.outbox.find call.outboxId with
            | none => (c.commit, .error error)
            | some row => (c.commit, .ok row)

/-- `deliver_handoff_safely`; what a call leaves uncommitted is rolled back with its connection. -/
def deliverHandoffSafely (call : DeliverCall) (db : Database) : Database × Except String HandoffRow :=
  match deliverHandoff call (.opened db) with
  | (c, .ok row) => (c.committed, .ok row)
  | (c, .error error) =>
    let (c, result) := recordFailure call error c.rollback
    (c.committed, result)

/-! ### Retries -/

structure DrainCall where
  now : Instant
  limit : Int
  /-- how the delivery of each row goes -/
  deliver : String → DeliverCall

/-- The rows `drain_pending_handoffs` selects. -/
def DrainCall.selected (call : DrainCall) (db : Database) : List HandoffRow :=
  ((db.outbox.rows.filter fun row => row.status = .pending && row.nextAttemptAt ≤ call.now).insertionSort
    fun a b => a.createdAt ≤ b.createdAt).take (max 1 (min 500 call.limit)).toNat

/-- The delivery of a selected row. -/
def DrainCall.on (call : DrainCall) (row : HandoffRow) : DeliverCall :=
  {call.deliver row.id with outboxId := row.id}

/-- The loop of `drain_pending_handoffs`, which an exception ends. -/
def drainRows (call : DrainCall) : List HandoffRow → Database → Database
  | [], db => db
  | row :: rest, db =>
    match deliverHandoffSafely (call.on row) db with
    | (db, .error _) => db
    | (db, .ok _) => drainRows call rest db

/-- `drain_pending_handoffs` -/
def drainPendingHandoffs (call : DrainCall) (db : Database) : Database := drainRows call (call.selected db) db

def HandoffRow.requeued (row : HandoffRow) (now : Instant) : HandoffRow :=
  {row with toOutboxRow := row.toOutboxRow.requeued now}

theorem HandoffRow.requeued_id (row : HandoffRow) (now : Instant) : (row.requeued now).id = row.id := rfl

inductive RequeueError
  | handoffNotFound
  | handoffNotDead (status : DeliveryStatus)

/-- `requeue_dead_handoff` -/
def requeueDeadHandoff (workspaceId outboxId : String) (now : Instant) (db : Database) : Except RequeueError Database :=
  match db.outbox.find outboxId with
  | none => .error .handoffNotFound
  | some row =>
    if row.workspaceId ≠ workspaceId then .error .handoffNotFound
    else if row.status ≠ .dead then .error (.handoffNotDead row.status)
    else
      let dead := fun other : HandoffRow => other.id = outboxId && other.status = .dead
      .ok {db with outbox := db.outbox.updateWhere dead (·.requeued now) (·.requeued_id now)}

end OpenTimeline.Handoff
