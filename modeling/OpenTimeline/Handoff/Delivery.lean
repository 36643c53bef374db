import OpenTimeline.Library.Transition
import OpenTimeline.Handoff.Outbox

/-! Exactly once.

The writes of a delivery are one transaction, so wherever it fails before its commit the row
has neither event nor record, and after it both (`deliver_cases`). But the failure is written
to the row whatever its status: a call that raises on a row that is delivered, at its first
statement or at the one after the commit, turns the row back to pending, with its event there
(`turnsBack`). In runs with no such call a row has its event and its record exactly while it
is delivered. -/
namespace OpenTimeline.Handoff
open Library Directive Capability

/-! ### The property -/

/-- What one completion is recorded under. -/
structure Completion where
  workspaceId : String
  ownerId : String
  key : String
deriving DecidableEq, Repr

def HandoffRow.completion (row : HandoffRow) : Completion := ⟨row.workspaceId, row.ownerId, row.completionKey⟩

def HandoffCall.completion (call : HandoffCall) : Completion := ⟨call.workspaceId, call.ownerId, call.key⟩

theorem HandoffCall.isOf_iff {call : HandoffCall} {row : HandoffRow} :
    call.isOf row.toOutboxRow = true ↔ row.completion = call.completion := by
  simp [EnqueueCall.isOf, HandoffRow.completion, HandoffCall.completion, Completion.mk.injEq, and_assoc]

/-- Whether a record is one of the row's. -/
def HandoffRow.isRecord (row : HandoffRow) (record : HandoffRecord) : Bool :=
  record.id = row.handoffRecordId || record.eventId = row.eventId

namespace Database
variable (db : Database)

/-- The events that any unique index takes for the row's. -/
def eventsOf (row : HandoffRow) : List EventRow := db.events.rows.filter row.event.conflicts

def recordsOf (row : HandoffRow) : List HandoffRecord := db.records.rows.filter row.isRecord

/-- A delivered row has its event and its record once, any other neither. -/
def ExactRow (row : HandoffRow) : Prop :=
  (db.eventsOf row = if row.status = .delivered then [row.event] else []) ∧
    (db.recordsOf row).map HandoffRecord.id = if row.status = .delivered then [row.handoffRecordId] else []

instance (row : HandoffRow) : Decidable (db.ExactRow row) := inferInstanceAs (Decidable (_ ∧ _))

def Exact : Prop := ∀ row ∈ db.outbox.rows, db.ExactRow row

instance : Decidable db.Exact := inferInstanceAs (Decidable (∀ _ ∈ _, _))

end Database

/-! ### The system -/

structure State where
  db : Database
  /-- the completions that were ever enqueued -/
  enqueued : List Completion

inductive Action
  | enqueue (call : HandoffCall)
  | deliver (call : DeliverCall)
  | drain (call : DrainCall)
  | requeue (workspaceId outboxId : String) (now : Instant)

/-- No row has a draw of the call yet. -/
def HandoffCall.fresh (call : HandoffCall) (db : Database) : Bool :=
  db.outbox.rows.all (fun row => row.id ≠ call.newId && row.eventId ≠ call.newEventId &&
    row.handoffRecordId ≠ call.newRecordId) &&
  db.events.rows.all (fun event => event.id ≠ call.newEventId && event.sourceId ≠ some call.newId) &&
  db.records.rows.all fun record => record.id ≠ call.newRecordId && record.eventId ≠ call.newEventId

def enqueued (call : HandoffCall) (db : Database) : Database :=
  match enqueueHandoff call db with
  | .ok (db, _) => db
  | .error _ => db

def requeued (workspaceId outboxId : String) (now : Instant) (db : Database) : Database :=
  (requeueDeadHandoff workspaceId outboxId now db).toOption.getD db

/-- No completion is enqueued or recorded yet. -/
def State.blank (s : State) : Prop :=
  s.enqueued = [] ∧ s.db.outbox.rows = [] ∧
    ∀ event ∈ s.db.events.rows, ∀ key : String, event.idempotencyKey ≠ some ("completion:" ++ key)

def system : System State Action where
  init := State.blank
  next s
    | .enqueue call =>
      if call.fresh s.db then some ⟨enqueued call s.db, call.completion :: s.enqueued⟩ else none
    | .deliver call => some {s with db := (deliverHandoffSafely call s.db).1}
    | .drain call => some {s with db := drainPendingHandoffs call s.db}
    | .requeue workspaceId outboxId now => some {s with db := requeued workspaceId outboxId now s.db}

/-! ### What a delivery does -/

/-- None of these statements raises. -/
def DeliverCall.passes (call : DeliverCall) (statements : List Statement) : Bool :=
  statements.all fun s => (call.raises s).isNone

/-- A failure of a row that is delivered, and is written. -/
def DeliverCall.turnsBack (call : DeliverCall) (db : Database) : Bool :=
  match db.outbox.find call.outboxId with
  | none => false
  | some row =>
    (if row.status = .delivered then (call.raises .readRow).isSome
      else call.passes [.readRow, .insertEvent, .insertRecord, .updateGrants, .updateOutbox, .commit] &&
        (call.raises .readBack).isSome) &&
      call.passes [.readAttempts, .updateFailed, .commitFailed]

/-- One of the deliveries of a drain does. -/
def drainTurnsBack (call : DrainCall) : List HandoffRow → Database → Bool
  | [], _ => false
  | row :: rest, db =>
    (call.on row).turnsBack db ||
      match deliverHandoffSafely (call.on row) db with
      | (_, .error _) => false
      | (db, .ok _) => drainTurnsBack call rest db

def Action.turnsBack (s : State) : Action → Bool
  | .deliver call => call.turnsBack s.db
  | .drain call => drainTurnsBack call (call.selected s.db) s.db
  | _ => false

/-- Runs in which no row that is delivered is turned back. -/
def steadySystem : System State Action := system.restrict fun s action => action.turnsBack s = false

def DeliverCall.delivers (call : DeliverCall) (row : HandoffRow) (db : Database) : Database :=
  Connection.written (call.statements row) db

def DeliverCall.fails (call : DeliverCall) (row : HandoffRow) (error : String) (db : Database) : Database :=
  db.updateRow call.outboxId (·.failed row.attempts error call.failedAt) (·.failed_id row.attempts error call.failedAt)

@[simp] theorem outbox_insertEvent (db : Database) (event : EventRow) : (db.insertEvent event).outbox = db.outbox := by
  unfold Database.insertEvent
  split_ifs <;> rfl

@[simp] theorem records_insertEvent (db : Database) (event : EventRow) :
    (db.insertEvent event).records = db.records := by
  unfold Database.insertEvent
  split_ifs <;> rfl

variable {call : DeliverCall} {row : HandoffRow} {db : Database}

theorem delivers_outbox : (call.delivers row db).outbox =
    db.outbox.updateWhere (fun other => other.id = row.id) (·.delivered call.now) (·.delivered_id call.now) := by
  show (Database.outbox (db.insertEvent row.event)).updateWhere _ (·.delivered call.now) (·.delivered_id call.now) = _
  rw [outbox_insertEvent]

theorem delivers_events : (call.delivers row db).events = (db.insertEvent row.event).events := rfl

theorem delivers_records :
    (call.delivers row db).records = (db.records.insert (row.record call.retentionDays)).getD db.records := by
  show ((db.insertEvent row.event).records.insert _).getD (db.insertEvent row.event).records = _
  rw [records_insertEvent]

theorem find_delivers (hfind : db.outbox.find call.outboxId = some row) :
    (call.delivers row db).outbox.find call.outboxId = some (row.delivered call.now) := by
  rw [delivers_outbox, Table.find_updateWhere, hfind, Option.map_some, if_pos (decide_eq_true rfl)]

variable (call db) in
/-- Where a delivery fails in its transaction the rollback leaves nothing of it. -/
theorem deliverHandoff_cases :
    (∃ error, (deliverHandoff call (.opened db)).2 = .error error ∧
      (deliverHandoff call (.opened db)).1.rollback = .opened db ∧
      ∀ row, db.outbox.find call.outboxId = some row → row.status = .delivered → (call.raises .readRow).isSome) ∨
    (∃ row, (deliverHandoff call (.opened db)).2 = .ok row ∧ (deliverHandoff call (.opened db)).1.committed = db) ∨
    ∃ row, db.outbox.find call.outboxId = some row ∧ row.status ≠ .delivered ∧
      call.passes [.readRow, .insertEvent, .insertRecord, .updateGrants, .updateOutbox, .commit] ∧
      (deliverHandoff call (.opened db)).1 = .opened (call.delivers row db) ∧
      ((∃ row, (deliverHandoff call (.opened db)).2 = .ok row) ∨
        (call.raises .readBack).isSome ∧ ∃ error, (deliverHandoff call (.opened db)).2 = .error error) := by
  unfold deliverHandoff
  cases hread : call.raises .readRow with
  | some error => exact Or.inl ⟨error, rfl, rfl, fun _ _ _ => rfl⟩
  | none =>
    rw [Connection.view_opened]
    cases hfind : db.outbox.find call.outboxId with
    | none => exact Or.inl ⟨_, rfl, rfl, nofun⟩
    | some row =>
      by_cases hstatus : row.status = .delivered
      · simp only [hstatus, if_true]
        exact Or.inr (Or.inl ⟨row, rfl, rfl⟩)
      · have hopen : ∀ other, some row = some other → other.status ≠ .delivered := by
          rintro _ ⟨⟩
          exact hstatus
        simp only [if_neg hstatus]
        generalize hrun : Connection.execute call.raises (call.statements row) (.opened db) = ran
        obtain ⟨c, outcome⟩ := ran
        have hcommitted : c.committed = db := by
          simpa [hrun] using Connection.execute_committed call.raises (call.statements row) (.opened db)
        rcases Connection.execute_cases call.raises (call.statements row) db with
          ⟨error, houtcome, -⟩ | ⟨houtcome, hpass, hcommit⟩
        · rw [hrun] at houtcome
          subst houtcome
          exact Or.inl ⟨error, rfl, congrArg Connection.opened hcommitted,
            fun other hother hdelivered => absurd hdelivered (hopen other hother)⟩
        · rw [hrun] at houtcome hcommit
          subst houtcome
          dsimp only
          have hview : c.view = call.delivers row db := congrArg Connection.view hcommit
          cases hraises : call.raises .commit with
          | some error =>
            exact Or.inl ⟨error, rfl, congrArg Connection.opened hcommitted,
              fun other hother hdelivered => absurd hdelivered (hopen other hother)⟩
          | none =>
            refine Or.inr (Or.inr ⟨row, rfl, hstatus, ?_, ?_⟩)
            · simpa [DeliverCall.passes, DeliverCall.statements, hread, hraises] using hpass
            · rw [hview, find_delivers hfind]
              cases hback : call.raises .readBack with
              | some error => exact ⟨congrArg Connection.opened hview, Or.inr ⟨rfl, error, rfl⟩⟩
              | none => exact ⟨congrArg Connection.opened hview, Or.inl ⟨_, rfl⟩⟩

variable (call db) in
/-- What a failure leaves: the row says so, or nothing does. -/
theorem recordFailure_cases (error : String) :
    (recordFailure call error (.opened db)).1.committed = db ∨
    ∃ row, db.outbox.find call.outboxId = some row ∧ call.passes [.readAttempts, .updateFailed, .commitFailed] ∧
      (recordFailure call error (.opened db)).1.committed = call.fails row error db := by
  unfold recordFailure
  cases hread : call.raises .readAttempts with
  | some _ => exact Or.inl rfl
  | none =>
    rw [Connection.view_opened]
    cases hfind : db.outbox.find call.outboxId with
    | none => exact Or.inl rfl
    | some row =>
      cases hupdate : call.raises .updateFailed with
      | some _ =>
        refine Or.inl ?_
        simp [Connection.execute, hupdate]
      | none =>
        cases hcommit : call.raises .commitFailed with
        | some _ =>
          refine Or.inl ?_
          simp [Connection.execute, hupdate]
        | none =>
          refine Or.inr ⟨row, rfl, by simp [DeliverCall.passes, hread, hupdate, hcommit], ?_⟩
          simp only [Connection.execute, hupdate]
          cases hback : call.raises .readFailed with
          | some _ => rfl
          | none =>
            dsimp only
            split <;> rfl

/-- A delivery that turns no row back changes nothing, or delivers a row, or writes the failure
of one that is not delivered. -/
theorem deliver_cases (h : call.turnsBack db = false) :
    (deliverHandoffSafely call db).1 = db ∨
    ∃ row, db.outbox.find call.outboxId = some row ∧ row.status ≠ .delivered ∧
      ((deliverHandoffSafely call db).1 = call.delivers row db ∨
        ∃ error, (deliverHandoffSafely call db).1 = call.fails row error db) := by
  unfold deliverHandoffSafely
  generalize hrun : deliverHandoff call (.opened db) = ran
  obtain ⟨c, result⟩ := ran
  rcases deliverHandoff_cases call db with ⟨error, hresult, hrollback, hread⟩ |
    ⟨row, hresult, hcommitted⟩ | ⟨row, hfind, hstatus, hpass, hdelivers, hback⟩
  · rw [hrun] at hresult hrollback
    cases hresult
    dsimp only
    rw [hrollback]
    rcases recordFailure_cases call db error with hsame | ⟨row, hfind, hpass, hfails⟩
    · exact Or.inl hsame
    · refine Or.inr ⟨row, hfind, fun hdelivered => ?_, Or.inr ⟨error, hfails⟩⟩
      rw [DeliverCall.turnsBack, hfind] at h
      simp [hdelivered, hread row hfind hdelivered, hpass] at h
  · rw [hrun] at hresult hcommitted
    cases hresult
    exact Or.inl hcommitted
  · rw [hrun] at hdelivers hback
    rcases hback with ⟨_, hresult⟩ | ⟨hraises, error, hresult⟩
    · cases hresult
      exact Or.inr ⟨row, hfind, hstatus, Or.inl (congrArg Connection.committed hdelivers)⟩
    · cases hresult
      have hrollback : c.rollback = .opened (call.delivers row db) := congrArg Connection.rollback hdelivers
      dsimp only
      rw [hrollback]
      rcases recordFailure_cases call (call.delivers row db) error with hsame | ⟨_, _, hfails, _⟩
      · exact Or.inr ⟨row, hfind, hstatus, Or.inl hsame⟩
      · rw [DeliverCall.turnsBack, hfind] at h
        simp [hstatus, hpass, hraises, hfails] at h

/-! ### The invariant -/

/-- What a run without such calls keeps. -/
structure Consistent (db : Database) : Prop where
  completions : (db.outbox.rows.map HandoffRow.completion).Nodup
  eventIds : (db.outbox.rows.map HandoffRow.eventId).Nodup
  recordIds : (db.outbox.rows.map HandoffRow.handoffRecordId).Nodup
  captured : ∀ event ∈ db.events.rows, ∀ key : String, event.idempotencyKey = some ("completion:" ++ key) →
    ⟨event.workspaceId, event.ownerId, key⟩ ∈ db.outbox.rows.map HandoffRow.completion
  exact : db.Exact

theorem conflicts_event {row other : HandoffRow} (h : row.event.conflicts other.event = true) :
    row.eventId = other.eventId ∨ row.id = other.id ∨ row.completion = other.completion := by
  simp only [EventRow.conflicts, HandoffRow.event, Bool.or_eq_true, Bool.and_eq_true, decide_eq_true_eq,
    Option.some.injEq, String.append_right_inj] at h
  rcases h with (hid | ⟨⟨⟨⟨hsource, -⟩, -⟩, -⟩, -⟩) | ⟨⟨⟨hkey, hworkspace⟩, howner⟩, -⟩
  · exact Or.inl (of_decide_eq_true hid)
  · exact Or.inr (Or.inl hsource)
  · refine Or.inr (Or.inr ?_)
    rw [HandoffRow.completion, of_decide_eq_true hworkspace, of_decide_eq_true howner, hkey, HandoffRow.completion]

theorem event_conflicts_self (row : HandoffRow) : row.event.conflicts row.event = true := by
  simp [EventRow.conflicts]

/-- The rows of a consistent outbox share no event and no record. -/
theorem Consistent.apart (h : Consistent db) {row other : HandoffRow} (hrow : row ∈ db.outbox.rows)
    (hother : other ∈ db.outbox.rows) (hne : row.id ≠ other.id) (days : Int) :
    row.event.conflicts other.event = false ∧ row.isRecord (other.record days) = false := by
  have hrows : row ≠ other := fun heq => hne (congrArg (fun r : HandoffRow => r.id) heq)
  have hevent : row.eventId ≠ other.eventId := fun heq => hrows (List.inj_on_of_nodup_map h.eventIds hrow hother heq)
  have hrecord : row.handoffRecordId ≠ other.handoffRecordId :=
    fun heq => hrows (List.inj_on_of_nodup_map h.recordIds hrow hother heq)
  constructor
  · rw [Bool.eq_false_iff]
    intro hconflicts
    rcases conflicts_event hconflicts with heq | heq | heq
    · exact hevent heq
    · exact hne heq
    · exact hrows (List.inj_on_of_nodup_map h.completions hrow hother heq)
  · simp [HandoffRow.isRecord, HandoffRow.record, hrecord.symm, hevent.symm]

theorem completion_of_event {row other : HandoffRow} (h : row.event = other.event) : row.completion = other.completion := by
  have hkey : row.completionKey = other.completionKey := by
    simpa [HandoffRow.event] using congrArg EventRow.idempotencyKey h
  have hworkspace : row.workspaceId = other.workspaceId := congrArg EventRow.workspaceId h
  have howner : row.ownerId = other.ownerId := congrArg EventRow.ownerId h
  rw [HandoffRow.completion, hworkspace, howner, hkey, HandoffRow.completion]

/-- What an UPDATE leaves of a row: its event and its record. -/
def Writes (f : HandoffRow → HandoffRow) : Prop :=
  ∀ row, (f row).id = row.id ∧ (f row).event = row.event ∧ (f row).handoffRecordId = row.handoffRecordId

theorem completions_updateWhere {p : HandoffRow → Bool} {f : HandoffRow → HandoffRow} (hwrites : Writes f) :
    (db.outbox.updateWhere p f fun row => (hwrites row).1).rows.map HandoffRow.completion =
      db.outbox.rows.map HandoffRow.completion :=
  db.outbox.map_updateWhere fun row => completion_of_event (hwrites row).2.1

namespace Consistent
variable {p : HandoffRow → Bool} {f : HandoffRow → HandoffRow}

/-- After an UPDATE that leaves events and records of rows, what is exact of each row is enough. -/
theorem of_update (h : Consistent db) (hwrites : Writes f) {db' : Database}
    (houtbox : db'.outbox = db.outbox.updateWhere p f fun row => (hwrites row).1)
    (hevents : ∀ event ∈ db'.events.rows, event ∈ db.events.rows ∨ ∃ row ∈ db.outbox.rows, event = row.event)
    (hexact : db'.Exact) : Consistent db' := by
  exact
    { completions := by
        rw [houtbox, completions_updateWhere hwrites]
        exact h.completions
      eventIds := by
        rw [houtbox, db.outbox.map_updateWhere fun row => congrArg EventRow.id (hwrites row).2.1]
        exact h.eventIds
      recordIds := by
        rw [houtbox, db.outbox.map_updateWhere fun row => (hwrites row).2.2]
        exact h.recordIds
      captured := by
        intro event hevent key hkey
        rw [houtbox, completions_updateWhere hwrites]
        rcases hevents event hevent with hold | ⟨row, hrow, rfl⟩
        · exact h.captured event hold key hkey
        · have hsame : row.completionKey = key := by simpa [HandoffRow.event] using hkey
          exact List.mem_map.mpr ⟨row, hrow, hsame ▸ rfl⟩
      exact := hexact }

/-- An UPDATE of rows that are not delivered, before it or after. -/
theorem updated (h : Consistent db) (hwrites : Writes f)
    (hopen : ∀ row ∈ db.outbox.rows, p row → row.status ≠ .delivered ∧ (f row).status ≠ .delivered) :
    Consistent {db with outbox := db.outbox.updateWhere p f fun row => (hwrites row).1} := by
  refine h.of_update hwrites rfl (fun event hevent => Or.inl hevent) ?_
  show ∀ row ∈ (db.outbox.updateWhere p f fun row => (hwrites row).1).rows, Database.ExactRow db row
  refine Table.forall_updateWhere h.exact fun row hrow hexact hp => ?_
  unfold Database.ExactRow at hexact ⊢
  obtain ⟨hbefore, hafter⟩ := hopen row hrow hp
  obtain ⟨-, hevent, hrecord⟩ := hwrites row
  rw [if_neg hbefore, if_neg hbefore] at hexact
  rw [if_neg hafter, if_neg hafter]
  have hisRecord : (f row).isRecord = row.isRecord := by
    funext record
    rw [HandoffRow.isRecord, hrecord, show (f row).eventId = row.eventId from congrArg EventRow.id hevent,
      HandoffRow.isRecord]
  constructor
  · rw [Database.eventsOf, hevent]
    exact hexact.1
  · rw [Database.recordsOf, hisRecord]
    exact hexact.2

/-- A delivery enters the event and the record of its row. -/
theorem delivered (h : Consistent db) (hfind : db.outbox.find call.outboxId = some row) (hstatus : row.status ≠ .delivered) :
    Consistent (call.delivers row db) := by
  have hrow : row ∈ db.outbox.rows := (Table.find_eq_some_iff.mp hfind).1
  obtain ⟨hnoEvent, hnoRecord⟩ := h.exact row hrow
  rw [if_neg hstatus] at hnoEvent hnoRecord
  have hnoEvents := hnoEvent
  have hnoRecords := hnoRecord
  rw [Database.eventsOf, List.filter_eq_nil_iff] at hnoEvent
  rw [Database.recordsOf, List.map_eq_nil_iff, List.filter_eq_nil_iff] at hnoRecord
  have hevents : (call.delivers row db).events.rows = db.events.rows ++ [row.event] := by
    have hnone : db.events.rows.any row.event.conflicts = false := List.any_eq_false.mpr hnoEvent
    rw [delivers_events, Database.insertEvent, hnone]
    cases hinsert : db.events.insert row.event with
    | none =>
      obtain ⟨event, hevent⟩ := Table.find_of_insert_eq_none hinsert
      obtain ⟨hmem, hid⟩ := Table.find_eq_some_iff.mp hevent
      exact absurd (by simp [EventRow.conflicts, hid]) (hnoEvent event hmem)
    | some events => exact Table.insert_eq_some hinsert
  have hrecords : (call.delivers row db).records.rows = db.records.rows ++ [row.record call.retentionDays] := by
    rw [delivers_records]
    cases hinsert : db.records.insert (row.record call.retentionDays) with
    | none =>
      obtain ⟨record, hrecord⟩ := Table.find_of_insert_eq_none hinsert
      obtain ⟨hmem, hid⟩ := Table.find_eq_some_iff.mp hrecord
      exact absurd (by simp [HandoffRow.isRecord, hid, HandoffRow.record]) (hnoRecord record hmem)
    | some records => exact Table.insert_eq_some hinsert
  have hwrites : Writes (·.delivered call.now) := fun _ => ⟨rfl, rfl, rfl⟩
  refine h.of_update hwrites delivers_outbox ?_ ?_
  · intro event hevent
    rw [hevents, List.mem_append, List.mem_singleton] at hevent
    rcases hevent with hold | rfl
    · exact Or.inl hold
    · exact Or.inr ⟨row, hrow, rfl⟩
  · unfold Database.Exact
    rw [delivers_outbox]
    refine Table.forall_update fun other hother => ?_
    by_cases hid : other.id = row.id
    · have hsame : other = row := List.inj_on_of_nodup_map db.outbox.nodup hother hrow hid
      subst hsame
      rw [if_pos (decide_eq_true rfl)]
      have hrecord : other.isRecord (other.record call.retentionDays) = true := by
        simp [HandoffRow.isRecord, HandoffRow.record]
      refine ⟨?_, ?_⟩
      · show (call.delivers other db).events.rows.filter other.event.conflicts = [other.event]
        rw [hevents, List.filter_append, ← Database.eventsOf, hnoEvents, List.nil_append,
          List.filter_cons_of_pos (event_conflicts_self other), List.filter_nil]
      · show ((call.delivers other db).records.rows.filter other.isRecord).map HandoffRecord.id = [other.handoffRecordId]
        rw [hrecords, List.filter_append, List.map_append, ← Database.recordsOf, hnoRecords, List.nil_append,
          List.filter_cons_of_pos hrecord, List.filter_nil]
        rfl
    · obtain ⟨hevent, hrecord⟩ := h.apart hother hrow hid call.retentionDays
      rw [if_neg (by simpa using hid)]
      have hexact := h.exact other hother
      unfold Database.ExactRow Database.eventsOf Database.recordsOf at hexact ⊢
      rw [hevents, hrecords, List.filter_append, List.filter_append, List.filter_cons_of_neg (by simp [hevent]),
        List.filter_cons_of_neg (by simp [hrecord]), List.filter_nil, List.filter_nil, List.append_nil, List.append_nil]
      exact hexact

theorem failed (h : Consistent db) (hfind : db.outbox.find call.outboxId = some row) (hstatus : row.status ≠ .delivered)
    (error : String) : Consistent (call.fails row error db) := by
  have hrow : row ∈ db.outbox.rows := (Table.find_eq_some_iff.mp hfind).1
  have hid : row.id = call.outboxId := (Table.find_eq_some_iff.mp hfind).2
  have hwrites : Writes (·.failed row.attempts error call.failedAt) := fun _ => ⟨rfl, rfl, rfl⟩
  refine h.updated hwrites fun other hother hp => ?_
  have hsame : other = row :=
    List.inj_on_of_nodup_map db.outbox.nodup hother hrow ((of_decide_eq_true hp).trans hid.symm)
  refine ⟨hsame ▸ hstatus, ?_⟩
  show (if 10 ≤ row.attempts + 1 then DeliveryStatus.dead else .pending) ≠ .delivered
  split_ifs <;> simp

theorem deliver (h : Consistent db) (hsteady : call.turnsBack db = false) : Consistent (deliverHandoffSafely call db).1 := by
  rcases deliver_cases hsteady with hsame | ⟨row, hfind, hstatus, hdelivers | ⟨error, hfails⟩⟩
  · rw [hsame]
    exact h
  · rw [hdelivers]
    exact h.delivered hfind hstatus
  · rw [hfails]
    exact h.failed hfind hstatus error

theorem drain {call : DrainCall} {rows : List HandoffRow} (h : Consistent db) (hsteady : drainTurnsBack call rows db = false) :
    Consistent (drainRows call rows db) := by
  induction rows generalizing db with
  | nil => exact h
  | cons row rest ih =>
    rw [drainTurnsBack, Bool.or_eq_false_iff] at hsteady
    have hdeliver := h.deliver hsteady.1
    unfold drainRows
    generalize deliverHandoffSafely (call.on row) db = ran at hdeliver hsteady
    obtain ⟨db', _ | _⟩ := ran
    · exact hdeliver
    · exact ih hdeliver hsteady.2

theorem requeue (h : Consistent db) (workspaceId outboxId : String) (now : Instant) :
    Consistent (requeued workspaceId outboxId now db) := by
  unfold requeued requeueDeadHandoff
  cases hfind : db.outbox.find outboxId with
  | none => exact h
  | some row =>
    dsimp only
    split_ifs with hworkspace hstatus
    · exact h
    · exact h
    · have hwrites : Writes (·.requeued now) := fun _ => ⟨rfl, rfl, rfl⟩
      refine h.updated hwrites fun other _ hp => ?_
      rw [Bool.and_eq_true, decide_eq_true_eq, decide_eq_true_eq] at hp
      refine ⟨by simp [hp.2], ?_⟩
      show DeliveryStatus.pending ≠ .delivered
      simp

theorem mem_inserted {call : HandoffCall} (h : row ∈ (call.inserted db).outbox.rows) :
    row ∈ db.outbox.rows ∨ row = call.row := by
  unfold HandoffCall.inserted at h
  split_ifs at h
  · exact Or.inl h
  · cases hinsert : db.outbox.insert call.row with
    | none =>
      rw [hinsert] at h
      exact Or.inl h
    | some outbox =>
      rw [hinsert] at h
      have hmem : row ∈ outbox.rows := h
      rw [Table.insert_eq_some hinsert] at hmem
      simpa using hmem

/-- A completion that is new is captured, with neither event nor record. -/
theorem inserted {call : HandoffCall} (h : Consistent db) (hfresh : call.fresh db = true) :
    Consistent (call.inserted db) ∧ call.completion ∈ (call.inserted db).outbox.rows.map HandoffRow.completion := by
  unfold HandoffCall.inserted
  split_ifs with hany
  · obtain ⟨row, hrow, hof⟩ := List.any_eq_true.mp hany
    exact ⟨h, List.mem_map.mpr ⟨row, hrow, HandoffCall.isOf_iff.mp hof⟩⟩
  · simp only [HandoffCall.fresh, Bool.and_eq_true, List.all_eq_true, decide_eq_true_eq] at hfresh
    obtain ⟨⟨hrows, hevents⟩, hrecords⟩ := hfresh
    have hcompletion : call.completion ∉ db.outbox.rows.map HandoffRow.completion := by
      intro hmem
      obtain ⟨row, hrow, hsame⟩ := List.mem_map.mp hmem
      exact hany (List.any_eq_true.mpr ⟨row, hrow, HandoffCall.isOf_iff.mpr hsame⟩)
    cases hinsert : db.outbox.insert call.row with
    | none =>
      obtain ⟨row, hfind⟩ := Table.find_of_insert_eq_none hinsert
      obtain ⟨hrow, hid⟩ := Table.find_eq_some_iff.mp hfind
      exact absurd hid (hrows row hrow).1.1
    | some outbox =>
      have houtbox : outbox.rows = db.outbox.rows ++ [call.row] := Table.insert_eq_some hinsert
      have hnodup {β : Type} {g : HandoffRow → β} (hold : (db.outbox.rows.map g).Nodup)
          (hnew : ∀ row ∈ db.outbox.rows, g row ≠ g call.row) : (outbox.rows.map g).Nodup := by
        rw [houtbox, List.map_append, List.nodup_append]
        refine ⟨hold, by simp, ?_⟩
        simpa using hnew
      have hmem : call.completion ∈ outbox.rows.map HandoffRow.completion := by
        rw [houtbox, List.map_append]
        exact List.mem_append_right _ (List.mem_singleton.mpr rfl)
      refine ⟨?_, hmem⟩
      exact
        { completions := hnodup h.completions fun row hrow heq => hcompletion (List.mem_map.mpr ⟨row, hrow, heq⟩)
          eventIds := hnodup h.eventIds fun row hrow => (hrows row hrow).1.2
          recordIds := hnodup h.recordIds fun row hrow => (hrows row hrow).2
          captured := by
            intro event hevent key hkey
            show _ ∈ outbox.rows.map HandoffRow.completion
            rw [houtbox, List.map_append]
            exact List.mem_append_left _ (h.captured event hevent key hkey)
          exact := by
            show ∀ row ∈ outbox.rows, Database.ExactRow db row
            rw [houtbox, List.forall_mem_append, List.forall_mem_singleton]
            refine ⟨h.exact, ?_, ?_⟩
            · refine List.filter_eq_nil_iff.mpr fun event hevent hconflicts => ?_
              obtain ⟨hid, hsource⟩ := hevents event hevent
              simp only [EventRow.conflicts, Bool.or_eq_true, Bool.and_eq_true, decide_eq_true_eq] at hconflicts
              rcases hconflicts with (heq | ⟨⟨⟨⟨heq, -⟩, -⟩, -⟩, -⟩) | ⟨⟨⟨hkey, hworkspace⟩, howner⟩, -⟩
              · exact hid heq.symm
              · exact hsource heq.symm
              · have hcaptured := h.captured event hevent call.key hkey.symm
                rw [← hworkspace, ← howner] at hcaptured
                exact hcompletion hcaptured
            · show (db.records.rows.filter call.row.isRecord).map HandoffRecord.id = []
              rw [List.map_eq_nil_iff, List.filter_eq_nil_iff]
              intro record hrecord
              obtain ⟨hid, hevent⟩ := hrecords record hrecord
              simp [HandoffRow.isRecord, HandoffCall.row, hid, hevent] }

theorem enqueue {call : HandoffCall} (h : Consistent db) (hfresh : call.fresh db = true) :
    Consistent (enqueued call db) ∧ call.completion ∈ (enqueued call db).outbox.rows.map HandoffRow.completion := by
  have hinserted := h.inserted hfresh
  unfold enqueued enqueueHandoff
  dsimp only
  cases hfind : (call.inserted db).outbox.rows.find? fun row => call.isOf row.toOutboxRow with
  | none =>
    obtain ⟨row, hrow, hsame⟩ := List.mem_map.mp hinserted.2
    exact absurd (HandoffCall.isOf_iff.mpr hsame) (List.find?_eq_none.mp hfind row hrow)
  | some row =>
    dsimp only
    split_ifs with hdiffer
    · -- a row with another payload was there before the call
      refine ⟨h, ?_⟩
      rcases mem_inserted (List.mem_of_find?_eq_some hfind) with hold | rfl
      · have hof : call.isOf row.toOutboxRow = true := by simpa using List.find?_some hfind
        exact List.mem_map.mpr ⟨row, hold, HandoffCall.isOf_iff.mp hof⟩
      · simp [differ, HandoffCall.row, EnqueueCall.row] at hdiffer
    · exact hinserted

end Consistent

/-! ### Runs -/

theorem completions_deliver (hsteady : call.turnsBack db = false) :
    (deliverHandoffSafely call db).1.outbox.rows.map HandoffRow.completion =
      db.outbox.rows.map HandoffRow.completion := by
  rcases deliver_cases hsteady with hsame | ⟨row, hfind, hstatus, hdelivers | ⟨error, hfails⟩⟩
  · rw [hsame]
  · have hwrites : Writes (·.delivered call.now) := fun _ => ⟨rfl, rfl, rfl⟩
    rw [hdelivers, delivers_outbox]
    exact completions_updateWhere hwrites
  · have hwrites : Writes (·.failed row.attempts error call.failedAt) := fun _ => ⟨rfl, rfl, rfl⟩
    rw [hfails]
    exact completions_updateWhere hwrites

theorem completions_drain {call : DrainCall} {rows : List HandoffRow} (hsteady : drainTurnsBack call rows db = false) :
    (drainRows call rows db).outbox.rows.map HandoffRow.completion = db.outbox.rows.map HandoffRow.completion := by
  induction rows generalizing db with
  | nil => rfl
  | cons row rest ih =>
    rw [drainTurnsBack, Bool.or_eq_false_iff] at hsteady
    have hdeliver := completions_deliver hsteady.1
    unfold drainRows
    generalize deliverHandoffSafely (call.on row) db = ran at hdeliver hsteady
    obtain ⟨db', _ | _⟩ := ran
    · exact hdeliver
    · exact (ih hsteady.2).trans hdeliver

theorem completions_requeue (workspaceId outboxId : String) (now : Instant) :
    (requeued workspaceId outboxId now db).outbox.rows.map HandoffRow.completion =
      db.outbox.rows.map HandoffRow.completion := by
  unfold requeued requeueDeadHandoff
  cases hfind : db.outbox.find outboxId with
  | none => rfl
  | some row =>
    dsimp only
    split_ifs with hworkspace hstatus
    · rfl
    · rfl
    · have hwrites : Writes (·.requeued now) := fun _ => ⟨rfl, rfl, rfl⟩
      exact completions_updateWhere hwrites

theorem completions_enqueue (handoff : HandoffCall) :
    db.outbox.rows.map HandoffRow.completion ⊆ (enqueued handoff db).outbox.rows.map HandoffRow.completion := by
  have hinserted : db.outbox.rows.map HandoffRow.completion ⊆
      (handoff.inserted db).outbox.rows.map HandoffRow.completion := by
    unfold HandoffCall.inserted
    split_ifs
    · exact fun _ => id
    · cases hinsert : db.outbox.insert handoff.row with
      | none => exact fun _ => id
      | some outbox =>
        show _ ⊆ outbox.rows.map HandoffRow.completion
        rw [Table.insert_eq_some hinsert, List.map_append]
        exact List.subset_append_left _ _
  unfold enqueued enqueueHandoff
  dsimp only
  cases (handoff.inserted db).outbox.rows.find? fun row => handoff.isOf row.toOutboxRow with
  | none => exact fun _ => id
  | some row =>
    dsimp only
    split_ifs
    · exact fun _ => id
    · exact hinserted

def State.Sound (s : State) : Prop :=
  Consistent s.db ∧ s.enqueued ⊆ s.db.outbox.rows.map HandoffRow.completion

theorem State.blank.sound {s : State} (h : s.blank) : s.Sound := by
  obtain ⟨henqueued, houtbox, hevents⟩ := h
  refine ⟨⟨by simp [houtbox], by simp [houtbox], by simp [houtbox], fun event hevent key hkey => ?_, ?_⟩, ?_⟩
  · exact absurd hkey (hevents event hevent key)
  · intro row hrow
    rw [houtbox] at hrow
    cases hrow
  · rw [henqueued]
    exact List.nil_subset _

theorem sound_step {s s' : State} {action : Action} (h : s.Sound) (hnext : steadySystem.next s action = some s') :
    s'.Sound := by
  obtain ⟨hsteady, hnext⟩ := System.restrict_next hnext
  obtain ⟨hdb, henqueued⟩ := h
  cases action with
  | enqueue call =>
    simp only [system] at hnext
    split_ifs at hnext with hfresh
    rw [← Option.some.inj hnext]
    obtain ⟨hconsistent, hmem⟩ := hdb.enqueue hfresh
    exact ⟨hconsistent, List.cons_subset.mpr ⟨hmem, fun c hc => completions_enqueue call (henqueued hc)⟩⟩
  | deliver call =>
    rw [← Option.some.inj hnext]
    refine ⟨hdb.deliver hsteady, ?_⟩
    rw [completions_deliver hsteady]
    exact henqueued
  | drain call =>
    rw [← Option.some.inj hnext]
    refine ⟨hdb.drain hsteady, ?_⟩
    rw [drainPendingHandoffs, completions_drain hsteady]
    exact henqueued
  | requeue workspaceId outboxId now =>
    rw [← Option.some.inj hnext]
    refine ⟨hdb.requeue workspaceId outboxId now, ?_⟩
    rw [completions_requeue]
    exact henqueued

theorem sound_of_reachable {s : State} (h : steadySystem.Reachable s) : s.Sound := by
  have hstart : ∀ s, steadySystem.init s → s.Sound := fun s hs => State.blank.sound hs
  exact h.invariant hstart fun s action s' _ hs hnext => sound_step hs hnext

/-- Where no row that is delivered is turned back, a completion that was enqueued has one row, and
its event and its record are there once while the row is delivered and not at all otherwise. -/
theorem handoff_exactly_once {s : State} (h : steadySystem.Reachable s) :
    (∀ completion ∈ s.enqueued, (s.db.outbox.rows.filter (·.completion = completion)).length = 1) ∧
      s.db.Exact := by
  obtain ⟨hdb, henqueued⟩ := sound_of_reachable h
  refine ⟨fun completion hmem => ?_, hdb.exact⟩
  have hcount : (s.db.outbox.rows.map HandoffRow.completion).count completion = 1 :=
    List.count_eq_one_of_mem hdb.completions (henqueued hmem)
  rw [List.count, List.countP_map, List.countP_eq_length_filter] at hcount
  rw [← hcount]
  congr 1

/-! ### A run that turns a row back -/

def emptyDatabase : Database := ⟨⟨[], List.nodup_nil⟩, ⟨[], List.nodup_nil⟩, ⟨[], List.nodup_nil⟩, ⟨[], List.nodup_nil⟩⟩

theorem blank_empty : State.blank ⟨emptyDatabase, []⟩ := ⟨rfl, rfl, nofun⟩

def exampleHandoff : HandoffCall where
  workspaceId := "team"
  ownerId := "user"
  sessionId := "session"
  completionKey := "release"
  payloadHash := some "hash"
  now := 0
  newId := "handoff"
  directiveId := none
  terminalState := "succeeded"
  source := "native"
  executorId := some "cli"
  newEventId := "event"
  newRecordId := "record"

/-- A delivery of the row of `exampleHandoff`, and what a statement of it raises. -/
def exampleDelivery (raises : Statement → Option String) : DeliverCall := ⟨"handoff", 30, 1, 2, raises⟩

/-- The record cannot be inserted at first; the retry delivers. -/
def retriedRun : List Action :=
  [.enqueue exampleHandoff,
   .deliver (exampleDelivery fun s => if s = .insertRecord then some "disk I/O error" else none),
   .drain ⟨10000000, 100, fun _ => exampleDelivery fun _ => none⟩]

theorem handoff_exactly_once_retried :
    ∃ s, steadySystem.Reachable s ∧ (s.db.outbox.find "handoff").map (fun row => row.status) = some .delivered ∧
      (∀ completion ∈ s.enqueued, (s.db.outbox.rows.filter (·.completion = completion)).length = 1) ∧ s.db.Exact := by
  obtain ⟨s, hrun, hdelivered⟩ := (Option.any_eq_true _ _).mp (show
    (steadySystem.run ⟨emptyDatabase, []⟩ retriedRun).any (fun s =>
      (s.db.outbox.find "handoff").map (fun row => row.status) = some .delivered) from by decide +kernel)
  have hreachable := (System.Reachable.init (M := steadySystem) blank_empty).run hrun
  exact ⟨s, hreachable, of_decide_eq_true hdelivered, handoff_exactly_once hreachable⟩

/-- The row is delivered; the next delivery cannot read it. -/
def turnedBackRun : List Action :=
  [.enqueue exampleHandoff, .deliver (exampleDelivery fun _ => none),
   .deliver (exampleDelivery fun s => if s = .readRow then some "database is locked" else none)]

/-- The row is pending again, with its event and its record there. -/
theorem delivered_turned_back :
    ∃ s, system.Reachable s ∧ (s.db.outbox.find "handoff").map (fun row => row.status) = some .pending ∧
      s.db.events.rows.length = 1 ∧ s.db.records.rows.length = 1 ∧ ¬ s.db.Exact := by
  obtain ⟨s, hrun, hfacts⟩ := (Option.any_eq_true _ _).mp (show
    (system.run ⟨emptyDatabase, []⟩ turnedBackRun).any (fun s =>
      (s.db.outbox.find "handoff").map (fun row => row.status) = some .pending ∧
        s.db.events.rows.length = 1 ∧ s.db.records.rows.length = 1 ∧ ¬ s.db.Exact) from by decide +kernel)
  exact ⟨s, (System.Reachable.init (M := system) blank_empty).run hrun, of_decide_eq_true hfacts⟩

end OpenTimeline.Handoff
