import OpenTimeline.TaskState.Fold

/-! The task-state store: one row and its event table.

A write loads the pinned window of the table (`loadTaskStateEvents`), numbers its
events on from the row's highest seq and folds both (`prepareWrite`), inserts the
events, and swaps the row if its revision is still the one read (`casUpdate`).
The row keeps the decoded projection; its `revision` column is the projection's.

Taken one after the other, writes keep the table numbered from 1 on
(`Kept`), so the table is always in the fold's own order. -/
namespace OpenTimeline.TaskState
open Library

variable (host : Host)

/-! ### Rows -/

/-- A `task_states` row. -/
structure TaskStateRow where
  projection : TaskStateProjection
  highestSeq : Int
  sourceRevision : String
deriving DecidableEq, Repr

def TaskStateRow.revision (row : TaskStateRow) : Int := row.projection.revision

/-- A task's row and its `task_state_events` rows, in the order they were inserted. -/
structure TaskStore where
  row : TaskStateRow
  events : List TaskStateEvent

/-- The row `ensure_task_state` inserts, with the columns' defaults. -/
def ensureTaskState (ids : TaskIds) : TaskStore where
  row :=
    { projection :=
        { ids, revision := 0, contractRevision := 0, objectiveText := "", objectiveHash := none,
          objectiveSetAt := none, objectiveSetSeq := 0, status := .awaitingObjective,
          nextPermittedAction := .awaitOwnerObjective, constraints := [], openDecisions := [],
          plan := none, unresolvedEffects := [], latestVerification := none, citations := [],
          cancelledAt := none, cancelledSeq := 0, lastCancelSeq := 0, cancelReason := "" }
      highestSeq := 0
      sourceRevision := "" }
  events := []

/-! ### Reads -/

/-- The rows of the SQL window: the latest of each pinned kind, and the newest
`max_events - 3` by seq. -/
def loadTaskStateEvents (maxEvents : Int) (rows : List TaskStateEvent) : List TaskStateEvent :=
  let bySeq := rows.insertionSort fun a b => a.seq ≤ b.seq
  pins TaskStateEvent.kind pinnedKinds bySeq ++ newest (tailSize maxEvents) bySeq

/-- `rebuild_task_state` -/
def rebuildTaskState (store : TaskStore) : FoldResult :=
  foldTaskState host (loadTaskStateEvents maxTaskStateEventsPerFold store.events)
    store.row.projection.ids store.row.revision maxTaskStateEventsPerFold

/-! ### Writes -/

structure TaskStateWrite where
  expectedRevision : Int
  nextRevision : Int
  nextSeqStart : Int
  projection : TaskStateProjection
  sourceRevision : String
  events : List TaskStateEvent

/-- Numbers events on from `seq`. -/
def stamp : Int → List TaskStateEvent → List TaskStateEvent
  | _, [] => []
  | seq, event :: rest => {event with seq := seq + 1} :: stamp (seq + 1) rest

/-- `prepare_write` -/
def prepareWrite (prior new : List TaskStateEvent) (ids : TaskIds) (expectedRevision highestSeq : Int) :
    TaskStateWrite :=
  let stamped := stamp highestSeq new
  let folded := foldTaskState host (prior ++ stamped) ids (expectedRevision + 1) maxTaskStateEventsPerFold
  { expectedRevision
    nextRevision := expectedRevision + 1
    nextSeqStart := highestSeq + 1
    projection := folded.projection
    sourceRevision := folded.sourceRevision
    events := stamped }

inductive StoreError
  /-- `TaskStateRevisionConflict` -/
  | revisionConflict (expected actual : Int)
  /-- `TaskStatePreconditionFailed` -/
  | preconditionFailed (reason : String)
  /-- `UNIQUE constraint failed: task_state_events.task_state_id, seq` -/
  | integrity
  /-- `sqlite3.OperationalError` -/
  | operational
deriving DecidableEq, Repr

/-- `_insert_events`: seqs are unique within a task. -/
def insertEvents (rows events : List TaskStateEvent) : Except StoreError (List TaskStateEvent) :=
  if ((rows ++ events).map (·.seq)).Nodup then .ok (rows ++ events) else .error .integrity

/-- `_cas_update`: the row after the UPDATE, `none` where it matches no row. The ids
are the row's own. -/
def casUpdate (row : TaskStateRow) (write : TaskStateWrite) (priorHighestSeq : Int) : Option TaskStateRow :=
  if row.revision = write.expectedRevision then
    some {
      projection := {write.projection with ids := row.projection.ids, revision := write.nextRevision}
      highestSeq := write.events.foldl (fun highest event => max highest event.seq) priorHighestSeq
      sourceRevision := write.sourceRevision }
  else none

/-- The arguments of a write that reach the task's own rows. -/
structure WriteRequest where
  sessionId : String
  newEvents : List TaskStateEvent
  expectedRevision : Option Int := none
  retryOnce : Bool := false
  revalidate : Option (TaskStateProjection → Bool × String) := none

/-- The caller's revision precondition fails. -/
def WriteRequest.stale (request : WriteRequest) (row : TaskStateRow) : Bool :=
  request.expectedRevision.any (· ≠ row.revision)

/-- What `_revalidated_retry` asks of a freshly read row before it tries again. -/
def WriteRequest.revalidated (request : WriteRequest) (row : TaskStateRow) : Except StoreError Unit :=
  match request.revalidate with
  | none => .ok ()
  | some revalidate =>
    if (revalidate row.projection).1 then .ok ()
    else .error (.preconditionFailed (revalidate row.projection).2)

/-- The write a request prepares from a row and the events loaded with it. -/
def WriteRequest.prepare (request : WriteRequest) (row : TaskStateRow) (prior : List TaskStateEvent) :
    TaskStateWrite :=
  prepareWrite host prior request.newEvents {row.projection.ids with sessionId := request.sessionId}
    row.revision row.highestSeq

/-- The INSERTs and the UPDATE of a prepared write. A row that no longer has the revision
read is a conflict. -/
def commitWrite (store : TaskStore) (write : TaskStateWrite) (priorHighestSeq : Int) :
    Except StoreError TaskStore :=
  match insertEvents store.events write.events with
  | .error e => .error e
  | .ok events =>
    match casUpdate store.row write priorHighestSeq with
    | none => .error (.revisionConflict write.expectedRevision store.row.revision)
    | some row => .ok {row, events}

/-- `apply_task_state_events` with nothing in between its reads and its writes, so that a
prepared write cannot find its row changed. -/
def applyTaskStateEvents (store : TaskStore) (request : WriteRequest) : Except StoreError TaskStore :=
  let write := request.prepare host store.row
    (loadTaskStateEvents maxTaskStateEventsPerFold store.events)
  if request.stale store.row then
    if !request.retryOnce then
      .error (.revisionConflict (request.expectedRevision.getD 0) store.row.revision)
    else match request.revalidated store.row with
    | .error e => .error e
    | .ok () => commitWrite store write store.row.highestSeq
  else commitWrite store write store.row.highestSeq

theorem commitWrite_ok {store after : TaskStore} {write : TaskStateWrite} {priorHighestSeq : Int}
    (h : commitWrite store write priorHighestSeq = .ok after) :
    after.events = store.events ++ write.events ∧
      casUpdate store.row write priorHighestSeq = some after.row ∧
      ((store.events ++ write.events).map (·.seq)).Nodup := by
  unfold commitWrite insertEvents at h
  split_ifs at h with hnodup
  simp only [] at h
  split at h
  case h_1 => cases h
  case h_2 row hrow =>
    cases h
    exact ⟨rfl, hrow, hnodup⟩

/-- What a successful write leaves. -/
theorem applyTaskStateEvents_ok {store after : TaskStore} {request : WriteRequest}
    (h : applyTaskStateEvents host store request = .ok after) :
    commitWrite store (request.prepare host store.row
      (loadTaskStateEvents maxTaskStateEventsPerFold store.events)) store.row.highestSeq = .ok after := by
  unfold applyTaskStateEvents at h
  simp only [] at h
  split_ifs at h
  · split at h
    · cases h
    · exact h
  · exact h

/-! ### The table stays numbered -/

/-- Numbered from `seq + 1` on, without a gap. -/
def Numbered : Int → List TaskStateEvent → Prop
  | _, [] => True
  | seq, event :: rest => event.seq = seq + 1 ∧ Numbered (seq + 1) rest

theorem numbered_stamp (seq : Int) (events : List TaskStateEvent) : Numbered seq (stamp seq events) := by
  induction events generalizing seq with
  | nil => trivial
  | cons event rest ih => exact ⟨rfl, ih (seq + 1)⟩

@[simp] theorem length_stamp (seq : Int) (events : List TaskStateEvent) :
    (stamp seq events).length = events.length := by
  induction events generalizing seq with
  | nil => rfl
  | cons event rest ih => rw [stamp, List.length_cons, List.length_cons, ih]

theorem Numbered.append {seq : Int} {a b : List TaskStateEvent} (ha : Numbered seq a)
    (hb : Numbered (seq + a.length) b) : Numbered seq (a ++ b) := by
  induction a generalizing seq with
  | nil => simpa using hb
  | cons event rest ih =>
    refine ⟨ha.1, ih ha.2 ?_⟩
    rw [List.length_cons, Nat.cast_add, Nat.cast_one] at hb
    rwa [show seq + 1 + (rest.length : Int) = seq + (rest.length + 1) by omega]

/-- The seqs are exactly `seq + 1, …, seq + length`. -/
theorem Numbered.map_seq {seq : Int} {events : List TaskStateEvent} (h : Numbered seq events) :
    events.map (·.seq) = (List.range events.length).map fun i : Nat => seq + 1 + (i : Int) := by
  induction events generalizing seq with
  | nil => rfl
  | cons event rest ih =>
    rw [List.map_cons, ih h.2, h.1, List.length_cons, List.range_succ_eq_map, List.map_cons,
      List.map_map]
    congr 1
    · simp
    · refine List.map_congr_left fun i _ => ?_
      simp only [Function.comp, Nat.succ_eq_add_one]
      push_cast
      ring

theorem Numbered.lt_seq {seq : Int} {events : List TaskStateEvent} (h : Numbered seq events) :
    ∀ event ∈ events, seq < event.seq := by
  induction events generalizing seq with
  | nil => simp
  | cons head rest ih =>
    intro event hm
    rcases List.mem_cons.mp hm with rfl | hm
    · have := h.1
      omega
    · have := ih h.2 event hm
      omega

theorem Numbered.pairwise {seq : Int} {events : List TaskStateEvent} (h : Numbered seq events) :
    events.Pairwise fun a b => a.seq < b.seq := by
  induction events generalizing seq with
  | nil => exact .nil
  | cons event rest ih =>
    refine .cons (fun other hm => ?_) (ih h.2)
    rw [h.1]
    exact h.2.lt_seq other hm

/-- No two events share a seq. -/
theorem Numbered.filter_seq {seq : Int} {events : List TaskStateEvent} (h : Numbered seq events)
    {event : TaskStateEvent} (hevent : event ∈ events) :
    events.filter (fun other => other.seq = event.seq) = [event] := by
  induction events generalizing seq with
  | nil => cases hevent
  | cons head rest ih =>
    rcases List.mem_cons.mp hevent with rfl | hevent
    · rw [List.filter_cons_of_pos (by simp), List.cons.injEq]
      refine ⟨rfl, List.filter_eq_nil_iff.mpr fun other hother => ?_⟩
      have hlt := h.2.lt_seq other hother
      have hhead := h.1
      simp only [decide_eq_true_eq]
      omega
    · have hlt := h.2.lt_seq event hevent
      have hhead := h.1
      rw [List.filter_cons_of_neg (by simp only [decide_eq_true_eq]; omega)]
      exact ih h.2 hevent

/-- A numbered table is in the fold's order, and has no two events alike. -/
theorem Numbered.arranged {seq : Int} {events : List TaskStateEvent} (h : Numbered seq events) :
    Arranged sortKey (dedupeKey host) events := by
  refine ⟨h.pairwise.imp fun {a b} hlt => ?_, ?_⟩
  · exact Prod.Lex.toLex_lt_toLex.mpr (Or.inl hlt)
  · refine List.pairwise_map.mpr (h.pairwise.imp fun {a b} hlt hsame => ?_)
    exact absurd (congrArg Prod.fst hsame) (ne_of_lt hlt)

theorem Numbered.loadTaskStateEvents {seq maxEvents : Int} {rows : List TaskStateEvent}
    (h : Numbered seq rows) : loadTaskStateEvents maxEvents rows =
      pins TaskStateEvent.kind pinnedKinds rows ++ newest (tailSize maxEvents) rows := by
  have hsorted : rows.insertionSort (fun a b => a.seq ≤ b.seq) = rows :=
    (h.pairwise.imp fun {a b} hlt => le_of_lt hlt).insertionSort_eq
  simp only [TaskState.loadTaskStateEvents, hsorted]

/-- The row's highest seq is the table's length, and the table is numbered from 1. -/
structure Kept (store : TaskStore) : Prop where
  numbered : Numbered 0 store.events
  highest : store.row.highestSeq = store.events.length

theorem kept_ensureTaskState (ids : TaskIds) : Kept (ensureTaskState ids) := ⟨trivial, rfl⟩

theorem foldl_max_seq {seq : Int} {events : List TaskStateEvent} (h : Numbered seq events) :
    events.foldl (fun highest event => max highest event.seq) seq = seq + events.length := by
  induction events generalizing seq with
  | nil => simp
  | cons event rest ih =>
    rw [List.foldl_cons, h.1, max_eq_right (by omega), ih h.2, List.length_cons]
    push_cast
    ring

theorem casUpdate_some {row after : TaskStateRow} {write : TaskStateWrite} {priorHighestSeq : Int}
    (h : casUpdate row write priorHighestSeq = some after) :
    row.revision = write.expectedRevision ∧
      after.projection = {write.projection with ids := row.projection.ids, revision := write.nextRevision} ∧
      after.highestSeq = write.events.foldl (fun highest event => max highest event.seq) priorHighestSeq ∧
      after.sourceRevision = write.sourceRevision := by
  unfold casUpdate at h
  split_ifs at h with hrevision
  cases h
  exact ⟨hrevision, rfl, rfl, rfl⟩

/-- A swap of events numbered on keeps the table numbered. -/
theorem Kept.of_commitWrite {store after : TaskStore} (h : Kept store) {write : TaskStateWrite}
    (hnumbered : Numbered store.row.highestSeq write.events)
    (hok : commitWrite store write store.row.highestSeq = .ok after) : Kept after := by
  obtain ⟨hevents, hcas, _⟩ := commitWrite_ok hok
  obtain ⟨_, _, hhighest, _⟩ := casUpdate_some hcas
  constructor
  · rw [hevents]
    refine h.numbered.append ?_
    rwa [zero_add, ← h.highest]
  · rw [hhighest, hevents, foldl_max_seq hnumbered, h.highest, List.length_append]
    push_cast
    rfl

/-- A write that succeeds appends its events, numbered on. -/
theorem Kept.applyTaskStateEvents {store after : TaskStore} (h : Kept store) {request : WriteRequest}
    (hok : applyTaskStateEvents host store request = .ok after) :
    Kept after ∧ after.events = store.events ++ stamp store.row.highestSeq request.newEvents ∧
      after.row.revision = store.row.revision + 1 := by
  have hswap := applyTaskStateEvents_ok host hok
  obtain ⟨hevents, hcas, _⟩ := commitWrite_ok hswap
  obtain ⟨_, hprojection, _, _⟩ := casUpdate_some hcas
  exact ⟨h.of_commitWrite (numbered_stamp _ _) hswap, hevents, congrArg TaskStateProjection.revision hprojection⟩

/-- A write without a precondition of its caller's succeeds. -/
theorem Kept.succeeds {store : TaskStore} (h : Kept store) {request : WriteRequest}
    (hexpected : request.expectedRevision = none) :
    ∃ after, TaskState.applyTaskStateEvents host store request = .ok after := by
  have hgrown : Numbered 0 (store.events ++ stamp store.row.highestSeq request.newEvents) := by
    refine h.numbered.append ?_
    rw [zero_add, ← h.highest]
    exact numbered_stamp _ _
  have hnodup : ((store.events ++ stamp store.row.highestSeq request.newEvents).map (·.seq)).Nodup :=
    List.pairwise_map.mpr (hgrown.pairwise.imp ne_of_lt)
  have hinsert : insertEvents store.events (request.prepare host store.row
      (TaskState.loadTaskStateEvents maxTaskStateEventsPerFold store.events)).events =
        .ok (store.events ++ stamp store.row.highestSeq request.newEvents) := if_pos hnodup
  obtain ⟨row, hrow⟩ : ∃ row, casUpdate store.row (request.prepare host store.row
      (TaskState.loadTaskStateEvents maxTaskStateEventsPerFold store.events)) store.row.highestSeq =
        some row := ⟨_, if_pos rfl⟩
  refine ⟨⟨row, store.events ++ stamp store.row.highestSeq request.newEvents⟩, ?_⟩
  unfold TaskState.applyTaskStateEvents
  rw [if_neg (by simp [WriteRequest.stale, hexpected]), commitWrite, hinsert]
  simp only [hrow]

/-! ### Runs of writes -/

/-- Writes one after the other. -/
def runWrites (store : TaskStore) (requests : List WriteRequest) : Except StoreError TaskStore :=
  requests.foldlM (applyTaskStateEvents host) store

/-- `P` holds at every write of a run, of the store it finds and its new events. -/
def EveryWrite (P : TaskStore → List TaskStateEvent → Prop) : TaskStore → List WriteRequest → Prop
  | _, [] => True
  | store, request :: rest => P store request.newEvents ∧
    ∀ next, applyTaskStateEvents host store request = .ok next → EveryWrite P next rest

theorem runWrites_cons {store after : TaskStore} {request : WriteRequest} {rest : List WriteRequest}
    (hrun : runWrites host store (request :: rest) = .ok after) :
    ∃ next, applyTaskStateEvents host store request = .ok next ∧ runWrites host next rest = .ok after := by
  rw [runWrites, List.foldlM_cons] at hrun
  cases hstep : applyTaskStateEvents host store request with
  | error e =>
    rw [hstep] at hrun
    cases hrun
  | ok next =>
    rw [hstep] at hrun
    exact ⟨next, rfl, hrun⟩

theorem Kept.runWrites {store after : TaskStore} (h : Kept store) {requests : List WriteRequest}
    (hrun : runWrites host store requests = .ok after) : Kept after := by
  induction requests generalizing store with
  | nil =>
    cases hrun
    exact h
  | cons request rest ih =>
    obtain ⟨next, hstep, hrest⟩ := runWrites_cons host hrun
    exact ih (h.applyTaskStateEvents host hstep).1 hrest

theorem EveryWrite.append {P : TaskStore → List TaskStateEvent → Prop} {store next : TaskStore}
    {requests more : List WriteRequest} (h : EveryWrite host P store (requests ++ more))
    (hrun : TaskState.runWrites host store requests = .ok next) :
    EveryWrite host P store requests ∧ EveryWrite host P next more := by
  induction requests generalizing store with
  | nil =>
    cases hrun
    exact ⟨trivial, h⟩
  | cons request rest ih =>
    obtain ⟨mid, hstep, hrest⟩ := runWrites_cons host hrun
    refine ⟨⟨h.1, fun other hother => ?_⟩, (ih (h.2 mid hstep) hrest).2⟩
    rw [hstep, Except.ok.injEq] at hother
    exact hother ▸ (ih (h.2 mid hstep) hrest).1

end OpenTimeline.TaskState
