import OpenTimeline.Library.Table
import OpenTimeline.TaskState.Store
import OpenTimeline.Dream.Fold

/-! The dream store: proposal rows, their event table, and the task states beside them.

A write checks every event of its batch against the stored status, numbers the batch on
from the row's highest seq, folds it with the events already there and swaps the row,
which is the fold kept column by column, if its revision is still the one read. A section
is atomic, so the swap always finds its row.

Whatever the order of the writes, a proposal's events stay numbered in their order and
never past the row's highest seq (`Kept`). -/
namespace OpenTimeline.Dream
open Library
open TaskState (TaskStore TaskIds TaskStateProjection digest32)

variable (host : Host) (isoformat : Instant → String)

/-! ### Rows -/

/-- A `dream_proposals` row, decoded. -/
structure ProposalRow extends DreamProposalProjection where
  highestSeq : Int
  sourceRevision : String
deriving DecidableEq, Repr

def ProposalRow.id (row : ProposalRow) : String := row.ids.proposalId

/-- What the unique key of `task_states` holds. -/
structure TaskKey where
  workspaceId : String
  ownerId : String
  taskId : String
deriving DecidableEq, Repr

structure DreamDatabase where
  proposals : Table ProposalRow.id
  /-- `dream_proposal_events` as `(proposal_id, event)`, in the order they were inserted. -/
  events : List (String × DreamProposalEvent)
  tasks : TaskKey → Option TaskStore

def emptyStore : DreamDatabase := ⟨⟨[], .nil⟩, [], fun _ => none⟩

/-! ### Scope -/

def scopeKindWorkspace : String := "workspace"

/-- The fields of a `ResolvedScope` the store reads. -/
structure DreamScope where
  workspaceId : String
  ownerId : String
  subjectUserId : String
  projectId : Option String
  isBound : Bool

/-- `dream_scope_kind` -/
def DreamScope.scopeKind (scope : DreamScope) : String :=
  if scope.isBound && scope.projectId.getD "" ≠ "" then scopeKindProject else scopeKindWorkspace

/-- `_dream_scope_sql` -/
def DreamScope.covers (scope : DreamScope) (row : ProposalRow) : Bool :=
  row.ids.workspaceId = scope.workspaceId && row.ids.ownerId = scope.ownerId &&
    row.ids.subjectUserId = scope.subjectUserId &&
    if scope.scopeKind = scopeKindProject then
      row.scopeKind = scopeKindProject && row.projectId = some (scope.projectId.getD "")
    else row.scopeKind = scopeKindWorkspace && row.projectId = none

def DreamScope.taskKey (scope : DreamScope) (taskId : String) : TaskKey :=
  ⟨scope.workspaceId, scope.ownerId, taskId⟩

/-! ### Reads -/

/-- `load_proposal` -/
def DreamDatabase.loadProposal (db : DreamDatabase) (scope : DreamScope) (proposalId : String) :
    Option ProposalRow := (db.proposals.find proposalId).filter scope.covers

/-- The log of a proposal, in the order it was written. -/
def DreamDatabase.log (db : DreamDatabase) (proposalId : String) : List DreamProposalEvent :=
  (db.events.filter fun row => row.1 = proposalId).map (·.2)

/-- `load_proposal_events` -/
def DreamDatabase.loadProposalEvents (db : DreamDatabase) (proposalId : String) : List DreamProposalEvent :=
  (db.log proposalId).insertionSort fun a b => a.seq ≤ b.seq

/-- `load_task_state` -/
def DreamDatabase.loadTaskState (db : DreamDatabase) (scope : DreamScope) (taskId : String) :
    Option TaskStateProjection := (db.tasks (scope.taskKey taskId)).map (·.row.projection)

/-! ### Writes -/

structure DreamProposalWrite where
  expectedRevision : Int
  nextRevision : Int
  nextSeqStart : Int
  projection : DreamProposalProjection
  sourceRevision : String
  events : List DreamProposalEvent

/-- Numbers events on from `seq`. -/
def stamp : Int → List DreamProposalEvent → List DreamProposalEvent
  | _, [] => []
  | seq, event :: rest => {event with seq := seq + 1} :: stamp (seq + 1) rest

/-- `prepare_dream_write` -/
def prepareDreamWrite (prior new : List DreamProposalEvent) (ids : DreamIds)
    (expectedRevision highestSeq afterSurfaces : Int) : DreamProposalWrite :=
  let stamped := stamp highestSeq new
  let folded := foldDreamProposal host (prior ++ stamped) ids (expectedRevision + 1) afterSurfaces
    maxDreamEventsPerFold
  { expectedRevision
    nextRevision := expectedRevision + 1
    nextSeqStart := highestSeq + 1
    projection := folded.projection
    sourceRevision := folded.sourceRevision
    events := stamped }

inductive DreamError
  /-- `DreamRevisionConflict` -/
  | revisionConflict (expected actual : Int)
  /-- `DreamTransitionRefused` -/
  | transitionRefused (reason : String)
  /-- `ValueError`: the kind of an event is none of the vocabulary. -/
  | unknownKind (name : String)
  /-- `sqlite3.IntegrityError` -/
  | integrity
deriving DecidableEq, Repr

/-- `_insert_events`: `INSERT OR IGNORE`, a seq being unique within its proposal. -/
def insertEvents (proposalId : String) (rows : List (String × DreamProposalEvent))
    (events : List DreamProposalEvent) : List (String × DreamProposalEvent) :=
  events.foldl (fun rows event =>
    if rows.any fun row => row.1 = proposalId && row.2.seq = event.seq then rows
    else rows ++ [(proposalId, event)]) rows

/-- The columns `_cas_update` sets. -/
def ProposalRow.swapped (row : ProposalRow) (write : DreamProposalWrite) (priorHighestSeq : Int) : ProposalRow where
  toDreamFields := { write.projection.toDreamFields with
    projectId := row.projectId
    scopeKind := row.scopeKind }
  ids := row.ids
  revision := write.nextRevision
  nonresponse := write.projection.nonresponse
  highestSeq := write.events.foldl (fun highest event => max highest event.seq) priorHighestSeq
  sourceRevision := write.sourceRevision

theorem ProposalRow.id_swapped (row : ProposalRow) (write : DreamProposalWrite) (priorHighestSeq : Int) :
    (row.swapped write priorHighestSeq).id = row.id := rfl

/-- `_cas_update`, `none` where the UPDATE matches no row. -/
def casUpdate (proposals : Table ProposalRow.id) (proposalId : String) (write : DreamProposalWrite)
    (priorHighestSeq : Int) : Option (Table ProposalRow.id) :=
  let matched : ProposalRow → Bool := fun row => row.id = proposalId && row.revision = write.expectedRevision
  if proposals.rows.any matched then
    some (proposals.updateWhere matched (·.swapped write priorHighestSeq)
      (·.id_swapped write priorHighestSeq))
  else none

/-- The check of a batch: what it is refused with, if it is. -/
def refusal (current : DreamProposalStatus) : List DreamProposalEvent → Option DreamError
  | [] => none
  | event :: rest =>
    match event.kind with
    | .unknown name => some (.unknownKind name)
    | .known kind =>
      if (transitionAllowed current kind).1 then refusal current rest
      else some (.transitionRefused (transitionAllowed current kind).2)

/-- `_current_revision` -/
def DreamDatabase.currentRevision (db : DreamDatabase) (scope : DreamScope) (proposalId : String) : Int :=
  match db.loadProposal scope proposalId with
  | none => -1
  | some row => row.revision

/-- The INSERTs and the UPDATE of a prepared write. -/
def DreamDatabase.commit (db : DreamDatabase) (scope : DreamScope) (proposalId : String)
    (write : DreamProposalWrite) (priorHighestSeq : Int) : Except DreamError DreamDatabase :=
  match casUpdate db.proposals proposalId write priorHighestSeq with
  | none => .error (.revisionConflict write.expectedRevision (db.currentRevision scope proposalId))
  | some proposals =>
    .ok { db with
      proposals
      events := insertEvents proposalId db.events write.events }

/-- The write a section prepares from the row it has read. -/
def DreamDatabase.prepare (db : DreamDatabase) (scope : DreamScope) (row : ProposalRow)
    (newEvents : List DreamProposalEvent) (afterSurfaces : Int) : DreamProposalWrite :=
  prepareDreamWrite host (db.loadProposalEvents row.id) newEvents
    ⟨row.id, scope.workspaceId, scope.ownerId, scope.subjectUserId, ""⟩ row.revision row.highestSeq afterSurfaces

/-- `apply_dream_events`: `_apply_dream_events_locked` in a section of its own. -/
def applyDreamEvents (db : DreamDatabase) (scope : DreamScope) (proposalId : String)
    (newEvents : List DreamProposalEvent) (afterSurfaces : Int) (expectedRevision : Option Int := none) :
    Except DreamError DreamDatabase :=
  match db.loadProposal scope proposalId with
  | none => .error (.revisionConflict (expectedRevision.getD 0) (-1))
  | some row =>
    if expectedRevision.any (· ≠ row.revision) then
      .error (.revisionConflict (expectedRevision.getD 0) row.revision)
    else match refusal row.status newEvents with
    | some e => .error e
    | none =>
      db.commit scope proposalId (db.prepare host scope row newEvents afterSurfaces) row.highestSeq

/-! ### Minting -/

/-- `citations_to_json` -/
def citationsToJson (items : List DreamCitation) : Json :=
  .arr (items.map fun item => .obj [("event_id", .str item.eventId), ("receipt_id", .str item.receiptId),
    ("content_sha256", .str item.contentSha256), ("origin_kind", .str item.originKind),
    ("observed_at", .str (isoformat item.observedAt)), ("quote", .str item.quote),
    ("quote_sha256", .str item.quoteSha256)])

/-- `_iso` of a column that may be empty, and a text that may be missing. -/
def isoOrNull (t : Option Instant) : Json := (t.map fun t => Json.str (isoformat t)).getD .null
def textOrNull (text : Option String) : Json := (text.map Json.str).getD .null

/-- The arguments of `mint_proposal`, with the uuid it draws. -/
structure MintRequest where
  proposalId : String
  sessionId : String
  title : String
  connectionText : String
  benefitText : String
  firstStep : String
  citations : List DreamCitation
  themeTokens : List String
  evidenceBasis : String
  evidenceRevision : String
  evidenceCutoffAt : Option Instant
  supersedesProposalId : Option String
  reproposeDepth : Int
  ttlDays : Nat
  now : Instant

def MintRequest.expiresAt (request : MintRequest) : Instant :=
  request.now + max 1 request.ttlDays * 86400000000

/-- The project a proposal minted in this scope is about. -/
def DreamScope.mintedProject (scope : DreamScope) : Option String :=
  if scope.scopeKind = scopeKindProject then scope.projectId else none

/-- The one `proposed` event. -/
def MintRequest.event (request : MintRequest) (scope : DreamScope) : DreamProposalEvent where
  seq := 1
  kind := .known .proposed
  payload := [("title", .str request.title), ("connection_text", .str request.connectionText),
    ("benefit_text", .str request.benefitText), ("first_step", .str request.firstStep),
    ("citations", citationsToJson isoformat request.citations),
    ("theme_tokens", .arr (request.themeTokens.map .str)),
    ("evidence_basis", .str request.evidenceBasis), ("evidence_revision", .str request.evidenceRevision),
    ("evidence_cutoff_at", isoOrNull isoformat request.evidenceCutoffAt),
    ("project_id", textOrNull scope.mintedProject), ("scope_kind", .str scope.scopeKind),
    ("supersedes_proposal_id", textOrNull request.supersedesProposalId),
    ("repropose_depth", .int request.reproposeDepth), ("expires_at", .str (isoformat request.expiresAt))]
  occurredAt := request.now
  actor := "system"
  actorClass := "system"

/-- The row `mint_proposal` inserts, the columns it leaves out at their defaults. -/
def MintRequest.row (request : MintRequest) (scope : DreamScope) : ProposalRow :=
  let write := prepareDreamWrite host [] [request.event isoformat scope]
    ⟨request.proposalId, scope.workspaceId, scope.ownerId, scope.subjectUserId, request.sessionId⟩ 0 0 1
  { status := write.projection.status
    nonresponse := write.projection.nonresponse
    projectId := scope.mintedProject
    scopeKind := scope.scopeKind
    title := write.projection.title
    connectionText := write.projection.connectionText
    benefitText := write.projection.benefitText
    firstStep := write.projection.firstStep
    citations := write.projection.citations
    evidenceBasis := write.projection.evidenceBasis
    evidenceRevision := write.projection.evidenceRevision
    evidenceCutoffAt := write.projection.evidenceCutoffAt
    themeTokens := write.projection.themeTokens
    supersedesProposalId := request.supersedesProposalId
    reproposeDepth := request.reproposeDepth
    expiresAt := some request.expiresAt
    ids := ⟨request.proposalId, scope.workspaceId, scope.ownerId, scope.subjectUserId, request.sessionId⟩
    revision := write.nextRevision
    highestSeq := 1
    sourceRevision := write.sourceRevision }

/-- `mint_proposal` -/
def mintProposal (db : DreamDatabase) (scope : DreamScope) (request : MintRequest) :
    Except DreamError DreamDatabase :=
  match db.proposals.insert (request.row host isoformat scope) with
  | none => .error .integrity
  | some proposals =>
    .ok { db with
      proposals
      events := insertEvents request.proposalId db.events (stamp 0 [request.event isoformat scope]) }

/-! ### What a write leaves -/

/-- An event the table allows from a status. -/
def allows (current : DreamProposalStatus) (event : DreamProposalEvent) : Bool :=
  match event.kind with
  | .known kind => (transitionAllowed current kind).1
  | .unknown _ => false

theorem refusal_eq_none_iff {current : DreamProposalStatus} {events : List DreamProposalEvent} :
    refusal current events = none ↔ ∀ event ∈ events, allows current event := by
  induction events with
  | nil => simp [refusal]
  | cons event rest ih =>
    unfold refusal
    cases hkind : event.kind with
    | unknown _ => simp [allows, hkind]
    | known kind =>
      by_cases hallowed : (transitionAllowed current kind).1
      · simp [allows, hkind, hallowed, ih]
      · simp [allows, hkind, hallowed]

/-- A proposal's log grown by some events and its row replaced, all else as it was. -/
structure Appended (db after : DreamDatabase) (proposalId : String) (row : ProposalRow)
    (events : List DreamProposalEvent) : Prop where
  rows : ∀ id, after.proposals.find id = if id = proposalId then some row else db.proposals.find id
  log : ∀ id, after.log id = if id = proposalId then db.log id ++ events else db.log id
  tasks : after.tasks = db.tasks

/-- Events are in the order of their seqs, none past its row's highest seq, and each is
some row's. -/
structure Kept (db : DreamDatabase) : Prop where
  sorted : ∀ id, (db.log id).Pairwise fun a b => a.seq < b.seq
  highest : ∀ id row, db.proposals.find id = some row → ∀ event ∈ db.log id, event.seq ≤ row.highestSeq
  owned : ∀ id, db.proposals.find id = none → db.log id = []

theorem stamp_append (seq : Int) (a b : List DreamProposalEvent) :
    stamp seq (a ++ b) = stamp seq a ++ stamp (seq + a.length) b := by
  induction a generalizing seq with
  | nil => simp [stamp]
  | cons event rest ih =>
    simp only [List.cons_append, stamp, ih, List.length_cons, Nat.cast_add, Nat.cast_one]
    rw [show seq + 1 + (rest.length : Int) = seq + (rest.length + 1) by omega]

theorem lt_seq_stamp {seq : Int} {events : List DreamProposalEvent} :
    ∀ event ∈ stamp seq events, seq < event.seq := by
  induction events generalizing seq with
  | nil => simp [stamp]
  | cons first rest ih =>
    intro event hevent
    rcases List.mem_cons.mp hevent with rfl | hrest
    · show seq < seq + 1
      omega
    · have := ih event hrest
      omega

theorem stamp_sorted (seq : Int) (events : List DreamProposalEvent) :
    (stamp seq events).Pairwise fun a b => a.seq < b.seq := by
  induction events generalizing seq with
  | nil => exact .nil
  | cons first rest ih => exact .cons lt_seq_stamp (ih (seq + 1))

theorem stamp_kind {seq : Int} {events : List DreamProposalEvent} {event : DreamProposalEvent}
    (h : event ∈ stamp seq events) : ∃ original ∈ events, event = {original with seq := event.seq} := by
  induction events generalizing seq with
  | nil => cases h
  | cons first rest ih =>
    rcases List.mem_cons.mp h with rfl | hrest
    · exact ⟨first, List.mem_cons_self, rfl⟩
    · obtain ⟨original, horiginal, heq⟩ := ih hrest
      exact ⟨original, List.mem_cons_of_mem first horiginal, heq⟩

/-- Events numbered on from what is there are all inserted. -/
theorem log_insertEvents {proposalId : String} {rows : List (String × DreamProposalEvent)} {seq : Int}
    (hrows : ∀ row ∈ rows, row.1 = proposalId → row.2.seq ≤ seq) (events : List DreamProposalEvent) :
    insertEvents proposalId rows (stamp seq events) =
      rows ++ (stamp seq events).map fun event => (proposalId, event) := by
  induction events generalizing rows seq with
  | nil => simp [insertEvents, stamp]
  | cons first rest ih =>
    have hfresh : (rows.any fun row => row.1 = proposalId && row.2.seq = seq + 1) = false := by
      refine List.any_eq_false.mpr fun row hrow hsame => ?_
      simp only [Bool.and_eq_true, decide_eq_true_eq] at hsame
      have := hrows row hrow hsame.1
      omega
    have hgrown : ∀ row ∈ rows ++ [(proposalId, {first with seq := seq + 1})],
        row.1 = proposalId → row.2.seq ≤ seq + 1 := by
      intro row hrow hsame
      rcases List.mem_append.mp hrow with hold | hnew
      · have := hrows row hold hsame
        omega
      · rw [List.mem_singleton.mp hnew]
    have hrest := ih hgrown
    simp only [stamp, insertEvents, List.foldl_cons] at hrest ⊢
    rw [if_neg (by simp [hfresh]), hrest]
    simp

theorem le_foldl_highest (events : List DreamProposalEvent) (highest : Int) :
    highest ≤ events.foldl (fun highest event => max highest event.seq) highest ∧
      ∀ event ∈ events, event.seq ≤ events.foldl (fun highest event => max highest event.seq) highest := by
  induction events generalizing highest with
  | nil => simp
  | cons first rest ih =>
    obtain ⟨hstart, hrest⟩ := ih (max highest first.seq)
    refine ⟨(le_max_left _ _).trans hstart, fun event hevent => ?_⟩
    rcases List.mem_cons.mp hevent with rfl | hmem
    · exact (le_max_right _ _).trans hstart
    · exact hrest event hmem

variable {host isoformat}

theorem Kept.loadProposalEvents {db : DreamDatabase} (h : Kept db) (proposalId : String) :
    db.loadProposalEvents proposalId = db.log proposalId :=
  ((h.sorted proposalId).imp fun hlt => le_of_lt hlt).insertionSort_eq

theorem DreamDatabase.log_append (db : DreamDatabase) (proposalId : String) (events : List DreamProposalEvent)
    (id : String) :
    ({db with events := db.events ++ events.map fun event => (proposalId, event)} : DreamDatabase).log id =
      if id = proposalId then db.log id ++ events else db.log id := by
  unfold DreamDatabase.log
  by_cases hid : id = proposalId
  · subst hid
    simp [List.filter_map, Function.comp_def]
  · have hne : ¬ proposalId = id := fun h => hid h.symm
    simp [List.filter_map, Function.comp_def, hid, hne]

theorem DreamDatabase.mem_log {db : DreamDatabase} {id : String} {event : DreamProposalEvent} :
    event ∈ db.log id ↔ (id, event) ∈ db.events := by
  simp [DreamDatabase.log]

theorem loadProposal_eq_some {db : DreamDatabase} {scope : DreamScope} {proposalId : String} {row : ProposalRow}
    (h : db.loadProposal scope proposalId = some row) :
    db.proposals.find proposalId = some row ∧ row ∈ db.proposals.rows ∧ row.id = proposalId := by
  have hfind := (Option.filter_eq_some_iff.mp h).1
  exact ⟨hfind, Table.find_eq_some_iff.mp hfind⟩

/-- The swap of a section finds the row it has read. -/
theorem Kept.commit {db : DreamDatabase} (h : Kept db) (scope : DreamScope) {row : ProposalRow}
    (hrow : row ∈ db.proposals.rows) (write : DreamProposalWrite) (batch : List DreamProposalEvent)
    (hrevision : write.expectedRevision = row.revision) (hevents : write.events = stamp row.highestSeq batch) :
    ∃ after, db.commit scope row.id write row.highestSeq = .ok after ∧
      Appended db after row.id (row.swapped write row.highestSeq) write.events := by
  have hfind : db.proposals.find row.id = some row := Table.find_eq_some_iff.mpr ⟨hrow, rfl⟩
  have hinsert : insertEvents row.id db.events write.events =
      db.events ++ write.events.map fun event => (row.id, event) := by
    rw [hevents]
    refine log_insertEvents (fun entry hentry hsame => ?_) batch
    exact h.highest row.id row hfind entry.2 (DreamDatabase.mem_log.mpr (hsame ▸ hentry))
  have hmatched : db.proposals.rows.any
      (fun row' => row'.id = row.id && row'.revision = write.expectedRevision) = true :=
    List.any_eq_true.mpr ⟨row, hrow, by simp [hrevision]⟩
  unfold DreamDatabase.commit casUpdate
  simp only [if_pos hmatched]
  refine ⟨_, rfl, ⟨fun id => ?_, fun id => ?_, rfl⟩⟩
  · rw [Table.find_updateWhere]
    by_cases hid : id = row.id
    · subst hid
      simp [hfind, hrevision]
    · rw [if_neg hid]
      cases hother : db.proposals.find id with
      | none => rfl
      | some other =>
        have hkey : other.id = id := (Table.find_eq_some_iff.mp hother).2
        simp [hkey, hid]
  · rw [hinsert]
    exact db.log_append row.id write.events id

/-- Appending events past a row's highest seq keeps the store. -/
theorem Kept.appended {db after : DreamDatabase} (h : Kept db) {proposalId : String} {row row' : ProposalRow}
    {batch : List DreamProposalEvent} (hfind : db.proposals.find proposalId = some row)
    (hafter : Appended db after proposalId row' (stamp row.highestSeq batch))
    (hhighest : row'.highestSeq =
      (stamp row.highestSeq batch).foldl (fun highest event => max highest event.seq) row.highestSeq) :
    Kept after := by
  obtain ⟨hstart, hstamped⟩ := le_foldl_highest (stamp row.highestSeq batch) row.highestSeq
  constructor
  · intro id
    rw [hafter.log]
    split_ifs with hid
    · subst hid
      refine List.pairwise_append.mpr ⟨h.sorted id, stamp_sorted _ _, fun a ha b hb => ?_⟩
      exact (h.highest id row hfind a ha).trans_lt (lt_seq_stamp b hb)
    · exact h.sorted id
  · intro id other hother event hevent
    rw [hafter.rows] at hother
    rw [hafter.log] at hevent
    split_ifs at hother hevent with hid
    · subst hid
      rw [← Option.some.inj hother, hhighest]
      rcases List.mem_append.mp hevent with hold | hnew
      · exact (h.highest id row hfind event hold).trans hstart
      · exact hstamped event hnew
    · exact h.highest id other hother event hevent
  · intro id hnone
    rw [hafter.rows] at hnone
    rw [hafter.log]
    split_ifs at hnone ⊢ with hid
    exact h.owned id hnone

/-- A batch is accepted exactly when the stored status allows each of its events. -/
theorem applyDreamEvents_isOk {db : DreamDatabase} {scope : DreamScope} {proposalId : String} {row : ProposalRow}
    (hrow : db.loadProposal scope proposalId = some row) {expectedRevision : Option Int}
    (hexpected : ∀ revision ∈ expectedRevision, revision = row.revision) (batch : List DreamProposalEvent)
    (afterSurfaces : Int) :
    (∃ after, applyDreamEvents host db scope proposalId batch afterSurfaces expectedRevision = .ok after) ↔
      ∀ event ∈ batch, allows row.status event := by
  have hcurrent : expectedRevision.any (· ≠ row.revision) = false := by
    cases expectedRevision with
    | none => rfl
    | some revision => simp [hexpected revision rfl]
  obtain ⟨_, hmem, hid⟩ := loadProposal_eq_some hrow
  subst hid
  rw [← refusal_eq_none_iff]
  simp only [applyDreamEvents, hrow, hcurrent, Bool.false_eq_true, if_false]
  cases hrefused : refusal row.status batch with
  | some e => simp
  | none =>
    have hmatched : db.proposals.rows.any (fun row' => row'.id = row.id && row'.revision = row.revision) = true :=
      List.any_eq_true.mpr ⟨row, hmem, by simp⟩
    refine iff_of_true ?_ rfl
    simp only [DreamDatabase.commit, casUpdate]
    rw [show (db.prepare host scope row batch afterSurfaces).expectedRevision = row.revision from rfl,
      if_pos hmatched]
    exact ⟨_, rfl⟩

/-- What a batch that is accepted leaves. -/
theorem Kept.applyDreamEvents {db after : DreamDatabase} (h : Kept db) {scope : DreamScope}
    {proposalId : String} {batch : List DreamProposalEvent} {afterSurfaces : Int} {expectedRevision : Option Int}
    (hok : applyDreamEvents host db scope proposalId batch afterSurfaces expectedRevision = .ok after) :
    Kept after ∧ ∃ row, db.loadProposal scope proposalId = some row ∧
      (∀ event ∈ batch, allows row.status event) ∧
      Appended db after proposalId (row.swapped (db.prepare host scope row batch afterSurfaces) row.highestSeq)
        (stamp row.highestSeq batch) := by
  unfold Dream.applyDreamEvents at hok
  cases hrow : db.loadProposal scope proposalId with
  | none =>
    rw [hrow] at hok
    cases hok
  | some row =>
    simp only [hrow] at hok
    split_ifs at hok
    cases hrefused : refusal row.status batch with
    | some e =>
      rw [hrefused] at hok
      cases hok
    | none =>
      obtain ⟨hfind, hmem, hid⟩ := loadProposal_eq_some hrow
      subst hid
      obtain ⟨after', hcommit, hafter⟩ :=
        h.commit scope hmem (db.prepare host scope row batch afterSurfaces) batch rfl rfl
      simp only [hrefused, hcommit, Except.ok.injEq] at hok
      subst hok
      exact ⟨h.appended hfind hafter rfl, row, rfl, refusal_eq_none_iff.mp hrefused, hafter⟩

theorem Kept.mintProposal {db after : DreamDatabase} (h : Kept db) {scope : DreamScope} {request : MintRequest}
    (hok : mintProposal host isoformat db scope request = .ok after) :
    Kept after ∧ db.proposals.find request.proposalId = none ∧
      Appended db after request.proposalId (request.row host isoformat scope)
        (stamp 0 [request.event isoformat scope]) := by
  unfold Dream.mintProposal at hok
  cases hinserted : db.proposals.insert (request.row host isoformat scope) with
  | none =>
    rw [hinserted] at hok
    cases hok
  | some proposals =>
    simp only [hinserted, Except.ok.injEq] at hok
    subst hok
    obtain ⟨hfresh, hfind⟩ := Table.find_insert hinserted
    have hlog := h.owned request.proposalId hfresh
    have hinsert : insertEvents request.proposalId db.events (stamp 0 [request.event isoformat scope]) =
        db.events ++ (stamp 0 [request.event isoformat scope]).map fun event => (request.proposalId, event) := by
      refine log_insertEvents (fun entry hentry hsame => ?_) _
      have hmem : entry.2 ∈ db.log request.proposalId := DreamDatabase.mem_log.mpr (hsame ▸ hentry)
      rw [hlog] at hmem
      cases hmem
    have hafter : Appended db ⟨proposals, insertEvents request.proposalId db.events
        (stamp 0 [request.event isoformat scope]), db.tasks⟩ request.proposalId
        (request.row host isoformat scope) (stamp 0 [request.event isoformat scope]) :=
      ⟨hfind, fun id => by rw [hinsert]; exact db.log_append _ _ id, rfl⟩
    refine ⟨⟨fun id => ?_, fun id other hother event hevent => ?_, fun id hnone => ?_⟩, hfresh, hafter⟩
    · rw [hafter.log]
      split_ifs with hid
      · rw [hid, hlog, List.nil_append]
        exact stamp_sorted _ _
      · exact h.sorted id
    · rw [hafter.rows] at hother
      rw [hafter.log] at hevent
      split_ifs at hother hevent with hid
      · rw [hid, hlog, List.nil_append] at hevent
        rw [← Option.some.inj hother, List.mem_singleton.mp hevent]
        exact le_refl (1 : Int)
      · exact h.highest id other hother event hevent
    · rw [hafter.rows] at hnone
      rw [hafter.log]
      split_ifs at hnone ⊢ with hid
      exact h.owned id hnone

end OpenTimeline.Dream
