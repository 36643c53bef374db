import OpenTimeline.Planning.Binding

/-! The dream store of Full, and what its writers decide.

A write locks the proposal's row and appends. It asks nothing of the row's status: the sweep,
the reconcile and the route have each decided what to append on a row they read without a
lock. What is stored is the fold of the whole log all the same, so far as the status goes
(`status_prepare`). -/
namespace OpenTimeline.Dream.Full
open Library
open TaskState (TaskStateProjection StoreError digest32)
open Planning (ResolvedScope BindCall)

variable (host : Host) (isoformat : Instant → String)

/-! ### The store -/

def projectBound : String := "bound"
def projectInherited : String := "inherited"

/-- What the store reads of a scope. -/
def dreamScope (scope : ResolvedScope) : DreamScope where
  workspaceId := scope.workspaceId
  ownerId := scope.ownerId
  subjectUserId := scope.subjectUserId
  projectId := scope.projectId
  isBound := scope.projectBinding ∈ [projectBound, projectInherited]

/-- `load_proposal_events`: the latest of each kind, and the newest of all. -/
def loadProposalEvents (db : DreamDatabase) (proposalId : String) (maxEvents : Int := maxDreamEventsPerFold) :
    List DreamProposalEvent :=
  let bySeq := (db.log proposalId).insertionSort fun a b => a.seq ≤ b.seq
  pins DreamProposalEvent.kind pinnedDreamKinds bySeq ++
    newest (max 1 (maxEvents - pinnedDreamKinds.length)).toNat bySeq

/-- The write a savepoint prepares from the row it has locked. No column it sets has the session. -/
def prepare (db : DreamDatabase) (scope : DreamScope) (row : ProposalRow) (newEvents : List DreamProposalEvent)
    (afterSurfaces : Int) : DreamProposalWrite :=
  prepareDreamWrite host (loadProposalEvents db row.id) newEvents
    ⟨row.id, scope.workspaceId, scope.ownerId, scope.subjectUserId, ""⟩ row.revision row.highestSeq afterSurfaces

/-- `apply_dream_events`. A call that retries does so without a precondition, and then finds its row locked. -/
def applyDreamEvents (db : DreamDatabase) (scope : DreamScope) (proposalId : String)
    (newEvents : List DreamProposalEvent) (afterSurfaces : Int) (expectedRevision : Option Int := none)
    (retryOnce : Bool := false) : Except DreamError DreamDatabase :=
  match db.loadProposal scope proposalId with
  | none => .error (.revisionConflict (expectedRevision.getD 0) (-1))
  | some row =>
    if expectedRevision.any (· ≠ row.revision) && !retryOnce then
      .error (.revisionConflict (expectedRevision.getD 0) row.revision)
    else db.commit scope proposalId (prepare host db scope row newEvents afterSurfaces) row.highestSeq

/-! ### What it stores -/

section Store
variable {host}

/-- Putting a part of a log in order that has the latest event of each kind. -/
theorem exists_keeping {log l : List DreamProposalEvent} (h : Arranged sortKey (dedupeKey host) log)
    (hsub : ∀ event ∈ l, event ∈ log)
    (hlatest : ∀ kind event, latest DreamProposalEvent.kind (.known kind) log = some event → event ∈ l) :
    ∃ P, orderedEvents host l = log.filter P ∧ KeepsLatest P log := by
  obtain ⟨P, heq, hP⟩ := h.exists_filter hsub
  exact ⟨P, heq, fun kind event hevent => hP event (hlatest kind event hevent)⟩

theorem mem_of_mem_window {log : List DreamProposalEvent} {n : Nat} {event : DreamProposalEvent}
    (h : event ∈ pins DreamProposalEvent.kind pinnedDreamKinds log ++ newest n log) : event ∈ log :=
  (List.mem_append.mp h).elim pins_subset List.mem_of_mem_drop

/-- A fold of loaded events and a batch runs over such a part of the grown log. -/
theorem retained_loaded {log batch : List DreamProposalEvent} (h : (log ++ batch).Pairwise fun a b => a.seq < b.seq)
    (maxEvents : Int) :
    ∃ P, retainedEvents host maxEvents (pins DreamProposalEvent.kind pinnedDreamKinds log ++
        newest (tailSize maxEvents) log ++ batch) = (log ++ batch).filter P ∧ KeepsLatest P (log ++ batch) := by
  have harranged := arranged_of_sorted host h
  have hpinned (kind : DreamProposalEventKind) (event : DreamProposalEvent)
      (hlatest : latest DreamProposalEvent.kind (.known kind) (log ++ batch) = some event) :
      event ∈ pins DreamProposalEvent.kind pinnedDreamKinds (log ++ batch) :=
    mem_pins.mpr ⟨_, mem_pinnedDreamKinds kind, hlatest⟩
  simp only [retainedEvents]
  split_ifs
  · have hordered : orderedEvents host (pins DreamProposalEvent.kind pinnedDreamKinds log ++
        newest (tailSize maxEvents) log ++ batch) = _ := harranged.arrange_window_append
    rw [hordered, windowEvents]
    refine exists_keeping harranged (fun event hevent => ?_) fun kind event hlatest => List.mem_append_left _ ?_
    · exact ((window_sublist _ _ _).append_right batch).subset (mem_of_mem_window hevent)
    · rw [harranged.pins_window_append]
      exact hpinned kind event hlatest
  · refine exists_keeping harranged (fun event hevent => ?_) fun kind event hlatest => ?_
    · exact (List.mem_append.mp hevent).elim (fun hold => List.mem_append_left _ (mem_of_mem_window hold))
        (List.mem_append_right _)
    · rw [latest_append] at hlatest
      cases hnew : latest DreamProposalEvent.kind (.known kind) batch with
      | some newer =>
        rw [hnew] at hlatest
        exact List.mem_append_right _ (Option.some.inj hlatest ▸ (mem_of_latest hnew).1)
      | none =>
        rw [hnew] at hlatest
        exact List.mem_append_left _ (List.mem_append_left _
          (mem_pins.mpr ⟨_, mem_pinnedDreamKinds kind, hlatest⟩))

/-- So does what a write stores. -/
theorem prepare_window {db : DreamDatabase} (h : Kept db) {scope : DreamScope} {row : ProposalRow}
    (hfind : db.proposals.find row.id = some row) (batch : List DreamProposalEvent) (afterSurfaces : Int) :
    ∃ P, (prepare host db scope row batch afterSurfaces).projection.toDreamFields =
        foldEvents host ((db.log row.id ++ stamp row.highestSeq batch).filter P) ∧
      KeepsLatest P (db.log row.id ++ stamp row.highestSeq batch) := by
  have hsorted : (db.log row.id ++ stamp row.highestSeq batch).Pairwise fun a b => a.seq < b.seq := by
    refine List.pairwise_append.mpr ⟨h.sorted row.id, stamp_sorted _ _, fun a ha b hb => ?_⟩
    exact (h.highest row.id row hfind a ha).trans_lt (lt_seq_stamp b hb)
  have hloaded : loadProposalEvents db row.id =
      pins DreamProposalEvent.kind pinnedDreamKinds (db.log row.id) ++
        newest (tailSize maxDreamEventsPerFold) (db.log row.id) := by
    have horder := h.loadProposalEvents row.id
    unfold DreamDatabase.loadProposalEvents at horder
    rw [loadProposalEvents, horder]
    rfl
  obtain ⟨P, hretained, hkeeps⟩ := @retained_loaded host _ _ hsorted maxDreamEventsPerFold
  have hfields : (prepare host db scope row batch afterSurfaces).projection.toDreamFields =
      foldEvents host (retainedEvents host maxDreamEventsPerFold
        (loadProposalEvents db row.id ++ stamp row.highestSeq batch)) := rfl
  exact ⟨P, by rw [hfields, hloaded, hretained], hkeeps⟩

/-- The status it stores is that of the whole log. -/
theorem status_prepare {db : DreamDatabase} (h : Kept db) {scope : DreamScope} {row : ProposalRow}
    (hfind : db.proposals.find row.id = some row)
    (hminted : ∃ event ∈ db.log row.id, event.kind = .known .proposed) (batch : List DreamProposalEvent)
    (afterSurfaces : Int) :
    (prepare host db scope row batch afterSurfaces).projection.status =
      (foldEvents host (db.log row.id ++ stamp row.highestSeq batch)).status := by
  obtain ⟨P, hfields, hkeeps⟩ := @prepare_window host db h scope row hfind batch afterSurfaces
  obtain ⟨mint, hmint, hproposed⟩ := hminted
  rw [hfields]
  exact status_window host ⟨mint, List.mem_append_left _ hmint, hproposed⟩ hkeeps

/-- And so is the task. -/
theorem taskId_prepare {db : DreamDatabase} (h : Kept db) {scope : DreamScope} {row : ProposalRow}
    (hfind : db.proposals.find row.id = some row) (batch : List DreamProposalEvent) (afterSurfaces : Int) :
    (prepare host db scope row batch afterSurfaces).projection.taskId =
      (foldEvents host (db.log row.id ++ stamp row.highestSeq batch)).taskId := by
  obtain ⟨P, hfields, hkeeps⟩ := @prepare_window host db h scope row hfind batch afterSurfaces
  obtain ⟨_, _, _, _, _, _, htask, _⟩ := decidedBy_fields host
  rw [hfields]
  exact congrArg Prod.fst (htask.window hkeeps)

/-- What a write that goes through leaves. -/
theorem applyDreamEvents_ok {db after : DreamDatabase} (h : Kept db) {scope : DreamScope} {proposalId : String}
    {batch : List DreamProposalEvent} {afterSurfaces : Int}
    (hok : applyDreamEvents host db scope proposalId batch afterSurfaces = .ok after) :
    Kept after ∧ ∃ row, db.loadProposal scope proposalId = some row ∧
      Appended db after proposalId (row.swapped (prepare host db scope row batch afterSurfaces) row.highestSeq)
        (stamp row.highestSeq batch) := by
  unfold applyDreamEvents at hok
  cases hrow : db.loadProposal scope proposalId with
  | none =>
    rw [hrow] at hok
    cases hok
  | some row =>
    simp only [hrow] at hok
    obtain ⟨hfind, hmem, hid⟩ := loadProposal_eq_some hrow
    subst hid
    obtain ⟨stored, hcommit, hafter⟩ := h.commit scope hmem (prepare host db scope row batch afterSurfaces) batch rfl rfl
    rw [hcommit] at hok
    obtain rfl := Except.ok.inj hok
    exact ⟨h.appended hfind hafter rfl, row, rfl, hafter⟩

/-- A write goes through wherever its row is there. -/
theorem applyDreamEvents_isOk {db : DreamDatabase} (h : Kept db) {scope : DreamScope} {proposalId : String}
    {row : ProposalRow} (hrow : db.loadProposal scope proposalId = some row) (batch : List DreamProposalEvent)
    (afterSurfaces : Int) :
    ∃ after, applyDreamEvents host db scope proposalId batch afterSurfaces = .ok after := by
  obtain ⟨_, hmem, hid⟩ := loadProposal_eq_some hrow
  subst hid
  obtain ⟨stored, hcommit, _⟩ := h.commit scope hmem (prepare host db scope row batch afterSurfaces) batch rfl rfl
  exact ⟨stored, by simp only [applyDreamEvents, hrow, hcommit]; rfl⟩

end Store

/-! ### The sweep -/

def liveStatuses : List DreamProposalStatus := [.proposed, .surfaced, .snoozed, .accepted, .pursued]

def backfillOriginKind : String := "imported_transcript"
def evidenceBasisMixed : String := "mixed"
def evidenceBasisBackfill : String := "backfill_only"

/-- `evidence_basis_for` -/
def evidenceBasisFor (citations : List DreamCitation) : String :=
  let kinds := citations.map (·.originKind)
  if kinds = [] then evidenceBasisTrusted
  else if kinds.all (· = backfillOriginKind) then evidenceBasisBackfill
  else if backfillOriginKind ∈ kinds then evidenceBasisMixed
  else evidenceBasisTrusted

/-- `evidence_revision`, of citations. -/
def evidenceRevision (citations : List DreamCitation) : String × Option Instant :=
  if citations.isEmpty then ("empty", none)
  else
    let ids := (citations.map (·.eventId)).insertionSort (· ≤ ·)
    let cutoff := (citations.map (·.observedAt)).max?
    (digest32 host (",".intercalate ids ++ "|" ++ (cutoff.map isoformat).getD ""), cutoff)

/-- What `validate_citations_deep` makes of citations: those that survive, and why the others do not. -/
abbrev Validator := List DreamCitation → List DreamCitation × List String

/-- The arguments of `sweep_dream_proposals`, with the settings it reads. -/
structure SweepRequest where
  scope : DreamScope
  now : Instant
  ttlDays : Nat
  minCitations : Nat
  afterSurfaces : Int := 3

/-- An event of a writer of the system's. -/
def systemEventOf (kind : DreamProposalEventKind) (payload : Payload) (now : Instant) : DreamProposalEvent where
  seq := 0
  kind := .known kind
  payload
  occurredAt := now
  actor := "system"
  actorClass := "system"

namespace SweepRequest
variable (request : SweepRequest)

/-- A snooze that is over. -/
def wakes (row : ProposalRow) : Bool := row.status = .snoozed && row.snoozeUntil.any (· ≤ request.now)

/-- A proposal nobody has answered in time. -/
def lapses (row : ProposalRow) : Bool :=
  row.status ∈ [.proposed, .surfaced] && row.expiresAt.any (· ≤ request.now)

def expiresAt : Instant := request.now + max 1 request.ttlDays * 86400000000

/-- The batch of a turn of the sweep. -/
def events (validate : Validator) (row : ProposalRow) : List DreamProposalEvent :=
  if request.wakes row then
    [systemEventOf .unsnoozed [("expires_at", .str (isoformat request.expiresAt))] request.now]
  else if request.lapses row then [systemEventOf .expired [] request.now]
  else
    let (surviving, dropped) := validate row.citations
    if dropped = [] then []
    else
      let (digest, cutoff) := evidenceRevision host isoformat surviving
      let revalidated := systemEventOf .evidenceRevalidated
        [("citations", citationsToJson isoformat surviving), ("evidence_basis", .str (evidenceBasisFor surviving)),
          ("evidence_revision", .str digest), ("evidence_cutoff_at", isoOrNull isoformat cutoff),
          ("dropped", .arr (dropped.map .str))] request.now
      revalidated :: if surviving.length < request.minCitations then
        [systemEventOf .withdrawn [("reason", .str "citations_unverifiable")] request.now] else []

/-- The rows the sweep reads. Its order is by a column that is not modelled. -/
def reads (db : DreamDatabase) : List ProposalRow :=
  db.proposals.rows.filter fun row => request.scope.covers row && row.status ∈ liveStatuses

end SweepRequest

/-! ### The reconcile -/

/-- `_abandon` -/
def abandon (taskId reason : String) (now : Instant) : DreamProposalEvent :=
  systemEventOf .pursuitAbandoned [("reason", .str reason), ("task_id", .str taskId)] now

/-- What `_reconcile_one` decides of a proposal bound to a task. -/
def pursuitEvent (row : ProposalRow) (taskId : String) (loaded : Option TaskStateProjection) (now : Instant) :
    Option DreamProposalEvent :=
  match loaded with
  | none => some (abandon taskId "task_state_missing" now)
  | some task =>
    if !objectiveAgrees row task then some (abandon taskId "objective_changed" now)
    else if task.status = .cancelled then some (abandon taskId "task_cancelled" now)
    else if task.status = .done ∧ row.status ≠ .completed then
      some (systemEventOf .completed [("task_id", .str taskId), ("objective_hash", textOrNull row.objectiveHash)] now)
    else if row.status = .accepted ∧ planHasStarted task then
      some (systemEventOf .pursuitStarted
        [("plan_root_goal_id", textOrNull (task.plan.bind (·.rootGoalId)))] now)
    else none

/-- `_reconcile_one`, with the task it leaves. -/
def reconcileOne (planner : Planner) (call : BindCall) (db : DreamDatabase) (row : ProposalRow) :
    Except StoreError (DreamDatabase × Option DreamProposalEvent) :=
  let scope := dreamScope call.scope
  match row.taskId with
  | none =>
    let key := scope.taskKey call.sessionId
    match Planning.bindObjective host planner call row (db.tasks key) with
    | .error e => .error e
    | .ok none => .ok (db, none)
    | .ok (some binding) => .ok (db.setTask key binding.task, some binding.event)
  | some taskId => .ok (db, pursuitEvent row taskId (db.loadTaskState scope taskId) call.now)

/-! ### The owner -/

/-- `HUMAN_VERDICT_ACTIONS` -/
inductive VerdictAction
  | accepted | rejected | snoozed | unsnoozed
deriving DecidableEq, Repr

def VerdictAction.kind : VerdictAction → DreamProposalEventKind
  | .accepted => .accepted
  | .rejected => .rejected
  | .snoozed => .snoozed
  | .unsnoozed => .unsnoozed

/-- A verdict as the route takes it. -/
structure VerdictRequest where
  scope : DreamScope
  proposalId : String
  action : VerdictAction
  reason : Option String := none
  snoozeUntil : Option Instant := none
  snoozeDefaultDays : Nat := 7
  ttlDays : Nat := 45
  now : Instant
  actor : String
  afterSurfaces : Int := 3

namespace VerdictRequest
variable (request : VerdictRequest)

def payload : Payload :=
  let inDays (days : Nat) : Instant := request.now + max 1 days * 86400000000
  match request.action with
  | .accepted => []
  | .rejected => [("reason", .str (String.ofList (((request.reason.getD "").toList.take 400))))]
  | .snoozed =>
    [("snooze_until", .str (isoformat (request.snoozeUntil.getD (inDays request.snoozeDefaultDays))))]
  | .unsnoozed => [("expires_at", .str (isoformat (inDays request.ttlDays)))]

def event : DreamProposalEvent where
  seq := 0
  kind := .known request.action.kind
  payload := request.payload isoformat
  occurredAt := request.now
  actor := request.actor
  actorClass := "human"

/-- The row `dream_transition` goes on with; the others it refuses. -/
def reads (db : DreamDatabase) : List ProposalRow :=
  ((db.loadProposal request.scope request.proposalId).filter fun row =>
    (transitionAllowed row.status request.action.kind).1).toList

end VerdictRequest

end OpenTimeline.Dream.Full
