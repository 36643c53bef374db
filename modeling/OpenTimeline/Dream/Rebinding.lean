import OpenTimeline.Dream.Races

/-! Accepting an abandoned proposal again.

The table leads from abandoned to accepted, and an accepted proposal is bound by the next
reconcile where it has no task. The fold never takes a task back: it keeps that of the last
binding through the abandonment (`taskId_foldEvents`). So the reconcile goes back to the task
it abandoned the pursuit of, and abandons it again for as long as the reason stands
(`accepted_again`). -/
namespace OpenTimeline.Dream.Full
open Library
open TaskState (TaskStateProjection)
open Planning (BindCall)

variable (host : Host) (isoformat : Instant → String)

/-- An event that binds the proposal to a task. -/
def BindsTo (event : DreamProposalEvent) (taskId : String) : Prop :=
  event.kind = .known .objectiveBound ∧ event.payload.get "task_id" = .str taskId ∧ taskId ≠ ""

/-- The log of a proposal whose pursuit was abandoned. -/
structure AbandonedPursuit (log : List DreamProposalEvent) : Prop where
  minted : ∃ event ∈ log, event.kind = .known .proposed
  bound : ∃ pre binding mid abandonment post, log = pre ++ binding :: (mid ++ abandonment :: post) ∧
    binding.kind = .known .objectiveBound ∧ abandonment.kind = .known .pursuitAbandoned
  /-- What `_bind_objective` binds to is a session. -/
  named : ∀ event ∈ log, event.kind = .known .objectiveBound → ∃ taskId, BindsTo event taskId

/-- The reconcile binds the proposal to a task. -/
def BindsAfresh (planner : Planner) (call : BindCall) (db : DreamDatabase) (row : ProposalRow) : Prop :=
  ∃ after event, reconcileOne host planner call db row = .ok (after, some event) ∧ event.kind = .known .objectiveBound

/-- It abandons it. -/
def Abandons (planner : Planner) (call : BindCall) (db : DreamDatabase) (row : ProposalRow) : Prop :=
  ∃ after event, reconcileOne host planner call db row = .ok (after, some event) ∧
    event.kind = .known .pursuitAbandoned

variable {host isoformat}

/-- The task of the fold is that of the last binding, whatever has become of it. -/
theorem taskId_foldEvents {log : List DreamProposalEvent}
    (hnamed : ∀ event ∈ log, event.kind = .known .objectiveBound → ∃ taskId, BindsTo event taskId)
    (hbound : ∃ event ∈ log, event.kind = .known .objectiveBound) :
    ∃ taskId, (foldEvents host log).taskId = some taskId ∧ ∃ event ∈ log, BindsTo event taskId := by
  induction log using List.reverseRecOn with
  | nil => simp at hbound
  | append_singleton log event ih =>
    have hstep : foldEvents host (log ++ [event]) = foldStep host (foldEvents host log) event := by
      simp [foldEvents]
    by_cases hkind : event.kind = .known .objectiveBound
    · obtain ⟨taskId, hto⟩ := hnamed event (by simp) hkind
      refine ⟨taskId, ?_, event, by simp, hto⟩
      rw [hstep, foldStep, hkind]
      show TaskState.optText (event.payload.get "task_id") = some taskId
      rw [hto.2.1]
      exact if_neg hto.2.2
    · obtain ⟨earlier, hearlier, hearlierKind⟩ := hbound
      have hmem : earlier ∈ log := by
        rcases List.mem_append.mp hearlier with hold | hnew
        · exact hold
        · exact absurd (List.mem_singleton.mp hnew ▸ hearlierKind) hkind
      obtain ⟨taskId, htask, other, hother, hto⟩ := ih
        (fun other hother => hnamed other (List.mem_append_left _ hother)) ⟨earlier, hmem, hearlierKind⟩
      refine ⟨taskId, ?_, other, List.mem_append_left _ hother, hto⟩
      obtain ⟨_, _, _, _, _, _, hdecided, _⟩ := decidedBy_fields host
      rw [hstep, ← htask]
      exact congrArg Prod.fst (hdecided.touched.foldStep (fun hmem => hkind (List.mem_singleton.mp hmem)) _)

/-- The task does not do for its proposal: it is gone, has another objective, or was cancelled. -/
def Unfit (row : ProposalRow) (loaded : Option TaskStateProjection) : Prop :=
  ∀ task ∈ loaded, objectiveAgrees row task = false ∨ task.status = .cancelled

/-- An event of another kind binds nothing, and abandons by its kind. -/
theorem mem_some_systemEvent {kind : DreamProposalEventKind} (hkind : kind ≠ .objectiveBound) (payload : Payload)
    (now : Instant) :
    (∀ event ∈ some (systemEventOf kind payload now), event.kind ≠ .known .objectiveBound) ∧
      ((∃ event ∈ some (systemEventOf kind payload now), event.kind = .known .pursuitAbandoned) ↔
        kind = .pursuitAbandoned) := by
  simp [systemEventOf, hkind]

/-- What is decided of a bound proposal: it is abandoned where its task does not do, and never bound. -/
theorem pursuitEvent_kind (row : ProposalRow) (taskId : String) (loaded : Option TaskStateProjection) (now : Instant) :
    (∀ event ∈ pursuitEvent row taskId loaded now, event.kind ≠ .known .objectiveBound) ∧
      ((∃ event ∈ pursuitEvent row taskId loaded now, event.kind = .known .pursuitAbandoned) ↔ Unfit row loaded) := by
  have habandon (reason : String) (hunfit : Unfit row loaded) :
      (∀ event ∈ some (abandon taskId reason now), event.kind ≠ .known .objectiveBound) ∧
        ((∃ event ∈ some (abandon taskId reason now), event.kind = .known .pursuitAbandoned) ↔ Unfit row loaded) := by
    obtain ⟨hbinds, habandons⟩ := mem_some_systemEvent (show DreamProposalEventKind.pursuitAbandoned ≠ .objectiveBound by decide)
      [("reason", .str reason), ("task_id", .str taskId)] now
    exact ⟨hbinds, habandons.trans (iff_of_true rfl hunfit)⟩
  have hkeep {kind : DreamProposalEventKind} (hkind : kind ≠ .objectiveBound ∧ kind ≠ .pursuitAbandoned)
      (payload : Payload) (hfit : ¬ Unfit row loaded) :
      (∀ event ∈ some (systemEventOf kind payload now), event.kind ≠ .known .objectiveBound) ∧
        ((∃ event ∈ some (systemEventOf kind payload now), event.kind = .known .pursuitAbandoned) ↔
          Unfit row loaded) := by
    obtain ⟨hbinds, habandons⟩ := mem_some_systemEvent hkind.1 payload now
    exact ⟨hbinds, habandons.trans (iff_of_false hkind.2 hfit)⟩
  cases loaded with
  | none =>
    have hunfit : Unfit row none := by simp [Unfit]
    exact habandon _ hunfit
  | some task =>
    have hunfit : Unfit row (some task) ↔ objectiveAgrees row task = false ∨ task.status = .cancelled := by
      simp [Unfit]
    simp only [pursuitEvent]
    split_ifs with hagrees hcancelled hdone hstarted
    · exact habandon _ (hunfit.mpr (Or.inl (by simpa using hagrees)))
    · exact habandon _ (hunfit.mpr (Or.inr hcancelled))
    all_goals
      have hfit : ¬ Unfit row (some task) := by
        rw [hunfit]
        simpa [hcancelled] using hagrees
    · exact hkeep (by decide) _ hfit
    · exact hkeep (by decide) _ hfit
    · simpa using hfit

/-- So a proposal bound to a task is not bound again, and abandoned where that task does not do. -/
theorem reconcileOne_bound {planner : Planner} {call : BindCall} {db : DreamDatabase} {row : ProposalRow}
    {taskId : String} (hbound : row.taskId = some taskId) :
    ¬ BindsAfresh host planner call db row ∧
      (Abandons host planner call db row ↔ Unfit row (db.loadTaskState (dreamScope call.scope) taskId)) := by
  have hone : reconcileOne host planner call db row =
      .ok (db, pursuitEvent row taskId (db.loadTaskState (dreamScope call.scope) taskId) call.now) := by
    simp only [reconcileOne, hbound]
  obtain ⟨hbinds, habandons⟩ := pursuitEvent_kind row taskId (db.loadTaskState (dreamScope call.scope) taskId) call.now
  rw [← habandons]
  simp only [BindsAfresh, Abandons, hone, Except.ok.injEq, Prod.mk.injEq]
  constructor
  · rintro ⟨_, event, ⟨_, hevent⟩, hkind⟩
    exact hbinds event hevent hkind
  · constructor
    · rintro ⟨_, event, ⟨_, hevent⟩, hkind⟩
      exact ⟨event, hevent, hkind⟩
    · rintro ⟨event, hevent, hkind⟩
      exact ⟨db, event, ⟨rfl, hevent⟩, hkind⟩

/-- What an acceptance after an abandonment stores: the task of a binding made before. -/
theorem accepted_keeps_task {db after : DreamDatabase} (hkept : Kept db) {request : VerdictRequest}
    (haction : request.action = .accepted) (hlog : AbandonedPursuit (db.log request.proposalId))
    (hok : applyDreamEvents host db request.scope request.proposalId [request.event isoformat] request.afterSurfaces =
      .ok after) :
    ∃ row taskId, after.loadProposal request.scope request.proposalId = some row ∧ row.status = .accepted ∧
      row.taskId = some taskId ∧ ∃ event ∈ db.log request.proposalId, BindsTo event taskId := by
  obtain ⟨_, row, hrow, hafter⟩ := applyDreamEvents_ok hkept hok
  obtain ⟨hfind, _, hid⟩ := loadProposal_eq_some hrow
  rw [← hid] at hfind hlog hafter ⊢
  obtain ⟨pre, binding, mid, abandonment, post, hsplit, hbinding, _⟩ := hlog.bound
  obtain ⟨taskId, htask, hfrom⟩ := @taskId_foldEvents host _ hlog.named
    ⟨binding, by rw [hsplit]; simp, hbinding⟩
  have hstep : foldEvents host (db.log row.id ++ stamp row.highestSeq [request.event isoformat]) =
      foldStep host (foldEvents host (db.log row.id)) {request.event isoformat with seq := row.highestSeq + 1} := by
    simp [foldEvents, stamp]
  have hkind : (request.event isoformat).kind = .known .accepted := by
    show DreamKind.known request.action.kind = _
    rw [haction]
    rfl
  have hload : after.loadProposal request.scope row.id = some (row.swapped (prepare host db request.scope row
      [request.event isoformat] request.afterSurfaces) row.highestSeq) := by
    have hcovers := (Option.filter_eq_some_iff.mp hrow).2
    rw [DreamDatabase.loadProposal, hafter.rows, if_pos rfl]
    exact Option.filter_eq_some_iff.mpr ⟨rfl, hcovers⟩
  have hbound : (prepare host db request.scope row [request.event isoformat]
      request.afterSurfaces).projection.taskId = some taskId := by
    obtain ⟨_, _, _, _, _, _, hdecided, _⟩ := decidedBy_fields host
    rw [taskId_prepare hkept hfind, hstep, ← htask]
    refine congrArg Prod.fst (hdecided.touched.foldStep (fun hmem => ?_) _)
    exact absurd (hkind.symm.trans (List.mem_singleton.mp hmem)) (by decide)
  refine ⟨_, taskId, hload, ?_, hbound, hfrom⟩
  show (prepare host db request.scope row [request.event isoformat] request.afterSurfaces).projection.status = .accepted
  rw [status_prepare hkept hfind hlog.minted, hstep, status_foldStep]
  show statusAfter _ (request.event isoformat) = _
  rw [statusAfter, hkind]
  rfl

/-- **An abandoned proposal that is accepted again is never bound again**: the reconcile goes back to the task of a
binding made before, and abandons the proposal for as long as that task does not do. -/
theorem accepted_again (db after : DreamDatabase) (hkept : Kept db) (request : VerdictRequest)
    (haction : request.action = .accepted) (hlog : AbandonedPursuit (db.log request.proposalId))
    (hok : applyDreamEvents host db request.scope request.proposalId [request.event isoformat] request.afterSurfaces =
      .ok after) :
    ∃ row taskId, after.loadProposal request.scope request.proposalId = some row ∧ row.status = .accepted ∧
      row.taskId = some taskId ∧ (∃ event ∈ db.log request.proposalId, BindsTo event taskId) ∧
      ∀ planner call, ¬ BindsAfresh host planner call after row ∧
        (Abandons host planner call after row ↔ Unfit row (after.loadTaskState (dreamScope call.scope) taskId)) := by
  obtain ⟨row, taskId, hrow, hstatus, htask, hfrom⟩ := accepted_keeps_task hkept haction hlog hok
  exact ⟨row, taskId, hrow, hstatus, htask, hfrom, fun planner call => reconcileOne_bound htask⟩

/-! ### A concrete proposal -/

/-- A proposal is minted, accepted, bound, and abandoned as its task is gone. -/
def abandonedLog : List DreamProposalEvent := stamp 0 [exampleMint.event dayText exampleScope,
  acceptance.event dayText, Planning.objectiveBoundEvent Planning.exampleCall "write the notes",
  abandon "s" "task_state_missing" nextDay]

def abandonedRow : ProposalRow where
  toDreamProposalProjection :=
    (foldEvents dayHost abandonedLog).projection ⟨"p", "w", "o", "u", "s"⟩ 4 acceptance.afterSurfaces
  highestSeq := 4
  sourceRevision := sourceRevision dayHost abandonedLog

def abandonedStore : DreamDatabase where
  proposals := ⟨[abandonedRow], List.pairwise_singleton _ _⟩
  events := abandonedLog.map fun event => ("p", event)
  tasks := fun _ => none

theorem log_abandonedStore (id : String) : abandonedStore.log id = if id = "p" then abandonedLog else [] := by
  have h := emptyStore.log_append "p" abandonedLog id
  split_ifs at h ⊢ <;> exact h

theorem load_abandonedStore :
    abandonedStore.loadProposal acceptance.scope acceptance.proposalId = some abandonedRow := by
  refine Option.filter_eq_some_iff.mpr ⟨Table.find_eq_some_iff.mpr ⟨List.mem_singleton_self _, rfl⟩, ?_⟩
  decide +kernel

theorem kept_abandonedStore : Kept abandonedStore := by
  refine ⟨fun id => ?_, fun id row hfind event hevent => ?_, fun id hnone => ?_⟩
  · rw [log_abandonedStore]
    split_ifs
    · exact stamp_sorted 0 _
    · exact .nil
  · obtain ⟨hrow, _⟩ := Table.find_eq_some_iff.mp hfind
    have hlast : ∀ event ∈ abandonedLog, event.seq ≤ 4 := by simp [abandonedLog, stamp]
    rw [log_abandonedStore] at hevent
    rw [List.mem_singleton.mp hrow]
    split_ifs at hevent
    · exact hlast event hevent
    · cases hevent
  · rw [log_abandonedStore, if_neg]
    rintro rfl
    have hother := List.find?_eq_none.mp hnone abandonedRow (List.mem_singleton_self _)
    exact hother (decide_eq_true rfl)

theorem abandonedPursuit_abandonedLog : AbandonedPursuit abandonedLog := by
  refine ⟨⟨_, List.mem_cons_self, rfl⟩, ⟨abandonedLog.take 2, _, [], _, [], rfl, rfl, rfl⟩, ?_⟩
  have hto : ∀ event ∈ abandonedLog, event.kind = .known .objectiveBound → BindsTo event "s" := by
    simp only [abandonedLog, stamp, List.forall_mem_cons]
    refine ⟨fun h => absurd h (by decide), fun h => absurd h (by decide), fun _ => ⟨rfl, rfl, by decide⟩,
      fun h => absurd h (by decide), fun _ h => absurd h List.not_mem_nil⟩
  exact fun event hevent hkind => ⟨"s", hto event hevent hkind⟩

/-- The session has no task any more, and the proposal goes back to it. -/
theorem accepted_again_gone : ∃ after row taskId,
    after.loadProposal acceptance.scope acceptance.proposalId = some row ∧ row.taskId = some taskId ∧
      ¬ BindsAfresh dayHost examplePlanner Planning.exampleCall after row := by
  obtain ⟨after, hok⟩ := @applyDreamEvents_isOk dayHost _ kept_abandonedStore _ _ _ load_abandonedStore
    [acceptance.event dayText] acceptance.afterSurfaces
  obtain ⟨row, taskId, hrow, _, htask, _, hbinds⟩ := accepted_again abandonedStore after kept_abandonedStore acceptance
    rfl abandonedPursuit_abandonedLog hok
  exact ⟨after, row, taskId, hrow, htask, (hbinds examplePlanner Planning.exampleCall).1⟩

/-- Its session is idle, and the proposal is not bound. -/
theorem accepted_again_unbound :
    ¬ ∀ (host : Host) (isoformat : Instant → String) (db after : DreamDatabase) (request : VerdictRequest),
      Kept db → request.action = .accepted → AbandonedPursuit (db.log request.proposalId) →
      applyDreamEvents host db request.scope request.proposalId [request.event isoformat] request.afterSurfaces =
        .ok after →
      ∀ row, after.loadProposal request.scope request.proposalId = some row →
      ∀ planner call, dreamScope call.scope = request.scope →
        (∀ task ∈ after.loadTaskState request.scope call.sessionId, isIdle task.status) →
        BindsAfresh host planner call after row ∧ ¬ Abandons host planner call after row := by
  intro h
  obtain ⟨after, hok⟩ := @applyDreamEvents_isOk dayHost _ kept_abandonedStore _ _ _ load_abandonedStore
    [acceptance.event dayText] acceptance.afterSurfaces
  obtain ⟨row, taskId, hrow, _, htask, _⟩ :=
    @accepted_keeps_task dayHost dayText _ after kept_abandonedStore acceptance rfl abandonedPursuit_abandonedLog hok
  obtain ⟨_, _, _, hafter⟩ := applyDreamEvents_ok kept_abandonedStore hok
  have hidle : ∀ task ∈ after.loadTaskState acceptance.scope Planning.exampleCall.sessionId, isIdle task.status := by
    rw [DreamDatabase.loadTaskState, hafter.tasks]
    simp [abandonedStore]
  have hclaim := h dayHost dayText abandonedStore after acceptance kept_abandonedStore rfl abandonedPursuit_abandonedLog
    hok row hrow examplePlanner Planning.exampleCall rfl hidle
  exact (reconcileOne_bound htask).1 hclaim.1

end OpenTimeline.Dream.Full
