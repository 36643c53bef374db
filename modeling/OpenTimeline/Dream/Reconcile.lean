import OpenTimeline.Library.Transition
import OpenTimeline.TaskState.Accumulators
import OpenTimeline.Dream.Pursuit

/-! What a reconcile makes of the proposals bound to a task.

A proposal whose task is done is completed if it was pursued, and stays accepted, whatever
follows, if it was only accepted: its batch is refused (`reconcile_completed_iff`). One
that is accepted and whose task is at work is pursued exactly when some step of the plan
has a status of `_plan_has_started`'s vocabulary (`reconcile_pursued_iff`), which no step
event gives a step (`startedStep_approved`). -/
namespace OpenTimeline.Dream
open Library
open TaskState (TaskStore TaskIds TaskStateProjection TaskStateEvent WriteRequest ensureTaskState
  applyTaskStateEvents)

variable (host : Host) (isoformat : Instant → String)

/-! ### Runs of the store -/

/-- What can happen to the store. A task is written to by its own session's turns. -/
inductive DreamAction
  | mint (scope : DreamScope) (request : MintRequest)
  | append (scope : DreamScope) (proposalId : String) (batch : List DreamProposalEvent) (afterSurfaces : Int)
      (expectedRevision : Option Int)
  | writeTask (key : TaskKey) (request : WriteRequest)
  | reconcile (planner : Planner) (request : ReconcileRequest)

def dreamStore : System DreamDatabase DreamAction where
  init db := db = emptyStore
  next db action := match action with
    | .mint scope request => (mintProposal host isoformat db scope request).toOption
    | .append scope proposalId batch afterSurfaces expectedRevision =>
      (applyDreamEvents host db scope proposalId batch afterSurfaces expectedRevision).toOption
    | .writeTask key request =>
      let store := (db.tasks key).getD
        (ensureTaskState ⟨key.taskId, key.workspaceId, key.ownerId, request.sessionId⟩)
      (applyTaskStateEvents host store request).toOption.map (db.setTask key)
    | .reconcile planner request =>
      (reconcileDreamPursuit host isoformat planner request db).toOption.map (·.1)

/-- The loop goes through, and touches only the proposals it takes. -/
theorem Sound.loop {db : DreamDatabase} (h : Sound db) (planner : Planner) (request : ReconcileRequest)
    (counts : ReconcileCounts) (rows : List ProposalRow) :
    ∃ after counts', rows.foldlM (reconcileTurn host isoformat planner request) (db, counts) =
        .ok (after, counts') ∧ Sound after ∧ Untouched db after (rows.map ProposalRow.id) := by
  induction rows generalizing db counts with
  | nil => exact ⟨db, counts, rfl, h, .refl db _⟩
  | cons row rest ih =>
    obtain ⟨mid, counts', hturn, hmid, hfirst⟩ := h.turn host isoformat planner request counts row
    obtain ⟨after, counts'', hrest, hafter, hothers⟩ := ih hmid counts'
    refine ⟨after, counts'', ?_, hafter, hfirst.trans hothers⟩
    rw [List.foldlM_cons, hturn]
    exact hrest

theorem sound_emptyStore : Sound emptyStore :=
  ⟨⟨fun _ => .nil, fun _ _ h => (nomatch h), fun _ _ => rfl⟩, fun _ _ h => (nomatch h)⟩

theorem Sound.reconcile {db : DreamDatabase} (h : Sound db) (planner : Planner) (request : ReconcileRequest) :
    ∃ after counts, reconcileDreamPursuit host isoformat planner request db = .ok (after, counts) ∧
      Sound after := by
  obtain ⟨after, counts, hok, hafter, _⟩ := h.loop host isoformat planner request {} (db.pursuable request.scope)
  exact ⟨after, counts, hok, hafter⟩

variable {host isoformat} in
theorem sound_of_reachable {db : DreamDatabase} (h : (dreamStore host isoformat).Reachable db) : Sound db := by
  refine System.Reachable.invariant (fun db hinit => ?_) (fun db action after _ hsound hnext => ?_) h
  · rw [show db = emptyStore from hinit]
    exact sound_emptyStore
  · cases action with
    | mint scope request =>
      obtain ⟨hkept, _, hafter⟩ := hsound.kept.mintProposal (toOption_eq_some_iff.mp hnext)
      exact ⟨hkept, fun key store hstore => hsound.tasks key store (hafter.tasks ▸ hstore)⟩
    | append scope proposalId batch afterSurfaces expectedRevision =>
      exact hsound.applyDreamEvents (toOption_eq_some_iff.mp hnext)
    | writeTask key request =>
      obtain ⟨store, hwritten, hset⟩ := Option.map_eq_some_iff.mp hnext
      have hensured : TaskState.Kept ((db.tasks key).getD
          (ensureTaskState ⟨key.taskId, key.workspaceId, key.ownerId, request.sessionId⟩)) := by
        cases hheld : db.tasks key with
        | none => exact TaskState.kept_ensureTaskState _
        | some held => exact hsound.tasks key held hheld
      rw [← hset]
      exact hsound.setTask key (hensured.applyTaskStateEvents host (toOption_eq_some_iff.mp hwritten)).1
    | reconcile planner request =>
      obtain ⟨⟨after', counts⟩, hran, hafter⟩ := Option.map_eq_some_iff.mp hnext
      obtain ⟨after'', counts', hok, hsound'⟩ := hsound.reconcile host isoformat planner request
      rw [toOption_eq_some_iff.mp hran, Except.ok.injEq, Prod.mk.injEq] at hok
      rw [← hafter, hok.1]
      exact hsound'

/-! ### One proposal's turn -/

theorem mem_pursuable {db : DreamDatabase} {scope : DreamScope} {row : ProposalRow} :
    row ∈ db.pursuable scope ↔ row ∈ db.proposals.rows ∧ scope.covers row ∧
      (row.status = .accepted ∨ row.status = .pursued) := by
  simp [DreamDatabase.pursuable, List.mem_insertionSort]

theorem pursuable_nodup (db : DreamDatabase) (scope : DreamScope) :
    ((db.pursuable scope).map ProposalRow.id).Nodup := by
  refine ((List.perm_insertionSort _ _).map ProposalRow.id).nodup_iff.mpr ?_
  exact db.proposals.nodup.sublist (List.filter_sublist.map _)

/-- The loop finds a proposal as it was, and leaves it as its turn did. -/
theorem Sound.reconcile_split {db : DreamDatabase} (h : Sound db) (planner : Planner) (request : ReconcileRequest)
    {pre post : List ProposalRow} {row : ProposalRow} (hrows : db.pursuable request.scope = pre ++ row :: post) :
    ∃ mid counts next counts' after counts'',
      pre.foldlM (reconcileTurn host isoformat planner request) (db, {}) = .ok (mid, counts) ∧
      Sound mid ∧ Untouched db mid (pre.map ProposalRow.id) ∧ mid.proposals.find row.id = some row ∧
      reconcileTurn host isoformat planner request (mid, counts) row = .ok (next, counts') ∧
      reconcileDreamPursuit host isoformat planner request db = .ok (after, counts'') ∧
      after.proposals.find row.id = next.proposals.find row.id := by
  obtain ⟨mid, counts, hpre, hmid, hbefore⟩ := h.loop host isoformat planner request {} pre
  obtain ⟨next, counts', hturn, hnext, _⟩ := hmid.turn host isoformat planner request counts row
  obtain ⟨after, counts'', hpost, _, hlater⟩ := hnext.loop host isoformat planner request counts' post
  have hnodup := pursuable_nodup db request.scope
  rw [hrows, List.map_append, List.map_cons, List.nodup_append] at hnodup
  obtain ⟨_, hown, hdisjoint⟩ := hnodup
  refine ⟨mid, counts, next, counts', after, counts'', hpre, hmid, hbefore, ?_, hturn, ?_, ?_⟩
  · have hmem : row ∈ db.proposals.rows := (mem_pursuable.mp (hrows ▸ by simp : row ∈ db.pursuable request.scope)).1
    rw [hbefore.proposals row.id fun hpre => hdisjoint _ hpre _ List.mem_cons_self rfl]
    exact Table.find_eq_some_iff.mpr ⟨hmem, rfl⟩
  · rw [reconcileDreamPursuit, hrows, List.foldlM_append, hpre]
    show (row :: post).foldlM (reconcileTurn host isoformat planner request) (mid, counts) = _
    rw [List.foldlM_cons, hturn]
    exact hpost
  · exact hlater.proposals row.id (List.nodup_cons.mp hown).1

/-- What a proposal's turn makes of it: what the last event of its batch does, if the table
allows the whole batch in the stored status, and nothing otherwise. -/
theorem Sound.turn_status {db : DreamDatabase} (h : Sound db) (planner : Planner) (request : ReconcileRequest)
    {row : ProposalRow} (hfind : db.proposals.find row.id = some row) (hcovers : request.scope.covers row)
    {taskId : String} (htask : row.taskId = some taskId) {batch : List DreamProposalEvent}
    {last : DreamProposalEvent} (hevents : pursuitEvents isoformat row taskId
      (db.loadTaskState request.scope taskId) request.now = batch ++ [last])
    {counts counts' : ReconcileCounts} {next : DreamDatabase}
    (hturn : reconcileTurn host isoformat planner request (db, counts) row = .ok (next, counts')) :
    ∃ reached, (next.loadProposal request.scope row.id).map (·.status) =
      if (batch ++ [last]).all (allows row.status) then some (statusAfter reached last) else some row.status := by
  have hload : db.loadProposal request.scope row.id = some row :=
    Option.filter_eq_some_iff.mpr ⟨hfind, hcovers⟩
  obtain ⟨reached, hreached⟩ :=
    h.kept.status_prepare host request.scope hfind batch last request.afterSurfaces row.highestSeq
  refine ⟨reached, ?_⟩
  simp only [reconcileTurn, htask, hevents] at hturn
  rw [if_neg (by simp)] at hturn
  cases happlied : Dream.applyDreamEvents host db request.scope row.id (batch ++ [last]) request.afterSurfaces with
  | error e =>
    have hrefused : ¬ ∀ event ∈ batch ++ [last], allows row.status event := by
      rw [← @applyDreamEvents_isOk host db request.scope row.id row hload none nofun _ request.afterSurfaces]
      rintro ⟨after, hok⟩
      rw [hok] at happlied
      cases happlied
    simp only [happlied, Except.ok.injEq, Prod.mk.injEq] at hturn
    rw [← hturn.1, hload, if_neg (fun hall => hrefused (List.all_eq_true.mp hall))]
    rfl
  | ok after =>
    obtain ⟨_, row', hrow', hallowed, hafter⟩ := h.kept.applyDreamEvents happlied
    obtain rfl : row = row' := Option.some.inj (hload.symm.trans hrow')
    simp only [happlied, Except.ok.injEq, Prod.mk.injEq] at hturn
    have hcovers' : request.scope.covers (row.swapped (db.prepare host request.scope row (batch ++ [last])
      request.afterSurfaces) row.highestSeq) = true := hcovers
    rw [← hturn.1, if_pos (List.all_eq_true.mpr hallowed), DreamDatabase.loadProposal, hafter.rows, if_pos rfl,
      Option.filter_some, if_pos hcovers', Option.map_some, hreached]

/-! ### Completion -/

theorem pursuable_of_load {db : DreamDatabase} {scope : DreamScope} {proposalId : String} {row : ProposalRow}
    (hrow : db.loadProposal scope proposalId = some row) (hstatus : row.status = .accepted ∨ row.status = .pursued) :
    row ∈ db.pursuable scope := by
  obtain ⟨_, hmem, _⟩ := loadProposal_eq_some hrow
  exact mem_pursuable.mpr ⟨hmem, (Option.filter_eq_some_iff.mp hrow).2, hstatus⟩

theorem loadTaskState_of_untouched {db mid : DreamDatabase} {ids : List String} (h : Untouched db mid ids)
    {scope : DreamScope} {taskId : String} {task : TaskStateProjection}
    (hload : db.loadTaskState scope taskId = some task) (hbusy : isIdle task.status = false) :
    mid.loadTaskState scope taskId = some task := by
  obtain ⟨store, hstore, rfl⟩ := Option.map_eq_some_iff.mp hload
  rw [DreamDatabase.loadTaskState, h.tasks _ store hstore hbusy, Option.map_some]

/-- A proposal whose task is done is completed if it was pursued and has an objective. -/
theorem Sound.reconcile_done {db : DreamDatabase} (h : Sound db) (planner : Planner) (request : ReconcileRequest)
    {proposalId : String} {row : ProposalRow} (hrow : db.loadProposal request.scope proposalId = some row)
    (hstatus : row.status = .accepted ∨ row.status = .pursued) {taskId : String} (hbound : row.taskId = some taskId)
    {task : TaskStateProjection} (hload : db.loadTaskState request.scope taskId = some task)
    (hdone : task.status = .done) (hhash : task.objectiveHash = row.objectiveHash) :
    ∃ after counts, reconcileDreamPursuit host isoformat planner request db = .ok (after, counts) ∧
      ((after.loadProposal request.scope proposalId).map (·.status) = some .completed ↔
        row.status = .pursued ∧ row.objectiveHash ≠ none) := by
  obtain ⟨_, _, rfl⟩ := loadProposal_eq_some hrow
  have hcovers := (Option.filter_eq_some_iff.mp hrow).2
  obtain ⟨pre, post, hrows⟩ := List.append_of_mem (pursuable_of_load hrow hstatus)
  obtain ⟨mid, counts, next, counts', after, counts'', _, hmid, hbefore, hfind, hturn, hreconcile, hlater⟩ :=
    h.reconcile_split host isoformat planner request hrows
  have hload' := loadTaskState_of_untouched hbefore hload (by rw [hdone]; rfl)
  have hafter : (after.loadProposal request.scope row.id) = next.loadProposal request.scope row.id := by
    rw [DreamDatabase.loadProposal, hlater, ← DreamDatabase.loadProposal]
  refine ⟨after, counts'', hreconcile, ?_⟩
  rw [hafter]
  cases hset : row.objectiveHash with
  | none =>
    -- an objective that is not there is not agreed on, and the proposal is abandoned
    have hevents : pursuitEvents isoformat row taskId (mid.loadTaskState request.scope taskId) request.now =
        [] ++ [abandonEvent isoformat "objective_changed" request.now] := by
      simp [hload', pursuitEvents, objectiveAgrees, hset]
    obtain ⟨reached, hstatus'⟩ := hmid.turn_status host isoformat planner request hfind hcovers hbound hevents hturn
    rw [hstatus']
    rcases hstatus with haccepted | hpursued
    · simp [haccepted, allows, abandonEvent, transitionAllowed, transitions, statusAfter,
        DreamProposalStatus.after]
    · simp [hpursued, allows, abandonEvent, transitionAllowed, transitions, statusAfter,
        DreamProposalStatus.after]
  | some hash =>
    have hagrees : objectiveAgrees row task = true := by simp [objectiveAgrees, hhash, hset]
    rcases hstatus with haccepted | hpursued
    · have hevents : pursuitEvents isoformat row taskId (mid.loadTaskState request.scope taskId) request.now =
          [pursuitStartedEvent isoformat task request.now] ++ [completedEvent isoformat taskId request.now] := by
        simp [hload', pursuitEvents, hagrees, hdone, haccepted]
      obtain ⟨reached, hstatus'⟩ := hmid.turn_status host isoformat planner request hfind hcovers hbound hevents hturn
      rw [hstatus']
      simp [haccepted, allows, completedEvent, pursuitStartedEvent, transitionAllowed, transitions]
    · have hevents : pursuitEvents isoformat row taskId (mid.loadTaskState request.scope taskId) request.now =
          [] ++ [completedEvent isoformat taskId request.now] := by
        simp [hload', pursuitEvents, hagrees, hdone, hpursued]
      obtain ⟨reached, hstatus'⟩ := hmid.turn_status host isoformat planner request hfind hcovers hbound hevents hturn
      rw [hstatus']
      simp [hpursued, allows, completedEvent, transitionAllowed, transitions, statusAfter,
        DreamProposalStatus.after]

/-- After a reconcile that finds its task done, a proposal is completed exactly when it had
been pursued before. -/
theorem reconcile_completed_iff (db : DreamDatabase) (hreach : (dreamStore host isoformat).Reachable db)
    (planner : Planner) (request : ReconcileRequest) (proposalId : String) (row : ProposalRow)
    (hrow : db.loadProposal request.scope proposalId = some row)
    (hstatus : row.status = .accepted ∨ row.status = .pursued) (taskId : String) (hbound : row.taskId = some taskId)
    (task : TaskStateProjection) (hload : db.loadTaskState request.scope taskId = some task)
    (hdone : task.status = .done) (hhash : task.objectiveHash = row.objectiveHash) :
    ∃ after counts, reconcileDreamPursuit host isoformat planner request db = .ok (after, counts) ∧
      ((after.loadProposal request.scope proposalId).map (·.status) = some .completed ↔
        row.status = .pursued ∧ row.objectiveHash ≠ none) :=
  (sound_of_reachable hreach).reconcile_done host isoformat planner request hrow hstatus hbound hload hdone hhash

/-! ### Pursuit -/

/-- The task a proposal was bound to has its objective still, is at work, and has a step
that `_plan_has_started` takes for started. -/
def startsPursuit (row : ProposalRow) (loaded : Option TaskStateProjection) : Bool :=
  loaded.any fun task =>
    objectiveAgrees row task && task.status ≠ .cancelled && task.status ≠ .done && planHasStarted task

theorem Sound.turn_pursued {db : DreamDatabase} (h : Sound db) (planner : Planner) (request : ReconcileRequest)
    {row : ProposalRow} (hfind : db.proposals.find row.id = some row) (hcovers : request.scope.covers row)
    (haccepted : row.status = .accepted) {taskId : String} (htask : row.taskId = some taskId)
    {counts counts' : ReconcileCounts} {next : DreamDatabase}
    (hturn : reconcileTurn host isoformat planner request (db, counts) row = .ok (next, counts')) :
    (next.loadProposal request.scope row.id).map (·.status) = some .pursued ↔
      startsPursuit row (db.loadTaskState request.scope taskId) := by
  have hload : db.loadProposal request.scope row.id = some row :=
    Option.filter_eq_some_iff.mpr ⟨hfind, hcovers⟩
  have habandoned : ∀ reason, pursuitEvents isoformat row taskId (db.loadTaskState request.scope taskId)
      request.now = [] ++ [abandonEvent isoformat reason request.now] →
      (next.loadProposal request.scope row.id).map (·.status) = some .abandoned := by
    intro reason hevents
    obtain ⟨reached, hstatus⟩ := h.turn_status host isoformat planner request hfind hcovers htask hevents hturn
    rw [hstatus]
    simp [haccepted, allows, abandonEvent, transitionAllowed, transitions, statusAfter, DreamProposalStatus.after]
  cases htaskState : db.loadTaskState request.scope taskId with
  | none => simp [habandoned "task_state_missing" (by simp [htaskState, pursuitEvents]), startsPursuit]
  | some task =>
    cases hagrees : objectiveAgrees row task with
    | false =>
      simp [habandoned "objective_changed" (by simp [htaskState, pursuitEvents, hagrees]), startsPursuit, hagrees]
    | true =>
      by_cases hcancelled : task.status = .cancelled
      · simp [habandoned "task_cancelled" (by simp [htaskState, pursuitEvents, hagrees, hcancelled]),
          startsPursuit, hcancelled]
      by_cases hdone : task.status = .done
      · have hevents : pursuitEvents isoformat row taskId (db.loadTaskState request.scope taskId) request.now =
            [pursuitStartedEvent isoformat task request.now] ++ [completedEvent isoformat taskId request.now] := by
          simp [htaskState, pursuitEvents, hagrees, hdone, haccepted]
        obtain ⟨reached, hstatus⟩ := h.turn_status host isoformat planner request hfind hcovers htask hevents hturn
        rw [hstatus]
        simp [haccepted, allows, completedEvent, pursuitStartedEvent, transitionAllowed, transitions, startsPursuit,
          hdone]
      cases hstarted : planHasStarted task with
      | true =>
        have hevents : pursuitEvents isoformat row taskId (db.loadTaskState request.scope taskId) request.now =
            [] ++ [pursuitStartedEvent isoformat task request.now] := by
          simp [htaskState, pursuitEvents, hagrees, hcancelled, hdone, haccepted, hstarted]
        obtain ⟨reached, hstatus⟩ := h.turn_status host isoformat planner request hfind hcovers htask hevents hturn
        rw [hstatus]
        simp [haccepted, allows, pursuitStartedEvent, transitionAllowed, transitions, statusAfter,
          DreamProposalStatus.after, startsPursuit, hagrees, hcancelled, hdone, hstarted]
      | false =>
        have hevents : pursuitEvents isoformat row taskId (db.loadTaskState request.scope taskId)
            request.now = [] := by
          simp [htaskState, pursuitEvents, hagrees, hcancelled, hdone, hstarted]
        simp only [reconcileTurn, htask, hevents, List.isEmpty_nil, if_true, Except.ok.injEq,
          Prod.mk.injEq] at hturn
        rw [← hturn.1, hload]
        simp [haccepted, startsPursuit, hstarted]

theorem Sound.reconcile_pursued {db : DreamDatabase} (h : Sound db) (planner : Planner)
    (request : ReconcileRequest) {pre post : List ProposalRow} {row : ProposalRow}
    (hrows : db.pursuable request.scope = pre ++ row :: post) (haccepted : row.status = .accepted)
    {taskId : String} (hbound : row.taskId = some taskId) :
    ∃ mid counts after counts',
      pre.foldlM (reconcileTurn host isoformat planner request) (db, {}) = .ok (mid, counts) ∧
      reconcileDreamPursuit host isoformat planner request db = .ok (after, counts') ∧
      ((after.loadProposal request.scope row.id).map (·.status) = some .pursued ↔
        startsPursuit row (mid.loadTaskState request.scope taskId)) ∧
      ∀ task, db.loadTaskState request.scope taskId = some task → isIdle task.status = false →
        mid.loadTaskState request.scope taskId = some task := by
  have hcovers := (mem_pursuable.mp (hrows ▸ by simp : row ∈ db.pursuable request.scope)).2.1
  obtain ⟨mid, counts, next, counts', after, counts'', hpre, hmid, hbefore, hfind, hturn, hreconcile, hlater⟩ :=
    h.reconcile_split host isoformat planner request hrows
  refine ⟨mid, counts, after, counts'', hpre, hreconcile, ?_, fun task => loadTaskState_of_untouched hbefore⟩
  rw [DreamDatabase.loadProposal, hlater, ← DreamDatabase.loadProposal]
  exact hmid.turn_pursued host isoformat planner request hfind hcovers haccepted hbound hturn

/-- An accepted proposal is pursued exactly when its turn finds its task at work with a
step in progress or completed, by those names. A task that is not idle is found as it was
before the reconcile. -/
theorem reconcile_pursued_iff (db : DreamDatabase) (hreach : (dreamStore host isoformat).Reachable db)
    (planner : Planner) (request : ReconcileRequest) (pre post : List ProposalRow) (row : ProposalRow)
    (hrows : db.pursuable request.scope = pre ++ row :: post) (haccepted : row.status = .accepted)
    (taskId : String) (hbound : row.taskId = some taskId) :
    ∃ mid counts after counts',
      pre.foldlM (reconcileTurn host isoformat planner request) (db, {}) = .ok (mid, counts) ∧
      reconcileDreamPursuit host isoformat planner request db = .ok (after, counts') ∧
      ((after.loadProposal request.scope row.id).map (·.status) = some .pursued ↔
        startsPursuit row (mid.loadTaskState request.scope taskId)) ∧
      ∀ task, db.loadTaskState request.scope taskId = some task → isIdle task.status = false →
        mid.loadTaskState request.scope taskId = some task :=
  (sound_of_reachable hreach).reconcile_pursued host isoformat planner request hrows haccepted hbound

/-! ### The statuses of steps -/

/-- The statuses step events give. -/
theorem stepAfter_status {kind : TaskState.TaskStateEventKind} {event : TaskStateEvent}
    {step after : TaskState.PlanStepState} (h : TaskState.stepAfter host kind event step = some after) :
    after.status ∈ ["executing", "done", "blocked", "dropped"] := by
  unfold TaskState.stepAfter at h
  split at h
  case h_4 =>
    split_ifs at h
    cases h
    simp
  all_goals
    cases h
    simp [TaskState.blockingStepStatus]

theorem stepEvent_lookup {st : TaskState.FoldState} {kind : TaskState.TaskStateEventKind} {event : TaskStateEvent}
    {index : Int} {step : TaskState.PlanStepState} (h : (st.stepEvent host kind event).steps.lookup index = some step)
    (hstarted : step.status ∈ startedStepStatuses) : st.steps.lookup index = some step := by
  simp only [TaskState.FoldState.stepEvent] at h
  cases hheld : st.steps.lookup (TaskState.integer host (event.payload.get "step_index") (-1)) with
  | none =>
    rw [hheld] at h
    exact h
  | some held =>
    simp only [hheld] at h
    cases hafter : TaskState.stepAfter host kind event held with
    | none =>
      rw [hafter] at h
      exact h
    | some after =>
      simp only [hafter] at h
      by_cases hindex : index = TaskState.integer host (event.payload.get "step_index") (-1)
      · rw [hindex, AList.lookup_insert, Option.some.injEq] at h
        subst h
        have hnever : ∀ status ∈ ["executing", "done", "blocked", "dropped"], status ∉ startedStepStatuses := by
          decide
        exact absurd hstarted (hnever _ (stepAfter_status host hafter))
      · rwa [AList.lookup_insert_ne hindex] at h

theorem workStep_lookup (taskId : String) (current : Int)
    {work : Option TaskState.ApprovedPlan × Dict Int TaskState.PlanStepState} {event : TaskStateEvent} {index : Int}
    {step : TaskState.PlanStepState}
    (h : (TaskState.workStep host taskId current work event).2.lookup index = some step)
    (hstarted : step.status ∈ startedStepStatuses) :
    work.2.lookup index = some step ∨ event.kind = .known .planApproved ∧
      step ∈ TaskState.planStepsFromJson host (event.payload.get "steps") := by
  unfold TaskState.workStep at h
  split at h
  case h_1 =>
    simp only [TaskState.FoldState.planRequested] at h
    split_ifs at h
    · exact Or.inl h
    · cases h
  case h_2 hkind => exact Or.inr ⟨hkind, Dict.mem_of_lookup_ofList h⟩
  case h_4 | h_5 | h_6 | h_7 => exact Or.inl (stepEvent_lookup host h hstarted)
  all_goals exact Or.inl h

/-- A step is in progress or completed, by those names, only as its plan was approved: no
step event gives it either status. -/
theorem startedStep_approved (taskId : String) (log : List TaskStateEvent) {index : Int}
    {step : TaskState.PlanStepState} (h : (TaskState.foldEvents host taskId log).steps.lookup index = some step)
    (hstarted : step.status ∈ startedStepStatuses) :
    ∃ event ∈ log, event.kind = .known .planApproved ∧
      step ∈ TaskState.planStepsFromJson host (event.payload.get "steps") := by
  induction log using List.reverseRecOn with
  | nil => cases h
  | append_singleton log event ih =>
    have hwork := TaskState.foldStep_work host taskId (TaskState.foldEvents host taskId log) event
    rw [TaskState.foldEvents_snoc, show (TaskState.foldStep host taskId
      (TaskState.foldEvents host taskId log) event).steps = (TaskState.foldStep host taskId
      (TaskState.foldEvents host taskId log) event).work.2 from rfl, hwork] at h
    have hstep : (TaskState.foldEvents host taskId log).steps.lookup index = some step ∨
        event.kind = .known .planApproved ∧
          step ∈ TaskState.planStepsFromJson host (event.payload.get "steps") := by
      split_ifs at h
      · exact Or.inl h
      · exact workStep_lookup host taskId _ h hstarted
    rcases hstep with hold | ⟨hkind, hmem⟩
    · obtain ⟨earlier, hearlier, hfrom⟩ := ih hold
      exact ⟨earlier, List.mem_append_left _ hearlier, hfrom⟩
    · exact ⟨event, by simp, hkind, hmem⟩

/-- So a proposal is pursued, by the fold of any log, only through a plan that was approved
with work already in it. -/
theorem planHasStarted_approved (ids : TaskIds) (revision : Int) (log : List TaskStateEvent)
    (h : planHasStarted ((TaskState.foldEvents host ids.taskId log).projection host ids revision)) :
    ∃ event ∈ log, event.kind = .known .planApproved ∧
      ∃ step ∈ TaskState.planStepsFromJson host (event.payload.get "steps"), step.status ∈ startedStepStatuses := by
  obtain ⟨plan, hplan, hsteps⟩ := (Option.any_eq_true _ _).mp h
  obtain ⟨held, _, rfl⟩ := Option.map_eq_some_iff.mp hplan
  obtain ⟨step, hstep, hstarted⟩ := List.any_eq_true.mp hsteps
  rw [decide_eq_true_eq] at hstarted
  obtain ⟨index, hlookup⟩ := (Dict.mem_sortedValues _ step).mp hstep
  obtain ⟨event, hevent, hkind, hmem⟩ := startedStep_approved host ids.taskId log hlookup hstarted
  exact ⟨event, hevent, hkind, step, hmem, hstarted⟩

/-! ### Runs -/

def examplePlanner : Planner := ⟨Char.isAlphanum, fun _ => "job", fun _ => "root"⟩

def exampleRequest : ReconcileRequest where
  scope := exampleScope
  sessionId := "s"
  now := firstDay
  maxPlanSteps := 1

/-- A step event of the bound task. -/
def exampleStep (kind : TaskState.TaskStateEventKind) : TaskStateEvent where
  seq := 0
  kind := .known kind
  contractRevision := 1
  payload := [("step_index", .int 1)]
  occurredAt := nextDay

def exampleVerification : TaskStateEvent where
  seq := 0
  kind := .known .verificationRecorded
  contractRevision := 1
  payload := [("contract_revision", .int 1), ("plan_id", .str "s|1"), ("state", .str "passed"),
    ("verification_id", .str "v1")]
  occurredAt := nextDay

/-- A proposal is minted, accepted and bound. -/
def boundRun : List DreamAction :=
  [.mint exampleScope exampleMint, .append exampleScope "p" [systemEvent .accepted] 3 none,
    .reconcile examplePlanner exampleRequest]

/-- The turns of its task's session. -/
def workedOff (events : List TaskStateEvent) : DreamAction :=
  .writeTask ⟨"w", "o", "s"⟩ {sessionId := "s", newEvents := events}

/-- What a run leaves of the proposal and its task. -/
def runLeaves (actions : List DreamAction) (check : ProposalRow → TaskStateProjection → Bool) : Bool :=
  ((dreamStore dayHost dayText).run emptyStore actions).any fun db =>
    (db.loadProposal exampleScope "p").any fun row => (db.loadTaskState exampleScope "s").any fun task =>
      row.taskId = some "s" && check row task

theorem exists_of_runLeaves {actions : List DreamAction} {check : ProposalRow → TaskStateProjection → Bool}
    (h : runLeaves actions check) : ∃ db row task, (dreamStore dayHost dayText).Reachable db ∧
      db.loadProposal exampleScope "p" = some row ∧ row.taskId = some "s" ∧
      db.loadTaskState exampleScope "s" = some task ∧ check row task := by
  obtain ⟨db, hrun, hdb⟩ := (Option.any_eq_true _ _).mp h
  obtain ⟨row, hrow, hloaded⟩ := (Option.any_eq_true _ _).mp hdb
  obtain ⟨task, htask, hcheck⟩ := (Option.any_eq_true _ _).mp hloaded
  rw [Bool.and_eq_true, decide_eq_true_eq] at hcheck
  exact ⟨db, row, task, (System.Reachable.init rfl).run hrun, hrow, hcheck.1, htask, hcheck.2⟩

/-- A pursued proposal whose task has been worked off. -/
theorem reconcile_completed_pursued : ∃ db row, db.loadProposal exampleScope "p" = some row ∧
    row.status = .pursued ∧ ∃ after counts,
      reconcileDreamPursuit dayHost dayText examplePlanner exampleRequest db = .ok (after, counts) ∧
      ((after.loadProposal exampleScope "p").map (·.status) = some .completed ↔
        row.status = .pursued ∧ row.objectiveHash ≠ none) := by
  obtain ⟨db, row, task, hreach, hrow, hbound, hload, hcheck⟩ := @exists_of_runLeaves
    (boundRun ++ [.append exampleScope "p" [systemEvent .pursuitStarted] 3 none,
      workedOff [exampleStep .stepStarted, exampleStep .stepCompleted, exampleVerification]])
    (fun row task => row.status = .pursued && task.status = .done && task.objectiveHash = row.objectiveHash)
    (by decide +kernel)
  simp only [Bool.and_eq_true, decide_eq_true_eq] at hcheck
  obtain ⟨⟨hpursued, hdone⟩, hhash⟩ := hcheck
  exact ⟨db, row, hrow, hpursued, reconcile_completed_iff dayHost dayText db hreach examplePlanner exampleRequest "p"
    row hrow (Or.inr hpursued) "s" hbound task hload hdone hhash⟩

/-- The same of an accepted one: its task is done, and it is not completed. -/
theorem reconcile_uncompleted : ¬ ∀ host isoformat db, (dreamStore host isoformat).Reachable db →
    ∀ planner request proposalId row, db.loadProposal request.scope proposalId = some row →
      (row.status = .accepted ∨ row.status = .pursued) →
      ∀ taskId, row.taskId = some taskId → ∀ task, db.loadTaskState request.scope taskId = some task →
        task.status = .done → task.objectiveHash = row.objectiveHash → row.objectiveHash ≠ none →
        ∀ after counts, reconcileDreamPursuit host isoformat planner request db = .ok (after, counts) →
          (after.loadProposal request.scope proposalId).map (·.status) = some .completed := by
  intro h
  obtain ⟨db, row, task, hreach, hrow, hbound, hload, hcheck⟩ := @exists_of_runLeaves
    (boundRun ++ [workedOff [exampleStep .stepStarted, exampleStep .stepCompleted, exampleVerification]])
    (fun row task => row.status = .accepted && task.status = .done && objectiveAgrees row task)
    (by decide +kernel)
  simp only [Bool.and_eq_true, decide_eq_true_eq, objectiveAgrees, ne_eq, decide_not, Bool.not_eq_true',
    decide_eq_false_iff_not] at hcheck
  obtain ⟨⟨haccepted, hdone⟩, ⟨hset, _⟩, hhash⟩ := hcheck
  obtain ⟨after, counts, hreconcile, hiff⟩ := (sound_of_reachable hreach).reconcile_done dayHost dayText examplePlanner
    exampleRequest hrow (Or.inl haccepted) hbound hload hdone hhash
  have hpursued := (hiff.mp (h dayHost dayText db hreach examplePlanner exampleRequest "p" row hrow (Or.inl haccepted)
    "s" hbound task hload hdone hhash hset after counts hreconcile)).1
  rw [haccepted] at hpursued
  cases hpursued

/-- A bound proposal's turn, in a store of its own. -/
theorem reconcile_pursued_bound : ∃ db pre row post, db.pursuable exampleScope = pre ++ row :: post ∧
    row.status = .accepted ∧ ∃ mid counts after counts',
      pre.foldlM (reconcileTurn dayHost dayText examplePlanner exampleRequest) (db, {}) = .ok (mid, counts) ∧
      reconcileDreamPursuit dayHost dayText examplePlanner exampleRequest db = .ok (after, counts') ∧
      ((after.loadProposal exampleScope row.id).map (·.status) = some .pursued ↔
        startsPursuit row (mid.loadTaskState exampleScope "s")) ∧
      ∀ task, db.loadTaskState exampleScope "s" = some task → isIdle task.status = false →
        mid.loadTaskState exampleScope "s" = some task := by
  obtain ⟨db, row, task, hreach, hrow, hbound, hload, hcheck⟩ :=
    @exists_of_runLeaves boundRun (fun row _ => row.status = .accepted) (by decide +kernel)
  have haccepted : row.status = .accepted := by simpa using hcheck
  obtain ⟨pre, post, hrows⟩ := List.append_of_mem (pursuable_of_load hrow (Or.inl haccepted))
  exact ⟨db, pre, row, post, hrows, haccepted, reconcile_pursued_iff dayHost dayText db hreach examplePlanner
    exampleRequest pre post row hrows haccepted "s" hbound⟩

/-- A step of the bound task is at work, and the proposal stays accepted. -/
theorem reconcile_unpursued : ¬ ∀ host isoformat db, (dreamStore host isoformat).Reachable db →
    ∀ planner request proposalId row, db.loadProposal request.scope proposalId = some row →
      row.status = .accepted → ∀ taskId, row.taskId = some taskId →
        ∀ task, db.loadTaskState request.scope taskId = some task → objectiveAgrees row task →
          task.status = .active →
          (task.plan.any fun plan => plan.steps.any fun step => step.status ∈ ["executing", "done"]) →
          ∀ after counts, reconcileDreamPursuit host isoformat planner request db = .ok (after, counts) →
            (after.loadProposal request.scope proposalId).map (·.status) = some .pursued := by
  intro h
  obtain ⟨db, row, task, hreach, hrow, hbound, hload, hcheck⟩ := @exists_of_runLeaves
    (boundRun ++ [workedOff [exampleStep .stepStarted]])
    (fun row task => row.status = .accepted && objectiveAgrees row task && task.status = .active &&
      (task.plan.any fun plan => plan.steps.any fun step => step.status ∈ ["executing", "done"]) &&
      !planHasStarted task) (by decide +kernel)
  simp only [Bool.and_eq_true, decide_eq_true_eq, Bool.not_eq_true'] at hcheck
  obtain ⟨⟨⟨⟨haccepted, hagrees⟩, hactive⟩, hexecuting⟩, hunstarted⟩ := hcheck
  obtain ⟨_, _, hid⟩ := loadProposal_eq_some hrow
  obtain ⟨pre, post, hrows⟩ := List.append_of_mem (pursuable_of_load hrow (Or.inl haccepted))
  obtain ⟨mid, counts, after, counts', _, hreconcile, hiff, hsame⟩ := (sound_of_reachable hreach).reconcile_pursued
    dayHost dayText examplePlanner exampleRequest hrows haccepted hbound
  rw [hid, hsame task hload (by rw [hactive]; rfl)] at hiff
  have hpursued := hiff.mp (h dayHost dayText db hreach examplePlanner exampleRequest "p" row hrow haccepted "s" hbound
    task hload hagrees hactive hexecuting after counts' hreconcile)
  simp [startsPursuit, hunstarted] at hpursued

end OpenTimeline.Dream
