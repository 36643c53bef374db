import OpenTimeline.Planning.Worker

/-! A stale plan is never approved.

What carries the result (`approval_sound`) is that a worker's snapshot is never ahead of the
row and is the row as long as the revision is the same (`Snapshot`), and that a worker past the
lock has found the row it holds not stale (`WorkerPhase.Sound`). The fence does the rest. -/
namespace OpenTimeline.Planning
open Library
open TaskState (TaskStore TaskStateProjection PlanStepState WriteRequest ensureTaskState applyTaskStateEvents
  applyTaskStateEvents_ok commitWrite_ok casUpdate_some)
open Dream (TaskKey)

variable (host : Host) {ι : Type}

/-! ### What is to hold -/

section Statement
variable [DecidableEq ι]

/-- An approval of a job: the task's revisions are the job's, the job is leased to the worker and
not cancelled, and the event, the plan's rows and the success are written together. -/
structure Approves (s after : PlanState ι) (i : ι) (job : JobRow) (store : TaskStore) : Prop where
  row : s.tasks job.taskKey = some store
  stored : job ∈ s.jobs.rows
  contract : store.row.projection.contractRevision = job.contractRevision
  input : currentInputRevision host store.row.projection (job.scope host) = job.inputRevision
  leased : job.state = .leased ∧ job.leaseOwner = some (s.workers i).leaseOwner
  uncancelled : job.cancelRequested = false
  written : ∃ task plan text now written, task.contractRevision = job.contractRevision ∧
    applyTaskStateEvents host store (approvalRequest host job.toJobInput task plan text now) = .ok written ∧
    after.tasks = Function.update s.tasks job.taskKey (some written) ∧
    after.goals = s.goals ++ writePlanRows host text job.toJobInput (job.scope host) job.contractRevision plan.steps ∧
    after.jobs = ((approvalCompletion (s.workers i).leaseOwner job.id).apply s.jobs).1

end Statement

/-- Neither an event nor a plan row nor a success is written. -/
structure Quiet (s after : PlanState ι) : Prop where
  tasks : after.tasks = s.tasks
  goals : after.goals = s.goals
  successes : ∀ row ∈ after.jobs.rows, row.state = .succeeded → row ∈ s.jobs.rows

/-! ### Jobs -/

/-- The job of a row that was claimed is still there, with what it was enqueued with. -/
def Held (jobs : JobTable) (row : JobRow) : Prop := ∃ job ∈ jobs.rows, job.id = row.id ∧ job.toJobInput = row.toJobInput

/-- Jobs stay, and nothing changes what they were enqueued with. -/
def KeepsInputs (before after : JobTable) : Prop := ∀ row, Held before row → Held after row

variable {jobs after : JobTable}

theorem keepsInputs_updateWhere {p : JobRow → Bool} {f : JobRow → JobRow} {hf : ∀ row, (f row).id = row.id}
    (hinput : ∀ row, (f row).toJobInput = row.toJobInput) : KeepsInputs jobs (jobs.updateWhere p f hf) := by
  rintro row ⟨job, hjob, hid, hsame⟩
  refine ⟨_, List.mem_map_of_mem hjob, ?_⟩
  split_ifs
  · exact ⟨(hf job).trans hid, (hinput job).trans hsame⟩
  · exact ⟨hid, hsame⟩

theorem keepsInputs_claim {claim : Claim} : KeepsInputs jobs (claim.apply jobs).1 := by
  dsimp only [Claim.apply, Claim.leaseIds]
  exact keepsInputs_updateWhere fun _ => rfl

theorem keepsInputs_complete {completion : Completion} : KeepsInputs jobs (completion.apply jobs).1 := by
  dsimp only [Completion.apply]
  exact keepsInputs_updateWhere fun _ => rfl

theorem keepsInputs_sweep {now : Instant} : KeepsInputs jobs (sweepStalePlanningJobs now jobs) := by
  have hreleased : KeepsInputs jobs (releaseLapsed now jobs) := by
    rw [releaseLapsed]
    exact keepsInputs_updateWhere fun _ => rfl
  have hexhausted : KeepsInputs (releaseLapsed now jobs) (sweepStalePlanningJobs now jobs) := by
    rw [sweepStalePlanningJobs]
    exact keepsInputs_updateWhere fun _ => rfl
  exact fun row hrow => hexhausted row (hreleased row hrow)

theorem keepsInputs_cancelJobs {ids : List String} : KeepsInputs jobs (cancelJobs ids jobs) := by
  rw [cancelJobs]
  exact keepsInputs_updateWhere fun _ => rfl

theorem keepsInputs_cancelJobsOf {workspaceId taskId : String} :
    KeepsInputs jobs (cancelJobsOf workspaceId taskId jobs) := by
  rw [cancelJobsOf]
  exact keepsInputs_updateWhere fun _ => rfl

theorem keepsInputs_enqueue {request : Enqueue} (h : request.apply host jobs = some after) : KeepsInputs jobs after := by
  unfold Enqueue.apply Enqueue.applyAs at h
  split at h
  · cases h
    rw [Enqueue.revive]
    exact keepsInputs_updateWhere fun _ => rfl
  · rintro row ⟨job, hjob, hsame⟩
    rw [Held, Table.insert_eq_some h]
    exact ⟨job, List.mem_append_left _ hjob, hsame⟩

/-- The rows a claim returns are the table's. -/
theorem held_claimed {claim : Claim} {row : JobRow} (h : row ∈ (claim.apply jobs).2) : Held (claim.apply jobs).1 row :=
  ⟨row, (List.mem_filter.mp h).1, rfl, rfl⟩

/-! ### Tasks -/

/-- A snapshot of a task's row: no newer than the row, and of the same revision it is the row. -/
def Snapshot (tasks : TaskKey → Option TaskStore) (key : TaskKey) (task : TaskStateProjection) : Prop :=
  ∃ store, tasks key = some store ∧ task.revision ≤ store.row.revision ∧
    (task.revision = store.row.revision → task = store.row.projection)

theorem revision_applyTaskStateEvents {store written : TaskStore} {request : WriteRequest}
    (h : applyTaskStateEvents host store request = .ok written) : written.row.revision = store.row.revision + 1 := by
  obtain ⟨_, hcas, _⟩ := commitWrite_ok (applyTaskStateEvents_ok host h)
  exact congrArg TaskStateProjection.revision (casUpdate_some hcas).2.1

variable {host} {tasks : TaskKey → Option TaskStore}

/-- A write leaves every snapshot behind. -/
theorem Snapshot.write {key : TaskKey} {task : TaskStateProjection} (h : Snapshot tasks key task) {other : TaskKey}
    {store written : TaskStore} (hstore : tasks other = some store)
    (hrevision : written.row.revision = store.row.revision + 1) :
    Snapshot (Function.update tasks other (some written)) key task := by
  obtain ⟨old, hold, hle, hsame⟩ := h
  by_cases hkey : key = other
  · subst hkey
    rw [hstore, Option.some.injEq] at hold
    subst hold
    exact ⟨written, Function.update_self .., by omega, fun heq => by omega⟩
  · exact ⟨old, (Function.update_of_ne hkey ..).trans hold, hle, hsame⟩

theorem Snapshot.create {key : TaskKey} {task : TaskStateProjection} (h : Snapshot tasks key task) {other : TaskKey}
    {store : TaskStore} (hnone : tasks other = none) : Snapshot (Function.update tasks other (some store)) key task := by
  obtain ⟨old, hold, hsnapshot⟩ := h
  have hkey : key ≠ other := by
    rintro rfl
    rw [hnone] at hold
    cases hold
  exact ⟨old, (Function.update_of_ne hkey ..).trans hold, hsnapshot⟩

/-! ### The invariant -/

variable (host) in
/-- What a worker knows of its job and its task. -/
def WorkerPhase.Sound (s : PlanState ι) (i : ι) : WorkerPhase → Prop
  | .idle => True
  | .loaded job task | .planned job task _ =>
    Held s.jobs job ∧ job.staleFor host task false = none ∧ Snapshot s.tasks job.taskKey task
  | .conflicted job task _ => Held s.jobs job ∧ job.staleFor host task false = none
  | .locked job task _ => Held s.jobs job ∧ job.staleFor host task false = none ∧ s.holder job.taskKey = some i ∧
    ∃ store, s.tasks job.taskKey = some store ∧ job.staleFor host store.row.projection false = none
  | .ending completion => completion.state ≠ .succeeded

variable (host) in
structure Sound (s : PlanState ι) : Prop where
  todo : ∀ i, ∀ row ∈ (s.workers i).todo, Held s.jobs row
  phase : ∀ i, (s.workers i).phase.Sound host s i

/-- What a step does to the others: jobs stay, snapshots stay behind, and what a worker has
locked stays as it is. -/
structure Leaves (s after : PlanState ι) (i : ι) : Prop where
  jobs : KeepsInputs s.jobs after.jobs
  tasks : ∀ key task, Snapshot s.tasks key task → Snapshot after.tasks key task
  locked : ∀ key store, s.holder key = some i → s.tasks key = some store →
    after.holder key = some i ∧ after.tasks key = some store

theorem WorkerPhase.Sound.leaves {s after : PlanState ι} {i : ι} {phase : WorkerPhase} (h : phase.Sound host s i)
    (hleaves : Leaves s after i) : phase.Sound host after i := by
  cases phase with
  | idle => trivial
  | loaded job task => exact ⟨hleaves.jobs _ h.1, h.2.1, hleaves.tasks _ _ h.2.2⟩
  | planned job task plan => exact ⟨hleaves.jobs _ h.1, h.2.1, hleaves.tasks _ _ h.2.2⟩
  | conflicted job task plan => exact ⟨hleaves.jobs _ h.1, h.2⟩
  | locked job task plan =>
    obtain ⟨hheld, hfresh, hholder, store, hstore, hcurrent⟩ := h
    obtain ⟨hstill, hsame⟩ := hleaves.locked _ store hholder hstore
    exact ⟨hleaves.jobs _ hheld, hfresh, hstill, store, hsame, hcurrent⟩
  | ending completion => exact h

/-! ### What a step leaves -/

variable {s after : PlanState ι} {i : ι}

theorem leaves_of_jobs {jobs : JobTable} {j : ι} (h : KeepsInputs s.jobs jobs) (hjobs : after.jobs = jobs)
    (htasks : after.tasks = s.tasks) (hholder : after.holder = s.holder) : Leaves s after j where
  jobs := hjobs ▸ h
  tasks _ _ hsnapshot := htasks ▸ hsnapshot
  locked _ _ hlocked hstore := ⟨hholder ▸ hlocked, htasks ▸ hstore⟩

theorem staleFor_false {job : JobInput} {task : TaskStateProjection} {cancelRequested : Bool}
    (h : job.staleFor host task cancelRequested = none) : job.staleFor host task false = none := by
  rw [JobInput.staleFor_eq_none] at h ⊢
  exact ⟨rfl, h.2⟩

theorem writeOff_state {leaseOwner jobId reason : String} : (writeOff leaseOwner jobId reason).state ≠ .succeeded := by
  unfold writeOff
  split_ifs <;> exact fun hstate => by cases hstate

theorem sound_loadPhase {leaseOwner : String} {job : JobRow} (hheld : Held s.jobs job) :
    (s.loadPhase host leaseOwner job).Sound host s i := by
  unfold PlanState.loadPhase
  split_ifs
  · trivial
  · split
    · exact writeOff_state
    · rename_i store hstore
      split
      · exact writeOff_state
      · rename_i hfresh
        exact ⟨hheld, staleFor_false hfresh, store, hstore, le_rfl, fun _ => rfl⟩

/-- A worker that ends its transaction releases what it has locked, and no one else's. -/
theorem Sound.unlock_holder (h : Sound host s) {j : ι} (hj : j ≠ i) {key : TaskKey} (hkey : s.holder key = some j) :
    (s.unlock i).holder key = some j := by
  have hphase := h.phase i
  unfold PlanState.unlock
  cases heq : (s.workers i).phase with
  | locked job task plan =>
    rw [heq] at hphase
    refine (Function.update_of_ne ?_ ..).trans hkey
    rintro rfl
    rw [hphase.2.2.1, Option.some.injEq] at hkey
    exact hj hkey.symm
  | _ => exact hkey

theorem quiet_of_eq (htasks : after.tasks = s.tasks) (hgoals : after.goals = s.goals) (hjobs : after.jobs = s.jobs) :
    Quiet s after := ⟨htasks, hgoals, fun _ hrow _ => hjobs ▸ hrow⟩

/-! ### The owner's steps -/

/-- A step of the owner's keeps the invariant if it leaves every worker be. -/
theorem Sound.leaves (h : Sound host s) (hworkers : after.workers = s.workers)
    (hjobs : KeepsInputs s.jobs after.jobs) (hleaves : ∀ j, Leaves s after j) : Sound host after := by
  refine ⟨fun j row hrow => ?_, fun j => ?_⟩
  · rw [hworkers] at hrow
    exact hjobs row (h.todo j row hrow)
  · rw [hworkers]
    exact (h.phase j).leaves (hleaves j)

theorem Sound.writeTask (h : Sound host s) {key : TaskKey} {request : WriteRequest}
    (hnext : s.writeTask host key request = some after) {jobs : JobTable} (hjobs : KeepsInputs s.jobs jobs)
    {goals : List GoalRow} : Sound host {after with jobs := jobs, goals := goals} := by
  unfold PlanState.writeTask at hnext
  split at hnext
  · cases hnext
  · rename_i store hstore
    split_ifs at hnext with hfree
    split at hnext
    · cases hnext
    · rename_i written hwritten
      cases hnext
      refine h.leaves rfl hjobs fun j =>
        ⟨hjobs, fun _ _ hsnapshot => ?_, fun other otherStore hother hsome => ⟨hother, ?_⟩⟩
      · exact hsnapshot.write hstore (revision_applyTaskStateEvents host hwritten)
      · refine (Function.update_of_ne ?_ ..).trans hsome
        rintro rfl
        rw [hfree] at hother
        cases hother

theorem Sound.owner (h : Sound host s) {action : OwnerAction} (hnext : s.ownerNext host action = some after) :
    Sound host after := by
  cases action with
  | create ids =>
    simp only [PlanState.ownerNext] at hnext
    split_ifs at hnext with hnone
    cases hnext
    refine h.leaves rfl (fun _ h => h) fun j =>
      ⟨fun _ h => h, fun _ _ hsnapshot => hsnapshot.create hnone, fun key store hkey hsome => ⟨hkey, ?_⟩⟩
    refine (Function.update_of_ne ?_ ..).trans hsome
    rintro rfl
    rw [hnone] at hsome
    cases hsome
  | write key request cancelled goals =>
    obtain ⟨written, hwritten, rfl⟩ := Option.map_eq_some_iff.mp hnext
    exact h.writeTask hwritten keepsInputs_cancelJobs
  | cancel key request =>
    obtain ⟨written, hwritten, rfl⟩ := Option.map_eq_some_iff.mp hnext
    exact h.writeTask hwritten keepsInputs_cancelJobsOf
  | enqueue request =>
    obtain ⟨jobs, hjobs, rfl⟩ := Option.map_eq_some_iff.mp hnext
    have hkeeps := keepsInputs_enqueue host hjobs
    exact h.leaves rfl hkeeps fun j => leaves_of_jobs hkeeps rfl rfl rfl
  | sweep now =>
    cases hnext
    exact h.leaves rfl keepsInputs_sweep fun j => leaves_of_jobs keepsInputs_sweep rfl rfl rfl

/-! ### A worker's step -/

variable [DecidableEq ι]

/-- A step of one worker keeps the invariant if it leaves the others be. -/
theorem Sound.step (h : Sound host s) {w : Worker} (hworkers : after.workers = Function.update s.workers i w)
    (hjobs : KeepsInputs s.jobs after.jobs) (hleaves : ∀ j, j ≠ i → Leaves s after j)
    (htodo : ∀ row ∈ w.todo, Held after.jobs row) (hphase : w.phase.Sound host after i) : Sound host after := by
  constructor
  · intro j row hrow
    rw [hworkers] at hrow
    by_cases hj : j = i
    · subst hj
      rw [Function.update_self] at hrow
      exact htodo row hrow
    · rw [Function.update_of_ne hj] at hrow
      exact hjobs row (h.todo j row hrow)
  · intro j
    rw [hworkers]
    by_cases hj : j = i
    · subst hj
      rw [Function.update_self]
      exact hphase
    · rw [Function.update_of_ne hj]
      exact (h.phase j).leaves (hleaves j hj)

/-- A step to another phase, with nothing else changed. -/
theorem Sound.setPhase (h : Sound host s) {phase : WorkerPhase} (hphase : phase.Sound host s i) :
    Sound host (s.setPhase i phase) := by
  have hleaves (j : ι) : Leaves s (s.setPhase i phase) j := leaves_of_jobs (fun _ h => h) rfl rfl rfl
  exact h.step rfl (fun _ h => h) (fun j _ => hleaves j) (h.todo i) (hphase.leaves (hleaves i))

/-- A worker that gives its job up. -/
theorem Sound.ends (h : Sound host s) {w : Worker} (htodo : ∀ row ∈ w.todo, row ∈ (s.workers i).todo)
    (hidle : w.phase = .idle) : Sound host {s.unlock i with workers := Function.update s.workers i w} := by
  refine h.step rfl (fun _ h => h) (fun j hj => ⟨fun _ h => h, fun _ _ h => h, fun key _ hkey hsome => ⟨?_, hsome⟩⟩)
    (fun row hrow => h.todo i row (htodo row hrow)) (hidle ▸ trivial)
  exact h.unlock_holder hj hkey

/-- A worker that takes a lock nobody holds. -/
theorem Sound.setLocked (h : Sound host s) {job : JobRow} {task : TaskStateProjection} {plan : ModelPlan}
    {store : TaskStore} (hfree : s.holder job.taskKey = none) (hheld : Held s.jobs job)
    (hfresh : job.staleFor host task false = none) (hstore : s.tasks job.taskKey = some store)
    (hcurrent : job.staleFor host store.row.projection false = none) :
    Sound host (s.setLocked i job task plan) := by
  refine h.step rfl (fun _ h => h) (fun j hj => ⟨fun _ h => h, fun _ _ h => h, fun key _ hkey hsome => ⟨?_, hsome⟩⟩)
    (h.todo i) ?_
  · refine (Function.update_of_ne ?_ ..).trans hkey
    rintro rfl
    rw [hfree] at hkey
    cases hkey
  · exact ⟨hheld, hfresh, Function.update_self .., store, hstore, hcurrent⟩

theorem Sound.lockRow (h : Sound host s) {job : JobRow} {task : TaskStateProjection} {plan : ModelPlan}
    (hphase : (s.workers i).phase = .planned job task plan) (hfree : s.holder job.taskKey = none) :
    Sound host (s.lockRow i job task plan) := by
  have hplanned := h.phase i
  rw [hphase] at hplanned
  obtain ⟨hheld, hfresh, store, hstore, _, hsame⟩ := hplanned
  unfold PlanState.lockRow
  simp only [hstore]
  split_ifs with hrevision
  · -- the revision is the one read, so the row is
    exact h.setLocked hfree hheld hfresh hstore (hsame hrevision.symm ▸ hfresh)
  · exact h.setPhase ⟨hheld, hfresh⟩

theorem Sound.relockRow (h : Sound host s) {job : JobRow} {task : TaskStateProjection} {plan : ModelPlan}
    (hphase : (s.workers i).phase = .conflicted job task plan) (hfree : s.holder job.taskKey = none) :
    Sound host (s.relockRow host i job task plan) := by
  have hconflicted := h.phase i
  rw [hphase] at hconflicted
  unfold PlanState.relockRow
  split
  · exact h.setPhase writeOff_state
  · rename_i store hstore
    split
    · exact h.setPhase writeOff_state
    · rename_i hcurrent
      exact h.setLocked hfree hconflicted.1 hconflicted.2 hstore (staleFor_false hcurrent)

/-! ### The commit -/

variable (host s) in
/-- What a commit does: it writes the plan under the fence, or nothing. -/
theorem commitPlan_cases (i : ι) (job : JobRow) (task : TaskStateProjection) (plan : ModelPlan) (text : PlanText)
    (now : Instant) : s.commitPlan host i job task plan text now = (s.unlock i).setPhase i .idle ∨
      ∃ store written, s.tasks job.taskKey = some store ∧
        applyTaskStateEvents host store (approvalRequest host job.toJobInput task plan text now) = .ok written ∧
        (∃ row ∈ s.jobs.rows, (approvalCompletion (s.workers i).leaseOwner job.id).fences row) ∧
        s.commitPlan host i job task plan text now = {(s.unlock i).setPhase i .idle with
          tasks := Function.update s.tasks job.taskKey (some written)
          goals := s.goals ++ writePlanRows host text job.toJobInput (job.scope host) task.contractRevision plan.steps
          jobs := ((approvalCompletion (s.workers i).leaseOwner job.id).apply s.jobs).1 } := by
  unfold PlanState.commitPlan
  simp only []
  split
  · exact Or.inl rfl
  · rename_i store hstore
    split
    · exact Or.inl rfl
    · rename_i written hwritten
      by_cases hfenced : s.jobs.rows.any (approvalCompletion (s.workers i).leaseOwner job.id).fences
      · exact Or.inr ⟨store, written, hstore, hwritten, List.any_eq_true.mp hfenced, if_pos hfenced⟩
      · exact Or.inl (if_neg hfenced)

theorem fences_iff {completion : Completion} {row : JobRow} : completion.fences row ↔ row.id = completion.jobId ∧
    row.leaseOwner = some completion.leaseOwner ∧ row.state = .leased ∧ row.cancelRequested = false := by
  simp [Completion.fences, and_assoc]

/-- A commit that writes finds the job leased to its worker and the task as the job has it. -/
theorem Sound.commitPlan (h : Sound host s) {job : JobRow} {task : TaskStateProjection} {plan : ModelPlan}
    {text : PlanText} {now : Instant} (hphase : (s.workers i).phase = .locked job task plan) :
    Sound host (s.commitPlan host i job task plan text now) ∧
      ((∃ row store, Approves host s (s.commitPlan host i job task plan text now) i row store) ∨
        s.commitPlan host i job task plan text now = (s.unlock i).setPhase i .idle) := by
  have hlocked := h.phase i
  rw [hphase] at hlocked
  obtain ⟨⟨stored, hstored, hid, hinput⟩, hfresh, hholder, current, hcurrent, hnotStale⟩ := hlocked
  rcases commitPlan_cases host s i job task plan text now with hleft |
    ⟨store, written, hstore, hwritten, ⟨row, hrow, hfences⟩, hcommit⟩
  · rw [hleft]
    exact ⟨h.ends (fun _ h => h) rfl, Or.inr rfl⟩
  rw [hcommit]
  rw [hstore, Option.some.injEq] at hcurrent
  subst hcurrent
  constructor
  · refine h.step rfl keepsInputs_complete (fun j hj => ⟨keepsInputs_complete, ?_, fun key _ hkey hsome => ⟨?_, ?_⟩⟩)
      (fun row hrow => keepsInputs_complete row (h.todo i row hrow)) trivial
    · exact fun _ _ hsnapshot => hsnapshot.write hstore (revision_applyTaskStateEvents host hwritten)
    · exact h.unlock_holder hj hkey
    · refine (Function.update_of_ne ?_ ..).trans hsome
      rintro rfl
      rw [hholder, Option.some.injEq] at hkey
      exact hj hkey.symm
  · -- the row under the fence is the job's, which is what the worker claimed
    obtain ⟨hrowid, howner, hleased, huncancelled⟩ := fences_iff.mp hfences
    have hsame : row = stored := List.inj_on_of_nodup_map s.jobs.nodup hrow hstored (hrowid.trans hid.symm)
    have hjob : row.toJobInput = job.toJobInput := hsame ▸ hinput
    rw [JobInput.staleFor_eq_none] at hnotStale hfresh
    refine Or.inl ⟨row, store, ?_, hrow, ?_, ?_, ⟨hleased, howner⟩, huncancelled,
      task, plan, text, now, written, ?_, ?_, ?_, ?_, ?_⟩
    · rw [hjob]
      exact hstore
    · rw [hjob]
      exact hnotStale.2.2.symm
    · rw [hjob]
      exact hnotStale.2.1.symm
    · rw [hjob]
      exact hfresh.2.2.symm
    · rw [hjob]
      exact hwritten
    · rw [hjob]
    · rw [hjob, ← hfresh.2.2]
    · rw [hrowid]
      rfl

/-! ### Every step -/

theorem successes_updateWhere {p : JobRow → Bool} {f : JobRow → JobRow} {hf : ∀ row, (f row).id = row.id}
    (hstate : ∀ row, (f row).state ≠ .succeeded) :
    ∀ row ∈ (jobs.updateWhere p f hf).rows, row.state = .succeeded → row ∈ jobs.rows := by
  intro after hafter hsucceeded
  obtain ⟨row, hrow, rfl⟩ := List.mem_map.mp hafter
  split_ifs at hsucceeded ⊢
  · exact absurd hsucceeded (hstate row)
  · exact hrow

theorem quiet_lockRow {job : JobRow} {task : TaskStateProjection} {plan : ModelPlan} :
    Quiet s (s.lockRow i job task plan) := by
  unfold PlanState.lockRow
  split
  · exact quiet_of_eq rfl rfl rfl
  · split_ifs <;> exact quiet_of_eq rfl rfl rfl

theorem quiet_relockRow {job : JobRow} {task : TaskStateProjection} {plan : ModelPlan} :
    Quiet s (s.relockRow host i job task plan) := by
  unfold PlanState.relockRow
  split
  · exact quiet_of_eq rfl rfl rfl
  · split <;> exact quiet_of_eq rfl rfl rfl

theorem Sound.worker (h : Sound host s) {action : WorkerAction} (hnext : s.workerNext host i action = some after) :
    Sound host after ∧ ((∃ job store, Approves host s after i job store) ∨ Quiet s after) := by
  have hphase := h.phase i
  unfold PlanState.workerNext at hnext
  split at hnext
  case h_1 claim _ =>
    split_ifs at hnext
    cases hnext
    refine ⟨h.step rfl keepsInputs_claim (fun j _ => leaves_of_jobs keepsInputs_claim rfl rfl rfl)
      (fun row hrow => held_claimed hrow) trivial, Or.inr ⟨rfl, rfl, ?_⟩⟩
    dsimp only [Claim.apply, Claim.leaseIds]
    exact successes_updateWhere fun _ hstate => by cases hstate
  case h_2 hidle =>
    split at hnext
    · cases hnext
    · rename_i job rest htodo
      cases hnext
      have hheld (row : JobRow) (hrow : row ∈ job :: rest) : Held s.jobs row := h.todo i row (htodo ▸ hrow)
      refine ⟨h.step rfl (fun _ h => h) (fun j _ => leaves_of_jobs (fun _ h => h) rfl rfl rfl)
        (fun row hrow => hheld row (List.mem_cons_of_mem _ hrow)) ?_, Or.inr (quiet_of_eq rfl rfl rfl)⟩
      exact (sound_loadPhase (hheld job List.mem_cons_self)).leaves (leaves_of_jobs (fun _ h => h) rfl rfl rfl)
  case h_3 answer job task hloaded =>
    rw [hloaded] at hphase
    split at hnext
    · cases hnext
      exact ⟨h.setPhase hphase, Or.inr (quiet_of_eq rfl rfl rfl)⟩
    · cases hnext
      exact ⟨h.setPhase (fun hstate => by cases hstate), Or.inr (quiet_of_eq rfl rfl rfl)⟩
  case h_4 job task plan hplanned =>
    split_ifs at hnext with hfree
    cases hnext
    exact ⟨h.lockRow hplanned hfree, Or.inr quiet_lockRow⟩
  case h_5 job task plan hconflicted =>
    split_ifs at hnext with hfree
    cases hnext
    exact ⟨h.relockRow hconflicted hfree, Or.inr quiet_relockRow⟩
  case h_6 text now job task plan hlocked =>
    cases hnext
    obtain ⟨hsound, happroves | hleft⟩ := h.commitPlan hlocked
    · exact ⟨hsound, Or.inl happroves⟩
    · exact ⟨hsound, Or.inr (hleft ▸ quiet_of_eq rfl rfl rfl)⟩
  case h_7 completion hending =>
    rw [hending] at hphase
    cases hnext
    refine ⟨h.step rfl keepsInputs_complete (fun j _ => leaves_of_jobs keepsInputs_complete rfl rfl rfl)
      (fun row hrow => keepsInputs_complete row (h.todo i row hrow)) trivial, Or.inr ⟨rfl, rfl, ?_⟩⟩
    dsimp only [Completion.apply, PlanState.setPhase]
    exact successes_updateWhere fun _ => hphase
  case h_8 =>
    cases hnext
    exact ⟨h.ends (fun _ h => h) rfl, Or.inr (quiet_of_eq rfl rfl rfl)⟩
  case h_9 =>
    cases hnext
    exact ⟨h.ends (fun _ hrow => by cases hrow) rfl, Or.inr (quiet_of_eq rfl rfl rfl)⟩
  case h_10 => cases hnext

/-! ### Every run -/

theorem sound_init (h : (planSystem host ι).init s) : Sound host s := by
  refine ⟨fun i row hrow => ?_, fun i => ?_⟩
  · rw [(h.1 i).1] at hrow
    cases hrow
  · rw [(h.1 i).2]
    trivial

theorem sound_of_reachable (h : (planSystem host ι).Reachable s) : Sound host s :=
  h.invariant (fun _ => sound_init) fun _ action _ _ hsound hnext => by
    cases action with
    | worker i action => exact (hsound.worker hnext).1
    | owner action => exact hsound.owner hnext

/-- **A stale plan is never approved**: in every run, a worker's step that writes an event, a plan
row or a success writes all of them, for a job that it holds, that is not cancelled, and whose
revisions are the task's. -/
theorem approval_sound (h : (planSystem host ι).Reachable s) {action : WorkerAction}
    (hnext : (planSystem host ι).next s (.worker i action) = some after) :
    (∃ job store, Approves host s after i job store) ∨ Quiet s after :=
  ((sound_of_reachable h).worker hnext).2

/-! ### An approval -/

def exampleTask : TaskStore := ensureTaskState ⟨"t", "w", "o", "s"⟩

def examplePlanJob : JobRow where
  workspaceId := "w"
  ownerId := "o"
  sessionId := "s"
  taskId := "t"
  jobKind := planningJobKindDecompose
  inputRevision := currentInputRevision (asciiHost [] []) exampleTask.row.projection
    (resolvedScopeFromJson (asciiHost [] []) [])
  contractRevision := 0
  objectiveHash := none
  objectiveText := "Ship it"
  scopeJson := []
  id := "job"
  idempotencyKey := "key"
  maxAttempts := 3
  createdAt := epoch

def examplePlanState : PlanState Unit where
  tasks key := if key = ⟨"w", "o", "t"⟩ then some exampleTask else none
  jobs := ⟨[examplePlanJob], List.nodup_singleton _⟩
  goals := []
  workers _ := ⟨"", [], .idle⟩
  holder _ := none

def exampleText : PlanText := ⟨fun _ text => text, "root", toString⟩

def exampleStep : PlanStepState where
  stepIndex := 1
  goalId := none
  title := "Read"
  description := ""
  status := "candidate"
  dependsOn := []
  attempts := 0
  mutating := true
  blockedReason := ""

/-- A plan that is approved. -/
theorem approval_sound_example : ∃ s after : PlanState Unit, after.goals ≠ [] ∧
    ((∃ job store, Approves (asciiHost [] []) s after () job store) ∨ Quiet s after) := by
  have hrun : ((planSystem (asciiHost [] []) Unit).run examplePlanState
      [.worker () (.claim ⟨none, "me", 120, 0, 20, []⟩), .worker () .load,
        .worker () (.plan (.ok ⟨[exampleStep], .null, List.cons_ne_nil _ _⟩)), .worker () .lock]).any fun s =>
      ((planSystem (asciiHost [] []) Unit).next s (.worker () (.commit exampleText 0))).any (!·.goals.isEmpty) := by
    decide +kernel
  obtain ⟨s, hs, hcommit⟩ := (Option.any_eq_true _ _).mp hrun
  obtain ⟨after, hnext, hgoals⟩ := (Option.any_eq_true _ _).mp hcommit
  have hinit : (planSystem (asciiHost [] []) Unit).init examplePlanState := ⟨fun _ => ⟨rfl, rfl⟩, fun _ => rfl⟩
  exact ⟨s, after, by simpa using hgoals, approval_sound ((System.Reachable.init hinit).run hs) hnext⟩

end OpenTimeline.Planning
