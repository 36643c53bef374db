import OpenTimeline.Planning.Jobs

/-! What a sweep frees.

A sweep is to leave the leases that run, and nothing that is pending or leased and cannot be
claimed. Full's discards a job whose attempts are used up, whether its last lease has run out
or not, so it frees the dead leases alone exactly when no job is in its last attempt
(`sweepFrees_iff`). Lite's leaves such a job leased for good, but in Lite no job waits. -/
namespace OpenTimeline.Planning
open Library

inductive Backend
  | full | lite
deriving DecidableEq, Repr

/-! ### What a sweep is for -/

/-- A lease that runs. -/
def JobRow.held (now : Instant) (row : JobRow) : Bool := row.state = .leased && row.leaseUntil.any (now ≤ ·)

/-- The claim's WHERE clause, but for the time of the next attempt and the cancel flag. -/
def JobRow.claimable (now : Instant) (row : JobRow) : Backend → Bool
  | .full => row.state = .pending
  | .lite => row.attempts < row.maxAttempts && (row.state ∈ [.pending, .failed] || row.lapsed now)

def sweepOf (backend : Backend) (hasTask : String → String → Bool) (now : Instant) (jobs : JobTable) : JobTable :=
  match backend with
  | .full => sweepStalePlanningJobs now jobs
  | .lite => sweepStalePlanningJobsLite hasTask now jobs

/-- The leases that run stay, and what is still to be run can be. -/
structure SweepFrees (backend : Backend) (hasTask : String → String → Bool) (now : Instant) (jobs : JobTable) :
    Prop where
  kept : ∀ row ∈ jobs.rows, row.held now → row ∈ (sweepOf backend hasTask now jobs).rows
  runs : ∀ row ∈ (sweepOf backend hasTask now jobs).rows, row.state = .pending ∨ row.state = .leased →
    row.held now ∨ row.claimable now backend

/-! ### One row -/

def releasedRow (now : Instant) (row : JobRow) : JobRow :=
  if row.lapsed now && row.attempts < row.maxAttempts then row.release else row

/-- What a sweep makes of a row. -/
def sweptRow (backend : Backend) (hasTask : String → String → Bool) (now : Instant) (row : JobRow) : JobRow :=
  let row := releasedRow now row
  match backend with
  | .full => if row.state ∈ [.pending, .leased] && row.maxAttempts ≤ row.attempts then row.exhaust else row
  | .lite => if row.state ∈ [.pending, .leased] && !hasTask row.workspaceId row.taskId then row.orphan else row

variable {backend : Backend} {hasTask : String → String → Bool} {now : Instant} {jobs : JobTable} {row : JobRow}

theorem sweepOf_rows : (sweepOf backend hasTask now jobs).rows = jobs.rows.map (sweptRow backend hasTask now) := by
  cases backend with
  | full => exact List.map_map
  | lite => exact List.map_map

theorem sweptRow_id : (sweptRow backend hasTask now row).id = row.id := by
  have hreleased : (releasedRow now row).id = row.id := by
    unfold releasedRow
    split_ifs <;> rfl
  cases backend with
  | full =>
    rw [← hreleased, sweptRow]
    split_ifs <;> rfl
  | lite =>
    rw [← hreleased, sweptRow]
    split_ifs <;> rfl

/-- A row is in the table after a sweep if the sweep leaves it. -/
theorem mem_sweepOf_iff (hrow : row ∈ jobs.rows) :
    row ∈ (sweepOf backend hasTask now jobs).rows ↔ sweptRow backend hasTask now row = row := by
  rw [sweepOf_rows]
  constructor
  · intro hmem
    obtain ⟨other, hother, hsame⟩ := List.mem_map.mp hmem
    have hid : other.id = row.id := by rw [← hsame, sweptRow_id]
    rwa [List.inj_on_of_nodup_map jobs.nodup hother hrow hid] at hsame
  · exact fun hsame => hsame ▸ List.mem_map_of_mem hrow

theorem held_iff : row.held now ↔ row.state = .leased ∧ ∃ until_, row.leaseUntil = some until_ ∧ now ≤ until_ := by
  cases huntil : row.leaseUntil <;> simp [JobRow.held, huntil]

theorem lapsed_iff : row.lapsed now ↔ row.state = .leased ∧ ∃ until_, row.leaseUntil = some until_ ∧ until_ < now := by
  cases huntil : row.leaseUntil <;> simp [JobRow.lapsed, huntil]

theorem releasedRow_of_held (h : row.held now) : releasedRow now row = row := by
  obtain ⟨_, until_, huntil, hle⟩ := held_iff.mp h
  have hlapsed : row.lapsed now = false := by
    rw [← Bool.not_eq_true, lapsed_iff]
    rintro ⟨_, until', huntil', hlt⟩
    rw [huntil] at huntil'
    exact absurd hlt (not_lt.mpr (Option.some.inj huntil' ▸ hle))
  rw [releasedRow, hlapsed]
  rfl

/-! ### Full -/

/-- Full leaves a lease that runs unless it is the last. -/
theorem sweptRow_full_of_held (h : row.held now) :
    sweptRow .full hasTask now row = row ↔ row.attempts < row.maxAttempts := by
  have hleased := (held_iff.mp h).1
  rw [sweptRow, releasedRow_of_held h]
  simp only [hleased, List.mem_cons, reduceCtorEq, List.not_mem_nil, or_false, or_true, decide_true, Bool.true_and,
    decide_eq_true_eq]
  constructor
  · intro hsame
    by_contra hlast
    rw [if_pos (not_lt.mp hlast)] at hsame
    have hstate := congrArg JobRow.state hsame
    rw [hleased] at hstate
    cases hstate
  · exact fun hlt => if_neg (not_le.mpr hlt)

/-- What Full leaves waiting can be run. -/
theorem sweptRow_full_runs (huntil : row.state = .leased → row.leaseUntil ≠ none)
    (hwaits : (sweptRow .full hasTask now row).state = .pending ∨ (sweptRow .full hasTask now row).state = .leased) :
    (sweptRow .full hasTask now row).held now ∨ (sweptRow .full hasTask now row).claimable now .full := by
  rcases hwaits with hpending | hleased
  · exact Or.inr (by simpa [JobRow.claimable] using hpending)
  · refine Or.inl ?_
    rw [sweptRow] at hleased ⊢
    split_ifs at hleased ⊢ with hlast
    · cases hleased
    · unfold releasedRow at hleased hlast ⊢
      split_ifs at hleased hlast ⊢ with hlapsed
      · cases hleased
      · obtain ⟨until_, hsome⟩ := Option.ne_none_iff_exists'.mp (huntil hleased)
        refine held_iff.mpr ⟨hleased, until_, hsome, not_lt.mp fun hlt => ?_⟩
        -- a lapsed lease that was not released was the last
        simp only [Bool.and_eq_true, lapsed_iff, decide_eq_true_eq, not_and, not_lt] at hlapsed
        have hle := hlapsed ⟨hleased, until_, hsome, hlt⟩
        simp [hleased, hle] at hlast

/-- A job that is leased has a time its lease runs to. -/
def Timed (jobs : JobTable) : Prop := ∀ row ∈ jobs.rows, row.state = .leased → row.leaseUntil ≠ none

theorem sweepFrees_full_iff (htimed : Timed jobs) :
    SweepFrees .full hasTask now jobs ↔ ∀ row ∈ jobs.rows, row.held now → row.attempts < row.maxAttempts := by
  constructor
  · intro h row hrow hheld
    exact (sweptRow_full_of_held hheld).mp ((mem_sweepOf_iff hrow).mp (h.kept row hrow hheld))
  · intro h
    refine ⟨fun row hrow hheld => (mem_sweepOf_iff hrow).mpr ((sweptRow_full_of_held hheld).mpr (h row hrow hheld)), ?_⟩
    intro swept hswept
    rw [sweepOf_rows] at hswept
    obtain ⟨row, hrow, rfl⟩ := List.mem_map.mp hswept
    exact sweptRow_full_runs (htimed row hrow)

/-! ### Lite -/

/-- What Lite needs of a row whose task is there: attempts left, unless a lease runs. -/
def JobRow.fit (now : Instant) (row : JobRow) : Prop :=
  (row.state = .pending ∨ row.state = .leased) → ¬ row.held now →
    row.attempts < row.maxAttempts ∧ (row.state = .leased → row.leaseUntil ≠ none)

theorem sweptRow_lite_of_held (h : row.held now) :
    sweptRow .lite hasTask now row = row ↔ hasTask row.workspaceId row.taskId := by
  have hleased := (held_iff.mp h).1
  rw [sweptRow, releasedRow_of_held h]
  cases htask : hasTask row.workspaceId row.taskId with
  | true => simp
  | false =>
    simp only [hleased, List.mem_cons, reduceCtorEq, List.not_mem_nil, or_false, or_true, decide_true, Bool.not_false,
      Bool.and_self, if_true, Bool.false_eq_true, iff_false]
    intro hsame
    have hstate := congrArg JobRow.state hsame
    rw [hleased] at hstate
    cases hstate

theorem sweptRow_lite_runs_iff : ((sweptRow .lite hasTask now row).state = .pending ∨
      (sweptRow .lite hasTask now row).state = .leased →
        (sweptRow .lite hasTask now row).held now ∨ (sweptRow .lite hasTask now row).claimable now .lite) ↔
    (hasTask row.workspaceId row.taskId → row.fit now) := by
  by_cases hlapsed : row.lapsed now && row.attempts < row.maxAttempts
  · -- the lease is released, and the job waits with attempts left
    have hreleased : releasedRow now row = row.release := if_pos hlapsed
    simp only [Bool.and_eq_true, decide_eq_true_eq, lapsed_iff] at hlapsed
    obtain ⟨⟨hleased, until_, huntil, _⟩, hlt⟩ := hlapsed
    have hfit : row.fit now := fun _ _ => ⟨hlt, fun _ => by simp [huntil]⟩
    rw [sweptRow, hreleased]
    cases htask : hasTask row.workspaceId row.taskId <;>
      simp [JobRow.release, JobRow.orphan, JobRow.claimable, htask, hlt, hfit]
  · have hreleased : releasedRow now row = row := if_neg hlapsed
    simp only [Bool.and_eq_true, decide_eq_true_eq, lapsed_iff, not_and, not_lt] at hlapsed
    rw [sweptRow, hreleased]
    cases htask : hasTask row.workspaceId row.taskId with
    | false =>
      by_cases hwaits : row.state = .pending ∨ row.state = .leased
      · simp [hwaits, JobRow.orphan]
      · simp [hwaits]
    | true =>
      simp only [Bool.not_true, Bool.and_false, Bool.false_eq_true, if_false, true_imp_iff]
      constructor
      · intro hruns hwaits hnot
        have hclaim := (hruns hwaits).resolve_left hnot
        simp only [JobRow.claimable, Bool.and_eq_true, decide_eq_true_eq] at hclaim
        refine ⟨hclaim.1, fun hleased hnone => ?_⟩
        simp [JobRow.lapsed, hleased, hnone] at hclaim
      · intro hfit hwaits
        refine or_iff_not_imp_left.mpr fun hnot => ?_
        obtain ⟨hlt, huntil⟩ := hfit hwaits hnot
        rcases hwaits with hpending | hleased
        · simp [JobRow.claimable, hpending, hlt]
        · obtain ⟨until_, hsome⟩ := Option.ne_none_iff_exists'.mp (huntil hleased)
          have hle : now ≤ until_ := not_lt.mp fun hlt' =>
            absurd hlt (not_lt.mpr (hlapsed ⟨hleased, until_, hsome, hlt'⟩))
          exact absurd (held_iff.mpr ⟨hleased, until_, hsome, hle⟩) hnot

/-- Lite's sweep, of any table. -/
theorem sweepFrees_lite_iff : SweepFrees .lite hasTask now jobs ↔ ∀ row ∈ jobs.rows,
    (row.held now → hasTask row.workspaceId row.taskId) ∧ (hasTask row.workspaceId row.taskId → row.fit now) := by
  constructor
  · intro h row hrow
    refine ⟨fun hheld => (sweptRow_lite_of_held hheld).mp ((mem_sweepOf_iff hrow).mp (h.kept row hrow hheld)), ?_⟩
    exact sweptRow_lite_runs_iff.mp (h.runs _ (sweepOf_rows ▸ List.mem_map_of_mem hrow))
  · intro h
    refine ⟨fun row hrow hheld => ?_, ?_⟩
    · exact (mem_sweepOf_iff hrow).mpr ((sweptRow_lite_of_held hheld).mpr ((h row hrow).1 hheld))
    intro swept hswept
    rw [sweepOf_rows] at hswept
    obtain ⟨row, hrow, rfl⟩ := List.mem_map.mp hswept
    exact sweptRow_lite_runs_iff.mpr (h row hrow).2

/-! ### Reachable tables -/

inductive JobStep
  | enqueue (request : Enqueue)
  | claim (claim : Claim)
  | complete (completion : Completion)
  | sweep (hasTask : String → String → Bool) (now : Instant)

/-- The states a job is completed in. -/
def finalStates : List JobState := [.succeeded, .failed, .discarded, .cancelled]

variable (host : Host)

/-- The table of either backend. A worker that crashes leaves it as it is. -/
def jobSystem (backend : Backend) : System JobTable JobStep where
  init jobs := jobs = ⟨[], List.nodup_nil⟩
  next jobs step := match backend, step with
    | _, .sweep hasTask now => some (sweepOf backend hasTask now jobs)
    | .full, .enqueue request => request.apply host jobs
    | .lite, .enqueue request => request.applyLite host jobs
    | .full, .claim claim => some (claim.apply jobs).1
    | .lite, .claim claim => some (claim.applyLite jobs).1
    | .full, .complete completion => if completion.state ∈ finalStates then some (completion.apply jobs).1 else none
    | .lite, .complete completion => if completion.state ∈ finalStates then some (completion.applyLite jobs).1 else none

variable {host}

/-- An enqueue revives a row, or inserts one. -/
theorem forall_applyAs {P : JobRow → Prop} {request : Enqueue} {state : JobState} {after : JobTable}
    (h : request.applyAs host state jobs = some after) (hP : ∀ row ∈ jobs.rows, P row)
    (hnew : P (request.row host state))
    (hrevived : ∀ row, P row → row.state ∈ revivableStates → P {row with
      state := .pending, attempts := 0, cancelRequested := false, nextAttemptAt := none, leaseOwner := none,
      leaseUntil := none, lastError := none }) : ∀ row ∈ after.rows, P row := by
  unfold Enqueue.applyAs at h
  split at h
  · cases h
    refine Table.forall_updateWhere hP fun row _ hrow hwhere => hrevived row hrow ?_
    simp only [Bool.and_eq_true, decide_eq_true_eq] at hwhere
    exact hwhere.2
  · exact Table.forall_insert h hP hnew

theorem sweptRow_of_leased (h : (sweptRow backend hasTask now row).state = .leased) :
    sweptRow backend hasTask now row = row := by
  have hreleased (h : (releasedRow now row).state = .leased) : releasedRow now row = row := by
    unfold releasedRow at h ⊢
    split_ifs at h ⊢ with hlapsed
    · cases h
    · rfl
  cases backend with
  | full =>
    rw [sweptRow] at h ⊢
    split_ifs at h ⊢ with hlast
    · cases h
    · exact hreleased h
  | lite =>
    rw [sweptRow] at h ⊢
    split_ifs at h ⊢ with hlost
    · cases h
    · exact hreleased h

theorem timed_of_reachable (h : (jobSystem host .full).Reachable jobs) : Timed jobs := by
  refine h.invariant (fun jobs hinit => ?_) fun jobs step after _ htimed hnext => ?_
  · cases (show jobs = _ from hinit)
    exact fun _ hrow => absurd hrow List.not_mem_nil
  · cases step with
    | enqueue request =>
      refine forall_applyAs hnext htimed ?_ fun _ _ _ hleased => (by cases hleased)
      cases request.inline <;> simp [Enqueue.row]
    | claim claim =>
      cases hnext
      exact Claim.forall_leaseIds htimed fun _ _ _ _ => Option.some_ne_none _
    | complete completion =>
      simp only [jobSystem] at hnext
      split_ifs at hnext with hfinal
      cases hnext
      refine Completion.forall_apply htimed fun _ _ _ _ hleased => ?_
      rw [show completion.state = .leased from hleased] at hfinal
      exact absurd hfinal (by decide)
    | sweep hasTask now =>
      cases hnext
      intro swept hswept hleased
      rw [sweepOf_rows] at hswept
      obtain ⟨row, hrow, rfl⟩ := List.mem_map.mp hswept
      have hsame := sweptRow_of_leased hleased
      rw [hsame] at hleased ⊢
      exact htimed row hrow hleased

/-- No job waits: in Lite every one is planned as it is enqueued. -/
def Inline (jobs : JobTable) : Prop := ∀ row ∈ jobs.rows, row.state = .succeeded

theorem inline_of_reachable (h : (jobSystem host .lite).Reachable jobs) : Inline jobs := by
  refine h.invariant (fun jobs hinit => ?_) fun jobs step after _ hall hnext => ?_
  · cases (show jobs = _ from hinit)
    exact fun _ hrow => absurd hrow List.not_mem_nil
  · cases step with
    | enqueue request =>
      refine forall_applyAs hnext hall rfl fun row hrow hrevivable => ?_
      rw [hrow] at hrevivable
      exact absurd hrevivable (by decide)
    | claim claim =>
      cases hnext
      refine Claim.forall_leaseIds hall fun row hstate hclaimed => ?_
      -- nothing waits, so nothing is claimed
      obtain ⟨other, hother, hid⟩ := List.mem_map.mp hclaimed
      have hselected := List.mem_filter.mp ((sortOn_perm _ _).mem_iff.mp (List.mem_of_mem_take hother))
      simp [Claim.selectsLite, hall other hselected.1] at hselected
    | complete completion =>
      simp only [jobSystem] at hnext
      split_ifs at hnext
      cases hnext
      refine Completion.forall_applyLite hall fun row _ hstate hfenced => ?_
      simp [Completion.fences, hstate] at hfenced
    | sweep hasTask now =>
      cases hnext
      intro swept hswept
      rw [sweepOf_rows] at hswept
      obtain ⟨row, hrow, rfl⟩ := List.mem_map.mp hswept
      have hstate := hall row hrow
      simp [sweptRow, releasedRow, JobRow.lapsed, hstate]

/-- **A sweep frees the dead leases and no others exactly when, in Full, no lease that runs is
its job's last.** In Lite it always does: no job waits. -/
theorem sweepFrees_iff {backend : Backend} {jobs : JobTable} (h : (jobSystem host backend).Reachable jobs)
    (hasTask : String → String → Bool) (now : Instant) : SweepFrees backend hasTask now jobs ↔
      (backend = .full → ∀ row ∈ jobs.rows, row.held now → row.attempts < row.maxAttempts) := by
  cases backend with
  | full => simpa using sweepFrees_full_iff (timed_of_reachable h)
  | lite =>
    refine iff_of_true (sweepFrees_lite_iff.mpr fun row hrow => ?_) fun h => (by cases h)
    have hstate := inline_of_reachable h row hrow
    refine ⟨fun hheld => ?_, fun _ hwaits => ?_⟩
    · rw [(held_iff.mp hheld).1] at hstate
      cases hstate
    · simp [hstate] at hwaits

/-! ### A last attempt -/

def exampleRequest : Enqueue where
  workspaceId := "w"
  ownerId := "o"
  sessionId := "s"
  taskId := "s"
  jobKind := planningJobKindDecompose
  inputRevision := "r"
  contractRevision := 1
  objectiveHash := some "h"
  objectiveText := "Ship it"
  scopeJson := []
  id := "job"
  maxAttempts := 1
  now := epoch

def exampleClaim : Claim where
  jobId := none
  leaseOwner := "worker"
  leaseSeconds := 120
  now := epoch
  batchSize := 20

theorem sweepFrees_iff_example : ∃ jobs : JobTable, (jobSystem (asciiHost [] []) .full).Reachable jobs ∧
    (SweepFrees .full (fun _ _ => true) (epoch + 1) jobs ↔
      (Backend.full = .full → ∀ row ∈ jobs.rows, row.held (epoch + 1) → row.attempts < row.maxAttempts)) := by
  have hrun : ((jobSystem (asciiHost [] []) .full).run ⟨[], List.nodup_nil⟩ [.enqueue exampleRequest]).isSome := by
    decide +kernel
  obtain ⟨jobs, hjobs⟩ := Option.isSome_iff_exists.mp hrun
  have hreach := (System.Reachable.init rfl).run hjobs
  exact ⟨jobs, hreach, sweepFrees_iff hreach _ _⟩

/-- The lease of the only attempt is taken away a moment after it was given. -/
theorem last_lease_discarded : ¬ ∀ jobs now, (jobSystem (asciiHost [] []) .full).Reachable jobs →
    SweepFrees .full (fun _ _ => true) now jobs := by
  intro hall
  have hrun : ((jobSystem (asciiHost [] []) .full).run ⟨[], List.nodup_nil⟩
      [.enqueue exampleRequest, .claim exampleClaim]).any fun jobs => jobs.rows.any fun row =>
        row.held (epoch + 1) && row.maxAttempts ≤ row.attempts := by
    decide +kernel
  obtain ⟨jobs, hjobs, hlast⟩ := (Option.any_eq_true _ _).mp hrun
  obtain ⟨row, hrow, hrowlast⟩ := List.any_eq_true.mp hlast
  simp only [Bool.and_eq_true, decide_eq_true_eq] at hrowlast
  have hreach := (System.Reachable.init rfl).run hjobs
  have hlt := (sweepFrees_full_iff (timed_of_reachable hreach)).mp (hall jobs (epoch + 1) hreach) row hrow hrowlast.1
  omega

end OpenTimeline.Planning
