import OpenTimeline.Planning.Sweep

/-! What becomes of an attempt that fails.

A worker that fails with attempts left records when the next attempt is due. It leaves the job
'failed' though, and Full's claim takes pending jobs only: the job is final (`final_of_failed`),
and attempts are retried exactly as long as none fails before the last (`retried_iff`). -/
namespace OpenTimeline.Planning
open Library

/-! ### Attempts -/

/-- What a worker holds while it plans: the row its claim returned. -/
structure Attempt where
  leaseOwner : String
  row : JobRow

/-! ### Runs -/

structure RetryState where
  jobs : JobTable
  running : List Attempt

inductive RetryStep
  | claim (claim : Claim)
  | fail (index : Nat) (capSeconds : Int) (now : Instant) (lastError : String)
  | crash (index : Nat)
  | sweep (now : Instant)

/-- A job as it is enqueued, which nobody cancels. -/
def JobRow.fresh (row : JobRow) : Prop := row.state = .pending ∧ row.attempts = 0 ∧ row.cancelRequested = false

/-- The claims, failures, crashes and sweeps of jobs whose tasks do not change. -/
def retrySystem : System RetryState RetryStep where
  init s := (∀ row ∈ s.jobs.rows, row.fresh) ∧ s.running = []
  next s step := match step with
    | .claim claim =>
      let (jobs, rows) := claim.apply s.jobs
      some ⟨jobs, s.running ++ rows.map (⟨claim.leaseOwner, ·⟩)⟩
    | .fail index capSeconds now lastError => s.running[index]?.map fun attempt =>
      ⟨((failure attempt.leaseOwner attempt.row capSeconds now lastError).apply s.jobs).1, s.running.eraseIdx index⟩
    | .crash index => some {s with running := s.running.eraseIdx index}
    | .sweep now => some {s with jobs := sweepStalePlanningJobs now s.jobs}

/-- Nothing that can happen gets the job claimed. -/
def Final (s : RetryState) (id : String) : Prop :=
  ∀ actions after, retrySystem.run s actions = some after →
    ∀ claim : Claim, ∀ row ∈ (claim.apply after.jobs).2, row.id ≠ id

/-- A job that failed with attempts left is claimed from the time on that it records, and only
one without attempts is final. -/
structure Retried (s : RetryState) : Prop where
  again : ∀ row ∈ s.jobs.rows, row.state = .failed → row.attempts < row.maxAttempts →
    ∃ due, row.nextAttemptAt = some due ∧
      ∀ claim : Claim, due ≤ claim.now → claim.jobId.all (row.id = ·) → claim.selects row
  final : ∀ row ∈ s.jobs.rows, Final s row.id → row.maxAttempts ≤ row.attempts

/-- A failure in the last attempt. -/
def LastTry (s : RetryState) : RetryStep → Prop
  | .fail index _ _ _ => ∀ attempt ∈ s.running[index]?, attempt.row.maxAttempts ≤ attempt.row.attempts
  | _ => True

instance (s : RetryState) (step : RetryStep) : Decidable (LastTry s step) := by
  cases step <;> unfold LastTry <;> infer_instance

/-! ### What a claim takes -/

variable {jobs : JobTable} {row : JobRow} {claim : Claim}

theorem Claim.pending_of_claimed {ids : List String} {batch : Nat}
    (hids : ids = claim.claimedIds claim.selects batch jobs) (hrow : row ∈ jobs.rows)
    (hid : row.id ∈ ids) : row.state = .pending := by
  rw [hids, Claim.claimedIds] at hid
  obtain ⟨other, hother, hsame⟩ := List.mem_map.mp hid
  obtain ⟨hmem, hselected⟩ := List.mem_filter.mp ((sortOn_perm _ _).mem_iff.mp (List.mem_of_mem_take hother))
  rw [← List.inj_on_of_nodup_map jobs.nodup hmem hrow hsame]
  simp only [Claim.selects, Bool.and_eq_true, decide_eq_true_eq] at hselected
  exact hselected.1.1.2

/-- A claim of a single job. -/
def claimOf (id : String) : Claim where
  jobId := some id
  leaseOwner := "worker"
  leaseSeconds := 120
  now := 0
  batchSize := 1

/-- A job that is pending is there to be claimed. -/
theorem claimed_of_pending (hrow : row ∈ jobs.rows) (hpending : row.state = .pending)
    (huncancelled : row.cancelRequested = false) : ∃ claimed ∈ ((claimOf row.id).apply jobs).2, claimed.id = row.id := by
  have hselects (other : JobRow) (h : (claimOf row.id).selects other) : other.id = row.id := by
    simp only [Claim.selects, claimOf, Bool.and_eq_true, decide_eq_true_eq] at h
    exact h.1.1
  have hids : row.id ∈ (claimOf row.id).claimedIds (claimOf row.id).selects 1 jobs := by
    have hmem : row ∈ sortOn (·.createdAt) (jobs.rows.filter fun other =>
        (claimOf row.id).selects other && other.id ∉ (claimOf row.id).locked) := by
      refine (sortOn_perm _ _).mem_iff.mpr (List.mem_filter.mpr ⟨hrow, ?_⟩)
      simp [Claim.selects, claimOf, hpending, huncancelled]
    -- the one row that is taken has the id, as all have
    obtain ⟨first, rest, hcons⟩ := List.exists_cons_of_ne_nil (List.ne_nil_of_mem hmem)
    have hfirst := (List.mem_filter.mp ((sortOn_perm _ _).mem_iff.mp (hcons ▸ List.mem_cons_self))).2
    simp only [Bool.and_eq_true] at hfirst
    rw [Claim.claimedIds, hcons]
    exact List.mem_singleton.mpr (hselects first hfirst.1).symm
  have hclaimed := decide_eq_true hids
  exact ⟨(claimOf row.id).lease row, List.mem_filter.mpr ⟨List.mem_map.mpr ⟨row, hrow, if_pos hclaimed⟩, hclaimed⟩, rfl⟩

/-! ### What stays of a job -/

/-- The tables a job passes through: it keeps its id and its limit, and attempts add up. -/
def Onward (before after : JobTable) : Prop := ∀ row ∈ after.rows, ∃ old ∈ before.rows,
  old.id = row.id ∧ old.maxAttempts = row.maxAttempts ∧ old.attempts ≤ row.attempts

theorem onward_updateWhere {p : JobRow → Bool} {f : JobRow → JobRow} {hf : ∀ row, (f row).id = row.id}
    (hkeeps : ∀ row, (f row).maxAttempts = row.maxAttempts ∧ row.attempts ≤ (f row).attempts) :
    Onward jobs (jobs.updateWhere p f hf) := by
  intro after hafter
  obtain ⟨row, hrow, rfl⟩ := List.mem_map.mp hafter
  refine ⟨row, hrow, ?_⟩
  split_ifs
  · exact ⟨(hf row).symm, (hkeeps row).1.symm, (hkeeps row).2⟩
  · exact ⟨rfl, rfl, le_rfl⟩

theorem Onward.trans {before between after : JobTable} (h : Onward before between) (h' : Onward between after) :
    Onward before after := by
  intro row hrow
  obtain ⟨middle, hmiddle, hid, hmax, hle⟩ := h' row hrow
  obtain ⟨old, hold, hid', hmax', hle'⟩ := h middle hmiddle
  exact ⟨old, hold, hid'.trans hid, hmax'.trans hmax, hle'.trans hle⟩

theorem onward_claim : Onward jobs (claim.apply jobs).1 := by
  dsimp only [Claim.apply, Claim.leaseIds]
  exact onward_updateWhere fun _ => ⟨rfl, Nat.le_succ _⟩

theorem onward_complete {completion : Completion} : Onward jobs (completion.apply jobs).1 := by
  dsimp only [Completion.apply]
  exact onward_updateWhere fun _ => ⟨rfl, le_rfl⟩

theorem onward_sweep {now : Instant} : Onward jobs (sweepStalePlanningJobs now jobs) := by
  have hreleased : Onward jobs (releaseLapsed now jobs) := by
    rw [releaseLapsed]
    exact onward_updateWhere fun _ => ⟨rfl, le_rfl⟩
  rw [sweepStalePlanningJobs]
  exact hreleased.trans (onward_updateWhere fun _ => ⟨rfl, le_rfl⟩)

/-- The row an attempt was claimed with is behind the one in the table. -/
def Behind (s : RetryState) : Prop := ∀ attempt ∈ s.running, ∀ row ∈ s.jobs.rows, row.id = attempt.row.id →
  attempt.row.maxAttempts = row.maxAttempts ∧ attempt.row.attempts ≤ row.attempts

theorem Behind.onward {s : RetryState} {jobs : JobTable} {running : List Attempt} (h : Behind s)
    (honward : Onward s.jobs jobs) (hsub : ∀ attempt ∈ running, attempt ∈ s.running) : Behind ⟨jobs, running⟩ := by
  intro attempt hattempt row hrow hid
  obtain ⟨old, hold, hid', hmax, hle⟩ := honward row hrow
  obtain ⟨hmax', hle'⟩ := h attempt (hsub attempt hattempt) old hold (hid'.trans hid)
  exact ⟨hmax'.trans hmax, hle'.trans hle⟩

theorem behind_of_reachable {s : RetryState} (h : retrySystem.Reachable s) : Behind s := by
  refine h.invariant (fun s hinit => ?_) fun s step after _ hbehind hnext => ?_
  · intro attempt hattempt
    rw [hinit.2] at hattempt
    cases hattempt
  · cases step with
    | claim claim =>
      cases hnext
      intro attempt hattempt
      rcases List.mem_append.mp hattempt with hold | hnew
      · have hothers : Behind ⟨(claim.apply s.jobs).1, s.running⟩ := hbehind.onward onward_claim fun _ h => h
        exact hothers attempt hold
      · -- a row that was just claimed is the one in the table
        obtain ⟨claimed, hclaimed, rfl⟩ := List.mem_map.mp hnew
        intro row hrow hid
        have hsame := List.inj_on_of_nodup_map (Table.nodup _) hrow (List.mem_filter.mp hclaimed).1 hid
        exact ⟨hsame ▸ rfl, hsame ▸ le_rfl⟩
    | fail index capSeconds now lastError =>
      obtain ⟨attempt, _, rfl⟩ := Option.map_eq_some_iff.mp hnext
      exact hbehind.onward onward_complete fun _ => List.mem_of_mem_eraseIdx
    | crash index =>
      cases hnext
      exact fun attempt hattempt => hbehind attempt (List.mem_of_mem_eraseIdx hattempt)
    | sweep now =>
      cases hnext
      exact hbehind.onward onward_sweep fun _ h => h

/-! ### The rows of a run -/

/-- A job in the run: nobody cancels it or finishes it, and it is discarded for its attempts. -/
structure JobRow.InRetry (row : JobRow) : Prop where
  uncancelled : row.cancelRequested = false
  unfinished : row.state ≠ .succeeded ∧ row.state ≠ .cancelled
  timed : row.state = .leased → row.leaseUntil ≠ none
  exhausted : row.state = .discarded → row.maxAttempts ≤ row.attempts

theorem inRetry_sweep {now : Instant} (h : ∀ row ∈ jobs.rows, row.InRetry) :
    ∀ row ∈ (sweepStalePlanningJobs now jobs).rows, row.InRetry := by
  have hreleased : ∀ row ∈ (releaseLapsed now jobs).rows, row.InRetry := by
    rw [releaseLapsed]
    refine Table.forall_updateWhere h fun row _ hrow _ => ⟨hrow.uncancelled, ?_, ?_, ?_⟩ <;> simp [JobRow.release]
  rw [sweepStalePlanningJobs]
  refine Table.forall_updateWhere hreleased fun row _ hrow hspent => ⟨hrow.uncancelled, ?_, ?_, fun _ => ?_⟩
  · simp [JobRow.exhaust]
  · simp [JobRow.exhaust]
  · simp only [Bool.and_eq_true, decide_eq_true_eq] at hspent
    exact hspent.2

theorem inRetry_of_reachable {s : RetryState} (h : retrySystem.Reachable s) : ∀ row ∈ s.jobs.rows, row.InRetry := by
  refine @System.Reachable.invariant _ _ _ (fun s => ∀ row ∈ s.jobs.rows, row.InRetry) (fun s hinit row hrow => ?_)
    (fun s step after _ hrows hnext => ?_) _ h
  · obtain ⟨hpending, _, huncancelled⟩ := hinit.1 row hrow
    refine ⟨huncancelled, ?_, ?_, ?_⟩ <;> simp [hpending]
  · cases step with
    | claim claim =>
      cases hnext
      refine Claim.forall_leaseIds hrows fun row hrow _ => ⟨hrow.uncancelled, ?_, ?_, ?_⟩ <;> simp [Claim.lease]
    | fail index capSeconds now lastError =>
      obtain ⟨attempt, _, rfl⟩ := Option.map_eq_some_iff.mp hnext
      refine Completion.forall_apply hrows fun row _ hrow _ => ⟨hrow.uncancelled, ?_, ?_, ?_⟩ <;>
        simp [Completion.set, failure]
    | crash index =>
      cases hnext
      exact hrows
    | sweep now =>
      cases hnext
      exact inRetry_sweep hrows

/-! ### Failed jobs -/

/-- No attempt has failed but the last. -/
def Spent (s : RetryState) : Prop := ∀ row ∈ s.jobs.rows, row.state = .failed → row.maxAttempts ≤ row.attempts

theorem spent_sweep {s : RetryState} {now : Instant} (h : Spent s) :
    Spent {s with jobs := sweepStalePlanningJobs now s.jobs} := by
  have hreleased : ∀ row ∈ (releaseLapsed now s.jobs).rows, row.state = .failed → row.maxAttempts ≤ row.attempts := by
    rw [releaseLapsed]
    exact Table.forall_updateWhere h fun row _ _ _ hfailed => (by cases hfailed)
  dsimp only [Spent, sweepStalePlanningJobs]
  exact Table.forall_updateWhere hreleased fun row _ _ _ hfailed => (by cases hfailed)

theorem spent_of_lastTries {s : RetryState} (h : (retrySystem.restrict LastTry).Reachable s) : Spent s := by
  refine h.invariant (fun s hinit row hrow hfailed => ?_) fun s step after hreach hspent hnext => ?_
  · rw [(hinit.1 row hrow).1] at hfailed
    cases hfailed
  · obtain ⟨hlast, hnext⟩ := System.restrict_next hnext
    cases step with
    | claim claim =>
      cases hnext
      exact Claim.forall_leaseIds hspent fun row _ _ hfailed => (by cases hfailed)
    | fail index capSeconds now lastError =>
      obtain ⟨attempt, hattempt, rfl⟩ := Option.map_eq_some_iff.mp hnext
      have hbehind := behind_of_reachable hreach.of_restrict attempt (List.mem_of_getElem? hattempt)
      refine Completion.forall_apply hspent fun row hrow _ hfences _ => ?_
      simp only [Completion.fences, Bool.and_eq_true, decide_eq_true_eq] at hfences
      obtain ⟨hmax, hle⟩ := hbehind row hrow hfences.1.1.1
      have hspent := hlast attempt hattempt
      rw [hmax] at hspent
      exact hspent.trans (by exact_mod_cast hle)
    | crash index =>
      cases hnext
      exact hspent
    | sweep now =>
      cases hnext
      exact spent_sweep hspent

/-- A job that failed stays as it is. -/
theorem failed_stays {s after : RetryState} {step : RetryStep} (hrow : row ∈ s.jobs.rows) (hfailed : row.state = .failed)
    (hnext : retrySystem.next s step = some after) : row ∈ after.jobs.rows := by
  cases step with
  | claim claim =>
    cases hnext
    refine List.mem_map.mpr ⟨row, hrow, if_neg ?_⟩
    intro hclaimed
    have hpending := Claim.pending_of_claimed rfl hrow (of_decide_eq_true hclaimed)
    rw [hfailed] at hpending
    cases hpending
  | fail index capSeconds now lastError =>
    obtain ⟨attempt, _, rfl⟩ := Option.map_eq_some_iff.mp hnext
    exact List.mem_map.mpr ⟨row, hrow, if_neg (by simp [Completion.fences, hfailed])⟩
  | crash index =>
    cases hnext
    exact hrow
  | sweep now =>
    cases hnext
    exact List.mem_map.mpr ⟨row, List.mem_map.mpr ⟨row, hrow, if_neg (by simp [JobRow.lapsed, hfailed])⟩,
      if_neg (by simp [hfailed])⟩

/-- A failed job is final, whatever attempts it has left. -/
theorem final_of_failed {s : RetryState} (hrow : row ∈ s.jobs.rows) (hfailed : row.state = .failed) :
    Final s row.id := by
  intro actions after hrun claim claimed hclaimed hid
  have hstays : row ∈ after.jobs.rows :=
    System.run_keeps (I := _) (fun s step after hrow hnext => failed_stays hrow hfailed hnext) hrun hrow
  obtain ⟨hmem, hselected⟩ := List.mem_filter.mp hclaimed
  rw [hid] at hselected
  have hpending := Claim.pending_of_claimed rfl hstays (of_decide_eq_true hselected)
  rw [hfailed] at hpending
  cases hpending

/-! ### The others -/

/-- Of a job with attempts left, a claim can be had where it is pending, and after a sweep where
it is leased. -/
theorem not_final {s : RetryState} (hrow : row ∈ s.jobs.rows) (hin : row.InRetry)
    (hleft : row.attempts < row.maxAttempts) (hfailed : row.state ≠ .failed) : ¬ Final s row.id := by
  intro hfinal
  cases hstate : row.state with
  | pending =>
    obtain ⟨claimed, hclaimed, hid⟩ := claimed_of_pending hrow hstate hin.uncancelled
    exact hfinal [] s rfl _ claimed hclaimed hid
  | leased =>
    obtain ⟨until_, huntil⟩ := Option.ne_none_iff_exists'.mp (hin.timed hstate)
    have hlapsed : row.lapsed (until_ + 1) := lapsed_iff.mpr ⟨hstate, until_, huntil, Nat.lt_succ_self _⟩
    have hreleased : row.release ∈ (sweepStalePlanningJobs (until_ + 1) s.jobs).rows := by
      have hrelease : row.release ∈ (releaseLapsed (until_ + 1) s.jobs).rows :=
        List.mem_map.mpr ⟨row, hrow, if_pos (by simp [hlapsed, hleft])⟩
      refine List.mem_map.mpr ⟨row.release, hrelease, if_neg fun hspent => ?_⟩
      exact absurd hleft (not_lt.mpr (of_decide_eq_true ((Bool.and_eq_true _ _).mp hspent).2))
    obtain ⟨claimed, hclaimed, hid⟩ := claimed_of_pending hreleased rfl hin.uncancelled
    exact hfinal [.sweep (until_ + 1)] _ rfl _ claimed hclaimed hid
  | succeeded => exact hin.unfinished.1 hstate
  | failed => exact hfailed hstate
  | discarded => exact absurd hleft (not_lt.mpr (hin.exhausted hstate))
  | cancelled => exact hin.unfinished.2 hstate

/-- Attempts are retried where none has failed with attempts left. -/
theorem retried_iff_spent {s : RetryState} (h : retrySystem.Reachable s) : Retried s ↔ Spent s := by
  constructor
  · intro hretried row hrow hfailed
    exact hretried.final row hrow (final_of_failed hrow hfailed)
  · intro hspent
    refine ⟨fun row hrow hfailed hleft => absurd hleft (not_lt.mpr (hspent row hrow hfailed)), fun row hrow hfinal => ?_⟩
    by_contra hleft
    refine not_final hrow (inRetry_of_reachable h row hrow) (not_le.mp hleft) (fun hfailed => hleft ?_) hfinal
    exact hspent row hrow hfailed

/-- **Failed attempts are retried in every run in which no attempt fails but the last**, and in
any run exactly as long as none has. -/
theorem retried_iff (s : RetryState) : ((retrySystem.restrict LastTry).Reachable s → Retried s) ∧
    (retrySystem.Reachable s → (Retried s ↔ Spent s)) :=
  ⟨fun h => (retried_iff_spent h.of_restrict).mpr (spent_of_lastTries h), retried_iff_spent⟩

/-! ### A first failure -/

def exampleJob : JobRow where
  toJobInput := exampleRequest.toJobInput
  id := "job"
  idempotencyKey := "key"
  maxAttempts := 3
  createdAt := epoch

def exampleRun (maxAttempts : Int) : RetryState :=
  ⟨⟨[{exampleJob with maxAttempts := maxAttempts}], List.nodup_singleton _⟩, []⟩

theorem exampleRun_init {maxAttempts : Int} : retrySystem.init (exampleRun maxAttempts) := by
  simp [retrySystem, exampleRun, JobRow.fresh, exampleJob]

theorem retried_iff_example : ∃ s, Retried s ∧ ∃ row ∈ s.jobs.rows, row.state = .failed := by
  have hrun : ((retrySystem.restrict LastTry).run (exampleRun 1) [.claim exampleClaim,
      .fail 0 900 epoch "model_call_failed"]).any fun s => s.jobs.rows.any (·.state = .failed) := by
    decide +kernel
  obtain ⟨s, hs, hfailed⟩ := (Option.any_eq_true _ _).mp hrun
  obtain ⟨row, hrow, hstate⟩ := List.any_eq_true.mp hfailed
  have hinit : (retrySystem.restrict LastTry).init (exampleRun 1) := exampleRun_init
  exact ⟨s, (retried_iff s).1 ((System.Reachable.init hinit).run hs), row, hrow, of_decide_eq_true hstate⟩

/-- A model that does not answer once ends the planning. -/
theorem first_failure_final : ¬ ∀ s, retrySystem.Reachable s → Retried s := by
  intro hall
  have hrun : (retrySystem.run (exampleRun 3) [.claim exampleClaim, .fail 0 900 epoch "model_call_failed"]).any fun s =>
      s.jobs.rows.any fun row => row.state = .failed && row.attempts < row.maxAttempts := by
    decide +kernel
  obtain ⟨s, hs, hfailed⟩ := (Option.any_eq_true _ _).mp hrun
  obtain ⟨row, hrow, hstate⟩ := List.any_eq_true.mp hfailed
  simp only [Bool.and_eq_true, decide_eq_true_eq] at hstate
  have hreach := (System.Reachable.init exampleRun_init).run hs
  exact absurd hstate.2 (not_lt.mpr ((retried_iff_spent hreach).mp (hall s hreach) row hrow hstate.1))

end OpenTimeline.Planning
