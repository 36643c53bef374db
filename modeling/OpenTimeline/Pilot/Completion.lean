import OpenTimeline.Pilot.Slots
import OpenTimeline.Verification.Store

/-! The close of a pilot episode.

A close derives what it completed on: a verification of the bound task, the task's status,
or else what the adjudicator says. The query of the first asks for a verdict and a task that
no verification writes (`never_verified`), so no episode closes as verified. -/
namespace OpenTimeline.Pilot
open Library TaskState Verification

variable (host : PilotHost) (allocationSalt : String) (settings : VerificationSettings)
  (projectGraded : Verification.DirectiveRow → VerificationOutcome → List TaskRow → Except Failure (List TaskRow))

/-! ### Vocabulary -/

inductive RescueLevel
  | none | steered | tookOver | abandonedToOwner
deriving DecidableEq, Repr

/-- `verified`: a verification with verdict `pass` for the bound task. -/
inductive CompletionBasis
  | verified | taskStateDone | ownerAttested | unfinished
deriving DecidableEq, Repr

inductive ReviewVerdict
  | acceptedAsIs | acceptedWithEdits | rejected
deriving DecidableEq, Repr

/-- A row of `pilot_episode_closes`. -/
structure CloseRow where
  id : String
  episodeId : String
  workspaceId : String
  ownerId : String
  adjudicatorId : String
  adjudicatorVerified : Bool
  adjudicationIndependent : Bool
  executedArm : PilotArm
  deviated : Bool
  deviationReason : String
  rescueLevel : RescueLevel
  finished : Bool
  completionBasis : CompletionBasis
  reviewMinutes : Int
  reviewVerdict : ReviewVerdict
  unfinishedReason : String
  lateClose : Bool
  closedAt : Instant

/-- `episode_success`, of a stored close. -/
def CloseRow.success (close : CloseRow) : Bool :=
  (close.completionBasis = .verified || close.completionBasis = .taskStateDone) &&
    close.rescueLevel = .none && close.reviewVerdict ≠ .rejected

/-! ### The basis -/

/-- `str(task_id or "").strip()` -/
def boundTask (taskId : Option String) : String := strip (taskId.getD "")

/-- The row of `verification_results` that the first query of a completion looks for. -/
def verifies (workspaceId : String) (ownerIds : List String) (task : String) (row : ResultRow) : Bool :=
  row.workspaceId = workspaceId && row.ownerId ∈ ownerIds && row.taskId = some task && row.verdict = "pass"

/-- `derive_completion_basis` -/
def deriveCompletionBasis (db : VerificationDatabase) (workspaceId : String) (ownerIds : List String)
    (taskId : Option String) (finished : Bool) : CompletionBasis :=
  let task := boundTask taskId
  if task ≠ "" && ownerIds ≠ [] && db.results.rows.any (verifies workspaceId ownerIds task) then .verified
  else if task ≠ "" && ownerIds ≠ [] && db.tasks.any (fun row =>
    row.workspaceId = workspaceId && row.ownerId ∈ ownerIds && row.taskId = task && row.status = .done) then
    .taskStateDone
  else if finished then .ownerAttested
  else .unfinished

/-! ### A close -/

structure CloseCall where
  workspaceId : String
  ownerIds : List String
  episodeId : String
  adjudicatorId : String
  adjudicatorVerified : Bool
  executedArm : PilotArm
  rescueLevel : RescueLevel
  finished : Bool
  reviewVerdict : ReviewVerdict
  reviewMinutes : Int
  deviationReason : String
  unfinishedReason : String
  graceDays : Int
  now : Instant
  /-- `uuid.uuid4()` -/
  newId : String

inductive CloseError
  /-- `PilotEpisodeNotFound` -/
  | episodeNotFound (episodeId : String)
  /-- `PilotEpisodeConflict` -/
  | episodeConflict (episodeId : String)

/-- Pilot, verifications and closes, in one database. -/
structure CompletionDatabase where
  pilot : PilotDatabase
  verification : VerificationDatabase
  /-- `uq_pilot_episode_closes_episode` -/
  closes : Table CloseRow.episodeId

/-- `load_episode` -/
def loadEpisode (db : PilotDatabase) (workspaceId : String) (ownerIds : List String) (episodeId : String) :
    Option EpisodeRow :=
  (db.episodes.find episodeId).filter fun row => row.workspaceId = workspaceId && row.ownerId ∈ ownerIds

/-- `timedelta(days=1)` -/
def dayMicroseconds : Nat := 86400000000

/-- The row `close_episode` inserts. -/
def CloseCall.row (call : CloseCall) (episode : EpisodeRow) (basis : CompletionBasis) : CloseRow where
  id := call.newId
  episodeId := episode.id
  workspaceId := episode.workspaceId
  ownerId := episode.ownerId
  adjudicatorId := call.adjudicatorId
  adjudicatorVerified := call.adjudicatorVerified
  adjudicationIndependent := call.adjudicatorId ≠ episode.agentPrincipal
  executedArm := call.executedArm
  deviated := call.executedArm ≠ episode.allocation.armId
  deviationReason := call.deviationReason
  rescueLevel := call.rescueLevel
  finished := call.finished
  completionBasis := basis
  reviewMinutes := max 0 call.reviewMinutes
  reviewVerdict := call.reviewVerdict
  unfinishedReason := call.unfinishedReason
  lateClose := episode.allocatedAt + call.graceDays.toNat * dayMicroseconds < call.now
  closedAt := call.now

/-- `close_episode`, on the episode the route has loaded. -/
def closeEpisode (call : CloseCall) (db : CompletionDatabase) : Except CloseError (CompletionDatabase × CloseRow) :=
  match loadEpisode db.pilot call.workspaceId call.ownerIds call.episodeId with
  | none => .error (.episodeNotFound call.episodeId)
  | some episode =>
    let basis := deriveCompletionBasis db.verification episode.workspaceId call.ownerIds episode.taskId call.finished
    let row := call.row episode basis
    if row.id ∈ db.closes.rows.map (·.id) then .error (.episodeConflict episode.id)
    else match db.closes.insert row with
    | none => .error (.episodeConflict episode.id)
    | some closes => .ok ({db with closes}, row)

/-! ### Runs -/

inductive CompletionAction
  | pilot (action : PilotAction)
  | freeze (call : FreezeCall)
  | record (call : RecordCall)
  /-- the directive store writes -/
  | directives (rows : Table Verification.DirectiveRow.directiveId)
  /-- the task store writes -/
  | tasks (rows : List TaskRow)
  | close (call : CloseCall)

/-- Enrolments, verifications and closes of any parties. -/
def completionSystem : System CompletionDatabase CompletionAction where
  init db := (pilotSystem host allocationSalt).init db.pilot ∧ db.verification.criteria = [] ∧
    db.verification.results.rows = [] ∧ db.closes.rows = []
  next db
    | .pilot action => ((pilotSystem host allocationSalt).next db.pilot action).map fun pilot => {db with pilot}
    | .freeze call =>
      (freezeAcceptanceCriteria host.toHost settings call db.verification).toOption.map fun frozen =>
        {db with verification := frozen.1}
    | .record call =>
      some {db with verification := (recordVerification host.toHost settings projectGraded call db.verification).1}
    | .directives rows => some {db with verification := {db.verification with directives := rows}}
    | .tasks rows => some {db with verification := {db.verification with tasks := rows}}
    | .close call => (closeEpisode call db).toOption.map (·.1)

/-! ### No close is verified -/

/-- What the writer of verifications leaves: rows of no task, with a verdict of the graders. -/
structure Unverified (db : CompletionDatabase) : Prop where
  results : ∀ row ∈ db.verification.results.rows, row.taskId = none ∧ ∃ verdict : Verdict, row.verdict = verdict.value
  closes : ∀ close ∈ db.closes.rows, close.completionBasis ≠ .verified

variable {host allocationSalt settings projectGraded} {db db' : CompletionDatabase}

/-- The query asks for a verdict the graders do not have. -/
theorem value_ne_pass (verdict : Verdict) : verdict.value ≠ "pass" := by
  cases verdict <;> decide

theorem Unverified.basis (h : Unverified db) (workspaceId : String) (ownerIds : List String) (taskId : Option String)
    (finished : Bool) : deriveCompletionBasis db.verification workspaceId ownerIds taskId finished ≠ .verified := by
  have hquery : db.verification.results.rows.any (verifies workspaceId ownerIds (boundTask taskId)) = false := by
    refine List.any_eq_false.mpr fun row hrow hverifies => ?_
    obtain ⟨htask, _⟩ := h.results row hrow
    simp [verifies, htask] at hverifies
  unfold deriveCompletionBasis
  simp only [hquery, Bool.and_false, Bool.false_eq_true, if_false]
  split_ifs <;> simp

theorem closeEpisode_rows {call : CloseCall} {row : CloseRow} (h : closeEpisode call db = .ok (db', row)) :
    db'.verification = db.verification ∧ db'.closes.rows = db.closes.rows ++ [row] ∧
      ∃ workspaceId taskId, row.completionBasis =
        deriveCompletionBasis db.verification workspaceId call.ownerIds taskId call.finished := by
  unfold closeEpisode at h
  split at h
  · cases h
  · rename_i episode _
    simp only at h
    split_ifs at h
    split at h
    · cases h
    · rename_i closes hinsert
      cases h
      exact ⟨rfl, Table.insert_eq_some hinsert, episode.workspaceId, episode.taskId, rfl⟩

theorem Unverified.step {action : CompletionAction} (h : Unverified db)
    (hnext : (completionSystem host allocationSalt settings projectGraded).next db action = some db') :
    Unverified db' := by
  cases action with
  | pilot action =>
    obtain ⟨pilot, _, rfl⟩ := Option.map_eq_some_iff.mp hnext
    exact ⟨h.results, h.closes⟩
  | freeze call =>
    obtain ⟨frozen, hfrozen, rfl⟩ := Option.map_eq_some_iff.mp hnext
    have hresults := freezeAcceptanceCriteria_results (toOption_eq_some_iff.mp hfrozen)
    refine ⟨?_, h.closes⟩
    rw [hresults]
    exact h.results
  | record call =>
    cases hnext
    refine ⟨?_, h.closes⟩
    obtain hsame | ⟨row, hrows, hrow⟩ := @recordVerification_results host.toHost db.verification settings projectGraded
      call
    · rw [hsame]
      exact h.results
    · rw [hrows]
      intro old hold
      obtain hold | hold := List.mem_append.mp hold
      · exact h.results old hold
      · rw [List.mem_singleton.mp hold]
        exact hrow
  | directives rows =>
    cases hnext
    exact ⟨h.results, h.closes⟩
  | tasks rows =>
    cases hnext
    exact ⟨h.results, h.closes⟩
  | close call =>
    obtain ⟨⟨after, row⟩, hclosed, rfl⟩ := Option.map_eq_some_iff.mp hnext
    obtain ⟨hverification, hcloses, workspaceId, taskId, hbasis⟩ := closeEpisode_rows (toOption_eq_some_iff.mp hclosed)
    refine ⟨?_, ?_⟩
    · rw [hverification]
      exact h.results
    · rw [hcloses]
      intro close hclose
      obtain hclose | hclose := List.mem_append.mp hclose
      · exact h.closes close hclose
      · rw [List.mem_singleton.mp hclose, hbasis]
        exact h.basis workspaceId call.ownerIds taskId call.finished

theorem unverified_reachable (h : (completionSystem host allocationSalt settings projectGraded).Reachable db) :
    Unverified db := by
  refine h.invariant ?_ fun _ _ _ _ hbefore hnext => hbefore.step hnext
  intro start hstart
  obtain ⟨_, _, hresults, hcloses⟩ := hstart
  refine ⟨?_, ?_⟩
  · rw [hresults]
    exact List.forall_mem_nil _
  · rw [hcloses]
    exact List.forall_mem_nil _

variable (host allocationSalt settings projectGraded) in
/-- Whatever is enrolled, graded and closed, no row has the verdict or the task that the
query looks for, and no episode is on a verified basis. -/
theorem never_verified (h : (completionSystem host allocationSalt settings projectGraded).Reachable db) :
    (∀ row ∈ db.verification.results.rows, row.taskId = none ∧ row.verdict ≠ "pass") ∧
    (∀ episode ∈ db.pilot.episodes.rows, ∀ ownerIds finished,
      deriveCompletionBasis db.verification episode.workspaceId ownerIds episode.taskId finished ≠ .verified) ∧
    ∀ close ∈ db.closes.rows, close.completionBasis ≠ .verified := by
  have hunverified := unverified_reachable h
  refine ⟨?_, ?_, hunverified.closes⟩
  · intro row hrow
    obtain ⟨htask, verdict, hverdict⟩ := hunverified.results row hrow
    refine ⟨htask, ?_⟩
    rw [hverdict]
    exact value_ne_pass verdict
  · intro episode _ ownerIds finished
    exact hunverified.basis episode.workspaceId ownerIds episode.taskId finished

/-! ### A passed verification of a bound task -/

/-- The settings of a service with runner `v`. -/
def exampleSettings : VerificationSettings := ⟨true, "v", false, 8, 60⟩

/-- The session `t` is the task the episode is bound to. -/
def exampleDirective : Verification.DirectiveRow := ⟨"d", "w", "o", "t", .succeeded, some "a", ""⟩

def exampleFreeze : FreezeCall where
  workspaceId := "w"
  ownerId := "o"
  taskId := some "t"
  directiveId := "d"
  charterId := none
  checks := [⟨"c", ["/c"], ".", 0, 1⟩]
  corpusManifest := [("tox.ini", "0")]
  frozenBy := "o"
  now := epoch
  newId := "k"

def exampleRecord : RecordCall where
  workspaceId := "w"
  userId := "o"
  directiveId := "d"
  evidence := {
    directiveId := "d"
    results := [⟨"c", ["/c"], 0, 1, "", "", ""⟩]
    observedCorpusDigest := corpusDigest exampleHost.toHost [("tox.ini", "0")]
    observedCorpusManifest := [("tox.ini", "0")]
    platform := ""
    commitSha := none
    treeSha := none
    reviewerModel := none }
  runnerPrincipal := "v"
  now := epoch
  newId := "r"

def exampleSystem : System CompletionDatabase CompletionAction :=
  completionSystem exampleHost "" exampleSettings fun _ _ tasks => .ok tasks

/-- An episode bound to a task, and a verification of its directive that passes. -/
def examplePassed : Option CompletionDatabase :=
  exampleSystem.run
    ⟨.empty, ⟨⟨[], List.nodup_nil⟩, [], ⟨[], List.nodup_nil⟩, []⟩,
      ⟨[], List.nodup_nil⟩⟩
    [.pilot (.enroll {exampleEnrolment "t" "e" none with taskId := some "t"}),
      .directives ⟨[exampleDirective], List.nodup_singleton _⟩, .freeze exampleFreeze, .record exampleRecord]

/-- A row that passes for a directive of the task an episode is bound to. -/
def PassedFor (db : VerificationDatabase) (episode : EpisodeRow) (row : ResultRow) : Prop :=
  row.verdict = Verdict.passed.value ∧ row.workspaceId = episode.workspaceId ∧ boundTask episode.taskId ≠ "" ∧
    ∃ directive ∈ db.directives.rows, directive.directiveId = row.directiveId ∧
      directive.workspaceId = row.workspaceId ∧ directive.userId = row.ownerId ∧
      directive.sessionId = boundTask episode.taskId

instance (db : VerificationDatabase) (episode : EpisodeRow) (row : ResultRow) :
    Decidable (PassedFor db episode row) :=
  inferInstanceAs (Decidable (_ ∧ _ ∧ _ ∧ _))

theorem examplePassed_passed : ∃ db, exampleSystem.Reachable db ∧ ∃ episode ∈ db.pilot.episodes.rows,
    ∃ row ∈ db.verification.results.rows, PassedFor db.verification episode row := by
  have hpassed : examplePassed.any (fun db => db.pilot.episodes.rows.any fun episode =>
      db.verification.results.rows.any fun row => PassedFor db.verification episode row) = true := by decide +kernel
  obtain ⟨db, hdb, hpassed⟩ := (Option.any_eq_true _ _).mp hpassed
  simp only [List.any_eq_true, decide_eq_true_eq] at hpassed
  refine ⟨db, System.Reachable.run (.init ?_) hdb, hpassed⟩
  exact ⟨⟨rfl, rfl⟩, rfl, rfl, rfl⟩

theorem passed_not_verified : ¬ ∀ db, exampleSystem.Reachable db → ∀ episode ∈ db.pilot.episodes.rows,
    ∀ row ∈ db.verification.results.rows, PassedFor db.verification episode row →
      ∀ ownerIds, row.ownerId ∈ ownerIds → ∀ finished,
        deriveCompletionBasis db.verification episode.workspaceId ownerIds episode.taskId finished = .verified := by
  intro hall
  obtain ⟨db, hreachable, episode, hepisode, row, hrow, hpassed⟩ := examplePassed_passed
  have hverified := hall db hreachable episode hepisode row hrow hpassed [row.ownerId] (List.mem_singleton_self _) true
  exact (unverified_reachable hreachable).basis _ _ _ _ hverified

theorem never_verified_passed : ∃ db, exampleSystem.Reachable db ∧ ∃ episode ∈ db.pilot.episodes.rows,
    ∃ row ∈ db.verification.results.rows, PassedFor db.verification episode row ∧
      deriveCompletionBasis db.verification episode.workspaceId [row.ownerId] episode.taskId true ≠ .verified := by
  obtain ⟨db, hreachable, episode, hepisode, row, hrow, hpassed⟩ := examplePassed_passed
  have hnever := never_verified exampleHost "" exampleSettings (fun _ _ tasks => .ok tasks) hreachable
  exact ⟨db, hreachable, episode, hepisode, row, hrow, hpassed, hnever.2.1 episode hepisode _ _⟩

end OpenTimeline.Pilot
