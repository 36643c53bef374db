import OpenTimeline.Library.Transition
import OpenTimeline.TaskState.Rebuild
import OpenTimeline.TaskState.Soundness

/-! Graded verifications.

A grading of a directive writes one `VERIFICATION_RECORDED` event, stamped with the
contract revision the directive's own rows were written under, the least on the
table (`directiveContractRevision`). The event names the directive itself, so it is
such a row from the next grading on.

`graded_done_iff` says when a grading makes the task `done`: its verdict passes,
the revision it recovers is the one in force, and nothing but the verification was
missing (`Releases`). A directive no row names is never released; after its first
grading there is a row. -/
namespace OpenTimeline.TaskState
open Library

variable (host : Host)

/-! ### A grading -/

inductive Verdict
  | passed | failed | inconclusive
deriving DecidableEq, Repr

def Verdict.value : Verdict → String
  | .passed => "passed"
  | .failed => "failed"
  | .inconclusive => "inconclusive"

/-- `VERIFICATION_STATE_FOR_VERDICT` -/
def verificationStateForVerdict : Verdict → String
  | .passed => "passed"
  | .failed => "failed"
  | .inconclusive => "unverified"

def verificationMethodEvidenceGraded : String := "evidence_graded"

/-- A graded result of a directive. -/
structure Grading where
  directiveId : String
  /-- A uuid made for the grading. -/
  verificationId : {s : String // s ≠ ""}
  verdict : Verdict
  reason : String
  runnerPrincipal : String
  now : Instant
  /-- `now` as the payload keeps it. -/
  recordedAt : String

/-- The least contract revision on the rows that name the directive. -/
def directiveContractRevision (rows : List TaskStateEvent) (directiveId : String) : Int :=
  (((rows.filter fun row => row.directiveId = some directiveId).map (·.contractRevision)).min?).getD
    unknownContractRevision

/-- The plan id `stamp_verification_provenance` stamps with a revision. -/
def stampedPlanId (projection : TaskStateProjection) (revision : Int) : Json :=
  if revision = projection.contractRevision then
    match projection.plan with
    | some plan => .str plan.planId
    | none => .null
  else if 0 ≤ revision then .str (planIdFor host projection.ids.taskId revision)
  else .null

/-- `stamp_verification_provenance`, on a reference without provenance. -/
def stampVerificationProvenance (verification : Payload) (projection : TaskStateProjection)
    (directiveId : Option String) (workContractRevision : Option Int) : Payload :=
  let revision := workContractRevision.getD projection.contractRevision
  verification ++ [("contract_revision", .int revision),
    ("plan_id", stampedPlanId host projection revision), ("directive_id", directiveId.elim .null .str)]

/-- The reference `_project_graded_verification` records. -/
def gradedRef (store : TaskStore) (grading : Grading) : Payload :=
  let summary := grading.verdict.value ++ ": " ++ grading.reason
  let ref : Payload :=
    [("verification_id", .str grading.verificationId),
      ("state", .str (verificationStateForVerdict grading.verdict)),
      ("method", .str verificationMethodEvidenceGraded),
      ("recorded_at", .str grading.recordedAt),
      ("evidence_event_ids", .arr []),
      ("summary", .str (String.ofList (summary.toList.take 500)))]
  stampVerificationProvenance host ref store.row.projection (some grading.directiveId)
    (some (directiveContractRevision store.events grading.directiveId))

def gradedEvent (store : TaskStore) (grading : Grading) : TaskStateEvent where
  seq := 0
  kind := .known .verificationRecorded
  contractRevision := store.row.projection.contractRevision
  payload := gradedRef host store grading
  occurredAt := grading.now
  actor := grading.runnerPrincipal
  directiveId := some grading.directiveId

/-- `_project_graded_verification`, with task state switched on. -/
def projectGradedVerification (store : TaskStore) (grading : Grading) : Except StoreError TaskStore :=
  applyTaskStateEvents host store {
    sessionId := orElse store.row.projection.ids.sessionId store.row.projection.ids.taskId
    newEvents := [gradedEvent host store grading] }

/-! ### Runs of a task's log -/

inductive LogAction
  | write (request : WriteRequest)
  | grade (grading : Grading)

/-- Writes and gradings of a task, in any order. -/
def gradingSystem (ids : TaskIds) : System TaskStore LogAction where
  init store := store = ensureTaskState ids
  next store
    | .write request => (applyTaskStateEvents host store request).toOption
    | .grade grading => (projectGradedVerification host store grading).toOption

theorem ok_of_toOption {result : Except StoreError TaskStore} {after : TaskStore}
    (h : result.toOption = some after) : result = .ok after := by
  cases result with
  | error e => cases h
  | ok store => exact congrArg Except.ok (Option.some.inj h)

variable {host} in
theorem kept_reachable {ids : TaskIds} {store : TaskStore}
    (h : (gradingSystem host ids).Reachable store) : Kept store := by
  refine h.invariant (fun s hs => ?_) fun s action s' _ hkept hnext => ?_
  · exact (show s = _ from hs) ▸ kept_ensureTaskState ids
  · cases action with
    | write request =>
      have hok := ok_of_toOption hnext
      exact (hkept.applyTaskStateEvents host hok).1
    | grade grading =>
      have hok := ok_of_toOption hnext
      exact (hkept.applyTaskStateEvents host hok).1

/-! ### What a grading folds -/

/-- The events a grading's write folds. -/
def gradedLog (store : TaskStore) (grading : Grading) : List TaskStateEvent :=
  retainedEvents host maxTaskStateEventsPerFold (foldedEvents store [gradedEvent host store grading])

variable {host} in
/-- The grading's own event is the last one it folds. -/
theorem gradedLog_snoc {store : TaskStore} (hkept : Kept store) (grading : Grading) :
    ∃ before, gradedLog host store grading =
      before ++ [{gradedEvent host store grading with seq := store.row.highestSeq + 1}] := by
  rw [gradedLog, retainedEvents_folded hkept]
  split_ifs
  · rw [storeWindow, window, grownLog]
    simp only [stamp, newest_snoc (show 0 < tailSize maxTaskStateEventsPerFold by decide)]
    exact ⟨_, (List.append_assoc ..).symm⟩
  · exact ⟨_, rfl⟩

/-- The reference a grading records, as the fold reads it back. -/
theorem verificationFromJson_gradedRef (store : TaskStore) (grading : Grading) :
    ∃ ref, verificationFromJson host (gradedRef host store grading) = some ref ∧
      ref.state = verificationStateForVerdict grading.verdict ∧
      ref.contractRevision = directiveContractRevision store.events grading.directiveId ∧
      ref.planId = optText (stampedPlanId host store.row.projection
        (directiveContractRevision store.events grading.directiveId)) := by
  have hid : text ((gradedRef host store grading).get "verification_id") "" = grading.verificationId := rfl
  rw [verificationFromJson]
  simp only [hid, grading.verificationId.property, if_false]
  refine ⟨_, rfl, ?_, rfl, rfl⟩
  show orElse (verificationStateForVerdict grading.verdict) "unverified" = _
  cases grading.verdict <;> rfl

/-! ### Done -/

/-- The verification a grading records is all its task was waiting for: the verdict passes,
the revision recovered for the directive is the one in force over the events the write
folds, and a plan of that contract is worked off, with no effect open. -/
structure Releases (store : TaskStore) (grading : Grading) (plan : ApprovedPlan) : Prop where
  passed : grading.verdict = .passed
  recovered : directiveContractRevision store.events grading.directiveId =
    changes none (gradedLog host store grading)
  live : Live (foldEvents host store.row.projection.ids.taskId (gradedLog host store grading)).parts plan
  finished : rootStatus host plan.steps = .done
  settled : (foldEvents host store.row.projection.ids.taskId
    (gradedLog host store grading)).parts.unresolvedEffects = []
  names : optText (stampedPlanId host store.row.projection
    (directiveContractRevision store.events grading.directiveId)) = some plan.planId

variable {host} in
/-- A grading makes its task `done` exactly when it releases it. -/
theorem graded_done_iff {store after : TaskStore} (hkept : Kept store) {grading : Grading}
    (hok : projectGradedVerification host store grading = .ok after) :
    after.row.projection.status = .done ↔ ∃ plan, Releases host store grading plan := by
  obtain ⟨ref, hdecoded, hstate, hcontract, hplan⟩ := verificationFromJson_gradedRef host store grading
  obtain ⟨before, hlog⟩ := gradedLog_snoc hkept grading
  have hlatest : (foldEvents host store.row.projection.ids.taskId
      (gradedLog host store grading)).latestVerification = some ref := by
    rw [hlog, foldEvents_snoc, foldStep_verification]
    simp only [verificationStep, gradedEvent, hdecoded, Option.some_or]
  have hstatus : after.row.projection.status = (deriveStatus host (foldEvents host
      store.row.projection.ids.taskId (gradedLog host store grading)).parts).1 :=
    congrArg TaskStateProjection.status (stored_eq hok).1
  have hrevision := foldEvents_contractRevision host store.row.projection.ids.taskId
    (gradedLog host store grading)
  rw [hstatus, deriveStatus_done_iff]
  constructor
  · rintro ⟨plan, other, hlive, hfinished, hsettled, hother, hpassed, hcurrent, hnames⟩
    obtain rfl : ref = other := Option.some.inj (hlatest.symm.trans hother)
    refine ⟨plan, ?_, ?_, hlive, hfinished, hsettled, hplan.symm.trans hnames⟩
    · rw [hstate] at hpassed
      cases hverdict : grading.verdict <;> rw [hverdict] at hpassed <;> revert hpassed <;> decide
    · rw [← hcontract, hcurrent]
      exact hrevision
  · rintro ⟨plan, hpassed, hrecovered, hlive, hfinished, hsettled, hnames⟩
    refine ⟨plan, ref, hlive, hfinished, hsettled, hlatest, ?_, ?_, hplan.trans hnames⟩
    · rw [hstate, hpassed]
      decide
    · rw [hcontract, hrecovered]
      exact hrevision.symm

/-- A directive that no row names is not released: there is no revision to recover. -/
theorem not_releases_of_no_row {store : TaskStore} {grading : Grading} {plan : ApprovedPlan}
    (h : ∀ row ∈ store.events, row.directiveId ≠ some grading.directiveId) :
    ¬ Releases host store grading plan := by
  intro hreleases
  have hnone : directiveContractRevision store.events grading.directiveId = unknownContractRevision := by
    rw [directiveContractRevision, List.filter_eq_nil_iff.mpr (by simpa using h)]
    rfl
  have hrecovered := hreleases.recovered
  rw [hnone, unknownContractRevision] at hrecovered
  omega

/-! ### Runs -/

/-- A run of a task's log grades the directive, and finds this store there. -/
def GradedAt (ids : TaskIds) (directiveId : String) (actions : List LogAction) (store : TaskStore)
    (grading : Grading) : Prop :=
  grading.directiveId = directiveId ∧ ∃ before after, actions = before ++ .grade grading :: after ∧
    (gradingSystem host ids).run (ensureTaskState ids) before = some store

/-- In any run no grading of a directive makes the task `done` exactly when none of them
releases it; the first grading of a directive that no row names never does. -/
theorem gradings_done_iff (ids : TaskIds) (directiveId : String) (actions : List LogAction) :
    ((∀ store grading, GradedAt host ids directiveId actions store grading →
        ∀ graded, projectGradedVerification host store grading = .ok graded →
          graded.row.projection.status ≠ .done) ↔
      ∀ store grading, GradedAt host ids directiveId actions store grading →
        ∀ plan, ¬ Releases host store grading plan) ∧
    ∀ store grading, GradedAt host ids directiveId actions store grading →
      (∀ row ∈ store.events, row.directiveId ≠ some directiveId) →
        ∀ plan, ¬ Releases host store grading plan := by
  have hkept : ∀ store grading, GradedAt host ids directiveId actions store grading → Kept store := by
    rintro store grading ⟨_, before, _, _, hrun⟩
    exact kept_reachable ((System.Reachable.init rfl).run hrun)
  refine ⟨⟨fun hnever store grading hgraded plan hreleases => ?_,
    fun hnone store grading hgraded graded hok hdone => ?_⟩, fun store grading hgraded hrows plan => ?_⟩
  · obtain ⟨graded, hok⟩ : ∃ graded, projectGradedVerification host store grading = .ok graded :=
      (hkept store grading hgraded).succeeds host rfl
    exact hnever store grading hgraded graded hok
      ((graded_done_iff (hkept store grading hgraded) hok).mpr ⟨plan, hreleases⟩)
  · obtain ⟨plan, hreleases⟩ := (graded_done_iff (hkept store grading hgraded) hok).mp hdone
    exact hnone store grading hgraded plan hreleases
  · exact not_releases_of_no_row host (hgraded.1 ▸ hrows)

/-- An objective, and a plan for it already worked off. -/
def workedOff : WriteRequest where
  sessionId := "s"
  newEvents := doneLog.take 2

def passingGrade : Grading where
  directiveId := "d"
  verificationId := ⟨"v", by decide⟩
  verdict := .passed
  reason := ""
  runnerPrincipal := "runner"
  now := epoch
  recordedAt := ""

/-- A directive that no row names passes twice: the second grading takes the first one's own
event for its evidence, and the task is `done`. -/
theorem graded_twice_done :
    let after := fun actions => (gradingSystem (asciiHost [] []) exampleIds).run
      (ensureTaskState exampleIds) actions
    (after [.write workedOff]).map (fun store => store.events.map (·.directiveId)) = some [none, none] ∧
      (after [.write workedOff, .grade passingGrade]).map (·.row.projection.status) =
        some .awaitingVerification ∧
      (after [.write workedOff, .grade passingGrade, .grade passingGrade]).map
        (·.row.projection.status) = some .done := by
  decide

end OpenTimeline.TaskState
