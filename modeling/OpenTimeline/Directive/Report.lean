import OpenTimeline.Handoff.Delivery
import OpenTimeline.Library.Answers
import OpenTimeline.Directive.Permits

/-! A report, commit by commit.

`report_execution` writes the terminal state, the completion of the outbox and the next attempt in one
transaction, and what it answers in the last of several that follow. A report of a directive that is
terminal is answered from that record, and refused where there is none. So whatever a delivery of the
report does comes from its first commit, once (`report_once`), but one that stops between its first and its
last commit leaves a directive whose report is refused from then on. -/
namespace OpenTimeline.Directive
open Library Handoff

/-! ### Retries -/

inductive FailureClass
  | toolError | timeout | validationFailure | constraintBlock | safetyBlock | unknown
deriving DecidableEq, Repr

inductive RetryStrategy
  | narrowScope | readOnlyDiagnose | alternatePath | rollbackThenRetry | escalate
deriving DecidableEq, Repr

def retryStrategyForAttempt (attempt : Int) (failureClass : FailureClass) (rollbackAvailable : Bool) : RetryStrategy :=
  if attempt ≤ 1 then .narrowScope
  else if attempt = 2 then
    if failureClass ∈ [FailureClass.toolError, .timeout, .unknown] then .readOnlyDiagnose else .alternatePath
  else if attempt = 3 ∧ rollbackAvailable then .rollbackThenRetry
  else .escalate

structure RetrySettings where
  takeoverRetryEnabled : Bool
  takeoverRetryMaxAttempts : Int
  takeoverRetryWindowLimit : Int
  takeoverRetryWindowMinutes : Int
deriving DecidableEq, Repr

/-! ### Rows -/

/-- `meta["report_result"]` -/
structure ReportResult where
  retryScheduled : Bool
  retryDirectiveId : Option String
  failureClass : Option FailureClass
  retryStrategy : Option RetryStrategy
deriving DecidableEq, Repr

/-- A row of `directive_executions`, with what a report writes and reads of it. -/
structure ReportedDirective extends SessionDirective where
  failureClass : Option FailureClass
  retryStrategy : Option RetryStrategy
  reportIdempotencyKey : Option String
  reportPayloadHash : Option String
  /-- `meta["retry_of"]` -/
  retryOf : Option String
  reportResult : Option ReportResult
deriving DecidableEq, Repr

structure ReportDatabase where
  directives : Table fun d : ReportedDirective => d.directiveId
  permits : Table PermitRow.id
  handoffs : Handoff.Database

/-! ### The report and its deliveries -/

/-- What every delivery of one report has: the caller, and the body. -/
structure ExecutionReport where
  auth : AuthContext
  sessionId : String
  directiveId : String
  state : DirectiveState
  leaseGeneration : Option Nat
  idempotencyKey : Option String
  /-- `report_payload_fingerprint` -/
  payloadHash : String
  validationErrors : List String
  /-- `classify_failure` -/
  failureClass : FailureClass
  rollbackAvailable : Bool
  /-- the keys of the details that go over those of `meta` -/
  detailsRetryOf : Option String
  detailsReportResult : Option ReportResult
  /-- `completion_payload_fingerprint` -/
  milestoneHash : String

/-- One delivery of a report. -/
structure Delivery where
  settings : Settings
  retry : RetrySettings
  now : Datetime
  /-- `pause_guard_for_session` -/
  paused : Bool
  newRetryId : String
  newOutboxId : String
  newEventId : String
  newRecordId : String
  retentionDays : Int
  deliveredAt : Instant
  failedAt : Instant
  raises : Statement → Option String
  /-- how many commits there are before the call stops, by a crash or an exception -/
  reached : Nat

/-- The delivery of the completion. -/
def Delivery.handOff (delivery : Delivery) (outboxId : String) (db : ReportDatabase) : ReportDatabase :=
  {db with handoffs := (deliverHandoffSafely ⟨outboxId, delivery.retentionDays, delivery.deliveredAt, delivery.failedAt,
    delivery.raises⟩ db.handoffs).1}

structure ReportAnswer where
  state : DirectiveState
  result : ReportResult
  idempotentReplay : Bool
  leaseGeneration : Nat
deriving DecidableEq, Repr

namespace ExecutionReport
variable (report : ExecutionReport)

def key : Option String := filled (report.idempotencyKey.map strip)

/-- A 409 with the reason of its detail. -/
def rejected {α : Type} (reason message : String) : Except Failure α :=
  .error (.http 409 [("reason", .str reason), ("directive_id", .str report.directiveId), ("message", .str message)])

/-- The answer to a report of a terminal directive. -/
def replay (d : ReportedDirective) : Except Failure ReportAnswer :=
  match d.reportResult with
  | none => report.rejected "terminal" "directive already terminal"
  | some prior =>
    let answer : ReportAnswer := ⟨d.state, prior, true, d.leaseGeneration⟩
    if d.claimedExecutor ≠ none ∧ d.claimedExecutor ≠ some report.auth.consumer then
      report.rejected "claimed_by_other" "directive is claimed by another executor"
    else match report.key with
      | none => .ok answer
      | some key =>
        if d.reportIdempotencyKey ≠ none ∧ d.reportIdempotencyKey ≠ some key then
          report.rejected "idempotency_key_mismatch" "directive already terminal under a different idempotency key"
        else if d.reportPayloadHash ≠ none ∧ d.reportPayloadHash ≠ some report.payloadHash then
          report.rejected "idempotency_conflict" "same idempotency key with a different payload"
        else .ok answer

def directive (db : ReportDatabase) : Option ReportedDirective :=
  (db.directives.find report.directiveId).filter fun d =>
    d.sessionId = report.sessionId && d.workspaceId = report.auth.workspaceId && d.userId = report.auth.userId

def request (now : Datetime) (db : ReportDatabase) (d : ReportedDirective) : ReportRequest where
  executorId := report.auth.consumer
  state := report.state
  leaseGeneration := report.leaseGeneration
  now := now
  permit := (d.permitId.bind fun permitId => (db.permits.find permitId).filter fun permit =>
    permit.workspaceId = report.auth.workspaceId).map (·.read)
  validationErrors := report.validationErrors

/-- `completion_key` -/
def completionKey (state : DirectiveState) : String := "directive:" ++ report.directiveId ++ ":" ++ state.value

variable (delivery : Delivery)

/-- What a report of a failure says of the next attempt. -/
def strategy (state : DirectiveState) (d : ReportedDirective) : Option RetryStrategy :=
  if state ∈ [DirectiveState.failed, .blocked, .abandoned] ∧ !delivery.paused then
    some (retryStrategyForAttempt (d.attempt + 1) report.failureClass report.rollbackAvailable)
  else none

/-- The directives that are open in the session since the start of the window. -/
def openCount (directives : Table fun d : ReportedDirective => d.directiveId) : Nat :=
  let start := subSeconds delivery.now ((max 1 delivery.retry.takeoverRetryWindowMinutes).toNat * 60)
  (directives.rows.filter fun d => d.sessionId = report.sessionId && d.workspaceId = report.auth.workspaceId &&
    d.userId = report.auth.userId && start.instant ≤ d.createdAt.instant && d.state ∈ [DirectiveState.pending, .inProgress]).length

/-- The next attempt is minted. -/
def retries (state : DirectiveState) (d : ReportedDirective) (directives : Table fun d : ReportedDirective => d.directiveId) :
    Bool :=
  delivery.retry.takeoverRetryEnabled && !delivery.paused && state ∈ [DirectiveState.failed, .blocked] &&
    d.attempt < delivery.retry.takeoverRetryMaxAttempts &&
    report.strategy delivery state d ∉ [none, some RetryStrategy.escalate] &&
    (report.openCount delivery directives : Int) < delivery.retry.takeoverRetryWindowLimit

/-- The row of the next attempt. -/
def retryRow (state : DirectiveState) (d : ReportedDirective) : ReportedDirective :=
  { d with
    state := .pending
    claimedExecutor := none
    leaseGeneration := 0
    directiveId := delivery.newRetryId
    permitId := none
    claimedBy := none
    startedAt := none
    expiresAt := none
    leaseExpiresAt := none
    createdAt := delivery.now
    updatedAt := delivery.now
    attempt := d.attempt + 1
    failureClass := none
    retryStrategy := (report.strategy delivery state d).or (some .narrowScope)
    reportIdempotencyKey := none
    reportPayloadHash := none
    retryOf := some report.directiveId
    reportResult := none }

/-- The directive's row under the fenced UPDATE of a report. -/
def mark (update : FencedUpdate) (failureClass : Option FailureClass) (retryStrategy : Option RetryStrategy)
    (retryOf : Option String) (reportResult : Option ReportResult) (row : ReportedDirective) : ReportedDirective :=
  { row with
    toDirectiveExecution := update.set row.toDirectiveExecution
    failureClass, retryStrategy
    reportIdempotencyKey := report.key
    reportPayloadHash := some report.payloadHash
    retryOf := retryOf.or row.retryOf
    reportResult := reportResult.or row.reportResult }

theorem mark_directiveId (update : FencedUpdate) (failureClass : Option FailureClass) (retryStrategy : Option RetryStrategy)
    (retryOf : Option String) (reportResult : Option ReportResult) (row : ReportedDirective) :
    (report.mark update failureClass retryStrategy retryOf reportResult row).directiveId = row.directiveId :=
  update.set_directiveId _

/-- The directives under that UPDATE. -/
def marked (update : FencedUpdate) (failureClass : Option FailureClass) (retryStrategy : Option RetryStrategy)
    (retryOf : Option String) (reportResult : Option ReportResult) (db : ReportDatabase) :
    Table fun d : ReportedDirective => d.directiveId :=
  db.directives.updateWhere (fun row => row.directiveId = report.directiveId)
    (report.mark update failureClass retryStrategy retryOf reportResult) (report.mark_directiveId update _ _ _ _)

/-- The completion of the outbox. -/
def handoff (state : DirectiveState) : HandoffCall where
  workspaceId := report.auth.workspaceId
  ownerId := report.auth.userId
  sessionId := report.sessionId
  completionKey := report.completionKey state
  payloadHash := some report.milestoneHash
  now := delivery.now.instant
  newId := delivery.newOutboxId
  directiveId := some report.directiveId
  terminalState := state.value
  source := "native"
  executorId := some report.auth.consumer
  newEventId := delivery.newEventId
  newRecordId := delivery.newRecordId

/-- The report's last commit. -/
def record (result : ReportResult) (db : ReportDatabase) : ReportDatabase :=
  { db with
    directives := db.directives.updateWhere (fun row => row.directiveId = report.directiveId)
      (fun row => {row with reportResult := some result}) fun _ => rfl }

/-- What an accepted report answers, and the commits it makes, in order. Three of them write other tables only. -/
def commits (state : DirectiveState) (update : FencedUpdate) (db : ReportDatabase) (d : ReportedDirective) :
    Except Failure (ReportResult × List (ReportDatabase → ReportDatabase)) :=
  if report.state ∈ cancellationStates then
    let result : ReportResult := ⟨false, none, none, none⟩
    .ok (result, [fun db => {db with
      directives := report.marked update d.failureClass d.retryStrategy none (some result) db }])
  else
    let strategy := report.strategy delivery state d
    let failureClass := if state ∈ [DirectiveState.failed, .blocked, .abandoned] then some report.failureClass else none
    let marked := report.marked update failureClass strategy report.detailsRetryOf report.detailsReportResult db
    match enqueueHandoff (report.handoff delivery state) db.handoffs with
    | .error .insertFailed => .error (.runtimeError "handoff outbox insert failed")
    | .error (.conflict _) => .error (.raised .valueError)
    | .ok (handoffs, completion) =>
      let minted := report.retries delivery state d marked
      let result : ReportResult :=
        ⟨minted, if minted then some delivery.newRetryId else none, failureClass, strategy⟩
      let later (directives : Table fun d : ReportedDirective => d.directiveId) : List (ReportDatabase → ReportDatabase) :=
        [fun db => {db with directives, handoffs}, id, id, delivery.handOff completion.id, id, report.record result]
      if minted then
        match marked.insert (report.retryRow delivery state d) with
        | none => .error .integrityError
        | some directives => .ok (result, later directives)
      else .ok (result, later marked)

/-- `report_execution`: a call that stops before its last commit answers nothing. -/
def deliver (db : ReportDatabase) : ReportDatabase × Option (Except Failure ReportAnswer) :=
  match report.directive db with
  | none => (db, some (.error (.http 404 [("detail", .str "directive not found")])))
  | some d =>
    let request := report.request delivery.now db d
    match reportExecution delivery.settings request d.toDirectiveExecution with
    | .refused reason message => (db, some (report.rejected (reason.getD "") message))
    | .raised e => (db, some (.error (.raised e)))
    | .unchanged => (db, some (report.replay d))
    | .writes update =>
      if (update.apply d.toDirectiveExecution).isNone then
        (db, some (report.rejected "concurrent_update" "directive changed concurrently; re-read and retry"))
      else match report.commits delivery request.written update db d with
        | .error e => (db, some (.error e))
        | .ok (result, commits) => ((commits.take delivery.reached).foldl (fun db commit => commit db) db,
          if commits.length ≤ delivery.reached then some (.ok ⟨request.written, result, false, d.leaseGeneration⟩) else none)

end ExecutionReport

/-! ### What the commits keep -/

/-- What a delivery of the completion leaves: the completions of the outbox. -/
theorem deliver_completions (call : DeliverCall) (db : Handoff.Database) :
    (deliverHandoffSafely call db).1.outbox.rows.map HandoffRow.completion = db.outbox.rows.map HandoffRow.completion := by
  have hdelivers (row : HandoffRow) : (call.delivers row db).outbox.rows.map HandoffRow.completion =
      db.outbox.rows.map HandoffRow.completion := by
    rw [delivers_outbox]
    exact db.outbox.map_updateWhere fun _ => rfl
  have hrecord (error : String) (db : Handoff.Database) :
      (recordFailure call error (.opened db)).1.committed.outbox.rows.map HandoffRow.completion =
        db.outbox.rows.map HandoffRow.completion := by
    obtain hsame | ⟨row, _, _, hfails⟩ := recordFailure_cases call db error
    · rw [hsame]
    · rw [hfails]
      dsimp only [DeliverCall.fails, Handoff.Database.updateRow]
      exact db.outbox.map_updateWhere fun _ => rfl
  unfold deliverHandoffSafely
  generalize hrun : deliverHandoff call (.opened db) = ran
  obtain ⟨c, result⟩ := ran
  obtain ⟨error, hresult, hrollback, _⟩ | ⟨row, hresult, hcommitted⟩ | ⟨row, _, _, _, hdelivered, _⟩ :=
    deliverHandoff_cases call db
  · rw [hrun] at hresult hrollback
    subst hresult
    dsimp only at hrollback ⊢
    rw [hrollback]
    exact hrecord error db
  · rw [hrun] at hresult hcommitted
    subst hresult
    exact congrArg (fun db : Handoff.Database => db.outbox.rows.map HandoffRow.completion) hcommitted
  · rw [hrun] at hdelivered
    dsimp only at hdelivered
    subst hdelivered
    cases result with
    | error error =>
      exact (hrecord error (call.delivers row db)).trans (hdelivers row)
    | ok delivered => exact hdelivers row

theorem enqueue_completions {call : HandoffCall} {db db' : Handoff.Database} {row : HandoffRow}
    (h : enqueueHandoff call db = .ok (db', row)) :
    db'.outbox.rows.map HandoffRow.completion = db.outbox.rows.map HandoffRow.completion ∨
      (call.completion ∉ db.outbox.rows.map HandoffRow.completion ∧
        db'.outbox.rows.map HandoffRow.completion = db.outbox.rows.map HandoffRow.completion ++ [call.completion]) := by
  have hdb : db' = call.inserted db := by
    unfold enqueueHandoff at h
    dsimp only at h
    split at h
    · cases h
    · split_ifs at h
      cases h
      rfl
  rw [hdb]
  unfold HandoffCall.inserted
  by_cases hany : db.outbox.rows.any (fun row => call.isOf row.toOutboxRow) = true
  · rw [if_pos hany]
    exact Or.inl rfl
  rw [if_neg hany]
  have hfresh : call.completion ∉ db.outbox.rows.map HandoffRow.completion := by
    intro hmem
    obtain ⟨row, hrow, hsame⟩ := List.mem_map.mp hmem
    exact hany (List.any_eq_true.mpr ⟨row, hrow, HandoffCall.isOf_iff.mpr hsame⟩)
  cases hinsert : db.outbox.insert call.row with
  | none => exact Or.inl rfl
  | some outbox =>
    refine Or.inr ⟨hfresh, ?_⟩
    show outbox.rows.map HandoffRow.completion = _
    rw [Table.insert_eq_some hinsert, List.map_append]
    rfl

theorem reportExecution_set {settings : Settings} {request : ReportRequest} {seen : DirectiveExecution} {update : FencedUpdate}
    (h : reportExecution settings request seen = .writes update) :
    update.set = fun row => {row with state := request.written, updatedAt := request.now} := by
  unfold reportExecution at h
  by_cases hterminal : seen.state.isTerminal
  · rw [if_pos hterminal] at h
    cases h
  rw [if_neg hterminal] at h
  dsimp only at h
  split_ifs at h with hrefused hcancel
  · unfold TransitionDecision.refused at h
    split_ifs at h
  · cases h
    simp [ReportRequest.written, hcancel]
  · cases h
    simp [ReportRequest.written, hcancel]

/-! ### One delivery -/

namespace ExecutionReport
variable {report : ExecutionReport} {delivery : Delivery} {db : ReportDatabase} {d : ReportedDirective}

/-- The state an accepted report writes. -/
def written (report : ExecutionReport) : DirectiveState :=
  if report.state ∈ cancellationStates then report.state
  else if report.validationErrors ≠ [] then .failed else report.state

theorem request_written : (report.request delivery.now db d).written = report.written := rfl

/-- An accepted report of work in progress leaves it in progress or ends it. -/
theorem written_of_allowed (h : ((report.request delivery.now db d).decision delivery.settings d.toDirectiveExecution).allowed)
    (hprogress : d.state = .inProgress) : report.written = .inProgress ∨ report.written.isTerminal := by
  obtain ⟨t, ht⟩ := grantedBy_of_allowed h
  have hrequested : t.target = report.state := ht.target
  have hsource : t.source = .inProgress := ht.source.trans hprogress
  have hstate : report.state ≠ .pending := by
    intro hpending
    obtain ⟨-, htarget⟩ | hforward := (mem_allowedTransitions ht.mem).forward
    · rw [hrequested, hpending] at htarget
      cases htarget
    · rw [hrequested, hpending, hsource] at hforward
      exact absurd hforward (by decide)
  unfold written
  split_ifs
  · revert hstate
    cases report.state <;> decide
  · exact Or.inr (by decide)
  · revert hstate
    cases report.state <;> decide

/-- An UPDATE of the directive that leaves its owner. -/
theorem directive_updateWhere {f : ReportedDirective → ReportedDirective} {hf : ∀ row, (f row).directiveId = row.directiveId}
    {handoffs : Handoff.Database}
    (hscope : ∀ row, (f row).sessionId = row.sessionId ∧ (f row).workspaceId = row.workspaceId ∧ (f row).userId = row.userId) :
    report.directive {db with
        directives := db.directives.updateWhere (fun row => row.directiveId = report.directiveId) f hf, handoffs } =
      (report.directive db).map f := by
  simp only [directive]
  rw [Table.find_updateWhere]
  cases hfind : db.directives.find report.directiveId with
  | none => rfl
  | some row =>
    have hid : row.directiveId = report.directiveId := (Table.find_eq_some_iff.mp hfind).2
    obtain ⟨hsession, hworkspace, huser⟩ := hscope row
    simp only [Option.map_some, hid, decide_true, if_true, Option.filter_some, hsession, hworkspace, huser]
    split_ifs <;> rfl

/-- The completion of a report, whichever delivery it comes in. -/
def completion (report : ExecutionReport) : Completion :=
  ⟨report.auth.workspaceId, report.auth.userId, String.ofList ((report.completionKey report.written).toList.take 240)⟩

theorem handoff_completion : (report.handoff delivery report.written).completion = report.completion := rfl

/-- The outbox has at most the report's completion more. -/
def Completes (report : ExecutionReport) (before after : Handoff.Database) : Prop :=
  after.outbox.rows.map HandoffRow.completion = before.outbox.rows.map HandoffRow.completion ∨
    (report.completion ∉ before.outbox.rows.map HandoffRow.completion ∧
      after.outbox.rows.map HandoffRow.completion = before.outbox.rows.map HandoffRow.completion ++ [report.completion])

theorem Completes.trans {first second third : Handoff.Database} (h : report.Completes first second)
    (h' : report.Completes second third) : report.Completes first third := by
  unfold Completes at h h' ⊢
  obtain hsame | ⟨hfresh, hadded⟩ := h
  · rwa [hsame] at h'
  obtain hsame | ⟨hagain, -⟩ := h'
  · exact Or.inr ⟨hfresh, hsame.trans hadded⟩
  · exact absurd (by simp [hadded]) hagain

/-- The row has the report on record, and its result. -/
structure Recorded (report : ExecutionReport) (result : ReportResult) (d : ReportedDirective) : Prop where
  holder : d.claimedExecutor = some report.auth.consumer
  key : d.reportIdempotencyKey = report.key
  payloadHash : d.reportPayloadHash = some report.payloadHash
  result : d.reportResult = some result

/-- A report on record is answered from the record. -/
theorem Recorded.replay {result : ReportResult} (h : report.Recorded result d) :
    report.replay d = .ok ⟨d.state, result, true, d.leaseGeneration⟩ := by
  unfold ExecutionReport.replay
  simp only [h.result, h.holder, h.key, h.payloadHash]
  cases report.key <;> simp

/-- Where all the commits of an accepted report lead. -/
structure Carried (report : ExecutionReport) (result : ReportResult) (db db' : ReportDatabase) : Prop where
  directive : ∃ d, report.directive db' = some d ∧ d.state = report.written ∧ report.Recorded result d
  ids : db'.directives.rows.map (·.directiveId) =
    db.directives.rows.map (·.directiveId) ++ result.retryDirectiveId.toList
  completions : report.Completes db.handoffs db'.handoffs
  scheduled : result.retryScheduled = result.retryDirectiveId.isSome
  ended : report.written = .inProgress → result.retryDirectiveId = none

theorem directive_record {result : ReportResult} (h : report.directive db = some d) :
    report.directive (report.record result db) = some {d with reportResult := some result} := by
  dsimp only [record]
  rw [directive_updateWhere, h]
  · rfl
  · exact fun _ => ⟨rfl, rfl, rfl⟩

theorem record_ids {result : ReportResult} : (report.record result db).directives.rows.map (·.directiveId) =
    db.directives.rows.map (·.directiveId) := by
  dsimp only [record]
  exact db.directives.map_updateWhere fun _ => rfl

/-- A row more leaves the directive as it is. -/
theorem directive_insert {db' : ReportDatabase} {row : ReportedDirective} (h : report.directive db = some d)
    (hinsert : db.directives.insert row = some db'.directives) : report.directive db' = some d := by
  obtain ⟨hfind, hscope⟩ := Option.filter_eq_some_iff.mp h
  exact Option.filter_eq_some_iff.mpr ⟨Table.find_insert_of_find hinsert hfind, hscope⟩

/-- What the commits of an accepted report are. -/
theorem commits_cases {state : DirectiveState} {update : FencedUpdate} {result : ReportResult}
    {steps : List (ReportDatabase → ReportDatabase)} (h : report.commits delivery state update db d = .ok (result, steps)) :
    (report.state ∈ cancellationStates ∧ result = ⟨false, none, none, none⟩ ∧ steps = [fun db => {db with
        directives := report.marked update d.failureClass d.retryStrategy none (some result) db }]) ∨
      report.state ∉ cancellationStates ∧ ∃ failureClass handoffs completion directives,
        enqueueHandoff (report.handoff delivery state) db.handoffs = .ok (handoffs, completion) ∧
        steps = [fun db => {db with directives, handoffs}, id, id, delivery.handOff completion.id, id,
          report.record result] ∧
        let marked := report.marked update failureClass (report.strategy delivery state d) report.detailsRetryOf
          report.detailsReportResult db
        result.retryScheduled = report.retries delivery state d marked ∧
        (report.retries delivery state d marked = false ∧ result.retryDirectiveId = none ∧ directives = marked ∨
          report.retries delivery state d marked = true ∧ result.retryDirectiveId = some delivery.newRetryId ∧
            marked.insert (report.retryRow delivery state d) = some directives) := by
  unfold ExecutionReport.commits at h
  by_cases hcancel : report.state ∈ cancellationStates
  · rw [if_pos hcancel] at h
    simp only [Except.ok.injEq, Prod.mk.injEq] at h
    obtain ⟨rfl, rfl⟩ := h
    exact Or.inl ⟨hcancel, rfl, rfl⟩
  rw [if_neg hcancel] at h
  dsimp only at h
  split at h
  · cases h
  · cases h
  rename_i handoffs completion henqueue
  refine Or.inr ⟨hcancel, ?_⟩
  generalize (if state ∈ [DirectiveState.failed, .blocked, .abandoned] then some report.failureClass
    else none) = failureClass at h
  cases hminted : report.retries delivery state d (report.marked update failureClass (report.strategy delivery state d)
      report.detailsRetryOf report.detailsReportResult db) with
  | false =>
    rw [hminted, if_neg Bool.false_ne_true, if_neg Bool.false_ne_true] at h
    simp only [Except.ok.injEq, Prod.mk.injEq] at h
    obtain ⟨rfl, rfl⟩ := h
    exact ⟨failureClass, handoffs, completion, _, henqueue, rfl, hminted.symm, Or.inl ⟨hminted, rfl, rfl⟩⟩
  | true =>
    rw [hminted, if_pos rfl, if_pos rfl] at h
    split at h
    · cases h
    rename_i directives hinsert
    simp only [Except.ok.injEq, Prod.mk.injEq] at h
    obtain ⟨rfl, rfl⟩ := h
    exact ⟨failureClass, handoffs, completion, directives, henqueue, rfl, hminted.symm, Or.inr ⟨hminted, rfl, hinsert⟩⟩

theorem commits_carried {update : FencedUpdate} {result : ReportResult} {steps : List (ReportDatabase → ReportDatabase)}
    (h : report.commits delivery report.written update db d = .ok (result, steps)) (hd : report.directive db = some d)
    (hholder : d.claimedExecutor = some report.auth.consumer)
    (hset : update.set = fun row => {row with state := report.written, updatedAt := delivery.now}) :
    steps.length = (if report.state ∈ cancellationStates then 1 else 6) ∧
      report.Carried result db (steps.foldl (fun db commit => commit db) db) := by
  -- the directive's row under the first commit
  have hmarked (failureClass retryStrategy retryOf reportResult) (handoffs : Handoff.Database) :
      report.directive {db with
          directives := report.marked update failureClass retryStrategy retryOf reportResult db, handoffs } =
        some (report.mark update failureClass retryStrategy retryOf reportResult d) := by
    unfold marked
    rw [directive_updateWhere, hd, Option.map_some]
    refine fun row => ⟨rfl, rfl, ?_⟩
    simp only [mark, hset]
  have hids (failureClass retryStrategy retryOf reportResult) :
      (report.marked update failureClass retryStrategy retryOf reportResult db).rows.map (·.directiveId) =
        db.directives.rows.map (·.directiveId) := by
    unfold marked
    exact db.directives.map_updateWhere (report.mark_directiveId update _ _ _ _)
  obtain ⟨hcancel, rfl, rfl⟩ | ⟨hcancel, failureClass, handoffs, completion, directives, henqueue, rfl, hscheduled, hminted⟩ :=
    commits_cases h
  · refine ⟨by rw [if_pos hcancel]; rfl, ⟨⟨_, hmarked _ _ _ _ _, ?_, ?_, rfl, rfl, rfl⟩, ?_, Or.inl rfl, rfl, fun _ => rfl⟩⟩
    · simp only [mark, hset]
    · simpa only [mark, hset] using hholder
    exact (hids _ _ _ _).trans (List.append_nil _).symm
  -- the completion, over its delivery
  have hcompletes (db' : ReportDatabase) (hhandoffs : db'.handoffs = handoffs) :
      report.Completes db.handoffs (report.record result (delivery.handOff completion.id db')).handoffs := by
    unfold Completes
    dsimp only [record, Delivery.handOff]
    rw [deliver_completions, hhandoffs]
    exact enqueue_completions henqueue
  obtain ⟨hnone, hretry, rfl⟩ | ⟨hsome, hretry, hinsert⟩ := hminted
  · refine ⟨by rw [if_neg hcancel]; rfl, ⟨⟨_, directive_record (hmarked _ _ _ _ _), ?_, ?_, rfl, rfl, rfl⟩, ?_,
      hcompletes _ rfl, ?_, fun _ => hretry⟩⟩
    · simp only [mark, hset]
    · simpa only [mark, hset] using hholder
    · rw [hretry]
      exact (record_ids.trans (hids _ _ _ _)).trans (List.append_nil _).symm
    · rw [hscheduled, hnone, hretry]
      rfl
  · refine ⟨by rw [if_neg hcancel]; rfl, ⟨⟨_, directive_record (directive_insert (hmarked _ _ _ _ handoffs) hinsert),
      ?_, ?_, rfl, rfl, rfl⟩, ?_, hcompletes _ rfl, ?_, fun hprogress => ?_⟩⟩
    · simp only [mark, hset]
    · simpa only [mark, hset] using hholder
    · refine record_ids.trans ?_
      show directives.rows.map (·.directiveId) = _
      rw [Table.insert_eq_some hinsert, List.map_append, hids, hretry]
      rfl
    · rw [hscheduled, hsome, hretry]
      rfl
    · simp [retries, hprogress] at hsome

theorem deliver_terminal (hd : report.directive db = some d) (hterminal : d.state.isTerminal) :
    report.deliver delivery db = (db, some (report.replay d)) := by
  unfold deliver
  rw [hd]
  simp only [reportExecution, hterminal, if_true]

/-- The delivery stops before its first commit, or makes all of them. -/
def Whole (report : ExecutionReport) (delivery : Delivery) : Prop :=
  report.state ∈ cancellationStates ∨ delivery.reached = 0 ∨ 6 ≤ delivery.reached

instance : Decidable (report.Whole delivery) := inferInstanceAs (Decidable (_ ∨ _))

theorem deliver_cases (hwhole : report.Whole delivery) (hd : report.directive db = some d) (hprogress : d.state = .inProgress)
    (hholder : d.claimedExecutor = some report.auth.consumer) :
    (report.deliver delivery db).1 = db ∨
      (report.written = .inProgress ∨ report.written.isTerminal) ∧
        ∃ result, report.Carried result db (report.deliver delivery db).1 := by
  unfold deliver
  rw [hd]
  dsimp only
  cases hreply : reportExecution delivery.settings (report.request delivery.now db d) d.toDirectiveExecution with
  | refused | raised | unchanged => exact Or.inl rfl
  | writes update =>
    dsimp only
    by_cases happly : (update.apply d.toDirectiveExecution).isNone = true
    · rw [if_pos happly]
      exact Or.inl rfl
    rw [if_neg happly, request_written]
    cases hcommits : report.commits delivery report.written update db d with
    | error => exact Or.inl rfl
    | ok accepted =>
      obtain ⟨result, steps⟩ := accepted
      obtain ⟨hallowed, -⟩ := reportExecution_writes hreply
      obtain ⟨hlength, hcarried⟩ := commits_carried hcommits hd hholder (reportExecution_set hreply)
      dsimp only
      by_cases hnone : delivery.reached = 0
      · rw [hnone]
        exact Or.inl rfl
      refine Or.inr ⟨written_of_allowed hallowed hprogress, result, ?_⟩
      have hall : steps.length ≤ delivery.reached := by
        rw [hlength]
        obtain hcancel | hzero | hsix := hwhole
        · rw [if_pos hcancel]
          omega
        · exact absurd hzero hnone
        · split_ifs <;> omega
      rwa [List.take_of_length_le hall]

end ExecutionReport

/-! ### The deliveries of one report -/

/-- Where the deliveries of a report lead: `retry` is the next attempt minted for it. -/
structure ReportedOnce (report : ExecutionReport) (before after : ReportDatabase) (retry : Option String) : Prop where
  ids : after.directives.rows.map (·.directiveId) = before.directives.rows.map (·.directiveId) ++ retry.toList
  completions : report.Completes before.handoffs after.handoffs
  directive : ∃ d, report.directive after = some d ∧ d.claimedExecutor = some report.auth.consumer ∧
    (d.state = .inProgress ∧ retry = none ∨
      d.state.isTerminal ∧ ∃ result, report.Recorded result d ∧ result.retryScheduled = retry.isSome ∧
        result.retryDirectiveId = retry)

variable {report : ExecutionReport}

theorem ReportedOnce.next {before after : ReportDatabase} {retry : Option String} {delivery : Delivery}
    (h : ReportedOnce report before after retry) (hwhole : report.Whole delivery) :
    ∃ retry, ReportedOnce report before (report.deliver delivery after).1 retry := by
  obtain ⟨d, hd, hholder, ⟨hprogress, rfl⟩ | ⟨hterminal, hrecorded⟩⟩ := h.directive
  · obtain hsame | ⟨hwritten, result, hcarried⟩ := ExecutionReport.deliver_cases hwhole hd hprogress hholder
    · rw [hsame]
      exact ⟨none, h⟩
    refine ⟨result.retryDirectiveId, ?_, h.completions.trans hcarried.completions, ?_⟩
    · rw [hcarried.ids, h.ids, Option.toList_none, List.append_nil]
    obtain ⟨row, hrow, hstate, hrecorded⟩ := hcarried.directive
    refine ⟨row, hrow, hrecorded.holder, ?_⟩
    rw [hstate]
    obtain hopen | hended := hwritten
    · exact Or.inl ⟨hopen, hcarried.ended hopen⟩
    · exact Or.inr ⟨hended, result, hrecorded, hcarried.scheduled, rfl⟩
  · rw [ExecutionReport.deliver_terminal hd hterminal]
    exact ⟨retry, h⟩

theorem ReportedOnce.run {before after : ReportDatabase} {retry : Option String} {deliveries : List Delivery}
    (h : ReportedOnce report before after retry) (hwhole : ∀ delivery ∈ deliveries, report.Whole delivery) :
    ∃ retry, ReportedOnce report before
      (answers (fun db delivery => report.deliver delivery db) after deliveries).1 retry := by
  induction deliveries generalizing after retry with
  | nil => exact ⟨retry, h⟩
  | cons delivery rest ih =>
    obtain ⟨hfirst, hrest⟩ := List.forall_mem_cons.mp hwhole
    obtain ⟨retry, hnext⟩ := h.next hfirst
    exact ih hnext hrest

/-- However often a report of a directive in progress is delivered, each delivery stopping before its first commit or making
all of them: there is at most one directive more, and at most one completion; and once the directive is terminal, every
further delivery leaves everything as it is and is answered with the directive's state and with that directive. -/
theorem report_once {db : ReportDatabase} {d : ReportedDirective} {deliveries : List Delivery}
    (hd : report.directive db = some d) (hprogress : d.state = .inProgress)
    (hholder : d.claimedExecutor = some report.auth.consumer)
    (hwhole : ∀ delivery ∈ deliveries, report.Whole delivery) :
    let db' := (answers (fun db delivery => report.deliver delivery db) db deliveries).1
    ∃ (retry : Option String) (completion : Option Completion) (d' : ReportedDirective),
      db'.directives.rows.map (·.directiveId) = db.directives.rows.map (·.directiveId) ++ retry.toList ∧
      db'.handoffs.outbox.rows.map HandoffRow.completion =
        db.handoffs.outbox.rows.map HandoffRow.completion ++ completion.toList ∧
      report.directive db' = some d' ∧
      (d'.state.isTerminal → ∃ answer : ReportAnswer,
        answer.state = d'.state ∧ answer.result.retryScheduled = retry.isSome ∧ answer.result.retryDirectiveId = retry ∧
          ∀ further, report.deliver further db' = (db', some (.ok answer))) := by
  dsimp only
  obtain ⟨retry, honce⟩ := @ReportedOnce.run report db db none deliveries
    ⟨(List.append_nil _).symm, Or.inl rfl, d, hd, hholder, Or.inl ⟨hprogress, rfl⟩⟩ hwhole
  obtain ⟨completion, hcompletion⟩ : ∃ completion : Option Completion,
      (answers (fun db delivery => report.deliver delivery db) db deliveries).1.handoffs.outbox.rows.map
        HandoffRow.completion = db.handoffs.outbox.rows.map HandoffRow.completion ++ completion.toList := by
    obtain hsame | ⟨-, hadded⟩ := honce.completions
    · exact ⟨none, hsame.trans (List.append_nil _).symm⟩
    · exact ⟨some report.completion, hadded⟩
  obtain ⟨d', hd', -, hended⟩ := honce.directive
  refine ⟨retry, completion, d', honce.ids, hcompletion, hd', fun hterminal => ?_⟩
  obtain ⟨hopen, -⟩ | ⟨-, result, hrecorded, hscheduled, hretry⟩ := hended
  · rw [hopen] at hterminal
    exact absurd hterminal (by decide)
  · refine ⟨⟨d'.state, result, true, d'.leaseGeneration⟩, rfl, hscheduled, hretry, fun further => ?_⟩
    rw [ExecutionReport.deliver_terminal hd' hterminal, hrecorded.replay]

/-- A directive in progress, under a claim of the executor. -/
def reportedDirective : ReportedDirective :=
  { toSessionDirective := {unpermitted with
      state := .inProgress, claimedExecutor := some "executor", leaseGeneration := 1, requiresPermit := false }
    failureClass := none, retryStrategy := none, reportIdempotencyKey := none, reportPayloadHash := none, retryOf := none
    reportResult := none }

def reportDatabase : ReportDatabase where
  directives := ⟨[reportedDirective], List.nodup_singleton _⟩
  permits := ⟨[], List.nodup_nil⟩
  handoffs := emptyDatabase

def failureReport : ExecutionReport where
  auth := ⟨"w", "u", "u", "executor"⟩
  sessionId := "s"
  directiveId := "d"
  state := .failed
  leaseGeneration := some 1
  idempotencyKey := some "key"
  payloadHash := "payload"
  validationErrors := []
  failureClass := .toolError
  rollbackAvailable := false
  detailsRetryOf := none
  detailsReportResult := none
  milestoneHash := "milestone"

/-- A delivery that makes `reached` commits. -/
def deliveryOf (reached : Nat) : Delivery where
  settings := claimSettings
  retry := ⟨true, 3, 3, 30⟩
  now := ⟨epoch + 5, true⟩
  paused := false
  newRetryId := "r"
  newOutboxId := "o"
  newEventId := "e"
  newRecordId := "h"
  retentionDays := 30
  deliveredAt := epoch + 6
  failedAt := epoch + 6
  raises := fun _ => none
  reached := reached

theorem report_once_failure :
    let db' := (answers (fun db delivery => failureReport.deliver delivery db) reportDatabase
      [deliveryOf 0, deliveryOf 6, deliveryOf 6]).1
    ∃ (retry : Option String) (completion : Option Completion) (d' : ReportedDirective),
      db'.directives.rows.map (·.directiveId) = reportDatabase.directives.rows.map (·.directiveId) ++ retry.toList ∧
      db'.handoffs.outbox.rows.map HandoffRow.completion =
        reportDatabase.handoffs.outbox.rows.map HandoffRow.completion ++ completion.toList ∧
      failureReport.directive db' = some d' ∧
      (d'.state.isTerminal → ∃ answer : ReportAnswer,
        answer.state = d'.state ∧ answer.result.retryScheduled = retry.isSome ∧ answer.result.retryDirectiveId = retry ∧
          ∀ further, failureReport.deliver further db' = (db', some (.ok answer))) :=
  @report_once failureReport reportDatabase reportedDirective _ (by decide +kernel) (by decide) (by decide) (by decide)

/-- A delivery stops after its first commit: the directive is terminal and its next attempt minted, and the report is
refused. -/
theorem report_lost :
    let db' := (failureReport.deliver (deliveryOf 1) reportDatabase).1
    (failureReport.directive db').any (·.state = .failed) ∧
      db'.directives.rows.map (·.directiveId) = ["d", "r"] ∧
      (failureReport.deliver (deliveryOf 6) db').2.map Except.toOption = some none := by
  decide +kernel

end OpenTimeline.Directive
