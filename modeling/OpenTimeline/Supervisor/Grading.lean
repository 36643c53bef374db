import OpenTimeline.Directive.Sweep
import OpenTimeline.Verification.Freeze
import OpenTimeline.Verification.Verdict

/-! What becomes of a run that the supervisor has seen to a successful end.

The supervisor freezes the criteria, claims the directive and reports it with one credential. The
criteria keep who froze them, the directive keeps who claimed it, and a report is fenced by that claim.
So wherever a verification comes after the report, the freezer is the executing identity, and the
verdict is inconclusive whoever verifies and whatever the evidence shows (`never_passed`). -/
namespace OpenTimeline.Supervisor
open Library Directive Verification

variable (host : Host)

/-! ### Who calls -/

inductive AgentRole
  | user | executor | advisor
deriving DecidableEq, Repr

/-- An identity as the service has authenticated it; a consumer is never empty. -/
structure Principal extends AuthContext where
  role : AgentRole
  /-- the identity is verified, or the caller has the host's capability -/
  identityVerified : Bool
  named : consumer ≠ ""

/-- `_CREDENTIAL_KIND_PREFIXES` -/
def credentialKindPrefixes : List String := ["bearer:", "mtls:", "host:"]

/-- `_runner_principal_for` -/
def runnerPrincipalFor (auth : Principal) : String :=
  match credentialKindPrefixes.find? (startsWith auth.consumer) with
  | some kind => String.ofList (auth.consumer.toList.drop kind.length)
  | none => auth.consumer

/-! ### The state -/

/-- What the directives' own housekeeping does to one of them. -/
inductive Housekeeping
  | cancel (now : Datetime)
  | load (now : Datetime)

def Housekeeping.reply (settings : Directive.Settings) : Housekeeping → Directive.DirectiveExecution → Reply
  | cancel now, d => cancelDirective now d
  | load now, d => loadPendingDirective settings now d

structure GradingState (ι : Type) where
  work : SweepState ι
  /-- The state and the claimant of its directives are those that `work` has. -/
  verification : VerificationDatabase
  /-- `(directive_id, claimed_by)` of the dispatches, oldest first -/
  dispatches : List (String × String)

/-- A directive's row with the columns that its writers have written. -/
def asWritten (db : Directive.Database) (row : DirectiveRow) : DirectiveRow :=
  match db.directives.find row.directiveId with
  | none => row
  | some d => {row with state := d.state, claimedExecutor := d.claimedExecutor}

theorem asWritten_directiveId (db : Directive.Database) (row : DirectiveRow) :
    (asWritten db row).directiveId = row.directiveId := by
  unfold asWritten
  split <;> rfl

/-- The database a verification route reads. -/
def GradingState.database {ι : Type} (s : GradingState ι) : VerificationDatabase :=
  {s.verification with
    directives := s.verification.directives.update (asWritten s.work.db) (asWritten_directiveId s.work.db) }

/-! ### The routes -/

/-- `AcceptanceCriteriaRequest` -/
structure FreezeBody where
  taskId : Option String
  directiveId : String
  charterId : Option String
  checks : List AcceptanceCheck
  corpusManifest : List (String × String)

def FreezeBody.call (body : FreezeBody) (auth : Principal) (now : Instant) (newId : String) : FreezeCall where
  workspaceId := auth.workspaceId
  ownerId := auth.userId
  taskId := body.taskId
  directiveId := body.directiveId
  charterId := body.charterId
  checks := body.checks
  corpusManifest := body.corpusManifest
  frozenBy := auth.consumer
  now
  newId

section Routes
variable {ι : Type} (settings : VerificationSettings)
  (projectGraded : DirectiveRow → VerificationOutcome → List TaskRow → Except Failure (List TaskRow))

/-- `verification_criteria_freeze` -/
def verificationCriteriaFreeze (auth : Principal) (body : FreezeBody) (now : Instant) (newId : String)
    (s : GradingState ι) : Except FreezeError (GradingState ι × AcceptanceCriteria) :=
  if auth.role = .advisor then .error (.refused (.http 403 [("detail", .str "advisor role is read-only")]))
  else if !auth.identityVerified then .error (.refused (.http 403 [("error", .str "identity_unverified"),
    ("message", .str "freezing acceptance criteria requires a server-bound identity")]))
  else
    let claimed := (s.dispatches.filter fun dispatch => dispatch.1 = body.directiveId).getLast?
    match (s.database.directives.find body.directiveId).filter fun row => row.workspaceId = auth.workspaceId with
    | none => .error (.refused (.http 404 [("error", .str "unknown_directive"),
        ("message", .str "acceptance criteria may only be frozen for a directive in this workspace"),
        ("directive_id", .str body.directiveId)]))
    | some row =>
      if claimed.any (fun dispatch => dispatch.2 = auth.consumer) || row.claimedExecutor.getD "" = auth.consumer then
        .error (.refused (.http 403 [("error", .str "criteria_frozen_by_executor")]))
      else if !settings.verificationEnabled then
        .error (.refused (.http 503 [("error", .str "verification_disabled")]))
      else do
        let (verification, criteria) ← freezeAcceptanceCriteria host settings (body.call auth now newId) s.database
        return ({s with verification}, criteria)

/-- `verification_results_record` -/
def verificationResultsRecord (auth : Principal) (evidence : VerificationEvidence) (now : Instant) (newId : String)
    (s : GradingState ι) : GradingState ι × Except Failure VerificationOutcome :=
  if auth.role = .executor then
    (s, refuse 403 "unknown_runner" [("message", .str "an executor may not grade its own work")])
  else if !auth.identityVerified then
    (s, refuse 403 "unknown_runner"
      [("message", .str "verification results require a server-verified runner identity"),
        ("reasons", .arr [.str "identity_unverified"])])
  else
    let (verification, reply) := recordVerification host settings projectGraded
      ⟨auth.workspaceId, auth.userId, evidence.directiveId, evidence, runnerPrincipalFor auth, now, newId⟩ s.database
    ({s with verification}, reply)

end Routes

/-! ### Runs -/

inductive GradingAction (ι : Type)
  /-- a worker or the sweep, on the directives and their effects -/
  | work (action : SweepAction ι)
  | housekeep (directiveId : String) (turn : Housekeeping)
  | openDispatch (directiveId claimedBy : String)
  | freeze (auth : Principal) (body : FreezeBody) (now : Instant) (newId : String)
  | record (auth : Principal) (evidence : VerificationEvidence) (now : Instant) (newId : String)
  /-- the task store writes -/
  | tasks (rows : List TaskRow)

variable {ι : Type} [DecidableEq ι] (workSettings : Directive.Settings) (settings : VerificationSettings)
  (projectGraded : DirectiveRow → VerificationOutcome → List TaskRow → Except Failure (List TaskRow))

def GradingState.next (s : GradingState ι) : GradingAction ι → Option (GradingState ι)
  | .work action => (s.work.next host workSettings action).map fun work => {s with work}
  | .housekeep directiveId turn => (s.work.db.directives.find directiveId).map fun d =>
    match turn.reply workSettings d with
    | .writes update => {s with work := {s.work with db := s.work.db.write directiveId update}}
    | _ => s
  | .openDispatch directiveId claimedBy => some {s with dispatches := s.dispatches ++ [(directiveId, claimedBy)]}
  | .freeze auth body now newId => match verificationCriteriaFreeze host settings auth body now newId s with
    | .ok (s, _) => some s
    | .error _ => some s
  | .record auth evidence now newId => some
    (verificationResultsRecord host settings projectGraded auth evidence now newId s).1
  | .tasks rows => some {s with verification := {s.verification with tasks := rows}}

/-- Any parties, in any order. -/
def gradingSystem (ι : Type) [DecidableEq ι] : System (GradingState ι) (GradingAction ι) where
  init s := s.work.reads = (fun _ => none) ∧ s.work.sweep = none
  next := GradingState.next host workSettings settings projectGraded

/-- A report by the worker whose UPDATE hits its directive. -/
def GradingState.reports (s : GradingState ι) (worker : ι) (directiveId : String) (request : ReportRequest) : Bool :=
  match s.work.reads worker with
  | none => false
  | some seen => match reportExecution workSettings request seen with
    | .writes update => seen.directiveId = directiveId &&
      ((s.work.db.directives.find directiveId).bind update.apply).isSome
    | _ => false

/-- `dispatch_once` on a directive up to its report of success: the supervisor freezes the criteria, anyone does
anything, its own claim among it, and its report hits the directive. -/
def Supervised (supervisor : Principal) (directiveId : String) (criteria : AcceptanceCriteria) (s : GradingState ι) :
    Prop :=
  ∃ (start frozen worked : GradingState ι) (body : FreezeBody) (now : Instant) (newId : String)
    (actions : List (GradingAction ι)) (worker : ι) (request : ReportRequest),
    body.directiveId = directiveId ∧
    verificationCriteriaFreeze host settings supervisor body now newId start = .ok (frozen, criteria) ∧
    (gradingSystem host workSettings settings projectGraded ι).run frozen actions = some worked ∧
    request.executorId = supervisor.consumer ∧ request.state = .succeeded ∧
    worked.reports workSettings worker directiveId request ∧
    worked.next host workSettings settings projectGraded (.work (.write worker (.report request))) = some s

/-- The evidence is of the criteria one for one, and all is as they expect it. -/
structure Matches (criteria : AcceptanceCriteria) (evidence : VerificationEvidence) : Prop where
  directive : evidence.directiveId = criteria.directiveId
  distinct : (evidence.results.map (·.checkId)).Nodup
  covers : (evidence.results.map (·.checkId)).Perm (criteria.checks.map (·.checkId))
  exits : ∀ result ∈ evidence.results, ∀ check ∈ criteria.checks, check.checkId = result.checkId →
    result.exitCode = check.expectExitCode
  corpus : evidence.observedCorpusDigest = criteria.corpusDigest

variable {host workSettings settings projectGraded} {s s' : GradingState ι}

/-! ### The criteria -/

omit [DecidableEq ι] in
theorem verificationCriteriaFreeze_ok {auth : Principal} {body : FreezeBody} {now : Instant} {newId : String}
    {criteria : AcceptanceCriteria}
    (h : verificationCriteriaFreeze host settings auth body now newId s = .ok (s', criteria)) :
    s'.work = s.work ∧ freezeAcceptanceCriteria host settings (body.call auth now newId) s.database =
      .ok (s'.verification, criteria) := by
  unfold verificationCriteriaFreeze at h
  by_cases hadvisor : auth.role = .advisor
  · rw [if_pos hadvisor] at h
    cases h
  rw [if_neg hadvisor] at h
  by_cases hverified : (!auth.identityVerified) = true
  · rw [if_pos hverified] at h
    cases h
  rw [if_neg hverified] at h
  dsimp only at h
  split at h
  · cases h
  split_ifs at h
  obtain ⟨⟨verification, frozen⟩, hfreeze, h⟩ := bind_ok h
  cases h
  exact ⟨rfl, hfreeze⟩

omit [DecidableEq ι] in
theorem verificationResultsRecord_work (auth : Principal) (evidence : VerificationEvidence) (now : Instant)
    (newId : String) :
    (verificationResultsRecord host settings projectGraded auth evidence now newId s).1.work = s.work := by
  unfold verificationResultsRecord
  split_ifs <;> rfl

/-- Every step only adds to the criteria. -/
theorem GradingState.next_criteria {action : GradingAction ι}
    (h : s.next host workSettings settings projectGraded action = some s') :
    s.verification.criteria <+: s'.verification.criteria := by
  cases action with
  | work action =>
    obtain ⟨work, _, rfl⟩ := Option.map_eq_some_iff.mp h
    exact List.prefix_refl _
  | housekeep directiveId turn =>
    obtain ⟨d, _, rfl⟩ := Option.map_eq_some_iff.mp h
    split <;> exact List.prefix_refl _
  | openDispatch directiveId claimedBy =>
    cases h
    exact List.prefix_refl _
  | freeze auth body now newId =>
    simp only [GradingState.next] at h
    cases hfreeze : verificationCriteriaFreeze host settings auth body now newId s with
    | error e =>
      rw [hfreeze] at h
      cases h
      exact List.prefix_refl _
    | ok frozen =>
      obtain ⟨frozen, criteria⟩ := frozen
      rw [hfreeze] at h
      cases h
      obtain ⟨_, normalised, _, _, hrows⟩ := freezeAcceptanceCriteria_ok (verificationCriteriaFreeze_ok hfreeze).2
      rw [hrows]
      exact List.prefix_append _ _
  | record auth evidence now newId =>
    cases h
    unfold verificationResultsRecord
    split_ifs
    · exact List.prefix_refl _
    · exact List.prefix_refl _
    · simp only [recordVerification_criteria]
      exact List.prefix_refl _
  | tasks rows =>
    cases h
    exact List.prefix_refl _

theorem loadAcceptanceCriteria_next {action : GradingAction ι} {directiveId : String} {criteria : AcceptanceCriteria}
    (hload : loadAcceptanceCriteria s.verification directiveId = some criteria)
    (h : s.next host workSettings settings projectGraded action = some s') :
    loadAcceptanceCriteria s'.verification directiveId = some criteria :=
  loadAcceptanceCriteria_of_prefix (GradingState.next_criteria h) hload

/-! ### The claimant -/

/-- The directive has come to its end, and the consumer had claimed it. -/
def EndedBy (db : Directive.Database) (directiveId consumer : String) : Prop :=
  ∃ row, db.directives.find directiveId = some row ∧ row.state.isTerminal ∧ row.claimedExecutor = some consumer

namespace EndedBy
variable {db : Directive.Database} {directiveId consumer : String}

/-- An UPDATE that asks for an open row leaves it. -/
theorem write {update : FencedUpdate} (h : EndedBy db directiveId consumer) (hopen : ¬ update.state.isTerminal)
    (other : String) : EndedBy (db.write other update) directiveId consumer := by
  obtain ⟨row, hrow, hterminal, hclaimed⟩ := h
  have hmissed : update.apply row = none := by
    cases happly : update.apply row with
    | none => rfl
    | some row' =>
      rw [← (FencedUpdate.apply_eq_some happly).1] at hopen
      exact absurd hterminal hopen
  refine ⟨row, ?_, hterminal, hclaimed⟩
  rw [Directive.Database.write, Table.find_update, hrow, Option.map_some, FencedUpdate.onRow, hmissed]
  exact congrArg some (ite_self row)

theorem of_directives {db' : Directive.Database} (h : EndedBy db directiveId consumer)
    (hsame : db'.directives = db.directives) : EndedBy db' directiveId consumer := by
  unfold EndedBy
  rwa [hsame]

/-- The sweep abandons it at most. -/
theorem afterTurn (h : EndedBy db directiveId consumer) (now : Datetime) (row : Directive.DirectiveExecution) :
    EndedBy (db.afterTurn workSettings now row) directiveId consumer := by
  unfold Directive.Database.afterTurn
  split_ifs
  · obtain ⟨d, hd, hterminal, hclaimed⟩ := h
    have hfind := find_abandonRow now row db directiveId
    rw [hd, Option.map_some] at hfind
    refine ⟨_, hfind, ?_, ?_⟩
    · split_ifs
      · rfl
      · exact hterminal
    · split_ifs
      · exact hclaimed
      · exact hclaimed
  · exact h

theorem next {action : GradingAction ι} (h : EndedBy s.work.db directiveId consumer)
    (hnext : s.next host workSettings settings projectGraded action = some s') :
    EndedBy s'.work.db directiveId consumer := by
  cases action with
  | work action =>
    obtain ⟨work, hwork, rfl⟩ := Option.map_eq_some_iff.mp hnext
    cases action with
    | read worker other =>
      cases hwork
      exact h
    | write worker writer =>
      obtain ⟨seen, _, rfl⟩ := Option.map_eq_some_iff.mp hwork
      split
      · rename_i update hreply
        exact h.write (Writer.reply_open host workSettings hreply) seen.directiveId
      · exact h
    | openEffect request =>
      simp only [SweepState.next] at hwork
      split at hwork
      · rename_i hopened
        cases hwork
        exact h.of_directives (openEffect_directives host hopened)
      · cases hwork
        exact h
    | resolveEffect request =>
      simp only [SweepState.next] at hwork
      split at hwork
      · rename_i hresolved
        cases hwork
        exact h.of_directives (resolveEffect_directives hresolved)
      · cases hwork
        exact h
    | select now =>
      simp only [SweepState.next] at hwork
      split at hwork
      · cases hwork
        exact h
      · cases hwork
    | reap =>
      obtain ⟨now, row, rest, _, rfl⟩ := SweepState.next_reap host workSettings hwork
      exact h.afterTurn now row
  | housekeep other turn =>
    obtain ⟨d, _, rfl⟩ := Option.map_eq_some_iff.mp hnext
    split
    · rename_i update hreply
      refine h.write ?_ other
      cases turn with
      | cancel now => exact (cancelDirective_performs hreply).not_terminal
      | load now => exact (loadPendingDirective_performs hreply).not_terminal
    · exact h
  | openDispatch other claimedBy =>
    cases hnext
    exact h
  | freeze auth body now newId =>
    simp only [GradingState.next] at hnext
    split at hnext
    · rename_i hfreeze
      cases hnext
      rw [(verificationCriteriaFreeze_ok hfreeze).1]
      exact h
    · cases hnext
      exact h
  | record auth evidence now newId =>
    cases hnext
    rw [verificationResultsRecord_work]
    exact h
  | tasks rows =>
    cases hnext
    exact h

end EndedBy

/-- A report that hits its directive ends it, as its claimant's. -/
theorem endedBy_of_reports {worker : ι} {directiveId : String} {request : ReportRequest}
    (hreports : s.reports workSettings worker directiveId request) (hstate : request.state = .succeeded)
    (h : s.next host workSettings settings projectGraded (.work (.write worker (.report request))) = some s') :
    EndedBy s'.work.db directiveId request.executorId := by
  unfold GradingState.reports at hreports
  split at hreports
  · cases hreports
  rename_i seen hseen
  split at hreports
  swap
  · cases hreports
  rename_i update hreply
  simp only [Bool.and_eq_true, decide_eq_true_eq] at hreports
  obtain ⟨rfl, hhit⟩ := hreports
  obtain ⟨row', hhit⟩ := Option.isSome_iff_exists.mp hhit
  obtain ⟨row, hrow, happly⟩ := Option.bind_eq_some_iff.mp hhit
  obtain ⟨work, hwork, rfl⟩ := Option.map_eq_some_iff.mp h
  obtain ⟨_, hseen', hwork⟩ := Option.map_eq_some_iff.mp hwork
  obtain rfl := Option.some.inj (hseen.symm.trans hseen')
  simp only [Writer.reply, hreply] at hwork
  refine ⟨row', ?_, ?_⟩
  · rw [← hwork]
    show (s.work.db.write seen.directiveId update).directives.find seen.directiveId = some row'
    rw [Directive.Database.write, Table.find_update, hrow, Option.map_some, FencedUpdate.onRow,
      if_pos (Table.find_eq_some_iff.mp hrow).2, happly]
    rfl
  · -- a report of success is fenced by the executor
    have hcancels : request.state ∉ cancellationStates := by rw [hstate]; decide
    obtain ⟨_, _, _, hexecutor, hset⟩ := reportExecution_writes hreply
    obtain ⟨_, _, hfenced, rfl⟩ := FencedUpdate.apply_eq_some happly
    rw [if_neg hcancels] at hexecutor
    obtain ⟨hwritten, hclaimant⟩ := And.intro (congrArg Ownership.state (hset row))
      (congrArg Ownership.claimedExecutor (hset row))
    refine ⟨?_, hclaimant.trans ((hfenced.resolve_left (by simp [hexecutor])).trans hexecutor)⟩
    rw [hwritten, ReportRequest.written, if_neg hcancels, ReportRequest.effectiveState, hstate]
    split_ifs <;> rfl

/-! ### The verdict -/

variable (host) in
/-- Criteria whose freezer has executed the directive grade nothing. -/
theorem decideVerdict_executed {criteria : AcceptanceCriteria} (hchecks : criteria.checks ≠ [])
    (hdigest : criteriaDigest host criteria.checks = criteria.criteriaDigest) (hfreezer : criteria.frozenBy ≠ "")
    (results : List CheckResult) (observedCorpusDigest runnerPrincipal : String) :
    let outcome := decideVerdict host results criteria observedCorpusDigest runnerPrincipal criteria.frozenBy
    outcome.verdict = .inconclusive ∧
      (runnerPrincipal ≠ criteria.frozenBy → outcome.reason = "criteria_frozen_by_executing_identity") := by
  have hown : criteria.frozenBy ≠ "" ∧ criteria.frozenBy = criteria.frozenBy := ⟨hfreezer, rfl⟩
  by_cases hrunner : runnerPrincipal = criteria.frozenBy
  · rw [decideVerdict, if_neg hchecks, if_neg (not_not.mpr hdigest), if_pos hrunner]
    exact ⟨rfl, fun hother => absurd hrunner hother⟩
  · rw [decideVerdict, if_neg hchecks, if_neg (not_not.mpr hdigest), if_neg hrunner, if_pos hown]
    exact ⟨rfl, fun _ => rfl⟩

omit [DecidableEq ι] in
/-- What a freeze leaves: checks, under their digest, in the freezer's name. -/
theorem frozen_criteria {auth : Principal} {body : FreezeBody} {now : Instant} {newId : String}
    {criteria : AcceptanceCriteria}
    (h : verificationCriteriaFreeze host settings auth body now newId s = .ok (s', criteria)) :
    loadAcceptanceCriteria s'.verification body.directiveId = some criteria ∧ criteria.checks ≠ [] ∧
      criteriaDigest host criteria.checks = criteria.criteriaDigest ∧ criteria.frozenBy = auth.consumer := by
  have hfreeze := (verificationCriteriaFreeze_ok h).2
  obtain ⟨_, normalised, hchecks, rfl, _⟩ := freezeAcceptanceCriteria_ok hfreeze
  exact ⟨loadAcceptanceCriteria_freeze hfreeze, validateChecks_ne_nil hchecks, rfl, rfl⟩

/-- Whatever is verified after a supervised success, by whom and with what evidence, is inconclusive, and where the
verifier is not the supervisor it is so for who froze the criteria. -/
theorem never_passed {supervisor verifier : Principal} {directiveId : String} {criteria : AcceptanceCriteria}
    {actions : List (GradingAction ι)} {evidence : VerificationEvidence} {now : Instant} {newId : String}
    {outcome : VerificationOutcome}
    (hsupervised : Supervised host workSettings settings projectGraded supervisor directiveId criteria s)
    (hrun : (gradingSystem host workSettings settings projectGraded ι).run s actions = some s')
    (hevidence : evidence.directiveId = directiveId)
    (hrecord : (verificationResultsRecord host settings projectGraded verifier evidence now newId s').2 = .ok outcome) :
    outcome.verdict = .inconclusive ∧
      (runnerPrincipalFor verifier ≠ supervisor.consumer → outcome.reason = "criteria_frozen_by_executing_identity") := by
  obtain ⟨start, frozen, worked, body, frozenAt, criteriaId, before, worker, request, rfl, hfreeze, hbefore, hexecutor,
    hstate, hreports, hreport⟩ := hsupervised
  obtain ⟨hload, hchecks, hdigest, hfrozenBy⟩ := frozen_criteria hfreeze
  have hended := endedBy_of_reports hreports hstate hreport
  rw [hexecutor] at hended
  let Frozen (t : GradingState ι) := loadAcceptanceCriteria t.verification body.directiveId = some criteria
  have hworked := System.run_keeps (I := Frozen) (fun _ _ _ hkept hnext => loadAcceptanceCriteria_next hkept hnext)
    hbefore hload
  have hload' := System.run_keeps (I := Frozen) (fun _ _ _ hkept hnext => loadAcceptanceCriteria_next hkept hnext)
    hrun (loadAcceptanceCriteria_next hworked hreport)
  obtain ⟨row, hrow, _, hclaimed⟩ := System.run_keeps
    (I := fun t => EndedBy t.work.db body.directiveId supervisor.consumer) (fun _ _ _ hkept hnext => hkept.next hnext)
    hrun hended
  unfold verificationResultsRecord at hrecord
  split_ifs at hrecord
  · cases hrecord
  · cases hrecord
  rw [hevidence] at hrecord
  obtain ⟨graded, loaded, hgraded, hloaded, rfl, _⟩ := recordVerification_ok (Prod.ext rfl hrecord)
  obtain rfl := Option.some.inj (hload'.symm.trans hloaded)
  have hexecuting : graded.claimedExecutor.getD "" = criteria.frozenBy := by
    rw [GradingState.database, Table.find_update] at hgraded
    obtain ⟨kept, hkept, rfl⟩ := Option.map_eq_some_iff.mp hgraded
    rw [asWritten, (Table.find_eq_some_iff.mp hkept).2, hrow, hfrozenBy]
    exact congrArg (·.getD "") hclaimed
  rw [hexecuting, ← hfrozenBy]
  exact decideVerdict_executed host hchecks hdigest (hfrozenBy ▸ supervisor.named) _ _ _

/-! ### A run -/

def exampleSupervisor : Principal := ⟨⟨"w", "owner", "owner", "supervisor"⟩, .executor, true, by decide⟩

def exampleVerifier : Principal := ⟨⟨"w", "owner", "owner", "host:system:verifier"⟩, .user, true, by decide⟩

/-- Pending, with nothing frozen. -/
def exampleGrading : GradingState Unit where
  work := ⟨⟨⟨[{exampleDirective with
    state := .pending
    claimedExecutor := none
    leaseGeneration := 0
    claimedBy := none
    startedAt := none }], List.nodup_singleton "d"⟩, ⟨[], List.nodup_nil⟩⟩, fun _ => none, none, [], []⟩
  verification := ⟨⟨[⟨"d", "w", "owner", "s", .pending, none, "unverified"⟩], List.nodup_singleton "d"⟩, [],
    ⟨[], List.nodup_nil⟩, []⟩
  dispatches := []

def exampleFreezeBody : FreezeBody := ⟨none, "d", none, [⟨"c", ["/c"], ".", 0, 1⟩], [("tox.ini", "0")]⟩

def gradingSettings : VerificationSettings := {Verification.exampleSettings with
  verificationRunnerPrincipal := "system:verifier" }

/-- What the verifier finds: the check has passed, and the corpus is as it was. -/
def exampleEvidence : VerificationEvidence where
  directiveId := "d"
  results := [⟨"c", ["/c"], 0, 0, "", "", ""⟩]
  observedCorpusDigest := corpusDigest (asciiHost [] []) [("tox.ini", "0")]
  observedCorpusManifest := [("tox.ini", "0")]
  platform := ""
  commitSha := none
  treeSha := none
  reviewerModel := none

def exampleGradingSystem : System (GradingState Unit) (GradingAction Unit) :=
  gradingSystem (asciiHost [] []) Directive.exampleSettings gradingSettings (fun _ _ tasks => .ok tasks) Unit

/-- The criteria that the supervisor freezes, and the state it reports from. -/
def exampleDispatched : Option (AcceptanceCriteria × GradingState Unit × GradingState Unit) := do
  let (frozen, criteria) ← (verificationCriteriaFreeze (asciiHost [] []) gradingSettings exampleSupervisor
    exampleFreezeBody epoch "k" exampleGrading).toOption
  let worked ← exampleGradingSystem.run frozen [.openDispatch "d" "supervisor", .work (.read () "d"),
    .work (.write () (.claim ⟨"supervisor", "owner", exampleTime 1, none, none, none⟩)), .work (.read () "d")]
  return (criteria, frozen, worked)

def exampleReport : ReportRequest := ⟨"supervisor", .succeeded, some 1, exampleTime 2, none, []⟩

/-- What the verifier is answered after the report. -/
def exampleVerdict (worked : GradingState Unit) : Option (GradingState Unit × VerificationOutcome) := do
  let reported ← exampleGradingSystem.next worked (.work (.write () (.report exampleReport)))
  let outcome ← (verificationResultsRecord (asciiHost [] []) gradingSettings (fun _ _ tasks => .ok tasks) exampleVerifier
    exampleEvidence epoch "r" reported).2.toOption
  return (reported, outcome)

/-- The supervisor sees a directive to its end, and the evidence of its verifier matches the criteria. -/
theorem exampleDispatched_supervised : ∃ criteria, ∃ s : GradingState Unit, ∃ outcome,
    Supervised (asciiHost [] []) Directive.exampleSettings gradingSettings (fun _ _ tasks => .ok tasks)
      exampleSupervisor "d" criteria s ∧ Matches criteria exampleEvidence ∧
    (verificationResultsRecord (asciiHost [] []) gradingSettings (fun _ _ tasks => .ok tasks) exampleVerifier
      exampleEvidence epoch "r" s).2 = .ok outcome ∧ outcome.verdict = .inconclusive := by
  let checked (run : AcceptanceCriteria × GradingState Unit × GradingState Unit) : Bool :=
    decide (run.1.checks = [⟨"c", ["/c"], ".", 0, 1⟩] ∧ run.1.directiveId = "d" ∧
      run.1.corpusDigest = exampleEvidence.observedCorpusDigest) &&
    (run.2.2.reports Directive.exampleSettings () "d" exampleReport &&
      (exampleVerdict run.2.2).any fun graded => decide (graded.2.verdict = .inconclusive))
  obtain ⟨⟨criteria, frozen, worked⟩, hdispatched, hrun⟩ :=
    (Option.any_eq_true _ _).mp (show exampleDispatched.any checked from by decide +kernel)
  simp only [checked, Bool.and_eq_true, decide_eq_true_eq] at hrun
  obtain ⟨⟨hchecks, hdirective, hcorpus⟩, hreports, hverdict⟩ := hrun
  obtain ⟨⟨s, outcome⟩, hgraded, hverdict⟩ := (Option.any_eq_true _ _).mp hverdict
  obtain ⟨reported, hs, hgraded⟩ := Option.bind_eq_some_iff.mp hgraded
  obtain ⟨answered, hrecord, hgraded⟩ := Option.bind_eq_some_iff.mp hgraded
  cases hgraded
  unfold exampleDispatched at hdispatched
  obtain ⟨⟨frozen', criteria'⟩, hfreeze, hdispatched⟩ := Option.bind_eq_some_iff.mp hdispatched
  obtain ⟨worked', hworked, hdispatched⟩ := Option.bind_eq_some_iff.mp hdispatched
  cases hdispatched
  refine ⟨criteria, s, outcome, ⟨exampleGrading, frozen, worked, exampleFreezeBody, epoch, "k", _, (), exampleReport, rfl,
    toOption_eq_some_iff.mp hfreeze, hworked, rfl, rfl, hreports, hs⟩, ?_, toOption_eq_some_iff.mp hrecord,
    of_decide_eq_true hverdict⟩
  refine ⟨hdirective.symm, by decide, ?_, ?_, hcorpus.symm⟩
  · rw [hchecks]
    decide
  · rw [hchecks]
    decide

/-- The verdict is not passed, though the verifier is the configured runner and is not the supervisor. -/
theorem supervised_not_passed : ¬ ∀ (supervisor verifier : Principal) (directiveId : String)
    (criteria : AcceptanceCriteria) (s : GradingState Unit) (evidence : VerificationEvidence) (now : Instant)
    (newId : String) (outcome : VerificationOutcome),
    Supervised (asciiHost [] []) Directive.exampleSettings gradingSettings (fun _ _ tasks => .ok tasks) supervisor
      directiveId criteria s → Matches criteria evidence → evidence.directiveId = directiveId →
    runnerPrincipalFor verifier = gradingSettings.verificationRunnerPrincipal →
    runnerPrincipalFor verifier ≠ supervisor.consumer →
    (verificationResultsRecord (asciiHost [] []) gradingSettings (fun _ _ tasks => .ok tasks) verifier evidence now newId
      s).2 = .ok outcome → outcome.verdict = .passed := by
  intro h
  obtain ⟨criteria, s, outcome, hsupervised, hmatches, hrecord, hverdict⟩ := exampleDispatched_supervised
  have hpassed := h exampleSupervisor exampleVerifier "d" criteria s exampleEvidence epoch "r" outcome hsupervised
    hmatches rfl (by decide) (by decide) hrecord
  rw [hverdict] at hpassed
  cases hpassed

theorem never_passed_matched : ∃ criteria, ∃ s : GradingState Unit, ∃ outcome,
    Supervised (asciiHost [] []) Directive.exampleSettings gradingSettings (fun _ _ tasks => .ok tasks)
      exampleSupervisor "d" criteria s ∧ Matches criteria exampleEvidence ∧
    (verificationResultsRecord (asciiHost [] []) gradingSettings (fun _ _ tasks => .ok tasks) exampleVerifier
      exampleEvidence epoch "r" s).2 = .ok outcome ∧ outcome.reason = "criteria_frozen_by_executing_identity" := by
  obtain ⟨criteria, s, outcome, hsupervised, hmatches, hrecord, _⟩ := exampleDispatched_supervised
  have hrun : exampleGradingSystem.run s [] = some s := rfl
  exact ⟨criteria, s, outcome, hsupervised, hmatches, hrecord,
    (never_passed hsupervised hrun rfl hrecord).2 (by decide)⟩

end OpenTimeline.Supervisor
