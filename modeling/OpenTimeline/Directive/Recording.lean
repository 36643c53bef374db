import OpenTimeline.Library.Answers
import OpenTimeline.Dispatch.Budget
import OpenTimeline.Directive.Revocation

/-! Recording under a revoked charter.

A run in progress reports its directive, resolves its effects and reconciles its dispatch. A revocation
changes the charters and the permits, which no recording writes and which two of the three read: a report
of success or failure is judged by the directive's permit, which the revocation has blocked, and a
resolution whose source does not record what happened is asked for a charter. Where a call meets neither,
it commutes with the revocation (`record_revoke`), so a run of such calls is answered as it would have been
(`revoked_records`). -/
namespace OpenTimeline.Directive
open Library Charter

variable (host : StoreHost)

/-- The rows of the directives, as the effect journal joins them. -/
def executions (directives : Table fun d : SessionDirective => d.directiveId) : Table DirectiveExecution.directiveId where
  rows := directives.rows.map (·.toDirectiveExecution)
  nodup := by
    rw [List.map_map]
    exact directives.nodup

structure RecordingState where
  authority : AuthorityState
  effects : Table EffectRow.effectId
  dispatches : Dispatch.Database

def RecordingState.journal (s : RecordingState) : Database := ⟨executions s.authority.permits.directives, s.effects⟩

/-! ### Calls -/

/-- A call of `report_execution`. -/
structure Report where
  settings : Settings
  auth : AuthContext
  sessionId : String
  directiveId : String
  state : DirectiveState
  leaseGeneration : Option Nat
  now : Datetime
  validationErrors : List String
  /-- what an accepted report writes besides, such as the next attempt -/
  aftermath : Table (fun d : SessionDirective => d.directiveId) → Table fun d : SessionDirective => d.directiveId

namespace Report
variable (report : Report) (db : PermitDatabase) (d : SessionDirective)

def directive : Option SessionDirective :=
  (db.directives.find report.directiveId).filter fun d =>
    d.sessionId = report.sessionId && d.workspaceId = report.auth.workspaceId && d.userId = report.auth.userId

/-- The permit of the directive. -/
def permit : Option PermitRow :=
  d.permitId.bind fun permitId =>
    (db.permits.find permitId).filter fun permit => permit.workspaceId = report.auth.workspaceId

def request : ReportRequest where
  executorId := report.auth.consumer
  state := report.state
  leaseGeneration := report.leaseGeneration
  now := report.now
  permit := (report.permit db d).map (·.read)
  validationErrors := report.validationErrors

/-- `report_execution`, as far as the directives go. -/
def run : Except Failure (Table fun d : SessionDirective => d.directiveId) :=
  match report.directive db with
  | none => .error (.http 404 [("detail", .str "directive not found")])
  | some d => match reportExecution report.settings (report.request db d) d.toDirectiveExecution with
    | .refused reason message => .error (.http 409 [("reason", reason.elim .null .str),
        ("directive_id", .str d.directiveId), ("message", .str message)])
    | .raised e => .error (.raised e)
    | .unchanged => .ok db.directives
    | .writes update => .ok (report.aftermath (db.directives.updateWhere (fun row => row.directiveId = d.directiveId)
        update.onSession update.onSession_directiveId))

end Report

/-- A call of the route that resolves an effect. -/
structure Resolution where
  charterEnforcementEnabled : Bool
  auth : AuthContext
  isHuman : Bool
  identityVerified : Bool
  effectId : String
  body : EffectResolveRequest
  now : Utc

namespace Resolution
variable (resolution : Resolution)

def caller : Caller :=
  ⟨resolution.auth.workspaceId, resolution.auth.consumer, resolution.isHuman, resolution.identityVerified⟩

/-- The charter's gate of the route. -/
def gate (charters : CharterDatabase) : Except Failure Unit := do
  let _ ← charters.resolveOrRefuse host resolution.charterEnforcementEnabled resolution.auth "execute" resolution.now

def run (s : RecordingState) : Except Failure Database :=
  effectResolve (resolution.gate host s.authority.charters) resolution.caller resolution.effectId resolution.body
    (datetimeOf resolution.now) s.journal

end Resolution

inductive Recording
  | report (report : Report)
  | resolve (resolution : Resolution)
  | reconcile (dispatchId : String) (body : Dispatch.DispatchReconcileRequest) (now : Instant)

/-- A call that raises is rolled back. -/
def RecordingState.record (s : RecordingState) : Recording → RecordingState × Except Failure Unit
  | .report report => match report.run s.authority.permits with
    | .ok directives => ({s with authority.permits.directives := directives}, .ok ())
    | .error e => (s, .error e)
  | .resolve resolution => match resolution.run host s with
    | .ok db => ({s with effects := db.effects}, .ok ())
    | .error e => (s, .error e)
  | .reconcile dispatchId body now =>
    match runCasSection (Dispatch.reconcileSection host.toHost dispatchId body now) s.dispatches with
    | (dispatches, .ok _) => ({s with dispatches}, .ok ())
    | (dispatches, .error e) => ({s with dispatches}, .error e)

/-- `revoke_charter` -/
def RecordingState.revoke (auth : AuthContext) (charterId reason : String) (now : Utc) (s : RecordingState) :
    RecordingState :=
  {s with authority := (s.authority.revoke host auth charterId reason now).1}

/-! ### What a revocation is not seen by -/

/-- The report is not judged by a permit that a revocation of the charter blocks. -/
def Report.Recordable (report : Report) (charterId : String) (db : PermitDatabase) : Prop :=
  ∀ d permit, report.directive db = some d → d.state.isTerminal = false → d.requiresPermit = true →
    report.state ∈ [DirectiveState.succeeded, .failed] → report.permit db d = some permit →
      ¬ (permit.charterId = some charterId ∧ permit.decision = "allow" ∧ permit.resolvedAt = none)

/-- The resolution is not asked for a charter, or the caller's is another one, or charters are not enforced and can be
read. -/
def Resolution.Recordable (resolution : Resolution) (charterId : String) (revoked : CharterDatabase) (s : RecordingState) :
    Prop :=
  let readable (charters : CharterDatabase) : Prop :=
    ∃ charter, charters.loadActiveCharter host resolution.auth.workspaceId resolution.auth.userId resolution.now = .ok charter
  ∀ row, s.effects.find resolution.effectId = some row → row.workspaceId = resolution.auth.workspaceId →
    (needsHuman row.state resolution.body.targetState = true → resolution.caller.isOwner = true) →
      resolution.body.resolutionSource ∈ recordingSources ∨
        (∀ active, s.authority.charters.activeRow resolution.auth.workspaceId resolution.auth.userId resolution.now =
          some active → active.id ≠ charterId) ∨
        (resolution.charterEnforcementEnabled = false ∧ readable s.authority.charters ∧ readable revoked)

def Recording.Recordable (charterId : String) (revoked : CharterDatabase) (s : RecordingState) : Recording → Prop
  | .report call => call.Recordable charterId s.authority.permits
  | .resolve call => call.Recordable host charterId revoked s
  | .reconcile .. => True

variable {host} {s : RecordingState} {charterId : String}

/-- The permit of a directive is the same after a revocation that does not block it. -/
theorem Report.permit_revoke {report : Report} {db : PermitDatabase} {now : Datetime} {d : SessionDirective}
    (hkept : ∀ permit, report.permit db d = some permit →
      ¬ (permit.charterId = some charterId ∧ permit.decision = "allow" ∧ permit.resolvedAt = none)) :
    report.permit (db.revoke charterId now) d = report.permit db d := by
  unfold Report.permit at hkept ⊢
  cases hid : d.permitId with
  | none => rfl
  | some permitId =>
    rw [hid, Option.bind_some] at hkept
    rw [Option.bind_some, Option.bind_some]
    dsimp only [PermitDatabase.revoke]
    rw [Table.find_updateWhere]
    cases hfind : db.permits.find permitId with
    | none => rfl
    | some permit =>
      rw [hfind] at hkept
      rw [Option.map_some]
      by_cases hown : permit.workspaceId = report.auth.workspaceId
      · have hkept := hkept permit (by simp [hown])
        rw [if_neg (by simpa [and_assoc] using hkept)]
      · have hother (row : PermitRow) (hsame : row.workspaceId = permit.workspaceId) :
            (some row).filter (fun permit => permit.workspaceId = report.auth.workspaceId) = none := by simp [hsame, hown]
        split_ifs
        · rw [hother permit rfl]
          exact hother _ rfl
        · rfl

/-- Two reports that differ in the row of their permit at most. -/
theorem reportExecution_congr {settings : Settings} {request : ReportRequest} {permit : Option Permit} {d : DirectiveExecution}
    (h : d.state.isTerminal = false → request.permitCheck d = {request with permit}.permitCheck d) :
    reportExecution settings request d = reportExecution settings {request with permit} d := by
  unfold reportExecution
  by_cases hterminal : d.state.isTerminal = true
  · rw [if_pos hterminal, if_pos hterminal]
  · rw [if_neg hterminal, if_neg hterminal, h (Bool.eq_false_iff.mpr hterminal)]
    rfl

theorem Report.run_revoke {report : Report} {db : PermitDatabase} {now : Datetime} (h : report.Recordable charterId db) :
    report.run (db.revoke charterId now) = report.run db := by
  have hdirective : report.directive (db.revoke charterId now) = report.directive db := rfl
  unfold Report.run
  rw [hdirective]
  cases hrow : report.directive db with
  | none => rfl
  | some d =>
    have hreply : reportExecution report.settings (report.request (db.revoke charterId now) d) d.toDirectiveExecution =
        reportExecution report.settings (report.request db d) d.toDirectiveExecution := by
      refine @reportExecution_congr _ _ (report.request db d).permit _ fun hopen => ?_
      unfold ReportRequest.permitCheck
      by_cases hasked : d.requiresPermit = true ∧ report.state ∈ [DirectiveState.succeeded, .failed]
      · have hpermit : (report.request (db.revoke charterId now) d).permit = (report.request db d).permit :=
          congrArg (Option.map PermitRow.read) (report.permit_revoke fun permit => h d permit hrow hopen hasked.1 hasked.2)
        rw [← hpermit]
      · exact (if_neg hasked).trans (if_neg hasked).symm
    simp only [hreply]
    rfl

/-! ### Resolutions -/

theorem filter_map_hit {α : Type} {select hit : α → Bool} {set : α → α} (hset : ∀ a, select (set a) = false) (l : List α) :
    (l.map fun a => if hit a then set a else a).filter select = (l.filter select).filter fun a => !hit a := by
  induction l with
  | nil => rfl
  | cons a rest ih =>
    rw [List.map_cons]
    by_cases hhit : hit a = true
    · rw [if_pos hhit, List.filter_cons_of_neg (by simp [hset]), ih]
      by_cases hselect : select a = true
      · rw [List.filter_cons_of_pos hselect, List.filter_cons_of_neg (by simp [hhit])]
      · rw [List.filter_cons_of_neg hselect]
    · rw [if_neg hhit]
      by_cases hselect : select a = true
      · rw [List.filter_cons_of_pos hselect, List.filter_cons_of_pos hselect, List.filter_cons_of_pos (by simp [hhit]), ih]
      · rw [List.filter_cons_of_neg hselect, List.filter_cons_of_neg hselect, ih]

/-- A revocation changes the active charter of nobody who has another one, or none. -/
theorem activeRow_revoke {db : CharterDatabase} {permits : List Charter.PermitRow} {charterWorkspace reason : String}
    {revokedAt now : Utc} {workspaceId ownerId : String}
    (hother : ∀ active, db.activeRow workspaceId ownerId now = some active → active.id ≠ charterId) :
    ({db with charters := Charter.revoke db.charters charterWorkspace charterId reason revokedAt, permits} :
      CharterDatabase).activeRow workspaceId ownerId now = db.activeRow workspaceId ownerId now := by
  unfold CharterDatabase.activeRow at hother ⊢
  dsimp only [Charter.revoke, Table.updateWhere, Table.update]
  rw [filter_map_hit fun row => by simp]
  generalize (db.charters.rows.filter fun row => row.workspaceId = workspaceId && row.ownerId = ownerId &&
    row.status = .active && row.revokedAt.isNone && now.val.isoformat < row.expiresAt.val.isoformat) = active at hother ⊢
  cases hhead : (active.insertionSort fun a b => (b.approvedAt.map (·.val.isoformat)).getD "" ≤
      (a.approvedAt.map (·.val.isoformat)).getD "").head? with
  | none =>
    have hnil : active = [] := by
      rw [List.head?_eq_none_iff] at hhead
      have hlength := congrArg List.length hhead
      rwa [List.length_insertionSort, List.length_nil, List.length_eq_zero_iff] at hlength
    rw [hnil]
    rfl
  | some row =>
    have hfirst : FirstNewest (fun row : CharterRow => (row.approvedAt.map (·.val.isoformat)).getD "") active row :=
      head?_sorted_eq_some_iff.mp hhead
    exact head?_sorted_eq_some_iff.mpr (hfirst.filter (by simp [hother row hhead]))

/-- The gates differ where they are asked at most. -/
theorem effectResolve_congr {gate gate' : Except Failure Unit} {caller : Caller} {effectId : String}
    {body : EffectResolveRequest} {now : Datetime} {db : Database}
    (h : ∀ row, db.effects.find effectId = some row → row.workspaceId = caller.workspaceId →
      (needsHuman row.state body.targetState = true → caller.isOwner = true) →
        body.resolutionSource ∉ recordingSources → gate = gate') :
    effectResolve gate caller effectId body now db = effectResolve gate' caller effectId body now db := by
  unfold effectResolve
  cases hfind : (db.effects.find effectId).filter (·.workspaceId = caller.workspaceId) with
  | none => rfl
  | some row =>
    obtain ⟨hrow, hown⟩ := Option.filter_eq_some_iff.mp hfind
    rw [decide_eq_true_eq] at hown
    by_cases hhuman : needsHuman row.state body.targetState = true → caller.isOwner = true
    · by_cases hsource : body.resolutionSource ∈ recordingSources
      · simp only [Directive.gate, if_neg (not_not.mpr hsource)]
      · rw [h row hrow hown hhuman hsource]
    · obtain ⟨hneeds, howner⟩ := Classical.not_imp.mp hhuman
      cases hcheck : caller.requireVerifiedHuman "resolve an effect whose outcome is unknown" with
      | ok _ => exact absurd (requireVerifiedHuman_ok_iff.mp hcheck) howner
      | error e =>
        simp only [Directive.gate, if_pos hneeds]
        rfl

/-! ### Calls and a revocation -/

section Revoke
variable {auth : AuthContext} {reason : String} {now : Utc}

/-- A revocation that does not return changes nothing. -/
theorem revoke_cases (authority : AuthorityState) :
    (authority.revoke host auth charterId reason now).1 = authority ∨
      ∃ charter, authority.revoke host auth charterId reason now =
        ((authority.revoke host auth charterId reason now).1, .ok charter) := by
  unfold AuthorityState.revoke
  cases hrun : runCasSection (revokeSection host auth charterId reason now) authority.charters with
  | mk charters result =>
    cases result with
    | error e => exact Or.inl (by rw [runCasSection_error hrun])
    | ok charter => exact Or.inr ⟨charter, rfl⟩

/-- A revocation neither reads nor writes a directive. -/
theorem revoke_directives (authority : AuthorityState) (directives : Table fun d : SessionDirective => d.directiveId) :
    ({authority with permits.directives := directives} : AuthorityState).revoke host auth charterId reason now =
      ({(authority.revoke host auth charterId reason now).1 with permits.directives := directives},
        (authority.revoke host auth charterId reason now).2) := by
  unfold AuthorityState.revoke
  cases runCasSection (revokeSection host auth charterId reason now) authority.charters with
  | mk charters result => cases result <;> rfl

theorem journal_revoke : (s.revoke host auth charterId reason now).journal = s.journal := by
  have hkept : (s.authority.revoke host auth charterId reason now).1.permits.directives = s.authority.permits.directives := by
    obtain hsame | ⟨charter, hrevoke⟩ := @revoke_cases host charterId auth reason now s.authority
    · rw [hsame]
    · obtain ⟨_, _, hpermits, _⟩ := revoke_ok hrevoke
      rw [hpermits]
      rfl
  unfold RecordingState.journal RecordingState.revoke
  rw [hkept]

theorem gate_revoke {resolution : Resolution}
    (h : (∀ active, s.authority.charters.activeRow resolution.auth.workspaceId resolution.auth.userId resolution.now =
        some active → active.id ≠ charterId) ∨
      (resolution.charterEnforcementEnabled = false ∧
        (∃ charter, s.authority.charters.loadActiveCharter host resolution.auth.workspaceId resolution.auth.userId
          resolution.now = .ok charter) ∧
        ∃ charter, (s.revoke host auth charterId reason now).authority.charters.loadActiveCharter host
          resolution.auth.workspaceId resolution.auth.userId resolution.now = .ok charter)) :
    resolution.gate host (s.revoke host auth charterId reason now).authority.charters =
      resolution.gate host s.authority.charters := by
  obtain hother | ⟨hoff, ⟨charter, hload⟩, charter', hload'⟩ := h
  · obtain hsame | ⟨charter, hrevoke⟩ := @revoke_cases host charterId auth reason now s.authority
    · unfold RecordingState.revoke
      rw [hsame]
    · obtain ⟨_, _, _, hcharters⟩ := revoke_ok hrevoke
      unfold RecordingState.revoke Resolution.gate CharterDatabase.resolveOrRefuse CharterDatabase.loadActiveCharter
      rw [hcharters, activeRow_revoke hother]
      rfl
  · unfold Resolution.gate CharterDatabase.resolveOrRefuse
    rw [hload, hload', hoff]
    rfl

/-- A call that a revocation is not seen by commutes with it. -/
theorem record_revoke {a : Recording}
    (h : a.Recordable host charterId (s.revoke host auth charterId reason now).authority.charters s) :
    (s.revoke host auth charterId reason now).record host a =
      ((s.record host a).1.revoke host auth charterId reason now, (s.record host a).2) := by
  cases a with
  | report report =>
    have hrun : report.run (s.revoke host auth charterId reason now).authority.permits = report.run s.authority.permits := by
      obtain hsame | ⟨charter, hrevoke⟩ := @revoke_cases host charterId auth reason now s.authority
      · unfold RecordingState.revoke
        rw [hsame]
      · obtain ⟨_, _, hpermits, _⟩ := revoke_ok hrevoke
        unfold RecordingState.revoke
        rw [hpermits]
        exact Report.run_revoke h
    unfold RecordingState.record
    dsimp only
    rw [hrun]
    cases report.run s.authority.permits with
    | error e => rfl
    | ok directives =>
      have hauthority := congrArg Prod.fst (@revoke_directives host charterId auth reason now s.authority directives)
      exact congrArg (fun authority => ({s with authority}, Except.ok ())) hauthority.symm
  | resolve resolution =>
    have hrun : resolution.run host (s.revoke host auth charterId reason now) = resolution.run host s := by
      unfold Resolution.run
      rw [journal_revoke]
      exact effectResolve_congr fun row hrow hown hhuman hsource =>
        gate_revoke ((h row hrow hown hhuman).resolve_left hsource)
    unfold RecordingState.record
    dsimp only
    rw [hrun]
    cases resolution.run host s <;> rfl
  | reconcile dispatchId body at_ =>
    unfold RecordingState.record
    dsimp only [RecordingState.revoke]
    cases runCasSection (Dispatch.reconcileSection host.toHost dispatchId body at_) s.dispatches with
    | mk dispatches result => cases result <;> rfl

/-- Whenever a charter is revoked, a run of recording calls that it is not seen by is answered as it would have been
without it, and records the same. -/
theorem revoked_records {calls : List Recording}
    (h : ∀ before a after, calls = before ++ a :: after →
      a.Recordable host charterId ((answers (RecordingState.record host) s before).1.revoke host auth charterId reason
        now).authority.charters (answers (RecordingState.record host) s before).1) :
    answers (RecordingState.record host) (s.revoke host auth charterId reason now) calls =
      ((answers (RecordingState.record host) s calls).1.revoke host auth charterId reason now,
        (answers (RecordingState.record host) s calls).2) :=
  @answers_commute _ _ _ (RecordingState.record host) (RecordingState.revoke host auth charterId reason now)
    (fun s a => a.Recordable host charterId (s.revoke host auth charterId reason now).authority.charters s)
    (fun _ _ => record_revoke) _ _ h

end Revoke

/-! ### A run that a revocation stops from being recorded -/

def permittedRun : SessionDirective :=
  {unpermitted with
    state := .inProgress
    permitId := some "p"
    claimedExecutor := some "executor"
    leaseGeneration := 1
    startedAt := some ⟨epoch + 2, true⟩ }

/-- A run in progress by a permit that its charter has allowed. -/
def exampleRun : Option RecordingState := do
  let charters ← (charterSystem exampleStoreHost).run ⟨⟨[], List.nodup_nil⟩, [], [⟨"r", "w", "o", "o"⟩], []⟩
    [exampleCreation "x", .approve exampleStoreAuth "x" (Charter.exampleMinute 1)]
  return ⟨⟨charters, ⟨⟨[issuedPermit "p" "x" 1], List.nodup_singleton _⟩, ⟨[permittedRun], List.nodup_singleton _⟩⟩⟩,
    ⟨[], List.nodup_nil⟩, ⟨Dispatch.DispatchTable.empty, [], []⟩⟩

def exampleReport (state : DirectiveState) : Report :=
  ⟨claimSettings, ⟨"w", "u", "u", "executor"⟩, "s", "d", state, some 1, ⟨epoch + 4, true⟩, [], id⟩

/-- A report that the run is blocked is recorded all the same. -/
theorem revoked_records_blocked : ∃ s, exampleRun = some s ∧
    (answers (RecordingState.record exampleStoreHost)
        (s.revoke exampleStoreHost exampleStoreAuth "x" "" (Charter.exampleMinute 2)) [.report (exampleReport .blocked)]).2 =
      (answers (RecordingState.record exampleStoreHost) s [.report (exampleReport .blocked)]).2 := by
  obtain ⟨s, hs⟩ := Option.isSome_iff_exists.mp (show exampleRun.isSome by decide +kernel)
  refine ⟨s, hs, ?_⟩
  rw [@revoked_records exampleStoreHost s "x" exampleStoreAuth "" (Charter.exampleMinute 2) [.report (exampleReport .blocked)]]
  intro before a after hsplit
  cases before with
  | nil =>
    cases hsplit
    intro d permit _ _ _ hstate
    exact absurd hstate (by decide)
  | cons first before => exact absurd (congrArg List.length hsplit) (by simp)

/-- The holder of the run's lease reports a success after the revocation, and is refused. -/
theorem revoked_unrecorded : ¬ ∀ (s : RecordingState) (auth : AuthContext) (charterId reason : String) (now : Utc)
    (report : Report) (d : SessionDirective), report.directive s.authority.permits = some d → d.state = .inProgress →
      d.claimedExecutor = some report.auth.consumer → report.leaseGeneration = some d.leaseGeneration →
        ((s.revoke exampleStoreHost auth charterId reason now).record exampleStoreHost (.report report)).2 =
          (s.record exampleStoreHost (.report report)).2 := by
  intro h
  let checked (s : RecordingState) : Bool :=
    (exampleReport .succeeded).directive s.authority.permits = some permittedRun &&
      (s.record exampleStoreHost (.report (exampleReport .succeeded))).2.toOption.isSome &&
      ((s.revoke exampleStoreHost exampleStoreAuth "x" "" (Charter.exampleMinute 2)).record exampleStoreHost
        (.report (exampleReport .succeeded))).2.toOption.isNone
  obtain ⟨s, _, hs⟩ := (Option.any_eq_true _ _).mp (show exampleRun.any checked from by decide +kernel)
  simp only [checked, Bool.and_eq_true, decide_eq_true_eq] at hs
  obtain ⟨⟨hdirective, hrecorded⟩, hrefused⟩ := hs
  rw [h s exampleStoreAuth "x" "" _ _ _ hdirective rfl rfl rfl] at hrefused
  rw [Option.isNone_iff_eq_none.mp hrefused] at hrecorded
  cases hrecorded

end OpenTimeline.Directive
