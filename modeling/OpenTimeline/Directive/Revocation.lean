import OpenTimeline.Charter.Gate
import OpenTimeline.Charter.Lifecycle
import OpenTimeline.Directive.Permits
import OpenTimeline.Directive.Resolution

/-! The permits of a revoked charter.

A revocation blocks what its charter has allowed outright. It leaves a permit that an operator has
confirmed, and one that still waits for an operator, who may confirm it afterwards. So what is allowed
under a revoked charter is what an operator has confirmed (`revoked_run`), and a claim refuses it only by
the gate or by the charter that is active instead: the ids of the two are compared where both are known.
A claim that meets neither and is judged by such a permit moves its directive. -/
namespace OpenTimeline.Directive
open Library Charter

variable (host : StoreHost)

structure AuthorityState where
  charters : CharterDatabase
  permits : PermitDatabase

/-! ### Revocation -/

/-- `UPDATE execution_permits SET decision = 'blocked' … WHERE … decision = 'allow' AND resolved_at IS NULL` -/
def PermitDatabase.revoke (charterId : String) (now : Datetime) (db : PermitDatabase) : PermitDatabase :=
  {db with
    permits := db.permits.updateWhere
      (fun row => row.charterId = some charterId && row.decision = "allow" && row.resolvedAt = none)
      (fun row => {row with decision := "blocked", reason := "charter_revoked", resolvedAt := some now}) fun _ => rfl }

/-- `revoke_charter` -/
def AuthorityState.revoke (auth : AuthContext) (charterId reason : String) (now : Utc) (s : AuthorityState) :
    AuthorityState × Except Failure ResolvedCharter :=
  match runCasSection (revokeSection host auth charterId reason now) s.charters with
  | (charters, .ok charter) => (⟨charters, s.permits.revoke charterId (datetimeOf now)⟩, .ok charter)
  | (charters, .error e) => (⟨charters, s.permits⟩, .error e)

/-! ### Permits -/

/-- The body of a permit request, with the objective it is bound to. -/
structure PermitCall where
  sessionId : String
  actionKind : String
  targetPaths : List String
  commandPreview : Option String
  directiveId : Option String
  attempt : Option Int
  objectiveHash : Option String

/-- The row of a request, with what the policy says of it. -/
def PermitCall.row (host : Host) (auth : AuthContext) (body : PermitCall) (decision reason : String)
    (charter : Option ResolvedCharter) (expiresAt now : Datetime) (id : String) : PermitRow where
  id := id
  sessionId := body.sessionId
  workspaceId := auth.workspaceId
  actionKind := body.actionKind
  targetPaths := body.targetPaths
  commandPreview := body.commandPreview
  decision := decision
  reason := reason
  expiresAt := some expiresAt
  createdAt := now
  resolvedAt := none
  userId := some auth.userId
  requestedBy := some auth.consumer
  directiveId := filled body.directiveId
  attempt := body.attempt
  objectiveHash := filled body.objectiveHash
  scopeDigest := some (permitScopeDigest host body.actionKind body.targetPaths body.commandPreview)
  charterId := charter.map (·.charterId)

/-- `request_execution_permit_lite`: the charter is the one active for the caller. -/
def AuthorityState.request (auth : AuthContext) (body : PermitCall) (decision reason : String) (expiresAt : Datetime)
    (now : Utc) (id : String) (s : AuthorityState) : Except Failure AuthorityState := do
  let charter ← passing (s.charters.loadActiveCharter host auth.workspaceId auth.userId now)
  match s.permits.permits.insert (body.row host.toHost auth decision reason charter expiresAt (datetimeOf now) id) with
  | none => .error .integrityError
  | some permits => return {s with permits := {s.permits with permits}}

/-- What an operator is asked. -/
structure Confirmation where
  permitId : String
  approved : Bool
  /-- `auth.role == AgentRole.EXECUTOR` -/
  byExecutor : Bool

/-- What an operator's answer makes of a permit. -/
def Confirmation.answer (body : Confirmation) (now : Datetime) (row : PermitRow) : String × String :=
  if row.expiresAt.any fun expiresAt => expiresAt.instant < now.instant then ("blocked", "permit expired")
  else if body.approved then ("allow", "confirmed by operator") else ("blocked", "denied by operator")

/-- `resolve_execution_permit_lite` -/
def PermitDatabase.confirm (caller : Caller) (body : Confirmation) (now : Datetime) (db : PermitDatabase) :
    Except Failure PermitDatabase :=
  let own (row : PermitRow) : Bool := row.workspaceId = caller.workspaceId
  let waiting (row : PermitRow) : Bool := row.resolvedAt = none && row.decision = "confirm_required"
  match (db.permits.find body.permitId).filter own with
  | none => .error (.http 404 [("detail", .str "permit not found")])
  | some row =>
    let selfApproved := row.requestedBy.getD "" = caller.consumer
    if !waiting row then .ok db
    else if !caller.isHuman then .error (.http 403 [("detail", .str
      (if body.byExecutor ∧ selfApproved then "executor cannot self-approve a confirm_required permit"
        else "only an operator may resolve a confirm_required permit"))])
    else if !caller.isOwner ∧ selfApproved then
      .error (.http 403 [("detail", .str "executor cannot self-approve a confirm_required permit")])
    else
      let (decision, reason) := body.answer now row
      .ok {db with
        permits := db.permits.updateWhere (fun row => row.id = body.permitId && own row && waiting row)
          (fun row => {row with decision, reason, resolvedAt := some now}) fun _ => rfl }

/-- `UPDATE execution_permits SET expires_at = ? …`: an objective that changes, or a task that is cancelled. -/
def PermitDatabase.expire (sessionId : String) (workspaceId : Option String) (stamp : Datetime) (db : PermitDatabase) :
    PermitDatabase :=
  {db with
    permits := db.permits.updateWhere
      (fun row => row.sessionId = sessionId && workspaceId.all (row.workspaceId = ·) &&
        row.expiresAt.all fun expiresAt => stamp.instant < expiresAt.instant)
      (fun row => {row with expiresAt := some stamp}) fun _ => rfl }

/-- The directive of a takeover step, with the permit it is bound to. -/
def PermitDatabase.mint (d : SessionDirective) (db : PermitDatabase) : Option PermitDatabase :=
  (db.directives.insert d).map fun directives => {
    permits := db.permits.updateWhere (fun row => d.permitId = some row.id) (·.attach d) (PermitRow.attach_id d)
    directives }

/-! ### Claims -/

/-- A call of `claim_execution`, with the settings it meets. -/
structure Claim where
  settings : Settings
  charterEnforcementEnabled : Bool
  auth : AuthContext
  sessionId : String
  directiveId : Option String
  claimedBy : Option String
  now : Utc

namespace Claim
variable (claim : Claim) (s : AuthorityState)

/-- The charter active for the caller. -/
def charter : Except PyError (Option ResolvedCharter) :=
  s.charters.loadActiveCharter host claim.auth.workspaceId claim.auth.userId claim.now

def call : ClaimCall where
  workspaceId := claim.auth.workspaceId
  userId := claim.auth.userId
  consumer := claim.auth.consumer
  sessionId := claim.sessionId
  directiveId := claim.directiveId
  claimedBy := claim.claimedBy
  now := datetimeOf claim.now
  activeCharterId := (claim.charter host s).toOption.join.map (·.charterId)

def gate (d : SessionDirective) : Except Failure Unit := do
  let _ ← s.charters.resolveOrRefuse host claim.charterEnforcementEnabled claim.auth d.actionKind claim.now

/-- `claim_execution` under the charters of the state. -/
def run : PermitDatabase × Except Failure SessionDirective :=
  claimExecutionLite host.toHost claim.settings (claim.gate host s) (claim.call host s) s.permits

end Claim

/-! ### Runs -/

inductive AuthorityAction
  | revoke (auth : AuthContext) (charterId reason : String) (now : Utc)
  /-- any other call of the charter store -/
  | charter (action : CharterAction)
  | request (auth : AuthContext) (body : PermitCall) (decision reason : String) (expiresAt : Datetime) (now : Utc)
    (id : String)
  | confirm (caller : Caller) (body : Confirmation) (now : Datetime)
  | expire (sessionId : String) (workspaceId : Option String) (stamp : Datetime)
  | mint (d : SessionDirective)
  | claim (claim : Claim)
  /-- whatever else is written to the directives -/
  | write (directives : Table fun d : SessionDirective => d.directiveId)

/-- The call is `revoke_charter`. -/
def isRevocation : CharterAction → Bool
  | .revoke .. => true
  | _ => false

def AuthorityState.next (s : AuthorityState) : AuthorityAction → Option AuthorityState
  | .revoke auth charterId reason now => some (s.revoke host auth charterId reason now).1
  | .charter action => if isRevocation action then none
    else ((charterSystem host).next s.charters action).map fun charters => {s with charters}
  | .request auth body decision reason expiresAt now id =>
    some ((s.request host auth body decision reason expiresAt now id).toOption.getD s)
  | .confirm caller body now => some {s with permits := (s.permits.confirm caller body now).toOption.getD s.permits}
  | .expire sessionId workspaceId stamp => some {s with permits := s.permits.expire sessionId workspaceId stamp}
  | .mint d => (s.permits.mint d).map fun permits => {s with permits}
  | .claim claim => some {s with permits := (claim.run host s).1}
  | .write directives => some {s with permits := {s.permits with directives}}

/-- Charters, permits and claims, from any tables. -/
def authoritySystem : System AuthorityState AuthorityAction where
  init _ := True
  next := AuthorityState.next host

/-! ### After a revocation -/

/-- The permit is issued under the charter. -/
def PermitRow.IssuedUnder (charterId : String) (permit : PermitRow) : Prop := filled permit.charterId = some charterId

instance (charterId : String) (permit : PermitRow) : Decidable (permit.IssuedUnder charterId) :=
  inferInstanceAs (Decidable (_ = _))

/-- The claim moves a directive to in progress by a permit that is issued under the charter. -/
def Claim.movesUnder (claim : Claim) (charterId : String) (s : AuthorityState) : Bool :=
  ((claim.call host s).row s.permits).any fun d => d.state = .pending && d.requiresPermit &&
    ((claim.call host s).judged s.permits d).any (fun permit => permit.IssuedUnder charterId) &&
    (claim.run host s).2.toOption.any (·.state = .inProgress)

/-- The claim is stopped by a charter or by the gate, or it is judged by no permit that an operator has confirmed under
the charter. -/
def Claim.Guarded (claim : Claim) (charterId : String) (s : AuthorityState) : Prop :=
  ∀ d, (claim.call host s).row s.permits = some d →
    (claim.call host s).activeCharterId ≠ none ∨
      (claim.charterEnforcementEnabled = true ∧ isMutatingActionKind host.toHost d.actionKind = true) ∨
        ∀ permit, (claim.call host s).judged s.permits d = some permit → permit.IssuedUnder charterId →
          permit.decision = "allow" → permit.resolvedAt = none

/-- Where the permit is allowed under the charter, an operator has confirmed it. -/
def PermitRow.Withheld (charterId : String) (permit : PermitRow) : Prop :=
  permit.IssuedUnder charterId → permit.decision = "allow" → permit.resolvedAt ≠ none

/-- The charter is retired, and an operator has confirmed whatever is allowed under it. -/
structure AuthorityState.Withdrawn (charterId : String) (s : AuthorityState) : Prop where
  retired : ∃ row ∈ s.charters.charters.rows, row.id = charterId ∧ row.Retired
  withheld : ∀ permit ∈ s.permits.permits.rows, permit.Withheld charterId

variable {host} {s s' : AuthorityState} {charterId : String}

theorem PermitRow.IssuedUnder.charterId_eq {permit : PermitRow} (h : permit.IssuedUnder charterId) :
    permit.charterId = some charterId := (Option.filter_eq_some_iff.mp h).1

theorem withheld_revoke {db : PermitDatabase} {now : Datetime} :
    ∀ permit ∈ (db.revoke charterId now).permits.rows, permit.Withheld charterId := by
  intro permit hpermit hissued hallow
  obtain ⟨before, hbefore, rfl⟩ := List.mem_map.mp hpermit
  dsimp only at hallow hissued ⊢
  split_ifs at hallow hissued ⊢ with hblocked
  · exact absurd (show "blocked" = "allow" from hallow) (by decide)
  · intro hnone
    exact hblocked (by simp [hissued.charterId_eq, hallow, hnone])

/-- A revocation that returns has updated its charter and the permits. -/
theorem revoke_ok {auth : AuthContext} {reason : String} {now : Utc} {charter : ResolvedCharter}
    (h : s.revoke host auth charterId reason now = (s', .ok charter)) :
    ∃ row, s.charters.loadRow auth.workspaceId charterId = some row ∧ s'.permits = s.permits.revoke charterId (datetimeOf now) ∧
      s'.charters = {s.charters with
        charters := Charter.revoke s.charters.charters auth.workspaceId charterId reason now
        permits := s.charters.permits.map fun permit =>
          if permit.charterId = some charterId ∧ permit.decision = "allow" ∧ permit.resolvedAt = none then
            {permit with decision := "blocked", reason := "charter_revoked", resolvedAt := some now}
          else permit } := by
  unfold AuthorityState.revoke at h
  cases hrun : runCasSection (revokeSection host auth charterId reason now) s.charters with
  | mk charters result =>
    rw [hrun] at h
    cases result with
    | error e => cases h
    | ok revoked =>
      cases h
      have hsection := runCasSection_ok hrun
      unfold revokeSection at hsection
      cases hload : s.charters.loadRow auth.workspaceId charterId with
      | none =>
        rw [hload] at hsection
        cases hsection
      | some row =>
        rw [hload] at hsection
        exact ⟨row, rfl, rfl, reread_ok hsection⟩

/-- What a revocation writes to the permits of the charter store, it writes to these. -/
theorem revoke_view {auth : AuthContext} {reason : String} {now : Utc} {charter : ResolvedCharter}
    (h : s.revoke host auth charterId reason now = (s', .ok charter))
    (hview : s.permits.permits.rows.map (fun row => (row.charterId, row.decision, row.reason, row.resolvedAt.isSome)) =
      s.charters.permits.map fun row => (row.charterId, row.decision, row.reason, row.resolvedAt.isSome)) :
    s'.permits.permits.rows.map (fun row => (row.charterId, row.decision, row.reason, row.resolvedAt.isSome)) =
      s'.charters.permits.map fun row => (row.charterId, row.decision, row.reason, row.resolvedAt.isSome) := by
  obtain ⟨_, _, hpermits, hcharters⟩ := revoke_ok h
  let set (view : Option String × String × String × Bool) : Option String × String × String × Bool :=
    if view.1 = some charterId ∧ view.2.1 = "allow" ∧ view.2.2.2 = false then (view.1, "blocked", "charter_revoked", true)
    else view
  have hset := congrArg (List.map set) hview
  rw [List.map_map, List.map_map] at hset
  rw [hpermits, hcharters]
  dsimp only [PermitDatabase.revoke, Table.updateWhere, Table.update]
  rw [List.map_map, List.map_map]
  convert hset using 2
  · funext row
    simp only [Function.comp_apply, set, Bool.and_eq_true, decide_eq_true_eq, and_assoc, Option.isSome_eq_false_iff,
      Option.isNone_iff_eq_none]
    split_ifs <;> rfl
  · funext row
    simp only [Function.comp_apply, set, Option.isSome_eq_false_iff, Option.isNone_iff_eq_none]
    split_ifs <;> rfl

/-- A revocation that returns leaves its charter withdrawn. -/
theorem withdrawn_of_revoke {auth : AuthContext} {reason : String} {now : Utc} {charter : ResolvedCharter}
    (h : s.revoke host auth charterId reason now = (s', .ok charter)) : s'.Withdrawn charterId := by
  obtain ⟨row, hload, hpermits, hcharters⟩ := revoke_ok h
  obtain ⟨hrow, hid, hworkspace⟩ := mem_of_loadRow hload
  refine ⟨?_, hpermits ▸ withheld_revoke⟩
  rw [hcharters]
  refine ⟨_, List.mem_map_of_mem hrow, ?_⟩
  simp only [hid, hworkspace, decide_true, Bool.and_self, if_true]
  exact ⟨trivial, Or.inr rfl⟩

/-- A withdrawn charter is active for nobody. -/
theorem AuthorityState.Withdrawn.not_active (h : s.Withdrawn charterId) {workspaceId ownerId : String} {now : Utc}
    {charter : ResolvedCharter} (hload : s.charters.loadActiveCharter host workspaceId ownerId now = .ok (some charter)) :
    charter.charterId ≠ charterId := by
  obtain ⟨row, hrow, hactive, hid⟩ := active_of_loaded hload
  obtain ⟨retired, hretired, hsame, hstatus⟩ := h.retired
  intro heq
  obtain rfl := List.inj_on_of_nodup_map s.charters.charters.nodup hrow hretired ((hid.symm.trans heq).trans hsame.symm)
  obtain hsuperseded | hrevoked := hstatus
  · rw [hactive] at hsuperseded
    cases hsuperseded
  · rw [hactive] at hrevoked
    cases hrevoked

theorem withheld_attach {permit : PermitRow} (h : permit.Withheld charterId) (d : SessionDirective) :
    (permit.attach d).Withheld charterId := by
  unfold PermitRow.attach
  split_ifs
  · exact h
  · exact h

theorem withheld_confirm {db db' : PermitDatabase} {caller : Caller} {body : Confirmation} {now : Datetime}
    (h : db.confirm caller body now = .ok db') (hdb : ∀ permit ∈ db.permits.rows, permit.Withheld charterId) :
    ∀ permit ∈ db'.permits.rows, permit.Withheld charterId := by
  unfold PermitDatabase.confirm at h
  dsimp only at h
  split at h
  · cases h
  split_ifs at h
  · cases h
    exact hdb
  · cases h
    dsimp only
    refine Table.forall_updateWhere hdb fun row _ _ _ _ _ hnone => ?_
    cases hnone

theorem withheld_request {auth : AuthContext} {body : PermitCall} {decision reason id : String} {expiresAt : Datetime}
    {now : Utc} (h : s.request host auth body decision reason expiresAt now id = .ok s') (hs : s.Withdrawn charterId) :
    s'.Withdrawn charterId := by
  obtain ⟨charter, hload, h⟩ := bind_ok h
  split at h
  · cases h
  rename_i permits hinsert
  cases h
  refine ⟨hs.retired, Table.forall_insert hinsert hs.withheld fun hissued => ?_⟩
  have hid := hissued.charterId_eq
  cases charter with
  | none => cases hid
  | some charter =>
    have hloaded : s.charters.loadActiveCharter host auth.workspaceId auth.userId now = .ok (some charter) := by
      cases hfound : s.charters.loadActiveCharter host auth.workspaceId auth.userId now with
      | error e =>
        rw [hfound] at hload
        cases hload
      | ok found =>
        rw [hfound] at hload
        cases hload
        rfl
    exact absurd (Option.some.inj hid) (hs.not_active hloaded)

/-- No call brings a withdrawn charter back, or allows anything under it but an operator's confirmation. -/
theorem withdrawn_next {a : AuthorityAction} (hs : s.Withdrawn charterId) (h : s.next host a = some s') :
    s'.Withdrawn charterId := by
  have hkeep (db : PermitDatabase) (hdb : ∀ permit ∈ db.permits.rows, permit.Withheld charterId) :
    ({s with permits := db} : AuthorityState).Withdrawn charterId := ⟨hs.retired, hdb⟩
  cases a with
  | revoke auth revoked reason now =>
    cases h
    unfold AuthorityState.revoke
    obtain ⟨row, hrow, hid, hretired⟩ := hs.retired
    obtain ⟨row', hrow', hid', hretired'⟩ := retired_step
      (chartersStep_section fun _ _ => @revokeSection_ok host s.charters _ auth revoked reason now _) hrow hretired
    cases hrun : runCasSection (revokeSection host auth revoked reason now) s.charters with
    | mk charters result =>
      rw [hrun] at hrow'
      have hcharters : ∃ row ∈ charters.charters.rows, row.id = charterId ∧ row.Retired :=
        ⟨row', hrow', hid'.trans hid, hretired'⟩
      cases result with
      | error e => exact ⟨hcharters, hs.withheld⟩
      | ok charter =>
        refine ⟨hcharters, ?_⟩
        dsimp only [PermitDatabase.revoke]
        refine Table.forall_updateWhere hs.withheld fun row _ _ _ _ _ hnone => ?_
        cases hnone
  | charter action =>
    dsimp only [AuthorityState.next] at h
    split_ifs at h
    obtain ⟨charters, hnext, rfl⟩ := Option.map_eq_some_iff.mp h
    obtain ⟨row, hrow, hid, hretired⟩ := hs.retired
    obtain ⟨row', hrow', hid', hretired'⟩ := retired_step (chartersStep_next hnext) hrow hretired
    exact ⟨⟨row', hrow', hid'.trans hid, hretired'⟩, hs.withheld⟩
  | request auth body decision reason expiresAt now id =>
    cases h
    cases hrequest : s.request host auth body decision reason expiresAt now id with
    | error e => exact hs
    | ok requested => exact withheld_request hrequest hs
  | confirm caller body now =>
    cases h
    cases hconfirm : s.permits.confirm caller body now with
    | error e => exact hs
    | ok db => exact hkeep _ (withheld_confirm hconfirm hs.withheld)
  | expire sessionId workspaceId stamp =>
    cases h
    refine hkeep _ ?_
    dsimp only [PermitDatabase.expire]
    exact Table.forall_updateWhere hs.withheld fun _ _ hrow _ => hrow
  | mint d =>
    obtain ⟨db, hmint, rfl⟩ := Option.map_eq_some_iff.mp h
    obtain ⟨directives, _, rfl⟩ := Option.map_eq_some_iff.mp hmint
    refine hkeep _ ?_
    dsimp only
    exact Table.forall_updateWhere hs.withheld fun _ _ hrow _ => withheld_attach hrow d
  | claim claim =>
    cases h
    exact hkeep _ (claim_keeps (fun d _ hrow => withheld_attach hrow d) hs.withheld)
  | write directives =>
    cases h
    exact hkeep _ hs.withheld

theorem withdrawn_run {actions : List AuthorityAction} (hs : s.Withdrawn charterId)
    (h : (authoritySystem host).run s actions = some s') : s'.Withdrawn charterId :=
  System.run_keeps (I := AuthorityState.Withdrawn charterId) (fun _ _ _ hkept hnext => withdrawn_next hkept hnext) h hs

/-- Where a charter is withdrawn, a guarded claim moves nothing under it. -/
theorem not_movesUnder_of_guarded {claim : Claim} (hs : s.Withdrawn charterId) (hguard : claim.Guarded host charterId s) :
    claim.movesUnder host charterId s = false := by
  rw [Bool.eq_false_iff]
  intro hmoves
  obtain ⟨d, hrow, hmoves⟩ := (Option.any_eq_true _ _).mp hmoves
  simp only [Bool.and_eq_true, decide_eq_true_eq] at hmoves
  obtain ⟨⟨⟨hpending, hrequires⟩, hissued⟩, hmoved⟩ := hmoves
  obtain ⟨permit, hjudged, hissued⟩ := (Option.any_eq_true _ _).mp hissued
  obtain ⟨moved, hresult, hstate⟩ := (Option.any_eq_true _ _).mp hmoved
  rw [decide_eq_true_eq] at hissued hstate
  obtain ⟨hgate, hpasses⟩ := passes_of_moved hrow hpending (toOption_eq_some_iff.mp hresult) hstate
  obtain ⟨found, hfound, hallow, hcharter⟩ := judged_of_passes hrequires hpasses
  obtain rfl := Option.some.inj (hjudged.symm.trans hfound)
  obtain ⟨charter, hresolved, _⟩ := bind_ok hgate
  obtain ⟨hload, henforced⟩ := resolveOrRefuse_ok hresolved
  have hactive : (claim.call host s).activeCharterId = charter.map (·.charterId) := by
    simp [Claim.call, Claim.charter, hload, Except.toOption]
  have hnone : charter = none := by
    cases charter with
    | none => rfl
    | some charter =>
      rw [hactive, show filled permit.charterId = some charterId from hissued, differ_eq_false_iff] at hcharter
      obtain hcharter | hcharter | hcharter := hcharter
      · cases hcharter
      · cases hcharter
      · exact absurd (Option.some.inj hcharter).symm (hs.not_active hload)
  subst hnone
  obtain hguard | ⟨hon, hmutating⟩ | hguard := hguard d hrow
  · exact hguard hactive
  · exact henforced hon hmutating rfl
  · obtain ⟨permitId, _, hpermit⟩ := Option.bind_eq_some_iff.mp hjudged
    have hmem := (Table.find_eq_some_iff.mp (Option.filter_eq_some_iff.mp hpermit).1).1
    exact hs.withheld permit hmem hissued hallow (hguard permit hjudged hissued hallow)

/-- Once a revocation has returned, no guarded claim of any run moves a directive under the charter. -/
theorem revoked_authorises_nothing {revoked : AuthorityState} {auth : AuthContext} {reason : String} {now : Utc}
    {charter : ResolvedCharter} (hrevoke : s.revoke host auth charterId reason now = (revoked, .ok charter))
    {actions : List AuthorityAction}
    (hguard : ∀ before claim after mid, actions = before ++ .claim claim :: after →
      (authoritySystem host).run revoked before = some mid → claim.Guarded host charterId mid) :
    ∀ before claim after mid, actions = before ++ .claim claim :: after →
      (authoritySystem host).run revoked before = some mid → claim.movesUnder host charterId mid = false :=
  fun before claim after mid hsplit hbefore => not_movesUnder_of_guarded
    (withdrawn_run (withdrawn_of_revoke hrevoke) hbefore) (hguard before claim after mid hsplit hbefore)

/-- A permit that waits for an operator. -/
def waitingPermit : PermitRow := {issuedPermit "p" "x" 1 with decision := "confirm_required"}

/-- A charter is approved, an operator confirms a permit that was issued under it, and the charter is revoked. -/
def confirmedAndRevoked : Option (AuthorityState × AuthorityState) := do
  let charters ← (charterSystem exampleStoreHost).run ⟨⟨[], List.nodup_nil⟩, [], [⟨"r", "w", "o", "o"⟩], []⟩
    [exampleCreation "x", .approve exampleStoreAuth "x" (Charter.exampleMinute 1)]
  let permits : PermitDatabase := ⟨⟨[waitingPermit], List.nodup_singleton _⟩, onePermit.directives⟩
  let s ← (authoritySystem exampleStoreHost).run ⟨charters, permits⟩
    [.confirm ⟨"w", "operator", true, true⟩ ⟨"p", true, false⟩ ⟨epoch + 2, true⟩]
  match s.revoke exampleStoreHost exampleStoreAuth "x" "" (Charter.exampleMinute 2) with
  | (revoked, .ok _) => return (s, revoked)
  | _ => none

def exampleClaim (charterEnforcementEnabled : Bool) : Claim :=
  ⟨claimSettings, charterEnforcementEnabled, ⟨"w", "u", "u", "executor"⟩, "s", none, none, Charter.exampleMinute 3⟩

theorem confirmedAndRevoked_spec {s revoked : AuthorityState} (h : confirmedAndRevoked = some (s, revoked)) :
    ∃ charter, s.revoke exampleStoreHost exampleStoreAuth "x" "" (Charter.exampleMinute 2) = (revoked, .ok charter) := by
  unfold confirmedAndRevoked at h
  obtain ⟨charters, _, h⟩ := Option.bind_eq_some_iff.mp h
  obtain ⟨s', _, h⟩ := Option.bind_eq_some_iff.mp h
  split at h
  · rename_i charter hrevoke
    cases h
    exact ⟨charter, hrevoke⟩
  · cases h

/-- Where charters are enforced, the gate stops the claim. -/
theorem revoked_authorises_nothing_enforced : ∃ s revoked, confirmedAndRevoked = some (s, revoked) ∧
    (exampleClaim true).movesUnder exampleStoreHost "x" revoked = false := by
  let mutating (revoked : AuthorityState) : Bool := (((exampleClaim true).call exampleStoreHost revoked).row revoked.permits).all
    fun d => isMutatingActionKind exampleStoreHost.toHost d.actionKind
  obtain ⟨⟨s, revoked⟩, hrun, hmutating⟩ := (Option.any_eq_true _ _).mp
    (show confirmedAndRevoked.any (fun states => mutating states.2) from by decide +kernel)
  obtain ⟨charter, hrevoke⟩ := confirmedAndRevoked_spec hrun
  refine ⟨s, revoked, hrun, @revoked_authorises_nothing _ _ _ _ _ _ _ _ hrevoke [.claim (exampleClaim true)] ?_ [] _ [] _ rfl rfl⟩
  intro before claim after mid hsplit hbefore
  cases before with
  | nil =>
    cases hbefore
    cases hsplit
    exact fun d hrow => Or.inr (Or.inl ⟨rfl, (Option.all_eq_true _ _).mp hmutating d hrow⟩)
  | cons first before => exact absurd (congrArg List.length hsplit) (by simp)

/-- Without a charter and without enforcement, the permit that was confirmed before the revocation still counts. -/
theorem revoked_still_authorises : ¬ ∀ (s revoked : AuthorityState) (auth : AuthContext) (charterId reason : String)
    (now : Utc) (charter : ResolvedCharter),
      s.revoke exampleStoreHost auth charterId reason now = (revoked, .ok charter) →
        ∀ claim : Claim, claim.movesUnder exampleStoreHost charterId revoked = false := by
  intro h
  obtain ⟨⟨s, revoked⟩, hrun, hmoves⟩ := (Option.any_eq_true _ _).mp (show confirmedAndRevoked.any
    (fun states => (exampleClaim false).movesUnder exampleStoreHost "x" states.2) from by decide +kernel)
  obtain ⟨charter, hrevoke⟩ := confirmedAndRevoked_spec hrun
  exact absurd hmoves (by simp [h s revoked _ _ _ _ charter hrevoke])

end OpenTimeline.Directive
