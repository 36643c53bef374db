import OpenTimeline.Service
import OpenTimeline.Directive.Journal

/-! The route that resolves an effect.

The actor of a resolution is derived by the API: a verified human is the owner, who is one of the
system's actors, and any other caller is the executor of its name. Moving an effect that is unknown
takes a verified human; a source that does not record what happened takes a charter. -/
namespace OpenTimeline.Directive
open Library

/-! ### The caller -/

/-- What the API knows of a caller. -/
structure Caller where
  workspaceId : String
  consumer : String
  /-- `auth.role == AgentRole.USER` -/
  isHuman : Bool
  /-- the identity is verified, or the caller has the host's capability -/
  identityVerified : Bool
deriving DecidableEq, Repr

namespace Caller
variable (caller : Caller)

def isOwner : Bool := caller.isHuman && caller.identityVerified

/-- The actor of the caller's resolutions. -/
def actor : String := if caller.isOwner then "system:owner" else "executor:" ++ caller.consumer

/-- `_require_verified_human` -/
def requireVerifiedHuman (action : String) : Except Failure Unit :=
  if caller.isOwner then .ok ()
  else refuse 403 "charter_authority_required"
    [("message", .str ("only a server-verified human may " ++ action)),
      ("reasons", .arr [.str "human_review_required",
        .str (if caller.isHuman then "identity_unverified" else "non_human_caller")])]

end Caller

theorem requireVerifiedHuman_ok_iff {caller : Caller} {action : String} :
    caller.requireVerifiedHuman action = .ok () ↔ caller.isOwner = true := by
  unfold Caller.requireVerifiedHuman
  by_cases howner : caller.isOwner = true
  · simp [howner]
  · rw [if_neg howner]
    simp [howner, refuse]

/-! ### The route -/

structure EffectResolveRequest where
  targetState : String
  resolutionSource : String
  expectedLease : Nat
deriving DecidableEq, Repr

/-- The sources that record what happened. -/
def recordingSources : List String := ["reaper", "provider_read", "owner"]

/-- `needs_human` -/
def needsHuman (current : EffectState) (target : String) : Bool :=
  current = .unknown || effectReopenableTransitions.any fun pair => pair.1 = current && pair.2.value = target

/-- A check that only some requests are asked. -/
def gate (asked : Prop) [Decidable asked] (check : Except Failure Unit) : Except Failure Unit :=
  if asked then check else .ok ()

theorem gate_ok_iff {asked : Prop} [Decidable asked] {check : Except Failure Unit} :
    gate asked check = .ok () ↔ (asked → check = .ok ()) := by
  unfold gate
  split_ifs with h <;> simp [h]

/-- `effect_resolve`; `charter` is what the charter's gate says, which not every source is asked. -/
def effectResolve (charter : Except Failure Unit) (caller : Caller) (effectId : String) (body : EffectResolveRequest)
    (now : Datetime) (db : Database) : Except Failure Database :=
  match (db.effects.find effectId).filter (·.workspaceId = caller.workspaceId) with
  | none => refuse 404 "effect_not_found"
  | some row => do
    gate (needsHuman row.state body.targetState = true)
      (caller.requireVerifiedHuman "resolve an effect whose outcome is unknown")
    gate (body.resolutionSource ∉ recordingSources) charter
    match resolveEffect db ⟨effectId, body.targetState, caller.actor, body.resolutionSource, body.expectedLease, now⟩ with
    | .error reason =>
      refuse 409 "effect_transition_rejected"
        [("reason", .str reason), ("current_state", .str row.state.value), ("target_state", .str body.targetState)]
    | .ok (_, false) =>
      refuse 409 "stale_lease"
        [("effect_id", .str effectId), ("expected_lease", .int body.expectedLease),
          ("actual_lease", match db.directiveOf row with
            | some directive => .int directive.leaseGeneration
            | none => .null)]
    | .ok (db, true) => return db

/-! ### What the route grants -/

/-- The route's request, as the journal gets it. -/
def EffectResolveRequest.resolve (body : EffectResolveRequest) (caller : Caller) (effectId : String) (now : Datetime) :
    ResolveRequest :=
  ⟨effectId, body.targetState, caller.actor, body.resolutionSource, body.expectedLease, now⟩

theorem actor_mem_iff (caller : Caller) : caller.actor ∈ systemOnlySources ↔ caller.isOwner = true := by
  unfold Caller.actor
  split_ifs with howner
  · simp [howner, systemOnlySources]
  · refine iff_of_false (fun h => ?_) howner
    have hhead : ("executor:" ++ caller.consumer).toList.head? ≠ some 's' := by simp
    simp only [systemOnlySources, effectActorReconciler, List.mem_cons, List.not_mem_nil, or_false] at h
    obtain h | h | h := h <;> exact hhead (h ▸ rfl)

theorem executorOf_executor (consumer : String) : executorOf ("executor:" ++ consumer) = consumer := by
  have htoList : ("executor:" ++ consumer).toList = "executor:".toList ++ consumer.toList := String.toList_append
  have hstarts : startsWith ("executor:" ++ consumer) "executor:" = true := by
    rw [startsWith, htoList, List.isPrefixOf_iff_prefix]
    exact List.prefix_append _ _
  rw [executorOf, if_pos hstarts, htoList]
  exact String.ofList_toList

theorem EffectState.parse_value (state : EffectState) : parse state.value = some state := by
  cases state <;> rfl

/-- What the rule asks of a move from an open state. -/
theorem validateEffectTransition_ok_iff {current target moved : EffectState} {actor : String} {reversibility : Reversibility}
    (hopen : current.isOpen = true) :
    validateEffectTransition current target.value actor reversibility = .ok moved ↔
      moved = target ∧ (current, target) ∈ effectTransitions ∧ (current = .unknown → actor ∈ systemOnlySources) ∧
        (reversibility = .irreversible → target.isTerminal = true → actor ∈ systemOnlySources) := by
  have hterminal : ¬ current.isTerminal = true := (EffectState.isOpen_iff current).mp hopen
  have hfailed : (current, target) ∉ effectReopenableTransitions := by
    intro h
    rw [effectReopenableTransitions, List.mem_singleton] at h
    cases h
    exact absurd hopen (by decide)
  unfold validateEffectTransition
  simp only [EffectState.parse_value, hterminal, hfailed, false_and, if_false, List.mem_append, or_false, Bool.false_eq_true]
  split_ifs with hpair hsystem hirreversible
  · exact iff_of_false (by simp) fun h => hsystem.2 (h.2.2.1 hsystem.1)
  · exact iff_of_false (by simp) fun h => hirreversible.2.2 (h.2.2.2 hirreversible.1 hirreversible.2.1)
  · constructor
    · intro h
      cases h
      exact ⟨rfl, hpair, fun hunknown => by_contra fun hactor => hsystem ⟨hunknown, hactor⟩,
        fun hirr hfinal => by_contra fun hactor => hirreversible ⟨hirr, hfinal, hactor⟩⟩
    · rintro ⟨rfl, -⟩
      rfl
  · exact iff_of_false (by simp) fun h => hpair h.2.1

variable {db db' : Database}

theorem EffectRow.resolve_effectId (effect : EffectRow) (request : ResolveRequest) (target : EffectState) :
    (effect.resolve request target).effectId = effect.effectId := rfl

/-- A resolution that hits its row is legal and fenced, and resolves that row alone. -/
theorem resolveEffect_hit {request : ResolveRequest} (h : resolveEffect db request = .ok (db', true)) :
    ∃ row target, db.effects.find request.effectId = some row ∧
      validateEffectTransition row.state request.targetState request.actor row.intent.reversibility = .ok target ∧
      request.fenced db row = true ∧ db'.directives = db.directives ∧
      ∀ id, db'.effects.find id =
        (db.effects.find id).map fun other => if id = request.effectId then other.resolve request target else other := by
  have hdirectives := resolveEffect_directives h
  unfold resolveEffect at h
  split at h
  · cases h
  rename_i row hfind
  obtain ⟨hrow, hid⟩ := Table.find_eq_some_iff.mp hfind
  split at h
  · cases h
  rename_i target hvalid
  simp only [Except.ok.injEq, Prod.mk.injEq] at h
  obtain ⟨rfl, hhit⟩ := h
  simp only [Bool.and_eq_true, decide_eq_true_eq] at hhit
  refine ⟨row, target, hfind, hvalid, hhit.2, hdirectives, fun id => ?_⟩
  rw [Table.find_updateWhere]
  cases hother : db.effects.find id with
  | none => rfl
  | some other =>
    obtain ⟨hmem, hotherId⟩ := Table.find_eq_some_iff.mp hother
    rw [Option.map_some, Option.map_some]
    by_cases hsame : id = request.effectId
    · obtain rfl : other = row := List.inj_on_of_nodup_map db.effects.nodup hmem hrow (hotherId.trans (hsame.trans hid.symm))
      simp [hsame, hid, hhit.2, EffectRow.resolve]
    · simp [hsame, hotherId]

theorem resolveEffect_of {request : ResolveRequest} {row : EffectRow} {target : EffectState}
    (hfind : db.effects.find request.effectId = some row)
    (hvalid : validateEffectTransition row.state request.targetState request.actor row.intent.reversibility = .ok target)
    (hfenced : request.fenced db row = true) : ∃ db', resolveEffect db request = .ok (db', true) := by
  have hid := (Table.find_eq_some_iff.mp hfind).2
  unfold resolveEffect
  simp only [hfind, hvalid, hid, hfenced, decide_true, Bool.and_true]
  exact ⟨_, rfl⟩

/-- What the route grants: it finds the row, and the human, the charter, the rule and the fence allow it. -/
structure Granted (charter : Except Failure Unit) (caller : Caller) (effectId : String) (body : EffectResolveRequest)
    (now : Datetime) (db : Database) (row : EffectRow) (target : EffectState) : Prop where
  find : db.effects.find effectId = some row
  workspace : row.workspaceId = caller.workspaceId
  human : needsHuman row.state body.targetState → caller.isOwner = true
  charter : body.resolutionSource ∉ recordingSources → charter = .ok ()
  valid : validateEffectTransition row.state body.targetState caller.actor row.intent.reversibility = .ok target
  fenced : (body.resolve caller effectId now).fenced db row = true

section Route
variable {charter : Except Failure Unit} {caller : Caller} {effectId : String} {body : EffectResolveRequest} {now : Datetime}

theorem effectResolve_ok (h : effectResolve charter caller effectId body now db = .ok db') :
    ∃ row target, Granted charter caller effectId body now db row target ∧ db'.directives = db.directives ∧
      ∀ id, db'.effects.find id = (db.effects.find id).map fun other =>
        if id = effectId then other.resolve (body.resolve caller effectId now) target else other := by
  unfold effectResolve at h
  cases hfound : (db.effects.find effectId).filter (·.workspaceId = caller.workspaceId) with
  | none =>
    rw [hfound] at h
    cases h
  | some row =>
    obtain ⟨hfind, hworkspace⟩ := Option.filter_eq_some_iff.mp hfound
    simp only [hfound] at h
    obtain ⟨⟨⟩, hhuman, h⟩ := bind_ok h
    obtain ⟨⟨⟩, hcharter, h⟩ := bind_ok h
    rw [gate_ok_iff, requireVerifiedHuman_ok_iff] at hhuman
    rw [gate_ok_iff] at hcharter
    split at h
    · cases h
    · cases h
    · rename_i resolved hresolved
      cases h
      obtain ⟨row', target, hrow', hvalid, hfenced, hdirectives, hrows⟩ := resolveEffect_hit hresolved
      obtain rfl : row = row' := Option.some.inj (hfind.symm.trans hrow')
      exact ⟨row, target, ⟨hfind, of_decide_eq_true hworkspace, hhuman, hcharter, hvalid, hfenced⟩, hdirectives, hrows⟩

theorem effectResolve_of {row : EffectRow} {target : EffectState}
    (h : Granted charter caller effectId body now db row target) :
    ∃ db', effectResolve charter caller effectId body now db = .ok db' := by
  obtain ⟨db', hresolved⟩ := @resolveEffect_of db (body.resolve caller effectId now) row target h.find h.valid h.fenced
  have hfound : (db.effects.find effectId).filter (·.workspaceId = caller.workspaceId) = some row :=
    Option.filter_eq_some_iff.mpr ⟨h.find, decide_eq_true h.workspace⟩
  have hhuman : gate (needsHuman row.state body.targetState = true)
      (caller.requireVerifiedHuman "resolve an effect whose outcome is unknown") = .ok () := by
    rw [gate_ok_iff, requireVerifiedHuman_ok_iff]
    exact h.human
  have hcharter : gate (body.resolutionSource ∉ recordingSources) charter = .ok () := gate_ok_iff.mpr h.charter
  unfold EffectResolveRequest.resolve at hresolved
  refine ⟨db', ?_⟩
  simp only [effectResolve, hfound, hhuman, hcharter, hresolved]
  rfl

end Route

end OpenTimeline.Directive
