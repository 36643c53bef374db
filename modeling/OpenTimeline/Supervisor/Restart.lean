import OpenTimeline.Directive.Opening
import OpenTimeline.Directive.Resolution
import OpenTimeline.Supervisor.Reconcile

/-! A supervisor that comes back.

Its startup reconcile asks the API to resolve each open effect of its session, from what the provider
has of the run, and the first refusal stops it and every dispatch after it. The API judges a request by
the effect's state, its directive's lease and who asks. So one effect that is unknown already, of a run
the provider knows nothing of, or on a lease the API's own reaper has raised, is in the way
(`getsThrough_iff`). -/
namespace OpenTimeline.Supervisor
open Library Directive

variable (host : Host)

/-! ### The reconcile -/

/-- A supervisor at its start: who it is to the API, and what the provider prints of a run. -/
structure Restart where
  caller : Caller
  ownerId : String
  sessionId : String
  /-- `settings.default_runtime_surface`, if it is one -/
  surface : Option Surface
  printed : String → Option (List Json)
  /-- what the charter's gate says -/
  charter : Except Failure Unit
  now : Datetime

namespace Restart
variable (r : Restart)

def session : SessionKey := ⟨r.caller.workspaceId, r.ownerId, r.sessionId⟩

/-- The provider's record of an effect's run; the API does not tell its surface or its turn. -/
def record (effect : EffectRow) : Option RuntimeResult :=
  let providerRunId := effect.providerRunId.getD ""
  if providerRunId = "" then none
  else r.surface.bind fun surface => surface.readProviderRecord host (r.printed providerRunId) providerRunId

/-- The state an effect is to be resolved to. -/
def target (effect : EffectRow) : EffectState := (reconcileState (r.record host effect)).1

/-- What is asked for an effect. -/
def request (effect : EffectRow) : EffectResolveRequest where
  targetState := (r.target host effect).value
  resolutionSource := (reconcileState (r.record host effect)).2
  expectedLease := effect.leaseGeneration

/-- The loop body of `startup_reconcile`. -/
def reconcileOne (db : Database) (effect : EffectRow) : Except Failure Database :=
  if effect.effectId = "" then .ok db
  else effectResolve r.charter r.caller effect.effectId (r.request host effect) r.now db

/-- `startup_reconcile`, on the effects that are open when it asks. -/
def startupReconcile (db : Database) : Except Failure Database :=
  (listOpenEffects db r.session).foldlM (r.reconcileOne host) db

/-- The reconcile returns, so that dispatches may open, and another one changes nothing. -/
def GetsThrough (db : Database) : Prop :=
  ∃ after, r.startupReconcile host db = .ok after ∧ r.startupReconcile host after = .ok after

/-! ### What is granted -/

/-- The provider has a record of the effect's run, the API lets the caller move the effect to what the record
says, and its directive is on the effect's lease and the caller's. -/
structure Settles (db : Database) (effect : EffectRow) : Prop where
  recorded : r.record host effect ≠ none
  known : effect.state = .unknown → r.caller.isOwner = true
  started : effect.state = .prepared → r.target host effect ≠ .confirmed
  reversible : effect.intent.reversibility = .irreversible → r.caller.isOwner = true
  held : ∃ directive, db.directiveOf effect = some directive ∧ directive.leaseGeneration = effect.leaseGeneration ∧
    (directive.claimedExecutor = some r.caller.consumer ∨ r.caller.isOwner = true)

end Restart

/-! ### One effect -/

namespace Restart
variable {host} {r : Restart} {db db' : Database} {effect : EffectRow}

/-- A row as the reconcile lists it. -/
structure Listed (r : Restart) (db : Database) (effect : EffectRow) : Prop where
  find : db.effects.find effect.effectId = some effect
  workspace : effect.workspaceId = r.caller.workspaceId
  isOpen : effect.state.isOpen = true

/-- The move that is asked for is one of the table, and the caller's to make. -/
structure Legal (host : Host) (r : Restart) (effect : EffectRow) : Prop where
  move : (effect.state, r.target host effect) ∈ effectTransitions
  known : effect.state = .unknown → r.caller.isOwner = true
  reversible : effect.intent.reversibility = .irreversible → (r.target host effect).isTerminal = true →
    r.caller.isOwner = true

/-- The effect's directive is on its lease, and the caller's. -/
def Held (r : Restart) (db : Database) (effect : EffectRow) : Prop :=
  ∃ directive, db.directiveOf effect = some directive ∧ directive.leaseGeneration = effect.leaseGeneration ∧
    (directive.claimedExecutor = some r.caller.consumer ∨ r.caller.isOwner = true)

variable (host) in
/-- The row that a request which is granted leaves. -/
def resolved (r : Restart) (effect : EffectRow) : EffectRow :=
  effect.resolve ((r.request host effect).resolve r.caller effect.effectId r.now) (r.target host effect)

theorem fenced_iff : ((r.request host effect).resolve r.caller effect.effectId r.now).fenced db effect = true ↔
    r.Held db effect := by
  unfold ResolveRequest.fenced Held
  cases db.directiveOf effect with
  | none => simp
  | some directive =>
    cases howner : r.caller.isOwner with
    | true =>
      have hsystem : r.caller.actor ∈ systemOnlySources := (actor_mem_iff _).mpr howner
      simp [EffectResolveRequest.resolve, request, hsystem]
      exact decide_eq_true_iff
    | false =>
      have hactor : r.caller.actor = "executor:" ++ r.caller.consumer := by simp [Caller.actor, howner]
      have hsystem : r.caller.actor ∉ systemOnlySources := fun h => by
        rw [actor_mem_iff, howner] at h
        cases h
      rw [hactor] at hsystem
      simp [EffectResolveRequest.resolve, request, hactor, hsystem, executorOf_executor]

theorem needsHuman_iff (hopen : effect.state.isOpen = true) :
    needsHuman effect.state (r.request host effect).targetState = true ↔ effect.state = .unknown := by
  have hfailed : effect.state ≠ .failed := by
    rintro hfailed
    rw [hfailed] at hopen
    cases hopen
  simp [needsHuman, effectReopenableTransitions, hfailed.symm]

/-- What the route grants of the reconcile's requests. -/
theorem granted_iff (hlisted : Listed r db effect) (target : EffectState) :
    Granted r.charter r.caller effect.effectId (r.request host effect) r.now db effect target ↔
      target = r.target host effect ∧ Legal host r effect ∧ Held r db effect := by
  have hsource : (r.request host effect).resolutionSource ∈ recordingSources := by
    simp only [request, reconcileState]
    split <;> simp [recordingSources]
  have hvalid := @validateEffectTransition_ok_iff effect.state (r.target host effect) target r.caller.actor
    effect.intent.reversibility hlisted.isOpen
  rw [actor_mem_iff] at hvalid
  constructor
  · intro h
    obtain ⟨htarget, hmove, hknown, hreversible⟩ := hvalid.mp h.valid
    exact ⟨htarget, ⟨hmove, hknown, hreversible⟩, fenced_iff.mp h.fenced⟩
  · rintro ⟨htarget, hlegal, hheld⟩
    exact {
      find := hlisted.find
      workspace := hlisted.workspace
      human := fun h => hlegal.known ((needsHuman_iff hlisted.isOpen).mp h)
      charter := fun h => absurd hsource h
      valid := hvalid.mpr ⟨htarget, hlegal.move, hlegal.known, hlegal.reversible⟩
      fenced := fenced_iff.mpr hheld }

theorem reconcileOne_ok (hlisted : Listed r db effect) (h : r.reconcileOne host db effect = .ok db') :
    (effect.effectId ≠ "" → Legal host r effect ∧ Held r db effect) ∧ db'.directives = db.directives ∧
      ∀ id, db'.effects.find id = (db.effects.find id).map fun other =>
        if id = effect.effectId ∧ id ≠ "" then r.resolved host other else other := by
  unfold reconcileOne at h
  split_ifs at h with hempty
  · cases h
    refine ⟨fun hne => absurd hempty hne, rfl, fun id => ?_⟩
    rw [hempty]
    simp
  · obtain ⟨row, target, hgranted, hdirectives, hrows⟩ := effectResolve_ok h
    obtain rfl : row = effect := Option.some.inj (hgranted.find.symm.trans hlisted.find)
    obtain ⟨rfl, hlegal, hheld⟩ := (granted_iff hlisted target).mp hgranted
    refine ⟨fun _ => ⟨hlegal, hheld⟩, hdirectives, fun id => ?_⟩
    rw [hrows]
    by_cases hid : id = row.effectId
    · simp [hid, hempty, hlisted.find, resolved]
    · simp [hid]

theorem reconcileOne_of (hlisted : Listed r db effect)
    (h : effect.effectId ≠ "" → Legal host r effect ∧ Held r db effect) : ∃ db', r.reconcileOne host db effect = .ok db' := by
  unfold reconcileOne
  split_ifs with hempty
  · exact ⟨db, rfl⟩
  · obtain ⟨hlegal, hheld⟩ := h hempty
    exact effectResolve_of ((granted_iff hlisted _).mpr ⟨rfl, hlegal, hheld⟩)

/-! ### All of them -/

/-- A request for another effect leaves what is asked for this one. -/
theorem listed_of_reconcileOne {other : EffectRow} (hlisted : Listed r db effect)
    (h : r.reconcileOne host db effect = .ok db') (hother : Listed r db other) (hne : other.effectId ≠ effect.effectId) :
    Listed r db' other := by
  obtain ⟨-, -, hrows⟩ := reconcileOne_ok hlisted h
  refine ⟨?_, hother.workspace, hother.isOpen⟩
  rw [hrows, hother.find]
  simp [hne]

theorem held_congr (h : db'.directives = db.directives) : Held r db' effect ↔ Held r db effect := by
  unfold Held Database.directiveOf
  rw [h]

/-- A reconcile that returns was granted every request, and resolved the effects it listed. -/
theorem foldlM_ok {effects : List EffectRow} (hnodup : (effects.map EffectRow.effectId).Nodup)
    (hlisted : ∀ effect ∈ effects, Listed r db effect) (h : effects.foldlM (r.reconcileOne host) db = .ok db') :
    (∀ effect ∈ effects, effect.effectId ≠ "" → Legal host r effect ∧ Held r db effect) ∧
      db'.directives = db.directives ∧ ∀ id, db'.effects.find id = (db.effects.find id).map fun other =>
        if other ∈ effects ∧ id ≠ "" then r.resolved host other else other := by
  induction effects generalizing db with
  | nil =>
    cases h
    exact ⟨by simp, rfl, by simp⟩
  | cons first rest ih =>
    rw [List.foldlM_cons] at h
    obtain ⟨next, hnext, hrest⟩ := bind_ok h
    obtain ⟨hnotin, hnodup⟩ := List.nodup_cons.mp hnodup
    obtain ⟨hfirst, hothers⟩ := List.forall_mem_cons.mp hlisted
    have hne : ∀ other ∈ rest, other.effectId ≠ first.effectId := fun other hother heq =>
      hnotin (heq ▸ List.mem_map_of_mem hother)
    obtain ⟨hgranted, hdirectives, hrows⟩ := reconcileOne_ok hfirst hnext
    obtain ⟨hrestGranted, hrestDirectives, hrestRows⟩ := ih hnodup
      (fun other hother => listed_of_reconcileOne hfirst hnext (hothers other hother) (hne other hother)) hrest
    refine ⟨List.forall_mem_cons.mpr ⟨hgranted, fun other hother hid => ?_⟩, hrestDirectives.trans hdirectives, fun id => ?_⟩
    · obtain ⟨hlegal, hheld⟩ := hrestGranted other hother hid
      exact ⟨hlegal, (held_congr hdirectives).mp hheld⟩
    · rw [hrestRows, hrows, Option.map_map]
      cases hfind : db.effects.find id with
      | none => rfl
      | some row =>
        have hrow : row.effectId = id := (Table.find_eq_some_iff.mp hfind).2
        simp only [Option.map_some, Function.comp_apply, Option.some.injEq]
        by_cases hid : id = first.effectId
        · obtain rfl : row = first := by
            rw [hid, hfirst.find] at hfind
            exact (Option.some.inj hfind).symm
          have hrowNotin : row ∉ rest := fun hmem => hne row hmem rfl
          have hresolvedNotin : r.resolved host row ∉ rest := fun hmem => hne _ hmem rfl
          by_cases hempty : row.effectId = "" <;> simp [hid, hrowNotin, hresolvedNotin, hempty]
        · have hrowNe : row ≠ first := fun heq => hid (by rw [← hrow, heq])
          simp [hid, hrowNe]

theorem foldlM_of {effects : List EffectRow} (hnodup : (effects.map EffectRow.effectId).Nodup)
    (hlisted : ∀ effect ∈ effects, Listed r db effect)
    (h : ∀ effect ∈ effects, effect.effectId ≠ "" → Legal host r effect ∧ Held r db effect) :
    ∃ db', effects.foldlM (r.reconcileOne host) db = .ok db' := by
  induction effects generalizing db with
  | nil => exact ⟨db, rfl⟩
  | cons first rest ih =>
    obtain ⟨hnotin, hnodup⟩ := List.nodup_cons.mp hnodup
    obtain ⟨hfirst, hothers⟩ := List.forall_mem_cons.mp hlisted
    obtain ⟨hfirstGranted, hgranted⟩ := List.forall_mem_cons.mp h
    obtain ⟨next, hnext⟩ := reconcileOne_of hfirst hfirstGranted
    obtain ⟨-, hdirectives, -⟩ := reconcileOne_ok hfirst hnext
    obtain ⟨db', hrest⟩ := @ih next hnodup
      (fun other hother => listed_of_reconcileOne hfirst hnext (hothers other hother) fun heq =>
        hnotin (heq ▸ List.mem_map_of_mem hother))
      fun other hother hid => by
        obtain ⟨hlegal, hheld⟩ := hgranted other hother hid
        exact ⟨hlegal, (held_congr hdirectives).mpr hheld⟩
    refine ⟨db', ?_⟩
    rw [List.foldlM_cons, hnext]
    exact hrest

theorem listed_of_mem (h : effect ∈ listOpenEffects db r.session) : Listed r db effect := by
  obtain ⟨hrow, hof, hopen⟩ := mem_openEffects.mp ((List.mem_insertionSort _).mp h)
  simp only [EffectRow.isOf, Bool.and_eq_true, decide_eq_true_eq] at hof
  exact ⟨Table.find_eq_some_iff.mpr ⟨hrow, rfl⟩, hof.1.1, hopen⟩

theorem nodup_listOpenEffects : ((listOpenEffects db r.session).map EffectRow.effectId).Nodup := by
  have hsorted := (List.perm_insertionSort (fun a b : EffectRow => a.openedAt.instant < b.openedAt.instant ∨
    a.openedAt.instant = b.openedAt.instant ∧ a.seq ≤ b.seq) (db.openEffects r.session)).map EffectRow.effectId
  exact hsorted.nodup_iff.mpr (db.effects.nodup.sublist (List.filter_sublist.map _))

/-- Without a record an effect is to be unknown, with one it is to be over. -/
theorem target_of_none (h : r.record host effect = none) : r.target host effect = .unknown := by
  rw [target, h]
  rfl

theorem target_of_some (h : r.record host effect ≠ none) :
    r.target host effect = .confirmed ∨ r.target host effect = .failed := by
  obtain ⟨record, hrecord⟩ := Option.ne_none_iff_exists'.mp h
  rw [target, hrecord, reconcileState]
  split_ifs <;> simp

theorem settles_iff (hopen : effect.state.isOpen = true) :
    r.Settles host db effect ↔ r.record host effect ≠ none ∧ Legal host r effect ∧ Held r db effect := by
  constructor
  · intro h
    refine ⟨h.recorded, ⟨?_, h.known, fun hirreversible _ => h.reversible hirreversible⟩, h.held⟩
    have hstarted := h.started
    obtain htarget | htarget := target_of_some h.recorded <;> cases hstate : effect.state <;> rw [hstate] at hopen hstarted <;>
      simp_all [effectTransitions, EffectState.isOpen]
  · rintro ⟨hrecorded, hlegal, hheld⟩
    refine ⟨hrecorded, hlegal.known, fun hprepared hconfirmed => ?_, fun hirreversible => ?_, hheld⟩
    · have hmove := hlegal.move
      rw [hprepared, hconfirmed] at hmove
      exact absurd hmove (by decide)
    · refine hlegal.reversible hirreversible ?_
      obtain htarget | htarget := target_of_some hrecorded <;> rw [htarget] <;> rfl

theorem resolved_isOf (session : SessionKey) : (r.resolved host effect).isOf session = effect.isOf session := rfl

theorem record_resolved : r.record host (r.resolved host effect) = r.record host effect := rfl

theorem mem_listOpenEffects : effect ∈ listOpenEffects db r.session ↔ effect ∈ db.openEffects r.session :=
  List.mem_insertionSort _

/-- Rows without an id are passed over. -/
theorem foldlM_of_noIds {effects : List EffectRow} (h : ∀ effect ∈ effects, effect.effectId = "") :
    effects.foldlM (r.reconcileOne host) db = .ok db := by
  induction effects with
  | nil => rfl
  | cons first rest ih =>
    obtain ⟨hfirst, hrest⟩ := List.forall_mem_cons.mp h
    have hskip : r.reconcileOne host db first = .ok db := if_pos hfirst
    rw [List.foldlM_cons, hskip]
    exact ih hrest

variable (host) in
/-- A supervisor's reconcile returns, and changes nothing when it is run again, exactly where the provider has
a record of each open effect's run, and the effect may be moved by this caller to what the record says. -/
theorem getsThrough_iff (r : Restart) (db : Database) :
    r.GetsThrough host db ↔ ∀ effect ∈ db.openEffects r.session, effect.effectId ≠ "" → r.Settles host db effect := by
  constructor
  · rintro ⟨after, hfirst, hsecond⟩ effect heffect hid
    have hlisted := mem_listOpenEffects.mpr heffect
    obtain ⟨hrow, hof, hopen⟩ := mem_openEffects.mp heffect
    obtain ⟨hgranted, -, hrows⟩ := foldlM_ok nodup_listOpenEffects (fun _ => listed_of_mem) hfirst
    obtain ⟨hlegal, hheld⟩ := hgranted effect hlisted hid
    refine (settles_iff hopen).mpr ⟨fun hnone => ?_, hlegal, hheld⟩
    -- it is unknown now, and listed again
    have hstate : (r.resolved host effect).state = .unknown := target_of_none hnone
    have hafter : r.resolved host effect ∈ after.openEffects r.session := by
      refine mem_openEffects.mpr ⟨?_, (resolved_isOf r.session).trans hof, by rw [hstate]; rfl⟩
      refine (Table.find_eq_some_iff (k := effect.effectId)).mp ?_ |>.1
      rw [hrows, (listed_of_mem hlisted).find]
      simp [hlisted, hid]
    obtain ⟨hagain, -⟩ := foldlM_ok nodup_listOpenEffects (fun _ => listed_of_mem) hsecond
    have hmove := (hagain _ (mem_listOpenEffects.mpr hafter) hid).1.move
    rw [hstate, target_of_none (record_resolved.trans hnone)] at hmove
    exact absurd hmove (by decide)
  · intro h
    have hsettles : ∀ effect ∈ listOpenEffects db r.session, effect.effectId ≠ "" → r.Settles host db effect :=
      fun effect heffect => h effect (mem_listOpenEffects.mp heffect)
    obtain ⟨after, hfirst⟩ := @foldlM_of host r db _ nodup_listOpenEffects (fun _ => listed_of_mem)
      fun effect heffect hid => ((settles_iff (listed_of_mem heffect).isOpen).mp (hsettles effect heffect hid)).2
    refine ⟨after, hfirst, foldlM_of_noIds fun effect heffect => ?_⟩
    by_contra hid
    obtain ⟨hrow, hof, hopen⟩ := mem_openEffects.mp (mem_listOpenEffects.mp heffect)
    obtain ⟨-, -, hrows⟩ := foldlM_ok nodup_listOpenEffects (fun _ => listed_of_mem) hfirst
    have hfind := (hrows effect.effectId).symm.trans (Table.find_eq_some_iff.mpr ⟨hrow, rfl⟩)
    obtain ⟨before, hbefore, heq⟩ := Option.map_eq_some_iff.mp hfind
    split_ifs at heq with hlisted
    · -- what was listed is over
      subst heq
      have hover : (r.resolved host before).state = .confirmed ∨ (r.resolved host before).state = .failed :=
        target_of_some (hsettles before hlisted.1 hid).recorded
      obtain hstate | hstate := hover <;> rw [hstate] at hopen <;> cases hopen
    · subst heq
      have hopenBefore := mem_openEffects.mpr ⟨(Table.find_eq_some_iff.mp hbefore).1, hof, hopen⟩
      exact hlisted ⟨mem_listOpenEffects.mpr hopenBefore, hid⟩

/-! ### After the API's own reaper -/

/-- The default supervisor, whose provider prints nothing. -/
def exampleRestart : Restart where
  caller := ⟨"w", "worker", false, true⟩
  ownerId := "owner"
  sessionId := "s"
  surface := some .codexAppServer
  printed := fun _ => none
  charter := .ok ()
  now := exampleTime 5000

/-- The root effect of a dispatch. -/
def rootRequest : OpenRequest where
  workspaceId := "w"
  ownerId := "owner"
  sessionId := "s"
  directiveId := "d"
  intent := ⟨"directive", "process.execute", "", [], .unknown, ""⟩
  leaseGeneration := 1
  claimedExecutor := "worker"
  providerRunId := some "run"
  now := exampleTime 10
  newId := "e"

/-- A dispatch that is over right after its root effect was opened, and the API's reaper. -/
def crashed : Option (SweepState Unit) :=
  (sweepProtocol (asciiHost [] []) Directive.exampleSettings Unit).run
    ⟨unopened, fun _ => none, none, [], []⟩
    [.openEffect rootRequest, .select (exampleTime 4000), .reap]

/-- The effect is unknown by then, and the supervisor's request for it is refused. -/
theorem crashed_refused : ∃ s, crashed = some s ∧ s.db.effects.rows.map (·.state) = [.unknown] ∧
    (exampleRestart.startupReconcile (asciiHost [] []) s.db).toOption = none ∧
      ¬ exampleRestart.GetsThrough (asciiHost [] []) s.db := by
  obtain ⟨s, hs, hstate⟩ := (Option.any_eq_true _ _).mp (show crashed.any (fun s => decide (
    s.db.effects.rows.map (·.state) = [.unknown] ∧
      (exampleRestart.startupReconcile (asciiHost [] []) s.db).toOption.isNone = true)) from by decide +kernel)
  obtain ⟨hunknown, hnone⟩ := of_decide_eq_true hstate
  have hrefused := Option.isNone_iff_eq_none.mp hnone
  refine ⟨s, hs, hunknown, hrefused, ?_⟩
  rintro ⟨after, hfirst, -⟩
  rw [hfirst] at hrefused
  cases hrefused

end Restart
end OpenTimeline.Supervisor
