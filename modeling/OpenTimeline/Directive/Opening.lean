import OpenTimeline.Directive.Pause

/-! What `open_effect` returns.

Both backends keep one row for each intent of a directive. The first opening prepares it;
every later one, of a retry as of a second performance, returns it in whatever state and
of whatever session it is by then. So the id a caller gets is that of an effect open in
its session exactly when no row of the intent stands there resolved or elsewhere
(`openEffect_visible_iff`). -/
namespace OpenTimeline.Directive
open Library

variable (host : Host)

/-- `open_effect` of Full: the fence comes before the INSERT, and asks a system actor for
no lease. -/
def fullOpenEffect (db : Database) (request : OpenRequest) : Except String (Database × String) :=
  match db.directives.find request.directiveId with
  | none => .error "unknown_directive"
  | some d =>
    if request.claimedExecutor ∉ systemOnlySources ∧ d.leaseGeneration ≠ request.leaseGeneration then
      .error "stale_lease"
    else if request.claimedExecutor ∉ systemOnlySources ∧
        d.claimedExecutor.getD "" ≠ request.claimedExecutor then
      .error "stale_lease"
    else match db.effectOf request.directiveId (effectIntentDigest host request.intent) with
      | some existing => .ok (db, existing.effectId)
      | none => match db.effects.insert (request.row host db) with
        | none => .error "integrity"
        | some effects => .ok ({db with effects}, request.newId)

def OpenRequest.session (request : OpenRequest) : SessionKey :=
  ⟨request.workspaceId, request.ownerId, request.sessionId⟩

/-- The id is that of an open effect of the session. -/
def Visible (db : Database) (session : SessionKey) (effectId : String) : Prop :=
  ∃ effect ∈ db.openEffects session, effect.effectId = effectId

/-- The row of the intent, where there is one, is open and of the request's session. -/
def Unspent (db : Database) (request : OpenRequest) : Prop :=
  ∀ existing, db.effectOf request.directiveId (effectIntentDigest host request.intent) = some existing →
    existing.state.isOpen ∧ existing.isOf request.session

/-- What an opening does for a caller that holds the lease: it returns the row of the
intent, or prepares it. -/
def openedBy (db : Database) (request : OpenRequest) : Except String (Database × String) :=
  match db.effectOf request.directiveId (effectIntentDigest host request.intent) with
  | some existing => .ok (db, existing.effectId)
  | none => match db.effects.insert (request.row host db) with
    | none => .error "integrity"
    | some effects => .ok ({db with effects}, request.newId)

theorem openEffect_of_fenced {db : Database} {request : OpenRequest} (h : request.fenced db) :
    openEffect host db request = openedBy host db request := by
  unfold openEffect openedBy
  rw [h]
  rfl

theorem fullOpenEffect_of_fenced {db : Database} {request : OpenRequest} (h : request.fenced db) :
    fullOpenEffect host db request = openedBy host db request := by
  unfold OpenRequest.fenced at h
  unfold fullOpenEffect openedBy
  cases hfind : db.directives.find request.directiveId with
  | none => simp [hfind] at h
  | some d =>
    simp only [hfind, Bool.and_eq_true, Bool.or_eq_true, decide_eq_true_eq] at h
    obtain ⟨hlease, hactor⟩ := h
    have hexecutor : ¬ (request.claimedExecutor ∉ systemOnlySources ∧
        d.claimedExecutor.getD "" ≠ request.claimedExecutor) := by
      rintro ⟨hsystem, hne⟩
      refine hne ?_
      rw [hactor.resolve_right hsystem]
      rfl
    simp only [hlease, ne_eq, not_true_eq_false, and_false, if_false]
    rw [if_neg hexecutor]

/-- The row an opening prepares is open in the session. -/
theorem visible_insert {db : Database} {request : OpenRequest} {effects : Table EffectRow.effectId}
    (h : db.effects.insert (request.row host db) = some effects) :
    Visible {db with effects} request.session request.newId := by
  refine ⟨request.row host db, mem_openEffects.mpr ⟨?_, ?_, rfl⟩, rfl⟩
  · rw [Table.insert_eq_some h]
    exact List.mem_append_right _ (List.mem_singleton_self _)
  · simp [EffectRow.isOf, OpenRequest.row, OpenRequest.session]

/-- A row is visible under its id exactly when it is open and of the session. -/
theorem visible_iff {db : Database} {session : SessionKey} {effect : EffectRow} (heffect : effect ∈ db.effects.rows) :
    Visible db session effect.effectId ↔ effect.state.isOpen ∧ effect.isOf session := by
  constructor
  · rintro ⟨listed, hlisted, hid⟩
    obtain ⟨hrow, hsession, hopen⟩ := mem_openEffects.mp hlisted
    rw [← List.inj_on_of_nodup_map db.effects.nodup hrow heffect hid]
    exact ⟨hopen, hsession⟩
  · rintro ⟨hopen, hsession⟩
    exact ⟨effect, mem_openEffects.mpr ⟨heffect, hsession, hopen⟩, rfl⟩

theorem openedBy_visible_iff {db : Database} {request : OpenRequest} :
    (∀ db' effectId, openedBy host db request = .ok (db', effectId) → Visible db' request.session effectId) ↔
      Unspent host db request := by
  unfold openedBy Unspent
  cases hrow : db.effectOf request.directiveId (effectIntentDigest host request.intent) with
  | some existing =>
    have hexisting : existing ∈ db.effects.rows := List.mem_of_find?_eq_some hrow
    constructor
    · rintro h _ ⟨⟩
      exact (visible_iff hexisting).mp (h db existing.effectId rfl)
    · rintro h _ _ ⟨⟩
      exact (visible_iff hexisting).mpr (h existing rfl)
  | none =>
    refine iff_of_true (fun db' effectId hopened => ?_) (fun existing h => by cases h)
    cases hinsert : db.effects.insert (request.row host db) with
    | none =>
      simp only [hinsert] at hopened
      cases hopened
    | some effects =>
      simp only [hinsert] at hopened
      cases hopened
      exact visible_insert host hinsert

/-- A caller that holds the lease is given an effect open in its session, whatever the
journal holds, exactly when the row of the intent is unspent. -/
theorem openEffect_visible_iff (db : Database) (request : OpenRequest) (h : request.fenced db) :
    ((∀ db' effectId, openEffect host db request = .ok (db', effectId) →
        Visible db' request.session effectId) ↔ Unspent host db request) ∧
    ((∀ db' effectId, fullOpenEffect host db request = .ok (db', effectId) →
        Visible db' request.session effectId) ↔ Unspent host db request) := by
  rw [openEffect_of_fenced host h, fullOpenEffect_of_fenced host h]
  exact ⟨openedBy_visible_iff host, openedBy_visible_iff host⟩

/-! ### One command, run twice -/

/-- The worker is to run the tests. -/
def testRun (newId : String) : OpenRequest where
  workspaceId := "w"
  ownerId := "owner"
  sessionId := "s"
  directiveId := "d"
  intent := ⟨"command", "process.execute", "", ["npm", "test"], .reversible, ""⟩
  leaseGeneration := 1
  claimedExecutor := "worker"
  providerRunId := none
  now := exampleTime 10
  newId := newId

/-- A resolution by the worker. -/
def workerResolves (targetState : String) : ResolveRequest :=
  ⟨"e", targetState, "executor:worker", "runtime_result", 1, exampleTime 20⟩

def unopened : Database := ⟨exampleDatabase.directives, ⟨[], List.nodup_nil⟩⟩

/-- The journal once the tests have been run, up to the state given. -/
def testedOnce (targetStates : List String) : Except String Database := do
  let (db, _) ← openEffect (asciiHost [] []) unopened (testRun "e")
  targetStates.foldlM (fun db targetState => do
    let (db, _) ← resolveEffect db (workerResolves targetState)
    return db) db

theorem testedOnce_ok {targetStates : List String} (h : (testedOnce targetStates).toOption.isSome) :
    ∃ db, testedOnce targetStates = .ok db := by
  cases hdb : testedOnce targetStates with
  | ok db => exact ⟨db, rfl⟩
  | error _ =>
    rw [hdb] at h
    cases h

/-- The tests hung: running them again is seen. -/
theorem openEffect_visible_hung : ∃ db, testedOnce ["running", "unknown"] = .ok db ∧
    (testRun "f").fenced db ∧
    ((∀ db' effectId, openEffect (asciiHost [] []) db (testRun "f") = .ok (db', effectId) →
        Visible db' (testRun "f").session effectId) ∧
      ∀ db' effectId, fullOpenEffect (asciiHost [] []) db (testRun "f") = .ok (db', effectId) →
        Visible db' (testRun "f").session effectId) := by
  obtain ⟨db, hdb⟩ := @testedOnce_ok ["running", "unknown"] (by decide)
  have hfenced : (testedOnce ["running", "unknown"]).toOption.map (testRun "f").fenced = some true := by decide
  have hrow : (testedOnce ["running", "unknown"]).toOption.bind (fun db =>
      (db.effectOf "d" (effectIntentDigest (asciiHost [] []) (testRun "f").intent)).map fun effect =>
        effect.state.isOpen && effect.isOf (testRun "f").session) = some true := by decide
  rw [hdb] at hfenced hrow
  replace hfenced : (testRun "f").fenced db := Option.some.inj hfenced
  have hunspent : Unspent (asciiHost [] []) db (testRun "f") := by
    intro existing hexisting
    obtain ⟨effect, heffect, hopen⟩ := Option.map_eq_some_iff.mp hrow
    rw [show db.effectOf "d" _ = some existing from hexisting] at heffect
    cases heffect
    simpa using hopen
  have hvisible := openEffect_visible_iff (asciiHost [] []) db (testRun "f") hfenced
  exact ⟨db, hdb, hfenced, hvisible.1.mpr hunspent, hvisible.2.mpr hunspent⟩

theorem not_visible_of_openEffects {opened : Except String (Database × String)} {session : SessionKey}
    {effectId : String}
    (h : opened.toOption.map (fun after => (after.2, after.1.openEffects session)) = some (effectId, [])) :
    ¬ ∀ db' effectId, opened = .ok (db', effectId) → Visible db' session effectId := by
  intro hvisible
  cases hopened : opened with
  | error _ =>
    rw [hopened] at h
    cases h
  | ok after =>
    rw [hopened] at h
    obtain ⟨effect, heffect, _⟩ := hvisible after.1 after.2 hopened
    rw [show after.1.openEffects session = [] from congrArg Prod.snd (Option.some.inj h)] at heffect
    cases heffect

/-- The tests passed: running them again is not. -/
theorem openEffect_unseen :
    (¬ ∀ host db request, request.fenced db → ∀ db' effectId,
      openEffect host db request = .ok (db', effectId) → Visible db' request.session effectId) ∧
    ¬ ∀ host db request, request.fenced db → ∀ db' effectId,
      fullOpenEffect host db request = .ok (db', effectId) → Visible db' request.session effectId := by
  obtain ⟨db, hdb⟩ := @testedOnce_ok ["running", "confirmed"] (by decide)
  have hfenced : (testedOnce ["running", "confirmed"]).toOption.map (testRun "f").fenced = some true := by decide
  have hlite : (testedOnce ["running", "confirmed"]).toOption.map (fun db =>
      (openEffect (asciiHost [] []) db (testRun "f")).toOption.map fun after =>
        (after.2, after.1.openEffects (testRun "f").session)) = some (some ("e", [])) := by decide
  have hfull : (testedOnce ["running", "confirmed"]).toOption.map (fun db =>
      (fullOpenEffect (asciiHost [] []) db (testRun "f")).toOption.map fun after =>
        (after.2, after.1.openEffects (testRun "f").session)) = some (some ("e", [])) := by decide
  rw [hdb] at hfenced hlite hfull
  constructor
  · exact fun h => not_visible_of_openEffects (Option.some.inj hlite)
      (h (asciiHost [] []) db (testRun "f") (Option.some.inj hfenced))
  · exact fun h => not_visible_of_openEffects (Option.some.inj hfull)
      (h (asciiHost [] []) db (testRun "f") (Option.some.inj hfenced))

end OpenTimeline.Directive
