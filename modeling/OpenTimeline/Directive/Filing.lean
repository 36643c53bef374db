import OpenTimeline.Library.Transition
import OpenTimeline.Directive.Journal
import OpenTimeline.Directive.Opening
import OpenTimeline.Directive.Report
import OpenTimeline.Directive.Resolution

/-! The session an effect is filed under.

The guard picks the rows of the journal by their session, and a row is of the session that
the request of its opening named. The fence of an opening asks for the directive's lease and
for its executor, and not for its session. So an effect of unknown outcome pauses the session
of its directive as long as each row that may not be repeated was opened there
(`unknown_pauses_session`), and a worker that names another session is not paused at all
(`unknown_unseen`). -/
namespace OpenTimeline.Directive
open Library

variable (host : Host) (settings : Settings)

/-! ### The route -/

/-- `_effect_kind` -/
def effectKind (value : String) : String :=
  if strip value ∈ ["directive", "write", "command", "commit", "external"] then strip value else "external"

/-- `_effect_reversibility` -/
def effectReversibility (value : String) : Reversibility :=
  ([Reversibility.reversible, .irreversible, .unknown].find? fun r => r.value = strip value).getD .unknown

/-- The body of an opening. -/
structure EffectOpenRequest where
  sessionId : String
  directiveId : String
  kind : String
  capability : String
  resource : String
  argv : List String
  reversibility : String
  description : String := ""
  leaseGeneration : Nat
  providerRunId : Option String := none
deriving DecidableEq, Repr

def EffectOpenRequest.intent (body : EffectOpenRequest) : EffectIntent where
  kind := effectKind body.kind
  capability := body.capability
  resource := body.resource
  argv := body.argv
  reversibility := effectReversibility body.reversibility
  description := body.description

/-- A call of the route that opens an effect. -/
structure OpenCall where
  caller : Caller
  userId : String
  body : EffectOpenRequest
  now : Datetime
  /-- `str(uuid.uuid4())` -/
  newId : String

/-- The call, as the journal gets it. -/
def OpenCall.request (call : OpenCall) : OpenRequest where
  workspaceId := call.caller.workspaceId
  ownerId := call.userId
  sessionId := call.body.sessionId
  directiveId := call.body.directiveId
  intent := call.body.intent
  leaseGeneration := call.body.leaseGeneration
  claimedExecutor := call.caller.consumer
  providerRunId := call.body.providerRunId
  now := call.now
  newId := call.newId

/-- `effect_open`, and the record it answers with; `charter` is what the charter's gate says of
the session that the body names. -/
def effectOpen (charter : Except Failure Unit) (call : OpenCall) (db : Database) :
    Except Failure (Database × Option EffectRow) := do
  if !settings.effectJournalEnabled then refuse 503 "effect_journal_disabled"
  charter
  match openEffect host db call.request with
  | .error "stale_lease" =>
    refuse 409 "stale_lease"
      [("directive_id", .str call.body.directiveId), ("expected_lease", .int call.body.leaseGeneration)]
  | .error _ => .error .integrityError
  | .ok (db, effectId) =>
    return (db, (loadEffectsForDirective db call.body.directiveId).find? fun record => record.effectId = effectId)

/-! ### Where the guard is read -/

/-- What `takeover_step` has found when it comes to mint a directive. -/
structure StepOutlook where
  /-- `state.mode == TakeoverMode.TAKEOVER` -/
  takesOver : Bool
  finalResponse : String
  /-- `safety_decision == SafetyDecision.ALLOW` -/
  allowed : Bool
  pendingExecution : Option SessionDirective
  suppressAutoDirective : Bool
  /-- `dependency_preflight.get("valid", True)` -/
  preflightValid : Bool

/-- The response of a step, once the guard has been read. -/
def StepOutlook.response (outlook : StepOutlook) (guard : Bool × String × String) : String :=
  if guard.1 then
    "AUTONOMOUS MODE PAUSED: an effect from a previous run is unresolved and may be irreversible. Resolve effect " ++
      guard.2.2 ++ " before continuing."
  else outlook.finalResponse

/-- `takeover_step` mints a directive. -/
def StepOutlook.mints (outlook : StepOutlook) (guard : Bool × String × String) : Bool :=
  outlook.takesOver && outlook.response guard ≠ "" && outlook.allowed && outlook.pendingExecution.isNone &&
    !outlook.suppressAutoDirective && !guard.1 && outlook.preflightValid

/-! ### The system -/

def SessionDirective.session (d : SessionDirective) : SessionKey := ⟨d.workspaceId, d.userId, d.sessionId⟩

/-- The directives with their sessions, and the journal. -/
structure SessionDatabase where
  directives : Table fun d : SessionDirective => d.directiveId
  effects : Table EffectRow.effectId

theorem nodup_directives (directives : Table fun d : SessionDirective => d.directiveId) :
    ((directives.rows.map (·.toDirectiveExecution)).map (·.directiveId)).Nodup := by
  rw [List.map_map]
  exact directives.nodup

/-- The tables as the journal's functions read them. -/
def SessionDatabase.read (db : SessionDatabase) : Database where
  directives := ⟨db.directives.rows.map (·.toDirectiveExecution), nodup_directives db.directives⟩
  effects := db.effects

/-- The row may be written: it is of the session that its directive was in, or it is of an id
that is not drawn yet. -/
def SessionDatabase.Keeps (db : SessionDatabase) (d : SessionDirective) : Prop :=
  (∃ row ∈ db.directives.rows, row.directiveId = d.directiveId ∧ row.session = d.session) ∨
    ∀ effect ∈ db.effects.rows, effect.directiveId ≠ d.directiveId

instance (db : SessionDatabase) : DecidablePred db.Keeps := fun _ => inferInstanceAs (Decidable (_ ∨ _))

inductive FilingAction
  | effectOpen (charter : Except Failure Unit) (call : OpenCall)
  | effectResolve (charter : Except Failure Unit) (caller : Caller) (effectId : String) (body : EffectResolveRequest)
      (now : Datetime)
  | reap (directiveId : String) (bumpedLease : Nat) (now : Datetime)
  | write (directives : Table fun d : SessionDirective => d.directiveId)

/-- The routes of the journal and the reapers, from an empty journal, while the directives are
minted, claimed, reported, reaped and deleted. A directive's session is never updated. -/
def filingSystem : System SessionDatabase FilingAction where
  init db := db.effects.rows = []
  next db
    | .effectOpen charter call => match effectOpen host settings charter call db.read with
      | .ok (after, _) => some {db with effects := after.effects}
      | .error _ => some db
    | .effectResolve charter caller effectId body now => match effectResolve charter caller effectId body now db.read with
      | .ok after => some {db with effects := after.effects}
      | .error _ => some db
    | .reap directiveId bumpedLease now =>
      match resolveEffectsForDirective settings now directiveId bumpedLease db.read with
      | .ok (after, _) => some {db with effects := after.effects}
      | .error _ => some db
    | .write directives => if ∀ d ∈ directives.rows, db.Keeps d then some {db with directives} else none

/-- The opening gets to the INSERT. -/
def OpenCall.Prepares (charter : Except Failure Unit) (call : OpenCall) (db : Database) : Prop :=
  settings.effectJournalEnabled = true ∧ charter.isOk = true ∧
    db.effectOf call.body.directiveId (effectIntentDigest host call.body.intent) = none ∧ call.request.fenced db = true

instance (charter : Except Failure Unit) (call : OpenCall) (db : Database) :
    Decidable (call.Prepares host settings charter db) := inferInstanceAs (Decidable (_ ∧ _))

/-- What an opening prepares may be repeated, or is of its directive's session. -/
def Filed (db : SessionDatabase) : FilingAction → Prop
  | .effectOpen charter call => call.Prepares host settings charter db.read →
      call.body.intent.reversibility = .reversible ∨
        (db.directives.find call.body.directiveId).all fun d => d.session = call.request.session
  | _ => True

instance (db : SessionDatabase) (action : FilingAction) : Decidable (Filed host settings db action) := by
  cases action <;> unfold Filed <;> infer_instance

variable {host settings}

/-! ### What a step does to the rows -/

/-- The rows after are the rows before, each of the session, of the directive and with the intent that it had. -/
def KeepsFiling (rows rows' : List EffectRow) : Prop :=
  ∀ effect' ∈ rows', ∃ effect ∈ rows, effect'.directiveId = effect.directiveId ∧ effect'.intent = effect.intent ∧
    ∀ session, effect'.isOf session = effect.isOf session

theorem KeepsFiling.refl (rows : List EffectRow) : KeepsFiling rows rows :=
  fun effect heffect => ⟨effect, heffect, rfl, rfl, fun _ => rfl⟩

theorem KeepsFiling.trans {rows rows' rows'' : List EffectRow} (h : KeepsFiling rows rows')
    (h' : KeepsFiling rows' rows'') : KeepsFiling rows rows'' := by
  intro effect'' heffect''
  obtain ⟨effect', heffect', hid', hintent', hsession'⟩ := h' effect'' heffect''
  obtain ⟨effect, heffect, hid, hintent, hsession⟩ := h effect' heffect'
  exact ⟨effect, heffect, hid'.trans hid, hintent'.trans hintent, fun session => (hsession' session).trans (hsession session)⟩

theorem resolveEffect_keepsFiling {db db' : Database} {request : ResolveRequest} {hit : Bool}
    (h : resolveEffect db request = .ok (db', hit)) : KeepsFiling db.effects.rows db'.effects.rows := by
  obtain ⟨f, hrows, hmoves⟩ := resolveEffect_moves h
  rw [hrows]
  intro effect' heffect'
  obtain ⟨effect, heffect, rfl⟩ := List.mem_map.mp heffect'
  refine ⟨effect, heffect, ?_⟩
  rcases hmoves effect heffect with hsame | ⟨target, hmoved, -⟩
  · rw [hsame]
    exact ⟨rfl, rfl, fun _ => rfl⟩
  · rw [hmoved]
    exact ⟨rfl, rfl, fun _ => rfl⟩

theorem resolveRecord_keepsFiling {now : Datetime} {bumpedLease : Nat} {state state' : Database × EffectCounters}
    {record : EffectRow} (h : resolveRecord now bumpedLease state record = .ok state') :
    KeepsFiling state.1.effects.rows state'.1.effects.rows := by
  have hresolved : ∀ (counters : Bool → EffectCounters) {request : ResolveRequest},
      (resolveEffect state.1 request >>= fun resolved => pure (resolved.1, counters resolved.2)) = .ok state' →
        KeepsFiling state.1.effects.rows state'.1.effects.rows := by
    intro counters request hdone
    obtain ⟨⟨db, hit⟩, hresolve, hdone⟩ := bind_ok hdone
    cases hdone
    exact resolveEffect_keepsFiling hresolve
  unfold resolveRecord at h
  dsimp only at h
  split at h
  · cases h
    exact .refl _
  split at h
  · exact hresolved (fun hit => if hit then {state.2 with effectsUnknown := state.2.effectsUnknown + 1} else state.2) h
  split at h
  · exact hresolved (fun hit => if hit then {state.2 with effectsResolved := state.2.effectsResolved + 1} else state.2) h
  · exact hresolved (fun hit => if hit then {state.2 with effectsUnknown := state.2.effectsUnknown + 1} else state.2) h

theorem reap_keepsFiling {now : Datetime} {directiveId : String} {bumpedLease : Nat} {db db' : Database}
    {counters : EffectCounters} (h : resolveEffectsForDirective settings now directiveId bumpedLease db = .ok (db', counters)) :
    KeepsFiling db.effects.rows db'.effects.rows := by
  have hrun : ∀ (records : List EffectRow) (state state' : Database × EffectCounters),
      records.foldlM (resolveRecord now bumpedLease) state = .ok state' →
        KeepsFiling state.1.effects.rows state'.1.effects.rows := by
    intro records
    induction records with
    | nil =>
      intro state state' hdone
      cases hdone
      exact .refl _
    | cons record rest ih =>
      intro state state' hdone
      rw [List.foldlM_cons] at hdone
      obtain ⟨next, hnext, hrest⟩ := bind_ok hdone
      exact (resolveRecord_keepsFiling hnext).trans (ih next state' hrest)
  unfold resolveEffectsForDirective at h
  split at h
  · cases h
    exact .refl _
  · exact hrun _ _ _ h

/-- An opening leaves the rows, or appends the one of its request. -/
theorem effectOpen_rows {charter : Except Failure Unit} {call : OpenCall} {db db' : Database} {record : Option EffectRow}
    (h : effectOpen host settings charter call db = .ok (db', record)) :
    db'.effects.rows = db.effects.rows ∨
      call.Prepares host settings charter db ∧ db'.effects.rows = db.effects.rows ++ [call.request.row host db] := by
  unfold effectOpen at h
  by_cases hjournal : settings.effectJournalEnabled = true
  swap
  · rw [Bool.not_eq_true] at hjournal
    rw [hjournal] at h
    cases h
  simp only [hjournal, Bool.not_true, Bool.false_eq_true, if_false] at h
  obtain ⟨⟨⟩, rfl, h⟩ := bind_ok h
  have hrequest : call.request.directiveId = call.body.directiveId ∧ call.request.intent = call.body.intent :=
    ⟨rfl, rfl⟩
  unfold openEffect at h
  rw [hrequest.1, hrequest.2] at h
  cases hrow : db.effectOf call.body.directiveId (effectIntentDigest host call.body.intent) with
  | some existing =>
    simp only [hrow] at h
    cases h
    exact .inl rfl
  | none =>
    simp only [hrow] at h
    by_cases hfenced : call.request.fenced db = true
    · simp only [hfenced, Bool.not_true, Bool.false_eq_true, if_false] at h
      cases hinsert : db.effects.insert (call.request.row host db) with
      | none =>
        simp only [hinsert] at h
        cases h
      | some effects =>
        simp only [hinsert] at h
        cases h
        exact .inr ⟨⟨hjournal, rfl, hrow, hfenced⟩, Table.insert_eq_some hinsert⟩
    · simp only [Bool.eq_false_iff.mpr hfenced, Bool.not_false, if_true] at h
      cases h

theorem effectResolve_keepsFiling {charter : Except Failure Unit} {caller : Caller} {effectId : String}
    {body : EffectResolveRequest} {now : Datetime} {db db' : Database}
    (h : effectResolve charter caller effectId body now db = .ok db') : KeepsFiling db.effects.rows db'.effects.rows := by
  unfold effectResolve at h
  split at h
  · cases h
  obtain ⟨-, -, h⟩ := bind_ok h
  obtain ⟨-, -, h⟩ := bind_ok h
  split at h
  · cases h
  · cases h
  · rename_i resolved hresolved
    cases h
    exact resolveEffect_keepsFiling hresolved

/-! ### What a run keeps -/

/-- The row is of its directive's session, or of an effect that may be repeated. -/
def FiledRow (directives : Table fun d : SessionDirective => d.directiveId) (effect : EffectRow) : Prop :=
  effect.intent.reversibility = .reversible ∨
    ∀ d, directives.find effect.directiveId = some d → effect.isOf d.session

theorem filedRow_keeps {directives : Table fun d : SessionDirective => d.directiveId} {rows rows' : List EffectRow}
    (hkeeps : KeepsFiling rows rows') (h : ∀ effect ∈ rows, FiledRow directives effect) :
    ∀ effect ∈ rows', FiledRow directives effect := by
  intro effect' heffect'
  obtain ⟨effect, heffect, hid, hintent, hsession⟩ := hkeeps effect' heffect'
  refine (h effect heffect).imp (fun hrev => hintent ▸ hrev) fun hfiled d hd => ?_
  rw [hsession]
  exact hfiled d (hid ▸ hd)

theorem effectOpen_filed {charter : Except Failure Unit} {call : OpenCall} {s : SessionDatabase} {db' : Database}
    {record : Option EffectRow} (hcall : Filed host settings s (.effectOpen charter call))
    (hopen : effectOpen host settings charter call s.read = .ok (db', record))
    (h : ∀ effect ∈ s.effects.rows, FiledRow s.directives effect) :
    ∀ effect ∈ db'.effects.rows, FiledRow s.directives effect := by
  obtain hsame | ⟨hprepares, hnew⟩ := effectOpen_rows hopen
  · rw [hsame]
    exact h
  · rw [hnew, List.forall_mem_append]
    refine ⟨h, fun effect heffect => ?_⟩
    obtain rfl := List.mem_singleton.mp heffect
    rcases hcall hprepares with hreversible | hsession
    · exact .inl hreversible
    · refine .inr fun d hd => ?_
      have hd' : s.directives.find call.body.directiveId = some d := hd
      rw [hd', Option.all_some, decide_eq_true_eq] at hsession
      simp [EffectRow.isOf, OpenRequest.row, hsession, OpenRequest.session]

/-- A write leaves every directive in its session. -/
theorem write_filed {s : SessionDatabase} {directives : Table fun d : SessionDirective => d.directiveId}
    (hwrite : ∀ d ∈ directives.rows, s.Keeps d) (h : ∀ effect ∈ s.effects.rows, FiledRow s.directives effect) :
    ∀ effect ∈ s.effects.rows, FiledRow directives effect := by
  intro effect heffect
  refine (h effect heffect).imp_right fun hfiled d hd => ?_
  obtain ⟨hmem, hid⟩ := Table.find_eq_some_iff.mp hd
  rcases hwrite d hmem with ⟨row, hrow, hrowId, hsession⟩ | hfresh
  · rw [← hsession]
    exact hfiled row (Table.find_eq_some_iff.mpr ⟨hrow, hrowId.trans hid⟩)
  · exact absurd hid.symm (hfresh effect heffect)

theorem filing_next {s s' : SessionDatabase} {action : FilingAction} (hfiled : Filed host settings s action)
    (hnext : (filingSystem host settings).next s action = some s')
    (h : ∀ effect ∈ s.effects.rows, FiledRow s.directives effect) :
    ∀ effect ∈ s'.effects.rows, FiledRow s'.directives effect := by
  cases action with
  | effectOpen charter call =>
    simp only [filingSystem] at hnext
    split at hnext
    · rename_i after record hopen
      have hrows := effectOpen_filed hfiled hopen h
      cases hnext
      exact hrows
    · cases hnext
      exact h
  | effectResolve charter caller effectId body now =>
    simp only [filingSystem] at hnext
    split at hnext
    · rename_i after hresolve
      cases hnext
      exact filedRow_keeps (effectResolve_keepsFiling hresolve) h
    · cases hnext
      exact h
  | reap directiveId bumpedLease now =>
    simp only [filingSystem] at hnext
    split at hnext
    · rename_i after counters hreap
      cases hnext
      exact filedRow_keeps (reap_keepsFiling hreap) h
    · cases hnext
      exact h
  | write directives =>
    simp only [filingSystem] at hnext
    split_ifs at hnext with hwrite
    have hrows := write_filed hwrite h
    cases hnext
    exact hrows

/-- In a run whose openings are filed where their directives are, every row is. -/
theorem filedRow_of_reachable {s : SessionDatabase}
    (hs : ((filingSystem host settings).restrict (Filed host settings)).Reachable s) :
    ∀ effect ∈ s.effects.rows, FiledRow s.directives effect := by
  refine hs.invariant (I := fun s => ∀ effect ∈ s.effects.rows, FiledRow s.directives effect) ?_ ?_
  · intro s hinit effect heffect
    have hempty : s.effects.rows = [] := hinit
    rw [hempty] at heffect
    cases heffect
  · intro s action s' _ h hnext
    obtain ⟨hfiled, hnext⟩ := System.restrict_next hnext
    exact filing_next hfiled hnext h

/-! ### The pause -/

/-- Nothing mints work in the session: neither a step of the takeover, nor the report of a failure. -/
def Paused (db : Database) (session : SessionKey) : Prop :=
  (pauseGuardForSession true db session).1 = true ∧
    (∀ outlook : StepOutlook, outlook.mints (pauseGuardForSession true db session) = false) ∧
      ∀ (report : ExecutionReport) (delivery : Delivery) (state : DirectiveState) (d : ReportedDirective)
        (directives : Table fun d : ReportedDirective => d.directiveId),
        delivery.paused = (pauseGuardForSession true db session).1 → report.retries delivery state d directives = false

theorem paused_iff {db : Database} {session : SessionKey} : Paused db session ↔ db.Unsettled session := by
  have hguard : (pauseGuardForSession true db session).1 = true ↔ db.Unsettled session := by
    rw [pauseGuardForSession_iff, and_iff_right rfl]
  refine ⟨fun h => hguard.mp h.1, fun h => ?_⟩
  have hpaused := hguard.mpr h
  refine ⟨hpaused, fun outlook => ?_, fun report delivery state d directives hdelivery => ?_⟩
  · simp [StepOutlook.mints, hpaused]
  · simp [ExecutionReport.retries, hdelivery, hpaused]

/-- In a run whose openings are filed where their directives are, an effect whose outcome is unknown and
that may not be repeated pauses the session of its directive. -/
theorem unknown_pauses_session {s : SessionDatabase}
    (hs : ((filingSystem host settings).restrict (Filed host settings)).Reachable s) {effect : EffectRow}
    (heffect : effect ∈ s.effects.rows) (hpauses : effect.pauses = true) {d : SessionDirective}
    (hd : s.directives.find effect.directiveId = some d) : Paused s.read d.session := by
  rw [paused_iff]
  refine ⟨effect, heffect, ?_, hpauses⟩
  rcases filedRow_of_reachable hs effect heffect with hreversible | hfiled
  · simp [EffectRow.pauses, hreversible] at hpauses
  · exact hfiled d hd

/-! ### One push -/

/-- The worker's directive is of the session `s`. -/
def pushDirective : SessionDirective :=
  { exampleDirective with
    workspaceId := "w"
    sessionId := "s"
    actionKind := "execute"
    attempt := 1 }

/-- The directive, once it has been reaped. -/
def reapedPush : SessionDirective :=
  { pushDirective with
    state := .abandoned
    leaseGeneration := 2
    leaseExpiresAt := none
    updatedAt := exampleTime 4000 }

/-- The worker opens its push under the session given. -/
def pushCall (sessionId : String) : OpenCall where
  caller := ⟨"w", "worker", false, false⟩
  userId := exampleDirective.userId
  body := {
    sessionId
    directiveId := "d"
    kind := "command"
    capability := "process.execute"
    resource := ""
    argv := ["git", "push"]
    reversibility := "irreversible"
    leaseGeneration := 1 }
  now := exampleTime 10
  newId := "e"

/-- Nobody hears of the push again, and the directive is reaped. -/
def pushRun (sessionId : String) : List FilingAction :=
  [.effectOpen (.ok ()) (pushCall sessionId), .write ⟨[reapedPush], List.nodup_singleton _⟩, .reap "d" 2 (exampleTime 4000)]

def pushStart : SessionDatabase := ⟨⟨[pushDirective], List.nodup_singleton _⟩, ⟨[], List.nodup_nil⟩⟩

/-- The worker names the directive's session, which is paused. -/
theorem unknown_pauses_push : ∃ s effect, ((filingSystem (asciiHost [] []) exampleSettings).restrict
      (Filed (asciiHost [] []) exampleSettings)).run pushStart (pushRun "s") = some s ∧
    effect ∈ s.effects.rows ∧ effect.pauses = true ∧ Paused s.read reapedPush.session := by
  have hrun : (((filingSystem (asciiHost [] []) exampleSettings).restrict
      (Filed (asciiHost [] []) exampleSettings)).run pushStart (pushRun "s")).map (fun s =>
        (s.effects.rows.map fun effect => (effect.pauses, effect.directiveId), s.directives.find "d")) =
      some ([(true, "d")], some reapedPush) := by decide
  obtain ⟨s, hs, hleft⟩ := Option.map_eq_some_iff.mp hrun
  obtain ⟨hrows, hdirective⟩ := Prod.mk.inj hleft
  obtain ⟨effect, heffects⟩ : ∃ effect, s.effects.rows = [effect] :=
    List.length_eq_one_iff.mp (by simpa using congrArg List.length hrows)
  rw [heffects, List.map_singleton, List.singleton_inj, Prod.mk.injEq] at hrows
  have heffect : effect ∈ s.effects.rows := heffects ▸ List.mem_singleton_self effect
  have hreachable : ((filingSystem (asciiHost [] []) exampleSettings).restrict
      (Filed (asciiHost [] []) exampleSettings)).Reachable s := System.Reachable.run (s := pushStart) (.init rfl) hs
  refine ⟨s, effect, hs, heffect, hrows.1, ?_⟩
  exact unknown_pauses_session hreachable heffect hrows.1 (hrows.2 ▸ hdirective)

/-- The worker names a session of its own, and the directive's goes on. -/
theorem unknown_unseen : ¬ ∀ s, (filingSystem (asciiHost [] []) exampleSettings).Reachable s →
    ∀ effect ∈ s.effects.rows, effect.pauses = true → ∀ d, s.directives.find effect.directiveId = some d →
      Paused s.read d.session := by
  intro h
  have hrun : ((filingSystem (asciiHost [] []) exampleSettings).run pushStart (pushRun "elsewhere")).map (fun s =>
      (s.effects.rows.map fun effect => (effect.pauses, effect.directiveId), s.directives.find "d",
        (pauseGuardForSession true s.read reapedPush.session).1)) =
      some ([(true, "d")], some reapedPush, false) := by decide
  obtain ⟨s, hs, hleft⟩ := Option.map_eq_some_iff.mp hrun
  simp only [Prod.mk.injEq] at hleft
  obtain ⟨hrows, hdirective, hguard⟩ := hleft
  obtain ⟨effect, heffects⟩ : ∃ effect, s.effects.rows = [effect] :=
    List.length_eq_one_iff.mp (by simpa using congrArg List.length hrows)
  rw [heffects, List.map_singleton, List.singleton_inj, Prod.mk.injEq] at hrows
  have heffect : effect ∈ s.effects.rows := heffects ▸ List.mem_singleton_self effect
  have hreachable : (filingSystem (asciiHost [] []) exampleSettings).Reachable s :=
    System.Reachable.run (s := pushStart) (.init rfl) hs
  have hpaused := h s hreachable effect heffect hrows.1 _ (hrows.2 ▸ hdirective)
  exact absurd hpaused.1 (by simp [hguard])

end OpenTimeline.Directive
