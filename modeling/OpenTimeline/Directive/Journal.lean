import OpenTimeline.Directive.Pause
import OpenTimeline.TaskState.Accumulators

/-! Runs of the effect journal.

A row changes by the moves of `validateEffectTransition` only, whatever becomes of the
directives meanwhile, so what the rule refuses one actor in one move it refuses in every
run (`next_spec`). An effect that pauses a directive is not terminal, is handed to the task
state as JSON, and is decoded there under its own id (`effectFromJson_unresolved`): a
projection that holds it is not done. -/
namespace OpenTimeline.Directive
open Library

variable (host : Host) (isoformat : Datetime → String)

/-! ### The hand-off -/

/-- `_KIND_TO_PROJECTION` -/
def kindToProjection : List (String × String) :=
  [("directive", "directive"), ("write", "write"), ("commit", "write"), ("command", "external"),
    ("external", "external")]

/-- An item of `unresolved_effects_json`. -/
def EffectRow.unresolvedJson (record : EffectRow) : Payload :=
  [("effect_id", .str record.effectId),
    ("kind", .str ((kindToProjection.lookup record.intent.kind).getD "external")),
    ("description", .str (TaskState.orElse record.intent.description record.intent.resource)),
    ("opened_at", .str (isoformat record.openedAt)), ("directive_id", .str record.directiveId),
    ("paths", .arr (if record.intent.resource = "" then [] else [.str record.intent.resource])),
    ("state", .str record.state.value)]

/-- `unresolved_effects_json` -/
def unresolvedEffectsJson (records : List EffectRow) : List Payload :=
  (records.filter fun record => !record.state.isTerminal).map (·.unresolvedJson isoformat)

/-! ### Runs -/

inductive JournalAction
  | openEffect (request : OpenRequest)
  | resolveEffect (request : ResolveRequest)
  | setDirectives (directives : Table DirectiveExecution.directiveId)

/-- Openings and resolutions by any callers, from an empty journal, while the directives
change in any way. -/
def journalSystem : System Database JournalAction where
  init db := db.effects.rows = []
  next db
    | .openEffect request => match openEffect host db request with
      | .ok (db, _) => some db
      | .error _ => some db
    | .resolveEffect request => match resolveEffect db request with
      | .ok (db, _) => some db
      | .error _ => some db
    | .setDirectives directives => some {db with directives}

variable {host isoformat} {db db' : Database}

/-- What the rule says of a move it allows. -/
theorem validateEffectTransition_ok {current target : EffectState} {text actor : String} {reversibility : Reversibility}
    (h : validateEffectTransition current text actor reversibility = .ok target) :
    current ≠ .confirmed ∧ (current = .unknown ∨ current = .failed → actor ∈ systemOnlySources) ∧
      (reversibility = .irreversible → target.isTerminal → actor ∈ systemOnlySources) := by
  unfold validateEffectTransition at h
  split at h
  · cases h
  rename_i parsed hparsed
  split_ifs at h with hterminal hpair hsystem hirreversible
  cases h
  refine ⟨?_, ?_, ?_⟩
  · rintro rfl
    exact hterminal ⟨rfl, by cases target <;> decide⟩
  · rintro hcurrent
    by_contra hactor
    refine hsystem ⟨?_, hactor⟩
    obtain rfl | rfl := hcurrent
    · exact Or.inl rfl
    · exact Or.inr (by_contra fun hreopen => hterminal ⟨rfl, hreopen⟩)
  · intro hrev hfinal
    by_contra hactor
    exact hirreversible ⟨hrev, hfinal, hactor⟩

/-- A row as a resolution leaves it. -/
def EffectRow.resolve (effect : EffectRow) (request : ResolveRequest) (target : EffectState) : EffectRow :=
  {effect with
    state := target
    resolvedAt := some request.now
    resolutionSource := some request.resolutionSource
    resolvedByActor := some request.actor }

theorem resolveEffect_moves {request : ResolveRequest} {hit : Bool} (h : resolveEffect db request = .ok (db', hit)) :
    ∃ f, db'.effects.rows = db.effects.rows.map f ∧ ∀ effect ∈ db.effects.rows, f effect = effect ∨
      ∃ target, f effect = effect.resolve request target ∧ validateEffectTransition effect.state request.targetState
        request.actor effect.intent.reversibility = .ok target := by
  unfold resolveEffect at h
  split at h
  · cases h
    exact ⟨id, (List.map_id _).symm, fun effect _ => Or.inl rfl⟩
  rename_i row hfind
  obtain ⟨hrow, hid⟩ := Table.find_eq_some_iff.mp hfind
  split at h
  · cases h
  rename_i target hvalid
  cases h
  refine ⟨_, rfl, fun effect heffect => ?_⟩
  split_ifs with hhit
  · simp only [Bool.and_eq_true, decide_eq_true_eq] at hhit
    obtain rfl := List.inj_on_of_nodup_map db.effects.nodup heffect hrow (hhit.1.1.trans hid.symm)
    exact Or.inr ⟨target, rfl, hvalid⟩
  · exact Or.inl rfl

/-- What a step does to the rows: it resolves some of them, where the rule allows its actor
to, and prepares new ones. -/
def JournalStep (action : JournalAction) (rows rows' : List EffectRow) : Prop :=
  ∃ f fresh, rows' = rows.map f ++ fresh ∧ (∀ effect ∈ fresh, effect.state = .prepared) ∧
    ∀ effect ∈ rows, f effect = effect ∨ ∃ request target, action = .resolveEffect request ∧
      f effect = effect.resolve request target ∧ validateEffectTransition effect.state request.targetState
        request.actor effect.intent.reversibility = .ok target

theorem journalStep_same {action : JournalAction} {rows : List EffectRow} : JournalStep action rows rows :=
  ⟨id, [], by simp, by simp, fun _ _ => Or.inl rfl⟩

theorem next_spec {action : JournalAction} (h : (journalSystem host).next db action = some db') :
    JournalStep action db.effects.rows db'.effects.rows := by
  cases action with
  | openEffect request =>
    simp only [journalSystem, openEffect] at h
    split at h
    · rename_i opened hopened
      cases h
      split at hopened
      · cases hopened
        exact journalStep_same
      split at hopened
      · cases hopened
      split at hopened
      · cases hopened
      · rename_i effects hinsert
        cases hopened
        refine ⟨id, [request.row host db], ?_, ?_, fun _ _ => Or.inl rfl⟩
        · rw [List.map_id]
          exact Table.insert_eq_some hinsert
        · simp [OpenRequest.row]
    · cases h
      exact journalStep_same
  | resolveEffect request =>
    simp only [journalSystem] at h
    split at h
    · rename_i resolved hresolved
      cases h
      obtain ⟨f, hrows, hmoves⟩ := resolveEffect_moves hresolved
      refine ⟨f, [], by rw [hrows, List.append_nil], by simp, fun effect heffect => ?_⟩
      rcases hmoves effect heffect with hsame | ⟨target, hmoved, hvalid⟩
      · exact Or.inl hsame
      · exact Or.inr ⟨request, target, rfl, hmoved, hvalid⟩
    · cases h
      exact journalStep_same
  | setDirectives directives =>
    cases h
    exact journalStep_same

/-- A confirmed effect is not written again. -/
theorem confirmed_step {action : JournalAction} (h : (journalSystem host).next db action = some db')
    {effect : EffectRow} (heffect : effect ∈ db.effects.rows) (hconfirmed : effect.state = .confirmed) :
    effect ∈ db'.effects.rows := by
  obtain ⟨f, fresh, hrows, _, hmoves⟩ := next_spec h
  have hsame : f effect = effect := by
    rcases hmoves effect heffect with hsame | ⟨request, target, _, _, hvalid⟩
    · exact hsame
    · exact absurd hconfirmed (validateEffectTransition_ok hvalid).1
  rw [hrows]
  exact List.mem_append_left _ (List.mem_map.mpr ⟨effect, heffect, hsame⟩)

theorem confirmed_run {actions : List JournalAction} (h : (journalSystem host).run db actions = some db')
    {effect : EffectRow} (heffect : effect ∈ db.effects.rows) (hconfirmed : effect.state = .confirmed) :
    effect ∈ db'.effects.rows := by
  refine System.run_keeps (I := fun t => effect ∈ t.effects.rows) (fun t action t' hkept hnext => ?_) h heffect
  exact confirmed_step hnext hkept hconfirmed

/-- A step that changes the state of an effect is a resolution by an actor that may. -/
theorem changed_step {action : JournalAction} (h : (journalSystem host).next db action = some db')
    {effect effect' : EffectRow} (heffect : effect ∈ db.effects.rows) (heffect' : effect' ∈ db'.effects.rows)
    (hid : effect'.effectId = effect.effectId) (hchanged : effect'.state ≠ effect.state) :
    ∃ request target, action = .resolveEffect request ∧ effect' = effect.resolve request target ∧
      validateEffectTransition effect.state request.targetState request.actor effect.intent.reversibility =
        .ok target := by
  obtain ⟨f, fresh, hrows, _, hmoves⟩ := next_spec h
  have hf : f effect ∈ db'.effects.rows := by
    rw [hrows]
    exact List.mem_append_left _ (List.mem_map_of_mem heffect)
  have hfid : (f effect).effectId = effect.effectId := by
    rcases hmoves effect heffect with hsame | ⟨request, target, _, hmoved, _⟩
    · rw [hsame]
    · rw [hmoved]
      rfl
  obtain rfl := List.inj_on_of_nodup_map db'.effects.nodup heffect' hf (hid.trans hfid.symm)
  rcases hmoves effect heffect with hsame | ⟨request, target, haction, hmoved, hvalid⟩
  · exact absurd (congrArg EffectRow.state hsame) hchanged
  · exact ⟨request, target, haction, hmoved, hvalid⟩

/-- The terminal irreversible rows were written by a system actor. -/
def Witnessed (rows : List EffectRow) : Prop :=
  ∀ effect ∈ rows, effect.intent.reversibility = .irreversible → effect.state.isTerminal →
    ∃ actor ∈ systemOnlySources, effect.resolvedByActor = some actor

theorem witnessed_step {action : JournalAction} (h : (journalSystem host).next db action = some db')
    (hwitnessed : Witnessed db.effects.rows) : Witnessed db'.effects.rows := by
  obtain ⟨f, fresh, hrows, hprepared, hmoves⟩ := next_spec h
  intro effect' heffect' hirreversible hterminal
  rw [hrows] at heffect'
  rcases List.mem_append.mp heffect' with hold | hfresh
  · obtain ⟨effect, heffect, rfl⟩ := List.mem_map.mp hold
    rcases hmoves effect heffect with hsame | ⟨request, target, _, hmoved, hvalid⟩
    · rw [hsame] at hirreversible hterminal ⊢
      exact hwitnessed effect heffect hirreversible hterminal
    · rw [hmoved] at hirreversible hterminal ⊢
      exact ⟨request.actor, (validateEffectTransition_ok hvalid).2.2 hirreversible hterminal, rfl⟩
  · rw [hprepared effect' hfresh] at hterminal
    cases hterminal

/-! ### The projection -/

/-- A written effect with an id is decoded, under its id. -/
theorem effectFromJson_unresolved {record : EffectRow} (hid : record.effectId ≠ "") :
    ∃ effect, TaskState.effectFromJson host (record.unresolvedJson isoformat) = some effect ∧
      effect.effectId = record.effectId := by
  refine ⟨_, if_neg hid, rfl⟩

theorem mappings_map_obj (items : List Payload) : TaskState.mappings (.arr (items.map .obj)) = items := by
  induction items with
  | nil => rfl
  | cons item rest ih => exact congrArg (List.cons item) ih

/-- The decoder keeps all of what is written, in order. -/
theorem effectsFromJson_unresolved {records : List EffectRow} (hids : ∀ record ∈ records, record.effectId ≠ "") :
    (TaskState.effectsFromJson host (.arr ((unresolvedEffectsJson isoformat records).map .obj))).map (·.effectId) =
      (records.filter fun record => !record.state.isTerminal).map (·.effectId) := by
  rw [TaskState.effectsFromJson, mappings_map_obj, unresolvedEffectsJson]
  replace hids : ∀ record ∈ records.filter fun record => !record.state.isTerminal, record.effectId ≠ "" :=
    fun record hrecord => hids record (List.mem_of_mem_filter hrecord)
  generalize records.filter (fun record => !record.state.isTerminal) = written at hids ⊢
  induction written with
  | nil => rfl
  | cons record rest ih =>
    obtain ⟨effect, hdecoded, hid⟩ :=
      @effectFromJson_unresolved host isoformat record (hids record List.mem_cons_self)
    rw [List.map_cons, List.filterMap_cons_some hdecoded, List.map_cons, List.map_cons, hid,
      ih fun record hrecord => hids record (List.mem_cons_of_mem _ hrecord)]

/-- A directive is paused over an effect that is not terminal. -/
theorem open_of_pauseRequired {records : List EffectRow} (h : (pauseRequired records).1) :
    ∃ record ∈ records, ¬ record.state.isTerminal := by
  unfold pauseRequired at h
  split_ifs at h with hpauses hopen
  · obtain ⟨record, hrecord, hpause⟩ := List.any_eq_true.mp hpauses
    exact ⟨record, hrecord, (EffectState.isOpen_iff _).mp (EffectRow.isOpen_of_pauses hpause)⟩
  · obtain ⟨record, hrecord, hunresolved⟩ := List.any_eq_true.mp hopen
    refine ⟨record, hrecord, fun hterminal => ?_⟩
    cases hstate : record.state <;> rw [hstate] at hunresolved hterminal <;> cases hunresolved <;> cases hterminal

/-- An effect a log records is in its fold until an event resolves it. -/
theorem effects_of_recorded {taskId : String} {before after : List TaskState.TaskStateEvent}
    {event : TaskState.TaskStateEvent} {effect : TaskState.UnresolvedEffect}
    (hkind : event.kind = .known .effectRecorded)
    (heffect : TaskState.effectFromJson host event.payload = some effect)
    (hafter : ∀ later ∈ after, later.kind ≠ .known .effectResolved) :
    ((TaskState.foldEvents host taskId (before ++ event :: after)).effects.lookup effect.effectId).isSome := by
  rw [TaskState.foldEvents_append, List.foldl_cons]
  have hrecorded : ((TaskState.foldStep host taskId (TaskState.foldEvents host taskId before) event).effects.lookup
      effect.effectId).isSome := by
    rw [TaskState.foldStep_effects, TaskState.effectsStep, hkind]
    simp only [heffect, AList.lookup_insert, Option.isSome_some]
  generalize TaskState.foldStep host taskId (TaskState.foldEvents host taskId before) event = st at hrecorded ⊢
  induction after generalizing st with
  | nil => exact hrecorded
  | cons later rest ih =>
    rw [List.foldl_cons]
    refine ih (fun later hlater => hafter later (List.mem_cons_of_mem _ hlater)) _ ?_
    rw [TaskState.foldStep_effects, TaskState.effectsStep]
    split
    · split
      · exact hrecorded
      · rename_i next _
        by_cases hsame : effect.effectId = next.effectId
        · rw [hsame, AList.lookup_insert, Option.isSome_some]
        · rw [AList.lookup_insert_ne hsame]
          exact hrecorded
    · rename_i hresolved
      exact absurd hresolved (hafter later List.mem_cons_self)
    · exact hrecorded

theorem effectsFromJson_ne_nil {records : List EffectRow} (hids : ∀ record ∈ records, record.effectId ≠ "")
    (hpaused : (pauseRequired records).1) :
    TaskState.effectsFromJson host (.arr ((unresolvedEffectsJson isoformat records).map .obj)) ≠ [] := by
  intro hnone
  obtain ⟨record, hrecord, hopen⟩ := open_of_pauseRequired hpaused
  have hkept := @effectsFromJson_unresolved host isoformat records hids
  rw [hnone, List.map_nil] at hkept
  have hwritten : record ∈ records.filter fun record => !record.state.isTerminal :=
    List.mem_filter.mpr ⟨hrecord, by simpa using hopen⟩
  rw [List.map_eq_nil_iff.mp hkept.symm] at hwritten
  cases hwritten

variable (host isoformat)

/-- In every reachable journal: a step that changes the state of an effect is a resolution;
if it confirms or fails an irreversible effect, or moves one that is unknown or failed, its
actor is a system one. A terminal irreversible effect was resolved by a system actor, a
confirmed effect stays as it is in every run, and a task state that is given what is written
of records that pause, or records it and does not resolve it, is not done. -/
theorem journal_runs (h : (journalSystem host).Reachable db) :
    (∀ action db', (journalSystem host).next db action = some db' → ∀ effect ∈ db.effects.rows,
      ∀ effect' ∈ db'.effects.rows, effect'.effectId = effect.effectId → effect'.state ≠ effect.state →
        ∃ request, action = .resolveEffect request ∧
          (effect.intent.reversibility = .irreversible → effect'.state = .confirmed ∨ effect'.state = .failed →
            request.actor ∈ systemOnlySources) ∧
          (effect.state = .unknown ∨ effect.state = .failed → request.actor ∈ systemOnlySources)) ∧
    (∀ effect ∈ db.effects.rows, effect.intent.reversibility = .irreversible →
      effect.state = .confirmed ∨ effect.state = .failed →
        ∃ actor ∈ systemOnlySources, effect.resolvedByActor = some actor) ∧
    (∀ effect ∈ db.effects.rows, effect.state = .confirmed → ∀ actions db',
      (journalSystem host).run db actions = some db' → effect ∈ db'.effects.rows) ∧
    ∀ records, (∀ record ∈ records, record ∈ db.effects.rows ∧ record.effectId ≠ "") → (pauseRequired records).1 →
      let written := unresolvedEffectsJson isoformat records
      let decoded := TaskState.effectsFromJson host (.arr (written.map .obj))
      decoded.map (·.effectId) = (records.filter fun record => !record.state.isTerminal).map (·.effectId) ∧
      (∀ parts : TaskState.StatusInputs, parts.unresolvedEffects = decoded →
        (TaskState.deriveStatus host parts).1 ≠ .done) ∧
      ∀ ids revision log, (∀ item ∈ written, ∃ before event after, log = before ++ event :: after ∧
          event.kind = .known .effectRecorded ∧ event.payload = item ∧
          ∀ later ∈ after, later.kind ≠ .known .effectResolved) →
        ((TaskState.foldEvents host ids.taskId log).projection host ids revision).status ≠ .done := by
  refine ⟨?_, ?_, ?_, ?_⟩
  · intro action db' hnext effect heffect effect' heffect' hid hchanged
    obtain ⟨request, target, haction, rfl, hvalid⟩ := changed_step hnext heffect heffect' hid hchanged
    obtain ⟨_, hsystem, hirreversible⟩ := validateEffectTransition_ok hvalid
    refine ⟨request, haction, fun hrev hterminal => hirreversible hrev ?_, hsystem⟩
    replace hterminal : target = .confirmed ∨ target = .failed := hterminal
    simpa [EffectState.isTerminal] using hterminal
  · have hwitnessed : Witnessed db.effects.rows := by
      refine System.Reachable.invariant (I := fun db => Witnessed db.effects.rows) (fun db hinit => ?_)
        (fun db action db' _ hwitnessed hnext => witnessed_step hnext hwitnessed) h
      rw [show db.effects.rows = [] from hinit]
      exact fun effect heffect => absurd heffect List.not_mem_nil
    intro effect heffect hirreversible hterminal
    exact hwitnessed effect heffect hirreversible (by simpa [EffectState.isTerminal] using hterminal)
  · intro effect heffect hconfirmed actions db' hrun
    exact confirmed_run hrun heffect hconfirmed
  · intro records hrecords hpaused
    have hids : ∀ record ∈ records, record.effectId ≠ "" := fun record hrecord => (hrecords record hrecord).2
    refine ⟨effectsFromJson_unresolved hids, fun parts hparts hdone => ?_, fun ids revision log hlog hdone => ?_⟩
    · obtain ⟨plan, ref, hverified⟩ := (TaskState.deriveStatus_done_iff host).mp hdone
      exact effectsFromJson_ne_nil hids hpaused (hparts.symm.trans hverified.settled)
    · obtain ⟨plan, ref, hverified⟩ := (TaskState.deriveStatus_done_iff host).mp hdone
      obtain ⟨record, hrecord, hopen⟩ := open_of_pauseRequired hpaused
      have hwritten : record.unresolvedJson isoformat ∈ unresolvedEffectsJson isoformat records :=
        List.mem_map_of_mem (List.mem_filter.mpr ⟨hrecord, by simpa using hopen⟩)
      obtain ⟨before, event, after, rfl, hkind, hpayload, hafter⟩ := hlog _ hwritten
      obtain ⟨effect, hdecoded, _⟩ := @effectFromJson_unresolved host isoformat record (hids record hrecord)
      obtain ⟨held, hheld⟩ := Option.isSome_iff_exists.mp
        (@effects_of_recorded host ids.taskId before after event effect hkind (hpayload ▸ hdecoded) hafter)
      have hmem := (Dict.mem_sortedValues _ _).mpr ⟨effect.effectId, hheld⟩
      rw [show (TaskState.foldEvents host ids.taskId (before ++ event :: after)).effects.sortedValues = [] from
        hverified.settled] at hmem
      cases hmem

/-- The worker is to push, and its reply is lost. -/
def lostReply : Option Database :=
  (journalSystem (asciiHost [] [])).run ⟨exampleDatabase.directives, ⟨[], List.nodup_nil⟩⟩
    [.openEffect ⟨"w", "owner", "s", "d", exampleEffect.intent, 1, "worker", none, exampleTime 10, "e"⟩,
      .resolveEffect ⟨"e", "running", "executor:worker", "runtime_result", 1, exampleTime 20⟩,
      .resolveEffect ⟨"e", "unknown", "executor:worker", "runtime_result", 1, exampleTime 30⟩]

theorem journal_runs_lost : ∃ db, lostReply = some db ∧ (pauseRequired db.effects.rows).1 ∧
    ∀ parts : TaskState.StatusInputs,
      parts.unresolvedEffects = TaskState.effectsFromJson (asciiHost [] [])
        (.arr ((unresolvedEffectsJson (fun _ => "") db.effects.rows).map .obj)) →
      (TaskState.deriveStatus (asciiHost [] []) parts).1 ≠ .done := by
  obtain ⟨db, hdb⟩ := Option.isSome_iff_exists.mp (show lostReply.isSome by decide)
  have hpaused : lostReply.map (fun db => (pauseRequired db.effects.rows).1) = some true := by decide
  have hids : lostReply.map (fun db => db.effects.rows.map (·.effectId)) = some ["e"] := by decide
  rw [hdb] at hpaused hids
  replace hpaused : (pauseRequired db.effects.rows).1 = true := Option.some.inj hpaused
  replace hids : db.effects.rows.map (·.effectId) = ["e"] := Option.some.inj hids
  have hnamed : ∀ record ∈ db.effects.rows, record ∈ db.effects.rows ∧ record.effectId ≠ "" := by
    intro record hrecord
    have hid : record.effectId ∈ ["e"] := hids ▸ List.mem_map_of_mem hrecord
    rw [List.mem_singleton.mp hid]
    exact ⟨hrecord, by decide⟩
  have hreachable : (journalSystem (asciiHost [] [])).Reachable db := by
    refine System.Reachable.run (.init ?_) hdb
    rfl
  obtain ⟨_, _, _, hprojection⟩ := journal_runs (asciiHost [] []) (fun _ => "") hreachable
  exact ⟨db, hdb, hpaused, (hprojection db.effects.rows hnamed hpaused).2.1⟩

end OpenTimeline.Directive
