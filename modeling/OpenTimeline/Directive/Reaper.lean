import OpenTimeline.Directive.Effects

/-! Lite's startup reconcile.

The sweep reads the open directives once, oldest first and at most a batch of them, and
then takes each stale one in turn: it marks the directive abandoned under a raised lease
and closes its effects under that lease. What one directive's turn does to the two
tables is given in closed form (`reapRow_eq`), whatever the tables were before it. -/
namespace OpenTimeline.Directive
open Library

/-! ### The code -/

/-- The lease has run out for longer than the stale window. -/
def isStale (settings : Settings) (now : Datetime) (row : DirectiveExecution) : Bool :=
  match row.leaseExpiresAt with
  | none => true
  | some expiresAt =>
    (asUtc expiresAt).instant < (subSeconds now (staleWindowSeconds settings)).instant

/-- `state IN ('pending', 'in_progress')` -/
def DirectiveExecution.isLive (row : DirectiveExecution) : Bool :=
  row.state = .pending || row.state = .inProgress

/-- `ORDER BY created_at ASC` -/
def oldestFirst (rows : List DirectiveExecution) : List DirectiveExecution :=
  rows.insertionSort fun a b => a.createdAt.instant ≤ b.createdAt.instant

/-- The rows the sweep reads. -/
def sweepRows (settings : Settings) (db : Database) : List DirectiveExecution :=
  (oldestFirst (db.directives.rows.filter (·.isLive))).take (max 1 settings.dispatchStartupReconcileBatch)

structure EffectCounters where
  effectsUnknown : Nat := 0
  effectsResolved : Nat := 0
deriving DecidableEq, Repr

/-- `load_effects_for_directive` -/
def loadEffectsForDirective (db : Database) (directiveId : String) : List EffectRow :=
  (db.effects.rows.filter fun effect => effect.directiveId = directiveId).insertionSort
    fun a b => a.seq ≤ b.seq

/-- What the reaper asks of an effect. -/
def reapRequest (now : Datetime) (bumpedLease : Nat) (record : EffectRow) (target : EffectState) :
    ResolveRequest where
  effectId := record.effectId
  targetState := target.value
  actor := effectActorReconciler
  resolutionSource := "reaper"
  expectedLease := bumpedLease
  now := now

/-- One record of `resolve_effects_for_directive`. -/
def resolveRecord (now : Datetime) (bumpedLease : Nat) (state : Database × EffectCounters)
    (record : EffectRow) : Except String (Database × EffectCounters) :=
  let (db, counters) := state
  if record.state = .confirmed ∨ record.state = .failed ∨ record.state = .unknown then .ok state
  else if record.providerRunId.isSome then do
    -- a marker in the evidence says that the provider's record is still to be read
    let (db, hit) ← resolveEffect db (reapRequest now bumpedLease record .unknown)
    return (db, if hit then {counters with effectsUnknown := counters.effectsUnknown + 1} else counters)
  else if record.intent.reversibility = .reversible then do
    let (db, hit) ← resolveEffect db (reapRequest now bumpedLease record .failed)
    return (db, if hit then {counters with effectsResolved := counters.effectsResolved + 1} else counters)
  else do
    let (db, hit) ← resolveEffect db (reapRequest now bumpedLease record .unknown)
    return (db, if hit then {counters with effectsUnknown := counters.effectsUnknown + 1} else counters)

/-- `resolve_effects_for_directive` -/
def resolveEffectsForDirective (settings : Settings) (now : Datetime) (directiveId : String)
    (bumpedLease : Nat) (db : Database) : Except String (Database × EffectCounters) :=
  if !settings.effectJournalEnabled then .ok (db, {})
  else (loadEffectsForDirective db directiveId).foldlM (resolveRecord now bumpedLease) (db, {})

structure SweepCounters extends EffectCounters where
  scanned : Nat := 0
  reaped : Nat := 0
deriving DecidableEq, Repr

/-- A directive as the sweep leaves it, once it has read it as `row`. -/
def DirectiveExecution.abandon (now : Datetime) (row d : DirectiveExecution) : DirectiveExecution :=
  {d with
    state := .abandoned
    leaseGeneration := row.leaseGeneration + 1
    leaseExpiresAt := none
    updatedAt := now }

/-- The UPDATE of the sweep: the lease alone is compared. -/
def abandonRow (now : Datetime) (row : DirectiveExecution) (db : Database) : Database :=
  let directives := db.directives.updateWhere
    (fun d => d.directiveId = row.directiveId && d.leaseGeneration = row.leaseGeneration)
    (row.abandon now) fun _ => rfl
  {db with directives}

/-- One row of `startup_reconcile`. -/
def reapRow (settings : Settings) (now : Datetime) (state : Database × SweepCounters)
    (row : DirectiveExecution) : Except String (Database × SweepCounters) :=
  let (db, counters) := state
  let counters := {counters with scanned := counters.scanned + 1}
  if !isStale settings now row then .ok (db, counters)
  else do
    let (db, resolved) ← resolveEffectsForDirective settings now row.directiveId
      (row.leaseGeneration + 1) (abandonRow now row db)
    return (db, {counters with
      reaped := counters.reaped + 1
      effectsUnknown := counters.effectsUnknown + resolved.effectsUnknown
      effectsResolved := counters.effectsResolved + resolved.effectsResolved })

/-- `startup_reconcile` of Lite, up to its commit. -/
def startupReconcile (settings : Settings) (now : Datetime) (db : Database) :
    Except String (Database × SweepCounters) :=
  (sweepRows settings db).foldlM (reapRow settings now) (db, {})

/-! ### Effects in closed form -/

/-- The directive is there, on the lease. -/
def Database.onLease (db : Database) (directiveId : String) (lease : Nat) : Bool :=
  match db.directives.find directiveId with
  | none => false
  | some d => d.leaseGeneration = lease

/-- What the reaper makes of an effect nobody resolved. -/
def EffectRow.reapTarget (effect : EffectRow) : EffectState :=
  if effect.providerRunId = none ∧ effect.intent.reversibility = .reversible then .failed else .unknown

def EffectRow.reap (now : Datetime) (effect : EffectRow) : EffectRow :=
  {effect with
    state := effect.reapTarget
    resolvedAt := some now
    resolutionSource := some "reaper"
    resolvedByActor := some effectActorReconciler }

theorem EffectRow.reapTarget_cases (effect : EffectRow) :
    effect.reapTarget = .failed ∨ effect.reapTarget = .unknown := by
  unfold reapTarget
  split_ifs
  · exact Or.inl rfl
  · exact Or.inr rfl

theorem EffectRow.reap_state (now : Datetime) (effect : EffectRow) :
    ¬ (effect.reap now).state.isUnresolved := by
  show ¬ effect.reapTarget.isUnresolved
  obtain h | h := effect.reapTarget_cases <;> rw [h] <;> decide

/-- The effects a reap closes of those that `p` picks: the ones nobody resolved. -/
def Database.reapEffects (db : Database) (now : Datetime) (p : EffectRow → Bool) : Database :=
  let effects := db.effects.updateWhere (fun effect => p effect && effect.state.isUnresolved)
    (EffectRow.reap now) fun _ => rfl
  {db with effects}

/-- The reconciler's resolution of a record that is as it was read. -/
theorem resolveEffect_reap {now : Datetime} {bumpedLease : Nat} {db : Database} {record : EffectRow}
    (hrow : db.effects.find record.effectId = some record) (hstate : record.state.isUnresolved) :
    resolveEffect db (reapRequest now bumpedLease record record.reapTarget) =
      .ok (db.reapEffects now (fun effect => effect.effectId = record.effectId &&
        db.onLease record.directiveId bumpedLease), db.onLease record.directiveId bumpedLease) := by
  have hfence : (reapRequest now bumpedLease record record.reapTarget).fenced db record =
      db.onLease record.directiveId bumpedLease := by
    unfold ResolveRequest.fenced Database.directiveOf Database.onLease
    cases db.directives.find record.directiveId with
    | none => rfl
    | some d =>
      have hsystem : (reapRequest now bumpedLease record record.reapTarget).actor ∈ systemOnlySources := by
        show effectActorReconciler ∈ systemOnlySources
        decide
      simp only [hsystem, decide_true, Bool.or_true, Bool.and_true]
      rfl
  have hvalid : validateEffectTransition record.state record.reapTarget.value effectActorReconciler
      record.intent.reversibility = .ok record.reapTarget :=
    validateEffectTransition_reconciler hstate record.reapTarget_cases _
  unfold resolveEffect
  simp only [reapRequest, hrow, hvalid] at hfence ⊢
  refine congrArg Except.ok (Prod.ext ?_ (by simp [hfence]))
  refine congrArg (fun effects => {db with effects := effects}) (Table.updateWhere_congr fun effect heffect => ?_)
  by_cases hid : effect.effectId = record.effectId
  · -- the key is primary: the row is the record
    have hsame : effect = record := by
      have hfind := Table.find_eq_some_iff.mpr ⟨heffect, hid⟩
      rw [hrow] at hfind
      exact (Option.some.inj hfind).symm
    subst hsame
    simp only [decide_true, Bool.true_and, hfence, hstate, Bool.and_true, EffectRow.reap]
  · simp [hid]

theorem Database.find_reapEffects (db : Database) (now : Datetime) (p : EffectRow → Bool) (effectId : String) :
    (db.reapEffects now p).effects.find effectId = (db.effects.find effectId).map fun effect =>
      if p effect && effect.state.isUnresolved then effect.reap now else effect :=
  db.effects.find_updateWhere _ (EffectRow.reap now) (fun _ => rfl) _

/-- Where every effect picked is resolved there is nothing to close. -/
theorem Database.reapEffects_eq_self {db : Database} {now : Datetime} {p : EffectRow → Bool}
    (h : ∀ effect ∈ db.effects.rows, p effect → ¬ effect.state.isUnresolved) : db.reapEffects now p = db := by
  refine congrArg (fun effects => {db with effects := effects})
    (Table.updateWhere_eq_self fun effect heffect => ?_)
  by_cases hp : p effect
  · simp [h effect heffect hp]
  · simp [hp]

/-- One record: its row is closed where the directive is on the lease. -/
theorem resolveRecord_eq {now : Datetime} {bumpedLease : Nat} {db : Database} {counters : EffectCounters}
    {record : EffectRow} (hrow : db.effects.find record.effectId = some record) :
    ∃ counters', resolveRecord now bumpedLease (db, counters) record =
      .ok (db.reapEffects now fun effect => effect.effectId = record.effectId &&
        db.onLease record.directiveId bumpedLease, counters') := by
  unfold resolveRecord
  dsimp only
  by_cases hstate : record.state.isUnresolved
  · have hopen : ¬ (record.state = .confirmed ∨ record.state = .failed ∨ record.state = .unknown) := by
      cases hs : record.state <;> simp [hs, EffectState.isUnresolved] at hstate ⊢
    have hresolve := @resolveEffect_reap now bumpedLease db record hrow hstate
    rw [if_neg hopen]
    by_cases hprovider : record.providerRunId.isSome
    · have htarget : record.reapTarget = .unknown := by
        simp [EffectRow.reapTarget, Option.isSome_iff_ne_none.mp hprovider]
      rw [htarget] at hresolve
      rw [if_pos hprovider, hresolve]
      exact ⟨_, rfl⟩
    rw [if_neg hprovider]
    by_cases hreversible : record.intent.reversibility = .reversible
    · have htarget : record.reapTarget = .failed := by
        simp [EffectRow.reapTarget, Option.not_isSome_iff_eq_none.mp hprovider, hreversible]
      rw [htarget] at hresolve
      rw [if_pos hreversible, hresolve]
      exact ⟨_, rfl⟩
    · have htarget : record.reapTarget = .unknown := by
        simp [EffectRow.reapTarget, hreversible]
      rw [htarget] at hresolve
      rw [if_neg hreversible, hresolve]
      exact ⟨_, rfl⟩
  · have hresolved : record.state = .confirmed ∨ record.state = .failed ∨ record.state = .unknown := by
      cases hs : record.state <;> simp [hs, EffectState.isUnresolved] at hstate ⊢
    rw [if_pos hresolved]
    refine ⟨counters, congrArg (fun db => Except.ok (db, counters)) ?_⟩
    refine (Database.reapEffects_eq_self fun effect heffect hp => ?_).symm
    simp only [Bool.and_eq_true, decide_eq_true_eq] at hp
    have hfind := Table.find_eq_some_iff.mpr ⟨heffect, hp.1⟩
    rw [hrow] at hfind
    rwa [← Option.some.inj hfind]

theorem Database.reapEffects_reapEffects (db : Database) (now : Datetime) (p q : EffectRow → Bool) :
    (db.reapEffects now p).reapEffects now q = db.reapEffects now fun effect => p effect || q effect := by
  refine congrArg (fun effects => {db with effects := effects}) (Table.ext ?_)
  show (db.effects.rows.map _).map _ = db.effects.rows.map _
  rw [List.map_map]
  refine List.map_congr_left fun effect _ => ?_
  have hreap := effect.reap_state now
  by_cases hp : p effect <;> by_cases hopen : effect.state.isUnresolved <;> simp [hp, hopen, hreap]

theorem Database.reapEffects_congr {db : Database} {now : Datetime} {p q : EffectRow → Bool}
    (h : ∀ effect ∈ db.effects.rows, p effect = q effect) :
    db.reapEffects now p = db.reapEffects now q :=
  congrArg (fun effects => {db with effects := effects})
    (Table.updateWhere_congr fun effect heffect => by rw [h effect heffect])

/-- Records of one directive, as they were read: all of them are closed where it is on
the lease. -/
theorem foldlM_resolveRecord {now : Datetime} {directiveId : String} {bumpedLease : Nat}
    {records : List EffectRow} {db : Database} {counters : EffectCounters}
    (hids : (records.map (·.effectId)).Nodup)
    (hrows : ∀ record ∈ records, db.effects.find record.effectId = some record ∧
      record.directiveId = directiveId) :
    ∃ counters', records.foldlM (resolveRecord now bumpedLease) (db, counters) =
      .ok (db.reapEffects now fun effect => effect.effectId ∈ records.map (·.effectId) &&
        db.onLease directiveId bumpedLease, counters') := by
  induction records generalizing db counters with
  | nil => exact ⟨counters, by simp [Database.reapEffects_eq_self]; rfl⟩
  | cons record rest ih =>
    rw [List.map_cons, List.nodup_cons] at hids
    obtain ⟨hrow, hdirective⟩ := hrows record (by simp)
    obtain ⟨counters₁, hfirst⟩ := @resolveRecord_eq now bumpedLease db counters record hrow
    let first := db.reapEffects now fun effect => effect.effectId = record.effectId &&
      db.onLease record.directiveId bumpedLease
    have hrest : ∀ other ∈ rest, first.effects.find other.effectId = some other ∧
        other.directiveId = directiveId := by
      intro other hother
      obtain ⟨hfind, hsame⟩ := hrows other (by simp [hother])
      have hne : other.effectId ≠ record.effectId :=
        fun heq => hids.1 (heq ▸ List.mem_map.mpr ⟨other, hother, rfl⟩)
      refine ⟨?_, hsame⟩
      rw [Database.find_reapEffects, hfind]
      simp [hne]
    obtain ⟨counters₂, hlater⟩ := @ih first counters₁ hids.2 hrest
    refine ⟨counters₂, ?_⟩
    rw [List.foldlM_cons, hfirst]
    refine hlater.trans (congrArg (fun db => Except.ok (db, counters₂)) ?_)
    rw [Database.reapEffects_reapEffects, hdirective]
    refine Database.reapEffects_congr fun effect _ => ?_
    show (_ && _ || _ && db.onLease directiveId bumpedLease) = _
    cases db.onLease directiveId bumpedLease <;> simp

/-- `resolve_effects_for_directive` never raises, and closes the directive's unresolved
effects where the directive is on the lease. -/
theorem resolveEffectsForDirective_eq (settings : Settings) (now : Datetime) (directiveId : String)
    (bumpedLease : Nat) (db : Database) :
    ∃ counters, resolveEffectsForDirective settings now directiveId bumpedLease db =
      .ok (db.reapEffects now fun effect => settings.effectJournalEnabled &&
        effect.directiveId = directiveId && db.onLease directiveId bumpedLease, counters) := by
  unfold resolveEffectsForDirective
  by_cases henabled : settings.effectJournalEnabled
  · have hperm : (loadEffectsForDirective db directiveId).Perm
        (db.effects.rows.filter fun effect => effect.directiveId = directiveId) := List.perm_insertionSort _ _
    have hmem : ∀ record, record ∈ loadEffectsForDirective db directiveId ↔
        record ∈ db.effects.rows ∧ record.directiveId = directiveId := by
      intro record
      rw [hperm.mem_iff, List.mem_filter, decide_eq_true_eq]
    have hids : ((loadEffectsForDirective db directiveId).map (·.effectId)).Nodup :=
      (hperm.map _).nodup_iff.mpr (db.effects.nodup.sublist (List.filter_sublist.map _))
    obtain ⟨counters, hfold⟩ := @foldlM_resolveRecord now directiveId bumpedLease _ db {} hids
      fun record hrecord => ⟨Table.find_eq_some_iff.mpr ⟨((hmem record).mp hrecord).1, rfl⟩,
        ((hmem record).mp hrecord).2⟩
    refine ⟨counters, ?_⟩
    rw [if_neg (by simp [henabled]), hfold]
    refine congrArg (fun db => Except.ok (db, counters)) (Database.reapEffects_congr fun effect heffect => ?_)
    have hpicked : effect.effectId ∈ (loadEffectsForDirective db directiveId).map (·.effectId) ↔
        effect.directiveId = directiveId := by
      rw [List.mem_map]
      constructor
      · rintro ⟨record, hrecord, hid⟩
        obtain ⟨hrow, hdirective⟩ := (hmem record).mp hrecord
        rw [← List.inj_on_of_nodup_map db.effects.nodup hrow heffect hid, hdirective]
      · exact fun hdirective => ⟨effect, (hmem effect).mpr ⟨heffect, hdirective⟩, rfl⟩
    simp [henabled, hpicked]
  · refine ⟨{}, ?_⟩
    rw [if_pos (by simp [henabled])]
    refine congrArg (fun db => Except.ok (db, ({} : EffectCounters)))
      (Database.reapEffects_eq_self fun effect _ hp => ?_).symm
    simp [henabled] at hp

/-- What the turn of a directive that the sweep read as `row` makes of the tables. -/
def reapedDatabase (settings : Settings) (now : Datetime) (row : DirectiveExecution) (db : Database) :
    Database :=
  (abandonRow now row db).reapEffects now fun effect => settings.effectJournalEnabled &&
    effect.directiveId = row.directiveId &&
    (abandonRow now row db).onLease row.directiveId (row.leaseGeneration + 1)

theorem reapRow_eq (settings : Settings) (now : Datetime) (db : Database) (counters : SweepCounters)
    (row : DirectiveExecution) :
    ∃ counters', reapRow settings now (db, counters) row =
      .ok (if isStale settings now row then reapedDatabase settings now row db else db, counters') := by
  unfold reapRow
  dsimp only
  by_cases hstale : isStale settings now row
  · obtain ⟨resolved, hresolve⟩ := resolveEffectsForDirective_eq settings now row.directiveId
      (row.leaseGeneration + 1) (abandonRow now row db)
    rw [if_neg (by simp [hstale]), if_pos hstale, hresolve]
    exact ⟨_, rfl⟩
  · rw [if_pos (by simp [hstale]), if_neg hstale]
    exact ⟨_, rfl⟩

theorem find_abandonRow (now : Datetime) (row : DirectiveExecution) (db : Database) (directiveId : String) :
    (abandonRow now row db).directives.find directiveId = (db.directives.find directiveId).map fun d =>
      if d.directiveId = row.directiveId && d.leaseGeneration = row.leaseGeneration then row.abandon now d
      else d :=
  db.directives.find_updateWhere _ (row.abandon now) (fun _ => rfl) _

/-- The sweep's lease is on the directive when its UPDATE hit, and when the lease was
raised by one before it. -/
theorem onLease_abandonRow (now : Datetime) (row : DirectiveExecution) (db : Database) :
    (abandonRow now row db).onLease row.directiveId (row.leaseGeneration + 1) =
      (db.onLease row.directiveId row.leaseGeneration ||
        db.onLease row.directiveId (row.leaseGeneration + 1)) := by
  unfold Database.onLease
  rw [find_abandonRow]
  cases hfind : db.directives.find row.directiveId with
  | none => rfl
  | some d =>
    have hid : d.directiveId = row.directiveId := (Table.find_eq_some_iff.mp hfind).2
    by_cases hlease : d.leaseGeneration = row.leaseGeneration
    · simp [hid, hlease, DirectiveExecution.abandon]
    · simp [hlease]

theorem find_reapedDatabase (settings : Settings) (now : Datetime) (row : DirectiveExecution) (db : Database)
    (effectId : String) :
    (reapedDatabase settings now row db).effects.find effectId = (db.effects.find effectId).map fun effect =>
      if (settings.effectJournalEnabled && effect.directiveId = row.directiveId &&
          (db.onLease row.directiveId row.leaseGeneration ||
            db.onLease row.directiveId (row.leaseGeneration + 1))) && effect.state.isUnresolved then
        effect.reap now
      else effect := by
  rw [reapedDatabase, Database.find_reapEffects, onLease_abandonRow]
  rfl

end OpenTimeline.Directive
