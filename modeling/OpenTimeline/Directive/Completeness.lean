import OpenTimeline.Library.Pass
import OpenTimeline.Directive.Sweep

/-! When the startup sweep is complete.

Both backends take one pass over one SELECT of at most a batch of rows, oldest first, and
then declare the reconcile complete. A turn touches its own directive alone, so the pass
abandons every stale directive it reads, and leaves what it does not read as it was: the
sweep is complete exactly when no stale directive stands behind a batch of other rows
(`startup_complete_iff`). -/
namespace OpenTimeline.Directive
open Library

variable (settings : Settings)

/-! ### Full's sweep -/

/-- `updated_at <= :cutoff` -/
def fullIsStale (now : Datetime) (row : DirectiveExecution) : Bool :=
  row.updatedAt.instant ≤ (subSeconds now (staleWindowSeconds settings)).instant

/-- The rows Full's sweep may read, in its order. -/
def fullSweepQueue (now : Datetime) (db : Database) : List DirectiveExecution :=
  oldestFirst (db.directives.rows.filter fun row => row.isLive && fullIsStale settings now row)

/-- The rows Full's sweep reads. -/
def fullSweepRows (now : Datetime) (db : Database) : List DirectiveExecution :=
  (fullSweepQueue settings now db).take (max 1 settings.dispatchStartupReconcileBatch)

def fullAbandon (now : Datetime) (d : DirectiveExecution) : DirectiveExecution :=
  {d with state := .abandoned, leaseGeneration := d.leaseGeneration + 1, updatedAt := now}

/-- The UPDATE of Full's sweep, for a row read in progress. -/
def fullAbandonRow (now : Datetime) (row : DirectiveExecution) (db : Database) : Database :=
  let directives := db.directives.updateWhere
    (fun d => d.directiveId = row.directiveId && d.state = .inProgress) (fullAbandon now) fun _ => rfl
  {db with directives}

/-- An effect as Full's reaper leaves it. -/
def EffectRow.fullReap (now : Datetime) (effect : EffectRow) : EffectRow :=
  {effect with
    state := if effect.intent.reversibility = .reversible then .failed else .unknown
    resolvedAt := some now
    resolutionSource := some "reaper"
    resolvedByActor := some effectActorReconciler }

def fullResolveRecord (now : Datetime) (db : Database) (record : EffectRow) : Database :=
  let effects := db.effects.updateWhere
    (fun effect => effect.effectId = record.effectId && effect.state = record.state)
    (EffectRow.fullReap now) fun _ => rfl
  {db with effects}

/-- `resolve_effects_for_directive` of Full -/
def fullResolveEffectsForDirective (now : Datetime) (directiveId : String) (db : Database) : Database :=
  ((db.effects.rows.filter fun effect => effect.directiveId = directiveId && effect.state.isUnresolved
    ).insertionSort fun a b => a.seq ≤ b.seq).foldl (fullResolveRecord now) db

/-- One row of Full's `startup_reconcile`. -/
def fullReapRow (now : Datetime) (db : Database) (row : DirectiveExecution) : Database :=
  let db := if row.state = .inProgress then fullAbandonRow now row db else db
  if settings.effectJournalEnabled then fullResolveEffectsForDirective now row.directiveId db else db

/-- `startup_reconcile` of Full, up to its commit. -/
def fullStartupReconcile (now : Datetime) (db : Database) : Database :=
  (fullSweepRows settings now db).foldl (fullReapRow settings now) db

/-! ### The flag -/

/-- A backend at startup: its tables, and the flag `reconcile_complete` reads. -/
structure Startup where
  db : Database
  reconcileDone : Bool := false

/-- Lite's startup: the flag is set when the sweep returns. -/
def liteStartup (now : Datetime) (s : Startup) : Except String Startup := do
  let (db, _) ← startupReconcile settings now s.db
  return ⟨db, true⟩

/-- Full's startup. -/
def fullStartup (now : Datetime) (s : Startup) : Except String Startup :=
  .ok ⟨fullStartupReconcile settings now s.db, true⟩

/-- The rows Lite's sweep may read, in its order. -/
def sweepQueue (db : Database) : List DirectiveExecution :=
  oldestFirst (db.directives.rows.filter (·.isLive))

/-- No directive that was in progress and stale is in progress still, or has an effect
nobody resolved. -/
def Complete (stale : DirectiveExecution → Bool) (db db' : Database) : Prop :=
  ∀ d ∈ db.directives.rows, d.state = .inProgress → stale d →
    (∀ d', db'.directives.find d.directiveId = some d' → d'.state ≠ .inProgress) ∧
    ∀ effect ∈ db'.effects.rows, effect.directiveId = d.directiveId → ¬ effect.state.isUnresolved

/-- Each stale directive in progress has fewer rows before it in the queue than the sweep
reads, and its effects are resolved where the journal is off. -/
def WithinBatch (stale : DirectiveExecution → Bool) (queue : List DirectiveExecution) (db : Database) : Prop :=
  ∀ d ∈ db.directives.rows, d.state = .inProgress → stale d →
    queue.idxOf d < max 1 settings.dispatchStartupReconcileBatch ∧
    (settings.effectJournalEnabled ∨
      ∀ effect ∈ db.effects.rows, effect.directiveId = d.directiveId → ¬ effect.state.isUnresolved)

/-! ### What a turn touches -/

/-- What the tables hold of one directive: its row, and its effects by id. -/
def Database.part (db : Database) (directiveId : String) :
    Option DirectiveExecution × (String → Option EffectRow) :=
  (db.directives.find directiveId,
    fun effectId => (db.effects.find effectId).filter fun effect => effect.directiveId = directiveId)

theorem Database.onLease_eq_part (db : Database) (directiveId : String) (lease : Nat) :
    db.onLease directiveId lease = (db.part directiveId).1.any fun d => d.leaseGeneration = lease := by
  show _ = (db.directives.find directiveId).any _
  unfold onLease
  cases db.directives.find directiveId <;> rfl

/-- The effects of a part, after each effect of the table has been mapped. -/
theorem filter_map_of_directiveId {f : EffectRow → EffectRow} (hf : ∀ effect, (f effect).directiveId = effect.directiveId)
    (found : Option EffectRow) (directiveId : String) :
    ((found.map f).filter fun effect => effect.directiveId = directiveId) =
      (found.filter fun effect => effect.directiveId = directiveId).map f := by
  cases found with
  | none => rfl
  | some effect =>
    by_cases h : effect.directiveId = directiveId <;> simp [Option.filter, h, hf]

/-- A part, where the turn maps the directive and its effects and leaves the others. -/
theorem part_of_find {db db' : Database} {directiveId : String} {f : DirectiveExecution → DirectiveExecution}
    (close : EffectRow → Bool) {g : EffectRow → EffectRow} (hg : ∀ effect, (g effect).directiveId = effect.directiveId)
    (hdirectives : ∀ k, db'.directives.find k =
      if k = directiveId then (db.directives.find k).map f else db.directives.find k)
    (heffects : ∀ effectId, db'.effects.find effectId = (db.effects.find effectId).map fun effect =>
      if effect.directiveId = directiveId ∧ close effect then g effect else effect) (k : String) :
    db'.part k = if k = directiveId then ((db.part k).1.map f, fun effectId =>
      ((db.part k).2 effectId).map fun effect => if close effect then g effect else effect) else db.part k := by
  have heffect : ∀ effect, (if effect.directiveId = directiveId ∧ close effect then g effect else effect).directiveId =
      effect.directiveId := by
    intro effect
    split_ifs
    · exact hg effect
    · rfl
  have hpart : ∀ effectId, (db'.part k).2 effectId = ((db.part k).2 effectId).map fun effect =>
      if effect.directiveId = directiveId ∧ close effect then g effect else effect := by
    intro effectId
    show (db'.effects.find effectId).filter _ = _
    rw [heffects, filter_map_of_directiveId heffect]
    rfl
  have hdirective : ∀ effectId effect, (db.part k).2 effectId = some effect → effect.directiveId = k :=
    fun effectId effect h => by simpa using (Option.filter_eq_some_iff.mp h).2
  by_cases hk : k = directiveId
  · subst hk
    rw [if_pos rfl]
    refine Prod.ext ((hdirectives k).trans (if_pos rfl)) (funext fun effectId => (hpart effectId).trans ?_)
    refine Option.map_congr fun effect heq => ?_
    simp [hdirective effectId effect heq]
  · rw [if_neg hk]
    refine Prod.ext ((hdirectives k).trans (if_neg hk)) (funext fun effectId => (hpart effectId).trans ?_)
    cases hfound : (db.part k).2 effectId with
    | none => rfl
    | some effect => simp [hdirective effectId effect hfound, hk]

/-- A lookup after an UPDATE of one directive. -/
theorem find_directive_updateWhere {db : Database} {directiveId : String} {p : DirectiveExecution → Bool}
    {f : DirectiveExecution → DirectiveExecution} (hf : ∀ d, (f d).directiveId = d.directiveId) (k : String) :
    (db.directives.updateWhere (fun d => d.directiveId = directiveId && p d) f hf).find k =
      if k = directiveId then (db.directives.find k).map fun d => if p d then f d else d
      else db.directives.find k := by
  rw [Table.find_updateWhere]
  cases hfind : db.directives.find k with
  | none => split_ifs <;> rfl
  | some d =>
    have hid : d.directiveId = k := (Table.find_eq_some_iff.mp hfind).2
    by_cases hk : k = directiveId <;> simp [hid, hk]

/-! ### Lite's turns -/

/-- What a turn of Lite's sweep does to its directive's part. -/
def liteOwn (now : Datetime) (row : DirectiveExecution)
    (part : Option DirectiveExecution × (String → Option EffectRow)) :
    Option DirectiveExecution × (String → Option EffectRow) :=
  if isStale settings now row then
    (part.1.map fun d => if d.leaseGeneration = row.leaseGeneration then row.abandon now d else d,
      fun effectId => (part.2 effectId).map fun effect =>
        if (settings.effectJournalEnabled && (part.1.any (fun d => d.leaseGeneration = row.leaseGeneration) ||
            part.1.any (fun d => d.leaseGeneration = row.leaseGeneration + 1))) && effect.state.isUnresolved
        then effect.reap now else effect)
  else part

theorem independent_afterTurn (now : Datetime) :
    Independent (fun db row => Database.afterTurn settings db now row) (·.directiveId) Database.part
      (liteOwn settings now) := by
  intro db row k
  show (Database.afterTurn settings db now row).part k = _
  by_cases hstale : isStale settings now row
  · rw [Database.afterTurn, if_pos hstale, liteOwn, if_pos hstale]
    refine (part_of_find (fun effect => (settings.effectJournalEnabled &&
        (db.onLease row.directiveId row.leaseGeneration ||
          db.onLease row.directiveId (row.leaseGeneration + 1))) && effect.state.isUnresolved)
      (fun effect => (rfl : (effect.reap now).directiveId = _))
      (find_directive_updateWhere fun d => (rfl : (row.abandon now d).directiveId = _)) (fun effectId => ?_) k).trans ?_
    · rw [find_reapedDatabase]
      refine Option.map_congr fun effect _ => ?_
      by_cases hdirective : effect.directiveId = row.directiveId <;> simp [hdirective]
    · by_cases hk : k = row.directiveId
      · subst hk
        simp only [if_pos, Database.onLease_eq_part, decide_eq_true_eq]
      · rw [if_neg hk, if_neg hk]
  · rw [Database.afterTurn, if_neg hstale, liteOwn, if_neg hstale, ite_self]

theorem foldlM_reapRow (now : Datetime) (rows : List DirectiveExecution) (db : Database) (counters : SweepCounters) :
    ∃ counters', rows.foldlM (reapRow settings now) (db, counters) =
      .ok (rows.foldl (fun db row => Database.afterTurn settings db now row) db, counters') := by
  induction rows generalizing db counters with
  | nil => exact ⟨counters, rfl⟩
  | cons row rest ih =>
    obtain ⟨counters₁, hrow⟩ := reapRow_eq settings now db counters row
    obtain ⟨counters₂, hrest⟩ := ih (Database.afterTurn settings db now row) counters₁
    refine ⟨counters₂, ?_⟩
    rw [List.foldlM_cons, hrow]
    exact hrest

/-- Lite's startup never raises. -/
theorem liteStartup_eq (now : Datetime) (s : Startup) :
    liteStartup settings now s =
      .ok ⟨(sweepRows settings s.db).foldl (fun db row => Database.afterTurn settings db now row) s.db, true⟩ := by
  obtain ⟨counters, hfold⟩ := foldlM_reapRow settings now (sweepRows settings s.db) s.db {}
  unfold liteStartup startupReconcile
  rw [hfold]
  rfl

/-! ### Full's turns -/

/-- What a turn of Full's sweep does to its directive's part. -/
def fullOwn (now : Datetime) (row : DirectiveExecution)
    (part : Option DirectiveExecution × (String → Option EffectRow)) :
    Option DirectiveExecution × (String → Option EffectRow) :=
  (part.1.map fun d => if row.state = .inProgress ∧ d.state = .inProgress then fullAbandon now d else d,
    fun effectId => (part.2 effectId).map fun effect =>
      if settings.effectJournalEnabled && effect.state.isUnresolved then effect.fullReap now else effect)

theorem independent_fullResolveRecord (now : Datetime) :
    Independent (fullResolveRecord now) (·.effectId) (fun db effectId => db.effects.find effectId)
      (fun record found => found.map fun effect =>
        if effect.state = record.state then effect.fullReap now else effect) := by
  intro db record effectId
  refine (db.effects.find_updateWhere _ (EffectRow.fullReap now) (fun _ => rfl) effectId).trans ?_
  show _ = if effectId = record.effectId then (db.effects.find effectId).map _ else db.effects.find effectId
  cases hfind : db.effects.find effectId with
  | none => split_ifs <;> rfl
  | some effect =>
    have hid : effect.effectId = effectId := (Table.find_eq_some_iff.mp hfind).2
    by_cases hk : effectId = record.effectId <;> simp [hid, hk]

theorem foldl_fullResolveRecord_directives (now : Datetime) (records : List EffectRow) (db : Database) :
    (records.foldl (fullResolveRecord now) db).directives = db.directives := by
  induction records generalizing db with
  | nil => rfl
  | cons record rest ih => exact ih (fullResolveRecord now db record)

/-- Full's resolution of a directive's effects, in closed form. -/
theorem find_fullResolveEffectsForDirective (now : Datetime) (directiveId : String) (db : Database)
    (effectId : String) :
    (fullResolveEffectsForDirective now directiveId db).effects.find effectId =
      (db.effects.find effectId).map fun effect =>
        if effect.directiveId = directiveId ∧ effect.state.isUnresolved then effect.fullReap now else effect := by
  let picked := db.effects.rows.filter fun effect => effect.directiveId = directiveId && effect.state.isUnresolved
  let records := picked.insertionSort fun a b => a.seq ≤ b.seq
  have hperm : records.Perm picked := List.perm_insertionSort _ _
  have hmem : ∀ record, record ∈ records ↔
      record ∈ db.effects.rows ∧ record.directiveId = directiveId ∧ record.state.isUnresolved := by
    intro record
    rw [hperm.mem_iff, List.mem_filter]
    simp
  have hids : (records.map (·.effectId)).Nodup :=
    (hperm.map _).nodup_iff.mpr (db.effects.nodup.sublist (List.filter_sublist.map _))
  have hturns := independent_fullResolveRecord now
  show (records.foldl (fullResolveRecord now) db).effects.find effectId = _
  cases hfind : db.effects.find effectId with
  | none =>
    have hnot : effectId ∉ records.map (·.effectId) := by
      intro hin
      obtain ⟨record, hrecord, rfl⟩ := List.mem_map.mp hin
      rw [Table.find_eq_some_iff.mpr ⟨((hmem record).mp hrecord).1, rfl⟩] at hfind
      cases hfind
    exact (hturns.foldl_of_notMem records db hnot).trans hfind
  | some effect =>
    obtain ⟨heffect, rfl⟩ := Table.find_eq_some_iff.mp hfind
    by_cases hin : effect ∈ records
    · refine (hturns.foldl_of_mem hids hin db).trans ?_
      simp [hfind, ((hmem effect).mp hin).2]
    · have hnot : effect.effectId ∉ records.map (·.effectId) := by
        intro hid
        obtain ⟨record, hrecord, heq⟩ := List.mem_map.mp hid
        exact hin (List.inj_on_of_nodup_map db.effects.nodup ((hmem record).mp hrecord).1 heffect heq ▸ hrecord)
      refine ((hturns.foldl_of_notMem records db hnot).trans hfind).trans ?_
      rw [Option.map_some, if_neg fun h => hin ((hmem effect).mpr ⟨heffect, h⟩)]

/-- The directives after a turn of Full's sweep. -/
theorem find_fullReapRow (now : Datetime) (row : DirectiveExecution) (db : Database) (k : String) :
    (fullReapRow settings now db row).directives.find k =
      if k = row.directiveId then (db.directives.find k).map fun d =>
        if row.state = .inProgress ∧ d.state = .inProgress then fullAbandon now d else d
      else db.directives.find k := by
  have hdirectives : (fullReapRow settings now db row).directives =
      (if row.state = .inProgress then fullAbandonRow now row db else db).directives := by
    unfold fullReapRow
    dsimp only
    by_cases henabled : settings.effectJournalEnabled
    · rw [if_pos henabled]
      exact foldl_fullResolveRecord_directives now _ _
    · rw [if_neg henabled]
  rw [hdirectives]
  by_cases hprogress : row.state = .inProgress
  · rw [if_pos hprogress]
    refine (find_directive_updateWhere (fun d => (rfl : (fullAbandon now d).directiveId = _)) k).trans ?_
    simp [hprogress]
  · simp [hprogress]

/-- The effects after a turn of Full's sweep. -/
theorem find_effects_fullReapRow (now : Datetime) (row : DirectiveExecution) (db : Database) (effectId : String) :
    (fullReapRow settings now db row).effects.find effectId = (db.effects.find effectId).map fun effect =>
      if effect.directiveId = row.directiveId ∧ settings.effectJournalEnabled && effect.state.isUnresolved then
        effect.fullReap now
      else effect := by
  have habandon : (if row.state = .inProgress then fullAbandonRow now row db else db).effects = db.effects := by
    split_ifs <;> rfl
  unfold fullReapRow
  by_cases henabled : settings.effectJournalEnabled
  · simp [henabled, find_fullResolveEffectsForDirective, habandon]
  · simp [henabled, habandon]

theorem independent_fullReapRow (now : Datetime) :
    Independent (fullReapRow settings now) (·.directiveId) Database.part (fullOwn settings now) := fun db row k =>
  part_of_find (fun effect => settings.effectJournalEnabled && effect.state.isUnresolved)
    (fun effect => (rfl : (effect.fullReap now).directiveId = _))
    (find_fullReapRow settings now row db) (find_effects_fullReapRow settings now row db) k

/-! ### Completeness -/

theorem mem_oldestFirst {rows : List DirectiveExecution} {d : DirectiveExecution} :
    d ∈ oldestFirst rows ↔ d ∈ rows := List.mem_insertionSort _

/-- The queue holds a table's rows, each once. -/
theorem nodup_oldestFirst_filter (db : Database) (p : DirectiveExecution → Bool) :
    ((oldestFirst (db.directives.rows.filter p)).map (·.directiveId)).Nodup :=
  ((List.perm_insertionSort _ _).map _).nodup_iff.mpr (db.directives.nodup.sublist (List.filter_sublist.map _))

/-- The effects of a part are the directive's. -/
theorem part_effects_eq_some_iff {db : Database} {directiveId effectId : String} {effect : EffectRow} :
    (db.part directiveId).2 effectId = some effect ↔
      effect ∈ db.effects.rows ∧ effect.effectId = effectId ∧ effect.directiveId = directiveId := by
  show (db.effects.find effectId).filter _ = some effect ↔ _
  rw [Option.filter_eq_some_iff, Table.find_eq_some_iff, and_assoc, decide_eq_true_eq]

/-- No effect of the directive is unresolved, read off its part. -/
theorem resolved_iff_part {db : Database} {directiveId : String} :
    (∀ effect ∈ db.effects.rows, effect.directiveId = directiveId → ¬ effect.state.isUnresolved) ↔
      ∀ effectId effect, (db.part directiveId).2 effectId = some effect → ¬ effect.state.isUnresolved := by
  constructor
  · intro h effectId effect hfound
    obtain ⟨heffect, _, hdirective⟩ := part_effects_eq_some_iff.mp hfound
    exact h effect heffect hdirective
  · exact fun h effect heffect hdirective =>
      h effect.effectId effect (part_effects_eq_some_iff.mpr ⟨heffect, rfl, hdirective⟩)

/-- A pass of independent turns over the front of a queue, each of which abandons a stale
directive in progress and closes its effects where the journal is on: it is complete
exactly within its batch. -/
theorem complete_foldl_iff {stale : DirectiveExecution → Bool} {turn : Database → DirectiveExecution → Database}
    {own : DirectiveExecution → Option DirectiveExecution × (String → Option EffectRow) →
      Option DirectiveExecution × (String → Option EffectRow)}
    (hturn : Independent turn (·.directiveId) Database.part own)
    {queue : List DirectiveExecution} {db : Database} (hnodup : (queue.map (·.directiveId)).Nodup)
    (hrows : ∀ d ∈ queue, d ∈ db.directives.rows)
    (hqueue : ∀ d ∈ db.directives.rows, d.state = .inProgress → stale d → d ∈ queue)
    {abandoned : DirectiveExecution → DirectiveExecution} {close : EffectRow → EffectRow}
    (habandoned : ∀ d, (abandoned d).state ≠ .inProgress) (hclose : ∀ effect, ¬ (close effect).state.isUnresolved)
    (hown : ∀ d effects, d.state = .inProgress → stale d → own d (some d, effects) =
      (some (abandoned d), fun effectId => (effects effectId).map fun effect =>
        if settings.effectJournalEnabled && effect.state.isUnresolved then close effect else effect)) :
    Complete stale db ((queue.take (max 1 settings.dispatchStartupReconcileBatch)).foldl turn db) ↔
      WithinBatch settings stale queue db := by
  let batch := queue.take (max 1 settings.dispatchStartupReconcileBatch)
  have hsublist : batch.Sublist queue := List.take_sublist _ queue
  refine forall_congr' fun d => forall_congr' fun hd => forall_congr' fun hprogress => forall_congr' fun hstale => ?_
  have hfind : db.directives.find d.directiveId = some d := Table.find_eq_some_iff.mpr ⟨hd, rfl⟩
  rw [resolved_iff_part, resolved_iff_part, ← List.mem_take_iff_idxOf_lt (hqueue d hd hprogress hstale)]
  show (∀ d', ((batch.foldl turn db).part d.directiveId).1 = some d' → _) ∧ _ ↔ _
  by_cases hread : d ∈ batch
  · -- its turn abandons it
    have hpart : (batch.foldl turn db).part d.directiveId = (some (abandoned d), fun effectId =>
        ((db.part d.directiveId).2 effectId).map fun effect =>
          if settings.effectJournalEnabled && effect.state.isUnresolved then close effect else effect) := by
      refine (hturn.foldl_of_mem (hnodup.sublist (hsublist.map _)) hread db).trans ?_
      have hbefore : db.part d.directiveId = (some d, (db.part d.directiveId).2) := Prod.ext hfind rfl
      rw [hbefore]
      exact hown d _ hprogress hstale
    have hdone : ∀ d', some (abandoned d) = some d' → d'.state ≠ .inProgress := by
      rintro d' ⟨⟩
      exact habandoned d
    rw [hpart, and_iff_right hdone, and_iff_right hread]
    by_cases henabled : settings.effectJournalEnabled
    · simp only [henabled, Bool.true_and, true_or, iff_true]
      intro effectId effect hfound
      obtain ⟨before, _, rfl⟩ := Option.map_eq_some_iff.mp hfound
      by_cases hopen : before.state.isUnresolved
      · rw [if_pos hopen]
        exact hclose before
      · rwa [if_neg hopen]
    · simp [henabled]
  · -- no turn touches it
    have hother : d.directiveId ∉ batch.map (·.directiveId) := by
      intro hin
      obtain ⟨row, hrow, hid⟩ := List.mem_map.mp hin
      have hsame := List.inj_on_of_nodup_map db.directives.nodup (hrows row (hsublist.subset hrow)) hd hid
      exact hread (hsame ▸ hrow)
    rw [hturn.foldl_of_notMem batch db hother]
    exact ⟨fun h => absurd hprogress (h.1 d hfind), fun h => absurd h.1 hread⟩

/-- The sweep at startup is complete exactly when no stale directive stands behind a batch
of others. The queue of Lite holds every open directive, that of Full the stale ones,
those never claimed included; neither loses, in the sweep, what it does not abandon. -/
theorem startup_complete_iff (now : Datetime) (s : Startup) :
    (∃ s', liteStartup settings now s = .ok s' ∧ s'.reconcileDone ∧
      (Complete (isStale settings now) s.db s'.db ↔
        WithinBatch settings (isStale settings now) (sweepQueue s.db) s.db)) ∧
    ∃ s', fullStartup settings now s = .ok s' ∧ s'.reconcileDone ∧
      (Complete (fullIsStale settings now) s.db s'.db ↔
        WithinBatch settings (fullIsStale settings now) (fullSweepQueue settings now s.db) s.db) := by
  constructor
  · refine ⟨_, liteStartup_eq settings now s, rfl, ?_⟩
    refine @complete_foldl_iff settings _ _ _ (independent_afterTurn settings now) (sweepQueue s.db) s.db
      (nodup_oldestFirst_filter s.db _) (fun d hd => (List.mem_filter.mp (mem_oldestFirst.mp hd)).1)
      (fun d hd hprogress _ => mem_oldestFirst.mpr (List.mem_filter.mpr ⟨hd, ?_⟩))
      (fun d => d.abandon now d) (EffectRow.reap now) (fun d => ?_) (EffectRow.reap_state now)
      fun d effects hprogress hstale => ?_
    · simp [DirectiveExecution.isLive, hprogress]
    · show DirectiveState.abandoned ≠ .inProgress
      decide
    · simp [liteOwn, hstale]
  · refine ⟨_, rfl, rfl, ?_⟩
    refine @complete_foldl_iff settings _ _ _ (independent_fullReapRow settings now)
      (fullSweepQueue settings now s.db) s.db
      (nodup_oldestFirst_filter s.db _) (fun d hd => (List.mem_filter.mp (mem_oldestFirst.mp hd)).1)
      (fun d hd hprogress hstale => mem_oldestFirst.mpr (List.mem_filter.mpr ⟨hd, ?_⟩))
      (fullAbandon now) (EffectRow.fullReap now) (fun d => ?_) (fun effect => ?_)
      fun d effects hprogress _ => ?_
    · simp [DirectiveExecution.isLive, hprogress, hstale]
    · show DirectiveState.abandoned ≠ .inProgress
      decide
    · show ¬ (if effect.intent.reversibility = .reversible then EffectState.failed else .unknown).isUnresolved
      split_ifs <;> decide
    · simp [fullOwn, hprogress]

/-! ### A batch of one -/

/-- A batch of one. -/
def narrowSettings : Settings := {exampleSettings with dispatchStartupReconcileBatch := 1}

/-- Claimed before `exampleDirective`, and again since. -/
def renewedDirective : DirectiveExecution := {exampleDirective with
  directiveId := "renewed"
  leaseExpiresAt := some (exampleTime 5000) }

/-- Issued before `exampleDirective`, and never claimed. -/
def waitingDirective : DirectiveExecution := {exampleDirective with
  directiveId := "waiting"
  state := .pending
  claimedExecutor := none
  leaseGeneration := 0
  claimedBy := none
  startedAt := none
  expiresAt := none
  leaseExpiresAt := none }

def behind (d : DirectiveExecution) (h : d.directiveId ≠ "d") : Startup where
  db := ⟨⟨[d, exampleDirective], by simpa [exampleDirective] using h⟩, exampleDatabase.effects⟩

/-- The directive that has been stale for an hour is in progress still, its push running,
and dispatch is open. -/
theorem startup_hides :
    (∃ s', liteStartup narrowSettings (exampleTime 4000) (behind renewedDirective (by decide)) = .ok s' ∧
      s'.reconcileDone ∧
      ¬ Complete (isStale narrowSettings (exampleTime 4000)) (behind renewedDirective (by decide)).db s'.db) ∧
    ∃ s', fullStartup narrowSettings (exampleTime 4000) (behind waitingDirective (by decide)) = .ok s' ∧
      s'.reconcileDone ∧
      ¬ Complete (fullIsStale narrowSettings (exampleTime 4000)) (behind waitingDirective (by decide)).db s'.db := by
  constructor
  · refine ⟨_, liteStartup_eq _ _ _, rfl, fun hcomplete => ?_⟩
    exact (hcomplete exampleDirective (by decide) (by decide) (by decide)).1 exampleDirective (by decide) (by decide)
  · refine ⟨_, rfl, rfl, fun hcomplete => ?_⟩
    exact (hcomplete exampleDirective (by decide) (by decide) (by decide)).1 exampleDirective (by decide) (by decide)

end OpenTimeline.Directive
