import OpenTimeline.Directive.Reaper

/-! The startup sweep among running workers.

The sweep's SELECT and each directive's turn are separate steps, and between them workers
claim, report, open effects and resolve them. The turn is decided on the row as the
SELECT read it and its UPDATE compares the lease alone, which a report leaves as it was;
the effects are then closed under the raised lease whether or not the UPDATE hit its row,
and a claim raises the lease to just that. So a turn does harm exactly when the directive
has meanwhile come to an outcome, or has been claimed and has effects open
(`reap_harmless_iff`), and in a run with no such turn the sweep overwrites nothing
(`sweep_safe`). -/
namespace OpenTimeline.Directive
open Library

variable (host : Host) (settings : Settings)

/-! ### The protocol -/

inductive Writer
  | claim (request : ClaimRequest)
  | report (request : ReportRequest)

def Writer.reply : Writer → DirectiveExecution → Reply
  | claim request, seen => claimExecution host settings request seen
  | report request, seen => reportExecution settings request seen

/-- The row of one directive under a fenced UPDATE. -/
def FencedUpdate.onRow (update : FencedUpdate) (directiveId : String) (row : DirectiveExecution) :
    DirectiveExecution :=
  if row.directiveId = directiveId then (update.apply row).getD row else row

theorem FencedUpdate.onRow_directiveId (update : FencedUpdate) (directiveId : String)
    (row : DirectiveExecution) : (update.onRow directiveId row).directiveId = row.directiveId := by
  unfold onRow apply
  split_ifs
  · exact update.set_directiveId row
  · rfl
  · rfl

def Database.write (db : Database) (directiveId : String) (update : FencedUpdate) : Database :=
  {db with directives := db.directives.update (update.onRow directiveId) (update.onRow_directiveId directiveId)}

structure SweepState (ι : Type) where
  db : Database
  /-- The row each worker has last read. -/
  reads : ι → Option DirectiveExecution
  /-- When the sweep began, and the rows it read whose turn is still to come. -/
  sweep : Option (Datetime × List DirectiveExecution)
  /-- The directives whose row an UPDATE of the sweep hit. -/
  reaped : List String
  /-- The effects a turn of the sweep changed, as they were before it. -/
  resolved : List EffectRow

inductive SweepAction (ι : Type)
  | read (worker : ι) (directiveId : String)
  | write (worker : ι) (writer : Writer)
  | openEffect (request : OpenRequest)
  | resolveEffect (request : ResolveRequest)
  | select (now : Datetime)
  | reap

/-- The sweep's UPDATE of `row` hits a row. -/
def Database.abandons (db : Database) (now : Datetime) (row : DirectiveExecution) : Bool :=
  isStale settings now row && db.onLease row.directiveId row.leaseGeneration

section Protocol
variable {ι : Type} [DecidableEq ι]

def SweepState.next (s : SweepState ι) : SweepAction ι → Option (SweepState ι)
  | .read worker directiveId =>
    some {s with reads := Function.update s.reads worker (s.db.directives.find directiveId)}
  | .write worker writer => (s.reads worker).map fun seen =>
    match writer.reply host settings seen with
    | .writes update => {s with db := s.db.write seen.directiveId update}
    | _ => s
  | .openEffect request => match openEffect host s.db request with
    | .ok (db, _) => some {s with db}
    | .error _ => some s
  | .resolveEffect request => match resolveEffect s.db request with
    | .ok (db, _) => some {s with db}
    | .error _ => some s
  | .select now => match s.sweep with
    | none => some {s with sweep := some (now, sweepRows settings s.db)}
    | some _ => none
  | .reap => match s.sweep with
    | some (now, row :: rest) => match reapRow settings now (s.db, {}) row with
      | .ok (db, _) => some {
        db
        reads := s.reads
        sweep := some (now, rest)
        reaped := s.reaped ++ if s.db.abandons settings now row then [row.directiveId] else []
        resolved := s.resolved ++ s.db.effects.rows.filter fun effect =>
          db.effects.find effect.effectId ≠ some effect }
      | .error _ => none
    | _ => none

/-- Lite at startup, on whatever the tables hold. -/
def sweepProtocol (ι : Type) [DecidableEq ι] : System (SweepState ι) (SweepAction ι) where
  init s := s.reads = (fun _ => none) ∧ s.sweep = none ∧ s.reaped = [] ∧ s.resolved = []
  next := SweepState.next host settings

/-- The outcomes of a directive's work. -/
def outcomeStates : List DirectiveState := [.succeeded, .failed, .blocked]

/-- What the sweep owes in state `s` of `M`: in no run from there does a directive that
has come to an outcome end up abandoned, and it has changed no effect but those of the
directives it has abandoned. -/
structure SweepSafe (M : System (SweepState ι) (SweepAction ι)) (s : SweepState ι) : Prop where
  outcomes : ∀ actions s', M.run s actions = some s' → ∀ directiveId row row',
    s.db.directives.find directiveId = some row → row.state ∈ outcomeStates →
    s'.db.directives.find directiveId = some row' → row'.state ≠ .abandoned
  effects : ∀ effect ∈ s.resolved, effect.directiveId ∈ s.reaped

/-- A turn whose directive has not come to an outcome on the lease the sweep read, and
has no effect nobody resolved on the lease after it. -/
def harmlessTurn (db : Database) (now : Datetime) (row : DirectiveExecution) : Bool :=
  !isStale settings now row || match db.directives.find row.directiveId with
    | none => true
    | some current =>
      !(current.leaseGeneration = row.leaseGeneration && current.state ∈ outcomeStates) &&
      !(current.leaseGeneration = row.leaseGeneration + 1 && settings.effectJournalEnabled &&
        db.effects.rows.any fun effect =>
          effect.directiveId = row.directiveId && effect.state.isUnresolved)

def Harmless (s : SweepState ι) : SweepAction ι → Bool
  | .reap => match s.sweep with
    | some (now, row :: _) => harmlessTurn settings s.db now row
    | _ => true
  | _ => true

/-! ### One step -/

theorem not_terminal_of_outcome {state : DirectiveState} (h : state ∈ outcomeStates) : state.isTerminal := by
  revert h
  cases state <;> decide

/-- No writer's UPDATE asks for a terminal row. -/
theorem Writer.reply_open {writer : Writer} {seen : DirectiveExecution} {update : FencedUpdate}
    (h : writer.reply host settings seen = .writes update) : ¬ update.state.isTerminal := by
  cases writer with
  | claim request =>
    obtain ⟨_, _, _, _, _, hperforms⟩ := claimExecution_performs host h
    exact hperforms.not_terminal
  | report request =>
    obtain ⟨hallowed, _, hstate, _⟩ := reportExecution_writes h
    obtain ⟨t, ht⟩ := grantedBy_of_allowed hallowed
    rw [hstate]
    split_ifs
    · exact ht.not_terminal
    · decide

theorem openEffect_directives {db db' : Database} {request : OpenRequest} {effectId : String}
    (h : openEffect host db request = .ok (db', effectId)) : db'.directives = db.directives := by
  unfold openEffect at h
  split at h
  · cases h
    rfl
  · split_ifs at h
    split at h <;> cases h
    rfl

theorem resolveEffect_directives {db db' : Database} {request : ResolveRequest} {hit : Bool}
    (h : resolveEffect db request = .ok (db', hit)) : db'.directives = db.directives := by
  unfold resolveEffect at h
  split at h
  · cases h
    rfl
  · split at h <;> cases h
    rfl

/-- The tables after the turn of `row`. -/
def Database.afterTurn (db : Database) (now : Datetime) (row : DirectiveExecution) : Database :=
  if isStale settings now row then reapedDatabase settings now row db else db

/-- A turn of the sweep, in closed form. -/
theorem SweepState.next_reap {s s' : SweepState ι} (h : s.next host settings .reap = some s') :
    ∃ now row rest, s.sweep = some (now, row :: rest) ∧
      s' = {
        db := s.db.afterTurn settings now row
        reads := s.reads
        sweep := some (now, rest)
        reaped := s.reaped ++ if s.db.abandons settings now row then [row.directiveId] else []
        resolved := s.resolved ++ s.db.effects.rows.filter fun effect =>
          (s.db.afterTurn settings now row).effects.find effect.effectId ≠ some effect } := by
  unfold next at h
  cases hsweep : s.sweep with
  | none =>
    simp only [hsweep] at h
    cases h
  | some sweep =>
    obtain ⟨now, rows⟩ := sweep
    cases rows with
    | nil =>
      simp only [hsweep] at h
      cases h
    | cons row rest =>
      obtain ⟨counters, hrow⟩ := reapRow_eq settings now s.db {} row
      simp only [hsweep, hrow] at h
      exact ⟨now, row, rest, rfl, (Option.some.inj h).symm⟩

/-- The directives that have come to an outcome stand as they were. -/
def KeepsOutcomes (db db' : Database) : Prop :=
  ∀ directiveId before, db.directives.find directiveId = some before → before.state ∈ outcomeStates →
    ∃ after, db'.directives.find directiveId = some after ∧ after.state = before.state

theorem keepsOutcomes_of_eq {db db' : Database} (h : db'.directives = db.directives) : KeepsOutcomes db db' :=
  fun _ before hbefore _ => ⟨before, h ▸ hbefore, rfl⟩

theorem KeepsOutcomes.trans {db₁ db₂ db₃ : Database} (h : KeepsOutcomes db₁ db₂) (h' : KeepsOutcomes db₂ db₃) :
    KeepsOutcomes db₁ db₃ := by
  intro directiveId before hbefore houtcome
  obtain ⟨middle, hmiddle, hstate⟩ := h directiveId before hbefore houtcome
  obtain ⟨after, hafter, hstate'⟩ := h' directiveId middle hmiddle (hstate ▸ houtcome)
  exact ⟨after, hafter, hstate'.trans hstate⟩

theorem keepsOutcomes_write {writer : Writer} {seen : DirectiveExecution} {update : FencedUpdate}
    (h : writer.reply host settings seen = .writes update) (db : Database) (directiveId : String) :
    KeepsOutcomes db (db.write directiveId update) := by
  intro other before hbefore houtcome
  refine ⟨update.onRow directiveId before, ?_, ?_⟩
  · rw [Database.write, Table.find_update, hbefore]
    rfl
  · rw [FencedUpdate.onRow]
    split_ifs
    · cases happly : update.apply before with
      | none => rfl
      | some row' =>
        -- the fence would ask for a terminal row
        have hstate := (FencedUpdate.apply_eq_some happly).1
        exact absurd (not_terminal_of_outcome houtcome) (hstate ▸ Writer.reply_open host settings h)
    · rfl

theorem harmlessTurn_iff {db : Database} {now : Datetime} {row : DirectiveExecution} :
    harmlessTurn settings db now row ↔
      (isStale settings now row → ∀ current, db.directives.find row.directiveId = some current →
        ¬ (current.leaseGeneration = row.leaseGeneration ∧ current.state ∈ outcomeStates) ∧
        ¬ (current.leaseGeneration = row.leaseGeneration + 1 ∧ settings.effectJournalEnabled ∧
          ∃ effect ∈ db.effects.rows, effect.directiveId = row.directiveId ∧ effect.state.isUnresolved)) := by
  unfold harmlessTurn
  cases hstale : isStale settings now row with
  | false => simp
  | true =>
    cases hfind : db.directives.find row.directiveId with
    | none => simp
    | some current =>
      simp only [Bool.not_true, Bool.false_or, Bool.and_eq_true, Bool.not_eq_true', ← Bool.not_eq_true,
        decide_eq_true_eq, List.any_eq_true, Option.some.injEq, forall_eq', true_implies, and_assoc]

/-- A turn overwrites an outcome exactly when one stands on the lease the sweep read. -/
theorem keepsOutcomes_afterTurn_iff {db : Database} {now : Datetime} {row : DirectiveExecution} :
    KeepsOutcomes db (db.afterTurn settings now row) ↔
      (isStale settings now row → ∀ current, db.directives.find row.directiveId = some current →
        ¬ (current.leaseGeneration = row.leaseGeneration ∧ current.state ∈ outcomeStates)) := by
  by_cases hstale : isStale settings now row
  · have hturn : (db.afterTurn settings now row).directives = (abandonRow now row db).directives := by
      rw [Database.afterTurn, if_pos hstale]
      rfl
    constructor
    · rintro hkeeps - current hcurrent ⟨hlease, houtcome⟩
      have hid : current.directiveId = row.directiveId := (Table.find_eq_some_iff.mp hcurrent).2
      obtain ⟨after, hafter, hstate⟩ := hkeeps _ _ hcurrent houtcome
      rw [hturn, find_abandonRow, hcurrent, Option.map_some, if_pos (by simp [hid, hlease])] at hafter
      rw [← hstate, ← Option.some.inj hafter] at houtcome
      exact absurd houtcome (show DirectiveState.abandoned ∉ outcomeStates by decide)
    · intro hspared directiveId before hbefore houtcome
      have hid : before.directiveId = directiveId := (Table.find_eq_some_iff.mp hbefore).2
      have hmissed : ¬ (before.directiveId = row.directiveId && before.leaseGeneration = row.leaseGeneration) := by
        intro hhit
        simp only [Bool.and_eq_true, decide_eq_true_eq] at hhit
        rw [← hid, hhit.1] at hbefore
        exact hspared hstale before hbefore ⟨hhit.2, houtcome⟩
      refine ⟨before, ?_, rfl⟩
      rw [hturn, find_abandonRow, hbefore, Option.map_some, if_neg hmissed]
  · simp only [hstale, Bool.false_eq_true, false_implies, iff_true]
    refine keepsOutcomes_of_eq ?_
    rw [Database.afterTurn, if_neg hstale]

/-- The effects a turn changes. -/
theorem changed_afterTurn_iff {db : Database} {now : Datetime} {row : DirectiveExecution}
    {effect : EffectRow} (heffect : effect ∈ db.effects.rows) :
    (db.afterTurn settings now row).effects.find effect.effectId ≠ some effect ↔
      isStale settings now row ∧ settings.effectJournalEnabled ∧ effect.directiveId = row.directiveId ∧
        effect.state.isUnresolved ∧ (db.onLease row.directiveId row.leaseGeneration ∨
          db.onLease row.directiveId (row.leaseGeneration + 1)) := by
  have hfind : db.effects.find effect.effectId = some effect := Table.find_eq_some_iff.mpr ⟨heffect, rfl⟩
  have hreap : effect.state.isUnresolved → effect.reap now ≠ effect := by
    intro hopen heq
    exact effect.reap_state now (heq.symm ▸ hopen)
  unfold Database.afterTurn
  by_cases hstale : isStale settings now row
  · rw [if_pos hstale, find_reapedDatabase, hfind, Option.map_some]
    simp only [ne_eq, Option.some.injEq, hstale, true_and]
    split_ifs with hclosed
    · simp only [Bool.and_eq_true, Bool.or_eq_true, decide_eq_true_eq] at hclosed
      simp [hreap hclosed.2, hclosed]
    · simp only [Bool.and_eq_true, Bool.or_eq_true, decide_eq_true_eq] at hclosed
      simp only [not_true_eq_false, false_iff]
      tauto
  · simp [hstale, hfind]

/-- A turn does no harm exactly under `harmlessTurn`: it keeps the outcomes there are, and
changes the effects of the directive it abandons and of no other. -/
theorem reap_harmless_iff {db : Database} {now : Datetime} {row : DirectiveExecution} :
    KeepsOutcomes db (db.afterTurn settings now row) ∧
      (∀ effect ∈ db.effects.rows, (db.afterTurn settings now row).effects.find effect.effectId ≠ some effect →
        db.abandons settings now row ∧ effect.directiveId = row.directiveId) ↔
      harmlessTurn settings db now row := by
  rw [keepsOutcomes_afterTurn_iff, harmlessTurn_iff]
  constructor
  · rintro ⟨houtcomes, heffects⟩ hstale current hcurrent
    refine ⟨houtcomes hstale current hcurrent, ?_⟩
    rintro ⟨hlease, henabled, effect, heffect, hdirective, hopen⟩
    have hraised : db.onLease row.directiveId (row.leaseGeneration + 1) := by
      simp [Database.onLease, hcurrent, hlease]
    have hchanged := (changed_afterTurn_iff settings heffect).mpr
      ⟨hstale, henabled, hdirective, hopen, Or.inr hraised⟩
    have habandons := (heffects effect heffect hchanged).1
    simp [Database.abandons, Database.onLease, hcurrent, hlease] at habandons
  · intro hharmless
    refine ⟨fun hstale current hcurrent => (hharmless hstale current hcurrent).1, fun effect heffect hchanged => ?_⟩
    obtain ⟨hstale, henabled, hdirective, hopen, hlease⟩ := (changed_afterTurn_iff settings heffect).mp hchanged
    refine ⟨?_, hdirective⟩
    rw [Database.abandons, hstale, Bool.true_and]
    refine hlease.resolve_right fun hraised => ?_
    unfold Database.onLease at hraised
    cases hcurrent : db.directives.find row.directiveId with
    | none => simp [hcurrent] at hraised
    | some current =>
      simp only [hcurrent, decide_eq_true_eq] at hraised
      exact (hharmless hstale current hcurrent).2 ⟨hraised, henabled, effect, heffect, hdirective, hopen⟩

/-! ### Runs -/

/-- The sweep has changed no effect but those of the directives it has abandoned. -/
def SweepState.Owned (s : SweepState ι) : Prop := ∀ effect ∈ s.resolved, effect.directiveId ∈ s.reaped

/-- What a step that is no harmful turn keeps. -/
theorem SweepState.next_harmless {s s' : SweepState ι} {a : SweepAction ι} (hharmless : Harmless settings s a)
    (h : s.next host settings a = some s') : KeepsOutcomes s.db s'.db ∧ (s.Owned → s'.Owned) := by
  cases a with
  | read worker directiveId =>
    cases h
    exact ⟨keepsOutcomes_of_eq rfl, id⟩
  | write worker writer =>
    obtain ⟨seen, _, hs'⟩ := Option.map_eq_some_iff.mp h
    split at hs'
    case h_1 update hreply =>
      subst hs'
      exact ⟨keepsOutcomes_write host settings hreply s.db seen.directiveId, id⟩
    case h_2 =>
      subst hs'
      exact ⟨keepsOutcomes_of_eq rfl, id⟩
  | openEffect request =>
    simp only [next] at h
    split at h <;> cases h
    case h_1 hopen => exact ⟨keepsOutcomes_of_eq (openEffect_directives host hopen), id⟩
    case h_2 => exact ⟨keepsOutcomes_of_eq rfl, id⟩
  | resolveEffect request =>
    simp only [next] at h
    split at h <;> cases h
    case h_1 hresolve => exact ⟨keepsOutcomes_of_eq (resolveEffect_directives hresolve), id⟩
    case h_2 => exact ⟨keepsOutcomes_of_eq rfl, id⟩
  | select now =>
    simp only [next] at h
    split at h <;> cases h
    exact ⟨keepsOutcomes_of_eq rfl, id⟩
  | reap =>
    obtain ⟨now, row, rest, hsweep, rfl⟩ := next_reap host settings h
    simp only [Harmless, hsweep] at hharmless
    obtain ⟨houtcomes, heffects⟩ := (reap_harmless_iff settings).mpr hharmless
    refine ⟨houtcomes, fun howned effect heffect => ?_⟩
    rcases List.mem_append.mp heffect with hold | hnew
    · exact List.mem_append_left _ (howned effect hold)
    · obtain ⟨hrow, hchanged⟩ := List.mem_filter.mp hnew
      obtain ⟨habandons, hdirective⟩ := heffects effect hrow (by simpa using hchanged)
      refine List.mem_append_right _ ?_
      rw [if_pos habandons, hdirective]
      exact List.mem_singleton_self _

/-- Lite's startup with no harmful turn. -/
def harmlessProtocol (ι : Type) [DecidableEq ι] : System (SweepState ι) (SweepAction ι) :=
  (sweepProtocol host settings ι).restrict fun s a => Harmless settings s a

theorem keepsOutcomes_run {s s' : SweepState ι} {actions : List (SweepAction ι)}
    (h : (harmlessProtocol host settings ι).run s actions = some s') : KeepsOutcomes s.db s'.db := by
  refine System.run_keeps (I := fun t => KeepsOutcomes s.db t.db) (fun t a t' hkept hnext => ?_) h
    (keepsOutcomes_of_eq rfl)
  obtain ⟨hharmless, hnext⟩ := System.restrict_next hnext
  exact hkept.trans (SweepState.next_harmless host settings hharmless hnext).1

theorem owned_reachable {s : SweepState ι} (h : (harmlessProtocol host settings ι).Reachable s) : s.Owned := by
  refine h.invariant (fun s hs => ?_) fun s a s' _ howned hnext => ?_
  · obtain ⟨_, _, _, hresolved⟩ := hs
    simp [SweepState.Owned, hresolved]
  · obtain ⟨hharmless, hnext⟩ := System.restrict_next hnext
    exact (SweepState.next_harmless host settings hharmless hnext).2 howned

/-- In a run no turn of which finds its directive come to an outcome on the lease it was
read with, or with effects open on the lease after it, the sweep abandons no directive
that has come to an outcome and changes the effects only of those it has abandoned. -/
theorem sweep_safe {s : SweepState ι} (h : (harmlessProtocol host settings ι).Reachable s) :
    SweepSafe (harmlessProtocol host settings ι) s where
  outcomes actions s' hrun directiveId row row' hrow houtcome hrow' := by
    obtain ⟨after, hafter, hstate⟩ := keepsOutcomes_run host settings hrun directiveId row hrow houtcome
    rw [hrow'] at hafter
    cases hafter
    intro habandoned
    rw [← hstate, habandoned] at houtcome
    exact absurd houtcome (by decide)
  effects := owned_reachable host settings h

end Protocol

/-! ### A worker that reports while the sweep is at work -/

def exampleSettings : Settings := ⟨900, false, false, true, 200⟩

/-- `seconds` after the epoch. -/
def exampleTime (seconds : Nat) : Datetime := addSeconds ⟨epoch, true⟩ seconds

/-- Claimed at the epoch for a quarter of an hour. -/
def exampleDirective : DirectiveExecution where
  directiveId := "d"
  state := .inProgress
  claimedExecutor := some "worker"
  leaseGeneration := 1
  userId := "owner"
  objectiveHash := none
  requiresPermit := false
  permitId := none
  claimedBy := some "worker"
  startedAt := some (exampleTime 0)
  expiresAt := some (exampleTime 900)
  leaseExpiresAt := some (exampleTime 900)
  createdAt := exampleTime 0
  updatedAt := exampleTime 0

def exampleEffect : EffectRow where
  effectId := "e"
  workspaceId := "w"
  ownerId := "owner"
  sessionId := "s"
  directiveId := "d"
  seq := 1
  state := .running
  intent := ⟨"command", "process.execute", "", ["git", "push"], .irreversible, ""⟩
  intentDigest := "digest"
  leaseGeneration := 1
  claimedExecutor := "worker"
  providerRunId := none
  openedAt := exampleTime 10
  resolvedAt := none
  resolutionSource := none
  resolvedByActor := none

def exampleDatabase : Database := ⟨⟨[exampleDirective], by decide⟩, ⟨[exampleEffect], by decide⟩⟩

def exampleSweep : SweepState Unit := ⟨exampleDatabase, fun _ => none, none, [], []⟩

/-- Nobody comes back: the directive is abandoned and its push is unknown. -/
def quietStartup : Option (SweepState Unit) :=
  (harmlessProtocol (asciiHost [] []) exampleSettings Unit).run exampleSweep [.select (exampleTime 4000), .reap]

theorem sweep_safe_quiet : ∃ s, quietStartup = some s ∧ s.reaped = ["d"] ∧
    s.db.effects.rows.map (·.state) = [.unknown] ∧
    SweepSafe (harmlessProtocol (asciiHost [] []) exampleSettings Unit) s := by
  obtain ⟨s, hs⟩ := Option.isSome_iff_exists.mp (show quietStartup.isSome by decide)
  have hreachable : (harmlessProtocol (asciiHost [] []) exampleSettings Unit).Reachable s :=
    System.Reachable.run (.init ⟨rfl, rfl, rfl, rfl⟩) hs
  have hreaped : quietStartup.map (·.reaped) = some ["d"] := by decide
  have hstates : quietStartup.map (fun s => s.db.effects.rows.map (·.state)) = some [.unknown] := by decide
  rw [hs] at hreaped hstates
  exact ⟨s, hs, Option.some.inj hreaped, Option.some.inj hstates, sweep_safe _ _ hreachable⟩

/-- The worker comes back after the SELECT, and reports. -/
def lateReport : Option (SweepState Unit) :=
  (sweepProtocol (asciiHost [] []) exampleSettings Unit).run exampleSweep
    [.read () "d", .select (exampleTime 4000),
      .write () (.report ⟨"worker", .succeeded, some 1, exampleTime 4001, none, []⟩)]

/-- The turn after a report: the directive had succeeded, and ends up abandoned. -/
theorem sweep_overwrites : ¬ ∀ s, (sweepProtocol (asciiHost [] []) exampleSettings Unit).Reachable s →
    SweepSafe (sweepProtocol (asciiHost [] []) exampleSettings Unit) s := by
  intro hsafe
  obtain ⟨s, hs⟩ := Option.isSome_iff_exists.mp (show lateReport.isSome by decide)
  have hreachable : (sweepProtocol (asciiHost [] []) exampleSettings Unit).Reachable s :=
    System.Reachable.run (.init ⟨rfl, rfl, rfl, rfl⟩) hs
  have hbefore : lateReport.bind (fun s => s.db.directives.find "d") =
      some {exampleDirective with state := .succeeded, updatedAt := exampleTime 4001} := by decide
  have hafter : (lateReport.bind fun s =>
      ((sweepProtocol (asciiHost [] []) exampleSettings Unit).run s [.reap]).bind fun s' =>
        s'.db.directives.find "d").map (·.state) = some .abandoned := by decide
  rw [hs, Option.bind_some] at hbefore hafter
  obtain ⟨row', hrow', hstate⟩ := Option.map_eq_some_iff.mp hafter
  obtain ⟨s', hrun, hfind⟩ := Option.bind_eq_some_iff.mp hrow'
  exact (hsafe s hreachable).outcomes [.reap] s' hrun "d" _ row' hbefore (by decide) hfind hstate

end OpenTimeline.Directive
