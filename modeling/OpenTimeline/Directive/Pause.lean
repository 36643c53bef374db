import OpenTimeline.Directive.Sweep

/-! The pause over unknown effects.

A session is paused while one of its effects is unknown and may be irreversible. Lite
reads all open effects of the session; Full reads two hundred, the unknown ones first,
among which those that pause stand where they were opened. So Lite's guard depends on
the whole journal (`pauseGuardForSession_iff`), and Full's does exactly as long as fewer
than two hundred unknown effects were opened before one that pauses
(`fullPauseGuardForSession_iff`). -/
namespace OpenTimeline.Directive
open Library

/-! ### The code -/

/-- The session a request names. -/
structure SessionKey where
  workspaceId : String
  ownerId : String
  sessionId : String
deriving DecidableEq, Repr

def EffectRow.isOf (effect : EffectRow) (session : SessionKey) : Bool :=
  effect.workspaceId = session.workspaceId && effect.ownerId = session.ownerId &&
    effect.sessionId = session.sessionId

/-- The open effects of a session, as the WHERE clause of both backends has them. -/
def Database.openEffects (db : Database) (session : SessionKey) : List EffectRow :=
  db.effects.rows.filter fun effect => effect.isOf session && effect.state.isOpen

/-- `list_open_effects` of Lite: `ORDER BY opened_at ASC, seq ASC` -/
def listOpenEffects (db : Database) (session : SessionKey) : List EffectRow :=
  (db.openEffects session).insertionSort fun a b =>
    a.openedAt.instant < b.openedAt.instant ∨ a.openedAt.instant = b.openedAt.instant ∧ a.seq ≤ b.seq

/-- `ORDER BY (state = 'unknown') DESC, opened_at ASC` -/
def unknownFirst (a b : EffectRow) : Prop :=
  a.state = .unknown ∧ b.state ≠ .unknown ∨
    (a.state = .unknown ↔ b.state = .unknown) ∧ a.openedAt.instant ≤ b.openedAt.instant

instance : DecidableRel unknownFirst := fun _ _ => inferInstanceAs (Decidable (_ ∨ _))

/-- The open effects of a session in Full's order. -/
def openQueue (db : Database) (session : SessionKey) : List EffectRow :=
  (db.openEffects session).insertionSort unknownFirst

/-- `list_open_effects` of Full. -/
def fullListOpenEffects (db : Database) (session : SessionKey) : List EffectRow :=
  (openQueue db session).take 200

/-- `record.state == "unknown" and record.intent.reversibility in ("irreversible", "unknown")` -/
def EffectRow.pauses (effect : EffectRow) : Bool :=
  effect.state = .unknown &&
    (effect.intent.reversibility = .irreversible || effect.intent.reversibility = .unknown)

/-- `pause_required` -/
def pauseRequired (records : List EffectRow) : Bool × String :=
  if records.any (·.pauses) then (true, "unresolved_irreversible_effect")
  else if records.any (·.state.isUnresolved) then (true, "effect_still_open")
  else (false, "")

/-- `pause_guard_for_session` of Lite: whether the session is paused, why, and on which
effect. -/
def pauseGuardForSession (effectUnknownPauseEnabled : Bool) (db : Database) (session : SessionKey) :
    Bool × String × String :=
  if !effectUnknownPauseEnabled then (false, "", "")
  else
    let records := listOpenEffects db session
    let (paused, reason) := pauseRequired records
    if !paused then (false, "", "")
    else if reason = "unresolved_irreversible_effect" then
      match records.find? (·.pauses) with
      | some record => (true, reason, record.effectId)
      | none => (false, "", "")
    else (false, "", "")

/-- `pause_guard_for_session` of Full. -/
def fullPauseGuardForSession (effectUnknownPauseEnabled : Bool) (db : Database) (session : SessionKey) :
    Bool × String × String :=
  if !effectUnknownPauseEnabled then (false, "", "")
  else
    let records := fullListOpenEffects db session
    let (paused, reason) := pauseRequired records
    if !paused || reason ≠ "unresolved_irreversible_effect" then (false, "", "")
    else match records.find? (·.pauses) with
      | some record => (true, reason, record.effectId)
      | none => (true, reason, "")

/-! ### What the guards decide -/

/-- The session has an effect that nobody knows the outcome of and that may be
irreversible. -/
def Database.Unsettled (db : Database) (session : SessionKey) : Prop :=
  ∃ effect ∈ db.effects.rows, effect.isOf session ∧ effect.pauses

/-- What a guard answers on the records it has read. -/
def guardReply (records : List EffectRow) : Bool × String × String :=
  match records.find? (·.pauses) with
  | some record => (true, "unresolved_irreversible_effect", record.effectId)
  | none => (false, "", "")

theorem guardReply_iff {records : List EffectRow} :
    (guardReply records).1 ↔ ∃ record ∈ records, record.pauses := by
  unfold guardReply
  cases hfound : records.find? (·.pauses) with
  | none => simpa using List.find?_eq_none.mp hfound
  | some record =>
    exact ⟨fun _ => ⟨record, List.mem_of_find?_eq_some hfound, List.find?_some hfound⟩, fun _ => rfl⟩

/-- Without a record that pauses, the reason is another or there is none. -/
theorem pauseRequired_of_none {records : List EffectRow} (h : records.find? (·.pauses) = none) :
    (pauseRequired records).2 ≠ "unresolved_irreversible_effect" := by
  have hnone : ¬ records.any (·.pauses) := by simpa using List.find?_eq_none.mp h
  unfold pauseRequired
  rw [if_neg hnone]
  split_ifs <;> decide

theorem pauseRequired_of_some {records : List EffectRow} {record : EffectRow}
    (h : records.find? (·.pauses) = some record) :
    pauseRequired records = (true, "unresolved_irreversible_effect") :=
  if_pos (List.any_eq_true.mpr ⟨record, List.mem_of_find?_eq_some h, List.find?_some h⟩)

theorem pauseGuardForSession_eq (enabled : Bool) (db : Database) (session : SessionKey) :
    pauseGuardForSession enabled db session =
      if enabled then guardReply (listOpenEffects db session) else (false, "", "") := by
  unfold pauseGuardForSession guardReply
  cases enabled with
  | false => rfl
  | true =>
    cases hfound : (listOpenEffects db session).find? (·.pauses) with
    | none => simp [pauseRequired_of_none hfound]
    | some record => simp [pauseRequired_of_some hfound, hfound]

theorem fullPauseGuardForSession_eq (enabled : Bool) (db : Database) (session : SessionKey) :
    fullPauseGuardForSession enabled db session =
      if enabled then guardReply (fullListOpenEffects db session) else (false, "", "") := by
  unfold fullPauseGuardForSession guardReply
  cases enabled with
  | false => rfl
  | true =>
    cases hfound : (fullListOpenEffects db session).find? (·.pauses) with
    | none => simp [pauseRequired_of_none hfound]
    | some record => simp [pauseRequired_of_some hfound, hfound]

theorem mem_openEffects {db : Database} {session : SessionKey} {effect : EffectRow} :
    effect ∈ db.openEffects session ↔ effect ∈ db.effects.rows ∧ effect.isOf session ∧ effect.state.isOpen := by
  rw [Database.openEffects, List.mem_filter, Bool.and_eq_true]

theorem mem_openQueue {db : Database} {session : SessionKey} {effect : EffectRow} :
    effect ∈ openQueue db session ↔ effect ∈ db.effects.rows ∧ effect.isOf session ∧ effect.state.isOpen :=
  (List.mem_insertionSort _).trans mem_openEffects

/-- An effect that pauses is open. -/
theorem EffectRow.isOpen_of_pauses {effect : EffectRow} (h : effect.pauses) : effect.state.isOpen := by
  have hstate : effect.state = .unknown := by
    simp only [pauses, Bool.and_eq_true, decide_eq_true_eq] at h
    exact h.1
  rw [hstate]
  rfl

/-- Lite's guard depends on the whole journal. -/
theorem pauseGuardForSession_iff (enabled : Bool) (db : Database) (session : SessionKey) :
    (pauseGuardForSession enabled db session).1 ↔ enabled ∧ db.Unsettled session := by
  rw [pauseGuardForSession_eq]
  cases enabled with
  | false => simp
  | true =>
    rw [if_pos rfl, guardReply_iff, and_iff_right rfl]
    constructor
    · rintro ⟨effect, hlisted, hpauses⟩
      obtain ⟨heffect, hsession, _⟩ := mem_openEffects.mp ((List.mem_insertionSort _).mp hlisted)
      exact ⟨effect, heffect, hsession, hpauses⟩
    · rintro ⟨effect, heffect, hsession, hpauses⟩
      refine ⟨effect, (List.mem_insertionSort _).mpr (mem_openEffects.mpr ?_), hpauses⟩
      exact ⟨heffect, hsession, EffectRow.isOpen_of_pauses hpauses⟩

/-- Full's guard pauses on what it reads. -/
theorem fullPauseGuardForSession_window (enabled : Bool) (db : Database) (session : SessionKey) :
    (fullPauseGuardForSession enabled db session).1 ↔
      enabled ∧ ∃ effect ∈ db.effects.rows, effect.isOf session ∧ effect.pauses ∧
        (openQueue db session).idxOf effect < 200 := by
  rw [fullPauseGuardForSession_eq]
  cases enabled with
  | false => simp
  | true =>
    rw [if_pos rfl, guardReply_iff, and_iff_right rfl]
    constructor
    · rintro ⟨effect, hlisted, hpauses⟩
      have hqueue : effect ∈ openQueue db session := List.mem_of_mem_take hlisted
      obtain ⟨heffect, hsession, _⟩ := mem_openQueue.mp hqueue
      exact ⟨effect, heffect, hsession, hpauses, (List.mem_take_iff_idxOf_lt hqueue).mp hlisted⟩
    · rintro ⟨effect, heffect, hsession, hpauses, hwindow⟩
      have hqueue : effect ∈ openQueue db session :=
        mem_openQueue.mpr ⟨heffect, hsession, EffectRow.isOpen_of_pauses hpauses⟩
      exact ⟨effect, (List.mem_take_iff_idxOf_lt hqueue).mpr hwindow, hpauses⟩

/-- Full's guard depends on the whole journal exactly while some effect that pauses has
fewer than two hundred rows before it. -/
theorem fullPauseGuardForSession_iff (enabled : Bool) (db : Database) (session : SessionKey) :
    ((fullPauseGuardForSession enabled db session).1 ↔ enabled ∧ db.Unsettled session) ↔
      (enabled → db.Unsettled session → ∃ effect ∈ db.effects.rows, effect.isOf session ∧ effect.pauses ∧
        (openQueue db session).idxOf effect < 200) := by
  rw [fullPauseGuardForSession_window]
  constructor
  · intro h henabled hunsettled
    exact (h.mpr ⟨henabled, hunsettled⟩).2
  · intro h
    constructor
    · rintro ⟨henabled, effect, heffect, hsession, hpauses, _⟩
      exact ⟨henabled, effect, heffect, hsession, hpauses⟩
    · rintro ⟨henabled, hunsettled⟩
      exact ⟨henabled, h henabled hunsettled⟩

/-! ### Two hundred rows that may be retried -/

/-- A reversible effect that its worker gave up as unknown. -/
def givenUp (n : Nat) : EffectRow := {exampleEffect with
  effectId := String.ofList (List.replicate (n + 2) 'e')
  seq := n
  state := .unknown
  intent := ⟨"command", "process.execute", "", [String.ofList (List.replicate (n + 2) 'e')], .reversible, ""⟩
  intentDigest := String.ofList (List.replicate (n + 2) 'e')
  openedAt := exampleTime n }

/-- A push of unknown outcome, opened after them. -/
def lostPush : EffectRow := {exampleEffect with
  seq := 200
  state := .unknown
  openedAt := exampleTime 200 }

def floodedRows : List EffectRow := (List.range 200).map givenUp ++ [lostPush]

theorem givenUp_effectId_injective {m n : Nat} (h : (givenUp m).effectId = (givenUp n).effectId) : m = n := by
  have hlength := congrArg List.length (String.ofList_injective h)
  simpa using hlength

theorem nodup_floodedRows : (floodedRows.map (·.effectId)).Nodup := by
  rw [floodedRows, List.map_append, List.map_map, List.nodup_append]
  refine ⟨List.nodup_range.map fun m n h => givenUp_effectId_injective h, List.nodup_singleton _, ?_⟩
  rintro id hid _ hpush rfl
  obtain ⟨n, _, hn⟩ := List.mem_map.mp hid
  have hlength := congrArg (·.toList.length) (hn.trans (List.mem_singleton.mp hpush))
  simp [givenUp, lostPush, exampleEffect] at hlength

def floodedDatabase : Database := ⟨exampleDatabase.directives, ⟨floodedRows, nodup_floodedRows⟩⟩

def exampleSession : SessionKey := ⟨"w", "owner", "s"⟩

theorem openQueue_flooded : openQueue floodedDatabase exampleSession = floodedRows := by
  have hopen : floodedDatabase.openEffects exampleSession = floodedRows := by
    refine List.filter_eq_self.mpr fun effect heffect => ?_
    rcases List.mem_append.mp heffect with hgiven | hpush
    · obtain ⟨n, _, rfl⟩ := List.mem_map.mp hgiven
      rfl
    · rw [List.mem_singleton.mp hpush]
      rfl
  have hinstant : ∀ m n, m ≤ n → (exampleTime m).instant ≤ (exampleTime n).instant :=
    fun m n hle => Nat.add_le_add_left (Nat.mul_le_mul_right 1000000 hle) epoch
  rw [openQueue, hopen]
  refine List.Pairwise.insertionSort_eq ?_
  rw [floodedRows, List.pairwise_append, List.pairwise_map]
  refine ⟨List.pairwise_lt_range.imp fun hlt => ?_, List.pairwise_singleton _ _, ?_⟩
  · exact Or.inr ⟨Iff.rfl, hinstant _ _ hlt.le⟩
  · rintro _ hgiven _ hpush
    obtain ⟨n, hn, rfl⟩ := List.mem_map.mp hgiven
    rw [List.mem_singleton.mp hpush]
    exact Or.inr ⟨Iff.rfl, hinstant _ _ (List.mem_range.mp hn).le⟩

/-- The push pauses the session, and Full does not see it. -/
theorem pause_hidden : ¬ ∀ enabled db session,
    (fullPauseGuardForSession enabled db session).1 ↔ enabled ∧ db.Unsettled session := by
  intro h
  have hunsettled : floodedDatabase.Unsettled exampleSession :=
    ⟨lostPush, List.mem_append_right _ (List.mem_singleton_self _), by decide, by decide⟩
  have hpaused := (h true floodedDatabase exampleSession).mpr ⟨rfl, hunsettled⟩
  rw [fullPauseGuardForSession_eq, if_pos rfl, guardReply_iff, fullListOpenEffects, openQueue_flooded,
    floodedRows, List.take_left' (by simp)] at hpaused
  obtain ⟨effect, hlisted, hpauses⟩ := hpaused
  obtain ⟨n, _, rfl⟩ := List.mem_map.mp hlisted
  exact absurd hpauses (show ¬ (givenUp n).pauses by simp [givenUp, EffectRow.pauses])

end OpenTimeline.Directive
