import OpenTimeline.Charter.Store

/-! The narrowings a charter is resolved with.

A narrowing expires at a time that its request names, under the offset of the request, and
is applied as long as the text of that time is after the text of now. The text begins with
the clock, so an expiry west of UTC is read as earlier than it is and one east of UTC as
later (`reads_instant_iff`): between the two instants the text is wrong, and nowhere else. -/
namespace OpenTimeline.Charter
open Library

variable {host : Host} {db : CharterDatabase} {charterId : String} {now : Utc}

/-- The narrowing has no expiry, or a later one than now. -/
def NarrowingRow.Unexpired (row : NarrowingRow) (now : Utc) : Prop :=
  ∀ expiry ∈ row.expiresAt, now.val.instant < expiry.instant

/-- Now is between the expiry and what its clock would be in UTC. -/
def Misread (expiry : Zoned) (now : Utc) : Prop :=
  0 < expiry.offset ∧ expiry.instant ≤ now.val.instant ∧ now.val.instant ≤ expiry.instant + expiry.offset ∨
    expiry.instant + expiry.offset < now.val.instant ∧ now.val.instant < expiry.instant

theorem reads_instant_iff {expiry : Zoned} :
    (now.val.isoformat < expiry.isoformat ↔ now.val.instant < expiry.instant) ↔ ¬ Misread expiry now := by
  have hutc := now.property
  rw [Zoned.isoformat_lt_iff hutc]
  unfold Misread Zoned.instant
  omega

theorem mem_loadNarrowings {row : NarrowingRow} :
    row ∈ db.loadNarrowings charterId now ↔
      row ∈ db.narrowings ∧ row.charterId = charterId ∧
        ∀ expiry ∈ row.expiresAt, now.val.isoformat < expiry.isoformat := by
  rw [CharterDatabase.loadNarrowings, List.mem_insertionSort, List.mem_filter, Bool.and_eq_true, decide_eq_true_eq]
  cases row.expiresAt <;> simp

/-- A narrowing of the charter is read as its instants say unless its expiry is misread. -/
theorem loads_unexpired_iff {row : NarrowingRow} (hrow : row ∈ db.narrowings) (hcharter : row.charterId = charterId) :
    (row ∈ db.loadNarrowings charterId now ↔ row.Unexpired now) ↔ ∀ expiry ∈ row.expiresAt, ¬ Misread expiry now := by
  rw [mem_loadNarrowings]
  unfold NarrowingRow.Unexpired
  cases row.expiresAt with
  | none => simp [hrow, hcharter]
  | some expiry =>
    have hreads := @reads_instant_iff now expiry
    simp only [hrow, hcharter, true_and, Option.mem_some_iff, forall_eq']
    exact hreads

theorem narrowingId_columns (row : NarrowingRow) : narrowingId host row.columns = row.id := by
  by_cases hid : row.id = ""
  · simp [narrowingId, NarrowingRow.columns, Payload.get, Json.or, truthy, pyStr, hid, List.lookup]
  · simp [narrowingId, NarrowingRow.columns, Payload.get, Json.or, truthy, pyStr, hid]

theorem narrowingIds_resolveRow {row : Payload} {charter : ResolvedCharter} (h : resolveRow host row = .ok charter) :
    charter.narrowingIds = [] := by
  obtain ⟨_, _, h⟩ := bind_ok h
  obtain ⟨_, _, h⟩ := bind_ok h
  obtain ⟨_, _, h⟩ := bind_ok h
  obtain ⟨_, _, h⟩ := bind_ok h
  obtain ⟨_, _, h⟩ := bind_ok h
  obtain ⟨_, _, h⟩ := bind_ok h
  obtain ⟨_, _, h⟩ := bind_ok h
  obtain ⟨_, _, h⟩ := bind_ok h
  cases h
  rfl

/-- A charter is resolved with the narrowings it names. -/
theorem narrowingIds_resolved {row : Payload} {narrowings : List NarrowingRow} {charter : ResolvedCharter}
    (h : charterFromRow host row (narrowings.map (·.columns)) = .ok charter) :
    charter.narrowingIds = narrowings.map (·.id) := by
  obtain ⟨unnarrowed, hrow, h⟩ := bind_ok h
  obtain ⟨narrowed, hfold, h⟩ := bind_ok h
  cases narrowings with
  | nil =>
    cases hfold
    cases h
    exact narrowingIds_resolveRow hrow
  | cons first rest =>
    cases h
    simp [narrowingId_columns]

variable (host db now)

/-- The narrowings a charter is resolved with are its unexpired ones where now misreads no
expiry of a narrowing of the charter, and else they are not. -/
theorem narrowings_applied_iff (row : CharterRow) :
    ((∀ narrowing ∈ db.narrowings, narrowing.charterId = row.id →
        (narrowing ∈ db.loadNarrowings row.id now ↔ narrowing.Unexpired now)) ↔
      ∀ narrowing ∈ db.narrowings, narrowing.charterId = row.id →
        ∀ expiry ∈ narrowing.expiresAt, ¬ Misread expiry now) ∧
    ∀ charter, charterFromRow host row.columns ((db.loadNarrowings row.id now).map (·.columns)) = .ok charter →
      charter.narrowingIds = (db.loadNarrowings row.id now).map (·.id) := by
  constructor
  · constructor
    · intro h narrowing hnarrowing hcharter
      exact (loads_unexpired_iff hnarrowing hcharter).mp (h narrowing hnarrowing hcharter)
    · intro h narrowing hnarrowing hcharter
      exact (loads_unexpired_iff hnarrowing hcharter).mpr (h narrowing hnarrowing hcharter)
  · intro charter hresolved
    exact narrowingIds_resolved hresolved

/-- Noon in UTC. -/
def noon : Utc := ⟨⟨⟨2024, 5, 1, 12, 0, 0, 0, by decide, by decide, by decide, by decide⟩, 0, by decide⟩, rfl⟩

/-- Half past eight, five hours west: half past one in UTC. -/
def morning : Zoned := ⟨⟨2024, 5, 1, 8, 30, 0, 0, by decide, by decide, by decide, by decide⟩, -18000000000, by decide⟩

def westernRow : CharterRow where
  id := "x"
  workspaceId := "w"
  ownerId := "o"
  status := .active
  scope := ⟨none, "v1", "p", "advisory", "deny_all", false, ["a", "b"], ["c"], [], [], [], [], [],
    ⟨1, 1, 1, 0, "USD", .unsupported⟩⟩
  charterDigest := ""
  sourceReceiptId := "r"
  createdAt := noon
  expiresAt := noon

/-- The owner takes a root away until the morning is over. -/
def westernNarrowing : NarrowingRow where
  id := "n"
  charterId := "x"
  workspaceId := "w"
  ownerId := "o"
  sessionId := "default"
  sourceReceiptId := "r"
  narrowing := [("remove_roots", .arr [.str "a"])]
  createdAt := noon
  expiresAt := some morning

/-- The root is permitted again while the narrowing has not expired. -/
theorem narrowing_dropped_early : ¬ ∀ (host : Host) (db : CharterDatabase) (row : CharterRow) (now : Utc)
    (charter : ResolvedCharter),
      charterFromRow host row.columns ((db.loadNarrowings row.id now).map (·.columns)) = .ok charter →
        ∀ narrowing ∈ db.narrowings, narrowing.charterId = row.id →
          (narrowing.id ∈ charter.narrowingIds ↔ narrowing.Unexpired now) := by
  intro h
  let db : CharterDatabase := ⟨⟨[westernRow], List.nodup_singleton _⟩, [westernNarrowing], [], []⟩
  have hloaded : (db.loadNarrowings "x" noon).map (·.columns) = [] := by decide +kernel
  have hids : (charterFromRow epochHost westernRow.columns []).map (·.narrowingIds) = .ok [] := by decide +kernel
  cases hresolved : charterFromRow epochHost westernRow.columns [] with
  | error e =>
    rw [hresolved] at hids
    cases hids
  | ok charter =>
    rw [hresolved] at hids
    have hunexpired : westernNarrowing.Unexpired noon := by
      intro expiry hexpiry
      cases hexpiry
      decide
    have happlied := h epochHost db westernRow noon charter (by rw [← hresolved, ← hloaded]; rfl) westernNarrowing
      (List.mem_singleton_self _) rfl
    rw [show charter.narrowingIds = [] from Except.ok.inj hids] at happlied
    exact absurd (happlied.mpr hunexpired) List.not_mem_nil

end OpenTimeline.Charter
