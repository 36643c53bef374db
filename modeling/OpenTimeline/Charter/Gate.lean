import OpenTimeline.Charter.Store

/-! The gate of the charter.

A route that starts work resolves the caller's active charter and refuses a mutating action
where there is none. The gate is asked only where charters are enforced. A charter is resolved
under its row's id (`charterId_resolved`), so the one that a caller has is an active row of the
store (`active_of_loaded`). -/
namespace OpenTimeline.Charter
open Library

/-- The time as a `datetime`. -/
def datetimeOf (now : Utc) : Datetime := ⟨now.val.instant.toNat, true⟩

/-- What `require_charter_for_action` raises. -/
inductive GateError
  /-- `CharterRequired(action_kind, reason)` -/
  | required (actionKind reason : String)
  | raised (error : PyError)
deriving DecidableEq, Repr

def requireCharterForAction (host : Host) (charter : Option ResolvedCharter) (actionKind : String)
    (enforcementEnabled : Bool) (now : Datetime) : Except GateError Unit :=
  if !enforcementEnabled then .ok ()
  else if !isMutatingActionKind host actionKind then .ok ()
  else match charter with
    | none => .error (.required actionKind "no_active_charter")
    | some charter =>
      if charter.revokedAt.isSome then .error (.required actionKind "charter_revoked")
      else match charter.isActive now with
        | .error e => .error (.raised e)
        | .ok true => .ok ()
        | .ok false => match now.lt charter.expiresAt with
          | .error e => .error (.raised e)
          | .ok false => .error (.required actionKind "charter_expired")
          | .ok true => .error (.required actionKind "no_active_charter")

/-- `_charter_refusal` -/
def charterRefusal {α : Type} : Except GateError α → Except Failure α
  | .ok a => .ok a
  | .error (.required actionKind reason) => refuse 409 "no_active_charter"
    [("message", .str ("AUTONOMOUS MODE PAUSED: no active authority charter. A charter must be created and " ++
        "approved by the owner before mutating work may be claimed. Ask the owner to approve one, then retry.")),
      ("action_kind", .str actionKind), ("reason", .str reason)]
  | .error (.raised e) => .error (.raised e)

/-- `resolve_charter_or_refuse` -/
def CharterDatabase.resolveOrRefuse (host : StoreHost) (enforcementEnabled : Bool) (auth : AuthContext)
    (actionKind : String) (now : Utc) (db : CharterDatabase) : Except Failure (Option ResolvedCharter) := do
  let charter ← passing (db.loadActiveCharter host auth.workspaceId auth.userId now)
  charterRefusal (requireCharterForAction host.toHost charter actionKind enforcementEnabled (datetimeOf now))
  return charter

/-! ### The charter of a caller -/

variable {host : Host}

theorem charterId_applyNarrowing {charter narrowed : ResolvedCharter} {row : Payload}
    (h : applyNarrowing host charter row = .ok narrowed) : narrowed.charterId = charter.charterId := by
  have hkept : ∀ narrowing, narrowCharter host charter narrowing = .ok narrowed → narrowed.charterId = charter.charterId := by
    intro narrowing h
    obtain ⟨_, _, h⟩ := bind_ok h
    obtain ⟨_, _, h⟩ := bind_ok h
    obtain ⟨_, _, h⟩ := bind_ok h
    obtain ⟨_, _, h⟩ := bind_ok h
    obtain ⟨_, _, h⟩ := bind_ok h
    obtain ⟨_, _, h⟩ := bind_ok h
    obtain ⟨_, _, h⟩ := bind_ok h
    cases h
    rfl
  unfold applyNarrowing at h
  split at h
  · exact hkept _ h
  · exact hkept _ h
  · cases h

theorem charterId_foldlM {charter narrowed : ResolvedCharter} {narrowings : List Payload}
    (h : narrowings.foldlM (applyNarrowing host) charter = .ok narrowed) : narrowed.charterId = charter.charterId := by
  induction narrowings generalizing charter with
  | nil =>
    cases h
    rfl
  | cons row rest ih =>
    rw [List.foldlM_cons] at h
    obtain ⟨next, hstep, hrest⟩ := bind_ok h
    exact (ih hrest).trans (charterId_applyNarrowing hstep)

/-- A charter has the id of its row, whatever narrows it. -/
theorem charterId_resolved {row : CharterRow} {narrowings : List Payload} {charter : ResolvedCharter}
    (h : charterFromRow host row.columns narrowings = .ok charter) : charter.charterId = row.id := by
  obtain ⟨unnarrowed, hrow, h⟩ := bind_ok h
  obtain ⟨narrowed, hfold, h⟩ := bind_ok h
  have hid : unnarrowed.charterId = row.id := by
    obtain ⟨_, _, hrow⟩ := bind_ok hrow
    obtain ⟨_, _, hrow⟩ := bind_ok hrow
    obtain ⟨_, _, hrow⟩ := bind_ok hrow
    obtain ⟨_, _, hrow⟩ := bind_ok hrow
    obtain ⟨_, _, hrow⟩ := bind_ok hrow
    obtain ⟨_, _, hrow⟩ := bind_ok hrow
    obtain ⟨_, _, hrow⟩ := bind_ok hrow
    obtain ⟨_, _, hrow⟩ := bind_ok hrow
    cases hrow
    by_cases hempty : row.id = ""
    · simp [CharterRow.columns, Payload.get, Json.or, truthy, pyStr, hempty, List.lookup]
    · simp [CharterRow.columns, Payload.get, Json.or, truthy, pyStr, hempty]
  rw [← hid, ← charterId_foldlM hfold]
  split_ifs at h <;> cases h <;> rfl

/-- The charter that a caller has is an active row of the store. -/
theorem active_of_loaded {host : StoreHost} {db : CharterDatabase} {workspaceId ownerId : String} {now : Utc}
    {charter : ResolvedCharter} (h : db.loadActiveCharter host workspaceId ownerId now = .ok (some charter)) :
    ∃ row ∈ db.charters.rows, row.status = .active ∧ charter.charterId = row.id := by
  unfold CharterDatabase.loadActiveCharter at h
  cases hrow : db.activeRow workspaceId ownerId now with
  | none =>
    rw [hrow] at h
    cases h
  | some row =>
    rw [hrow] at h
    obtain ⟨resolved, hresolved, h⟩ := bind_ok h
    cases h
    obtain ⟨rest, hrest⟩ := List.head?_eq_some_iff.mp hrow
    have hmem := (congrArg (row ∈ ·) hrest).mpr List.mem_cons_self
    rw [List.mem_insertionSort, List.mem_filter] at hmem
    have hselected := hmem.2
    simp only [Bool.and_eq_true, decide_eq_true_eq] at hselected
    exact ⟨row, hmem.1, hselected.1.1.2, charterId_resolved hresolved⟩

theorem resolveOrRefuse_ok {host : StoreHost} {enforced : Bool} {auth : AuthContext} {actionKind : String} {now : Utc}
    {db : CharterDatabase} {charter : Option ResolvedCharter}
    (h : db.resolveOrRefuse host enforced auth actionKind now = .ok charter) :
    db.loadActiveCharter host auth.workspaceId auth.userId now = .ok charter ∧
      (enforced = true → isMutatingActionKind host.toHost actionKind = true → charter ≠ none) := by
  obtain ⟨loaded, hloaded, h⟩ := bind_ok h
  obtain ⟨_, hgate, h⟩ := bind_ok h
  cases h
  constructor
  · cases hload : db.loadActiveCharter host auth.workspaceId auth.userId now with
    | error e =>
      rw [hload] at hloaded
      cases hloaded
    | ok found =>
      rw [hload] at hloaded
      cases hloaded
      rfl
  · rintro henforced hmutating rfl
    rw [requireCharterForAction, henforced, hmutating] at hgate
    cases hgate

end OpenTimeline.Charter
