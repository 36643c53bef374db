import OpenTimeline.Library.Transition
import OpenTimeline.Charter.Expiry

/-! The charters of an owner, in any interleaving.

Each call is one serialised section. An approval supersedes the owner's active charter
before its own becomes active, and takes a draft only, so an owner has at most one active
charter (`charterInv_step`), and one that has been superseded or revoked stays so. -/
namespace OpenTimeline.Charter
open Library

variable (host : StoreHost)

inductive CharterAction
  | create (settings : CharterSettings) (auth : AuthContext) (body : CharterCreateRequest) (now : Utc)
    (newId : String)
  | approve (auth : AuthContext) (charterId : String) (now : Utc)
  | revoke (auth : AuthContext) (charterId reason : String) (now : Utc)
  | narrow (auth : AuthContext) (body : CharterNarrowingRequest) (now : Utc) (newId : String)

/-- Calls of any owners, from an empty table of charters. -/
def charterSystem : System CharterDatabase CharterAction where
  init db := db.charters.rows = []
  next db
    | .create settings auth body now newId => some (createCharter host settings auth body now newId db).1
    | .approve auth charterId now => some (runCasSection (approveSection host auth charterId now) db).1
    | .revoke auth charterId reason now => some (runCasSection (revokeSection host auth charterId reason now) db).1
    | .narrow auth body now newId => some (runCasSection (narrowSection host auth body now newId) db).1

/-! ### Steps -/

/-- What a call does to the charters: nothing, or one of three changes. -/
inductive ChartersStep (charters : Table CharterRow.id) : Table CharterRow.id → Prop
  | same : ChartersStep charters charters
  | created {charters' : Table CharterRow.id} {row : CharterRow} (hdraft : row.status = .draft)
    (hinsert : charters.insert row = some charters') : ChartersStep charters charters'
  | approved {row : CharterRow} (workspaceId approvedBy : String) (now : Utc) (hrow : row ∈ charters.rows)
    (hworkspace : row.workspaceId = workspaceId) (hdraft : row.status = .draft) :
    ChartersStep charters
      (activate (supersede charters workspaceId row.ownerId row.id) workspaceId row.id approvedBy now)
  | revoked (workspaceId charterId reason : String) (now : Utc) :
    ChartersStep charters (Charter.revoke charters workspaceId charterId reason now)

variable {host} {db db' : CharterDatabase}

theorem mem_of_loadRow {workspaceId charterId : String} {row : CharterRow}
    (h : db.loadRow workspaceId charterId = some row) :
    row ∈ db.charters.rows ∧ row.id = charterId ∧ row.workspaceId = workspaceId := by
  obtain ⟨hfind, hworkspace⟩ := Option.filter_eq_some_iff.mp h
  obtain ⟨hrow, hid⟩ := Table.find_eq_some_iff.mp hfind
  exact ⟨hrow, hid, by simpa using hworkspace⟩

theorem reread_ok {workspaceId charterId : String} {now : Utc} {charter : ResolvedCharter}
    (h : reread host db workspaceId charterId now = .ok (db', charter)) : db' = db := by
  unfold reread at h
  split at h
  · cases h
  · obtain ⟨_, _, h⟩ := bind_ok h
    cases h
    rfl

theorem createSection_ok {auth : AuthContext} {body : CharterCreateRequest} {scope : NormalizedCharter} {ttl : Int}
    {now : Utc} {newId : String} {charter : ResolvedCharter}
    (h : createSection host auth body scope ttl now newId db = .ok (db', charter)) :
    ChartersStep db.charters db'.charters := by
  obtain ⟨_, _, h⟩ := bind_ok h
  split at h
  · cases h
  · rename_i charters hinsert
    obtain ⟨_, _, h⟩ := bind_ok h
    cases h
    exact .created rfl hinsert

theorem approveSection_ok {auth : AuthContext} {charterId : String} {now : Utc} {charter : ResolvedCharter}
    (h : approveSection host auth charterId now db = .ok (db', charter)) :
    ChartersStep db.charters db'.charters := by
  unfold approveSection at h
  split at h
  · cases h
  rename_i row hload
  obtain ⟨hrow, rfl, hworkspace⟩ := mem_of_loadRow hload
  split at h
  · obtain ⟨_, _, h⟩ := bind_ok h
    cases h
    exact .same
  · rename_i hdraft
    rw [reread_ok h]
    exact .approved auth.workspaceId auth.userId now hrow hworkspace hdraft
  · cases h

theorem revokeSection_ok {auth : AuthContext} {charterId reason : String} {now : Utc} {charter : ResolvedCharter}
    (h : revokeSection host auth charterId reason now db = .ok (db', charter)) :
    ChartersStep db.charters db'.charters := by
  unfold revokeSection at h
  split at h
  · cases h
  · rw [reread_ok h]
    exact .revoked auth.workspaceId charterId reason now

theorem narrowSection_ok {auth : AuthContext} {body : CharterNarrowingRequest} {now : Utc} {newId : String}
    {charter : ResolvedCharter} (h : narrowSection host auth body now newId db = .ok (db', charter)) :
    ChartersStep db.charters db'.charters := by
  unfold narrowSection at h
  split at h
  · cases h
  · obtain ⟨_, _, h⟩ := bind_ok h
    split_ifs at h
    rw [reread_ok h]
    exact .same

theorem chartersStep_section {body : CharterDatabase → Except Failure (CharterDatabase × ResolvedCharter)}
    (h : ∀ db' charter, body db = .ok (db', charter) → ChartersStep db.charters db'.charters) :
    ChartersStep db.charters (runCasSection body db).1.charters := by
  unfold runCasSection
  split
  · rename_i hbody
    exact h _ _ hbody
  · exact .same

theorem chartersStep_next {a : CharterAction} (h : (charterSystem host).next db a = some db') :
    ChartersStep db.charters db'.charters := by
  cases a with
  | create settings auth body now newId =>
    obtain rfl := Option.some.inj h
    unfold createCharter
    split
    · exact .same
    · exact chartersStep_section fun _ _ => createSection_ok
  | approve auth charterId now =>
    obtain rfl := Option.some.inj h
    exact chartersStep_section fun _ _ => approveSection_ok
  | revoke auth charterId reason now =>
    obtain rfl := Option.some.inj h
    exact chartersStep_section fun _ _ => revokeSection_ok
  | narrow auth body now newId =>
    obtain rfl := Option.some.inj h
    exact chartersStep_section fun _ _ => narrowSection_ok

/-! ### One active charter -/

/-- No two active charters are of one owner. -/
def OneActive (rows : List CharterRow) : Prop :=
  ∀ row ∈ rows, ∀ row' ∈ rows, row.status = .active → row'.status = .active → row.workspaceId = row'.workspaceId →
    row.ownerId = row'.ownerId → row.id = row'.id

/-- Two rows of one charter. -/
def CharterRow.SameCharter (row row' : CharterRow) : Prop :=
  row.id = row'.id ∧ row.workspaceId = row'.workspaceId ∧ row.ownerId = row'.ownerId

theorem mem_supersede {charters : Table CharterRow.id} {workspaceId ownerId charterId : String} {after : CharterRow}
    (h : after ∈ (supersede charters workspaceId ownerId charterId).rows) :
    ∃ before ∈ charters.rows, before.SameCharter after ∧ (after.status = .active →
      before = after ∧ (after.workspaceId = workspaceId → after.ownerId = ownerId → after.id = charterId)) := by
  obtain ⟨before, hbefore, rfl⟩ := List.mem_map.mp h
  refine ⟨before, hbefore, ?_⟩
  split_ifs with hother
  · exact ⟨⟨rfl, rfl, rfl⟩, fun hactive => by cases hactive⟩
  · refine ⟨⟨rfl, rfl, rfl⟩, fun hactive => ⟨rfl, fun hworkspace howner => ?_⟩⟩
    by_contra hid
    exact hother (by simp [hworkspace, howner, hactive, hid])

theorem mem_activate {charters : Table CharterRow.id} {workspaceId charterId approvedBy : String} {now : Utc}
    {after : CharterRow} (h : after ∈ (activate charters workspaceId charterId approvedBy now).rows) :
    ∃ before ∈ charters.rows, before.SameCharter after ∧ (before = after ∨ after.id = charterId) := by
  obtain ⟨before, hbefore, rfl⟩ := List.mem_map.mp h
  refine ⟨before, hbefore, ?_⟩
  split_ifs with happroved
  · simp only [Bool.and_eq_true, decide_eq_true_eq] at happroved
    exact ⟨⟨rfl, rfl, rfl⟩, Or.inr happroved.1.1⟩
  · exact ⟨⟨rfl, rfl, rfl⟩, Or.inl rfl⟩

/-- A row is active after an approval where it is the one approved, or was active and of
another owner. -/
theorem active_of_approved {charters : Table CharterRow.id} {row after : CharterRow} {workspaceId approvedBy : String}
    {now : Utc} (hafter : after ∈
      (activate (supersede charters workspaceId row.ownerId row.id) workspaceId row.id approvedBy now).rows)
    (hactive : after.status = .active) :
    ∃ before ∈ charters.rows, before.SameCharter after ∧ (after.id = row.id ∨
      before.status = .active ∧ ¬ (after.workspaceId = workspaceId ∧ after.ownerId = row.ownerId)) := by
  obtain ⟨middle, hmiddle, ⟨hid, hw, ho⟩, happroved⟩ := mem_activate hafter
  obtain ⟨before, hbefore, ⟨hid', hw', ho'⟩, hkept⟩ := mem_supersede hmiddle
  refine ⟨before, hbefore, ⟨hid'.trans hid, hw'.trans hw, ho'.trans ho⟩, ?_⟩
  by_cases hsame : after.id = row.id
  · exact Or.inl hsame
  obtain rfl := happroved.resolve_right hsame
  obtain ⟨rfl, hown⟩ := hkept hactive
  exact Or.inr ⟨hactive, fun h => hsame (hown h.1 h.2)⟩

theorem oneActive_step {charters charters' : Table CharterRow.id} (h : OneActive charters.rows)
    (hstep : ChartersStep charters charters') : OneActive charters'.rows := by
  cases hstep with
  | same => exact h
  | created hdraft hinsert =>
    rename_i fresh
    rw [Table.insert_eq_some hinsert]
    have hold : ∀ row ∈ charters.rows ++ [fresh], row.status = .active → row ∈ charters.rows := by
      intro row hrow hactive
      rcases List.mem_append.mp hrow with hrow | hrow
      · exact hrow
      · rw [List.mem_singleton.mp hrow, hdraft] at hactive
        cases hactive
    intro row hrow row' hrow' hactive hactive'
    exact h row (hold row hrow hactive) row' (hold row' hrow' hactive') hactive hactive'
  | approved workspaceId approvedBy now hrow hworkspace hdraft =>
    rename_i approved
    intro after hafter after' hafter' hactive hactive' hsameWorkspace hsameOwner
    obtain ⟨before, hbefore, hsame, hcase⟩ := active_of_approved hafter hactive
    obtain ⟨before', hbefore', hsame', hcase'⟩ := active_of_approved hafter' hactive'
    -- the approved charter is of the owner whose others are superseded
    have hown : ∀ {before after : CharterRow}, before ∈ charters.rows → before.SameCharter after →
        after.id = approved.id → after.workspaceId = workspaceId ∧ after.ownerId = approved.ownerId := by
      intro before after hbefore ⟨hid, hw, ho⟩ happroved
      obtain rfl := List.inj_on_of_nodup_map charters.nodup hbefore hrow (hid.trans happroved)
      exact ⟨hw.symm.trans hworkspace, ho.symm⟩
    rcases hcase with happroved | ⟨hbactive, hother⟩
    · rcases hcase' with happroved' | ⟨_, hother'⟩
      · exact happroved.trans happroved'.symm
      · obtain ⟨hw, ho⟩ := hown hbefore hsame happroved
        exact absurd ⟨hsameWorkspace.symm.trans hw, hsameOwner.symm.trans ho⟩ hother'
    · rcases hcase' with happroved' | ⟨hbactive', _⟩
      · obtain ⟨hw, ho⟩ := hown hbefore' hsame' happroved'
        exact absurd ⟨hsameWorkspace.trans hw, hsameOwner.trans ho⟩ hother
      · obtain ⟨hid, hw, ho⟩ := hsame
        obtain ⟨hid', hw', ho'⟩ := hsame'
        rw [← hid, ← hid']
        exact h before hbefore before' hbefore' hbactive hbactive' (hw.trans (hsameWorkspace.trans hw'.symm))
          (ho.trans (hsameOwner.trans ho'.symm))
  | revoked workspaceId charterId reason now =>
    have hold : ∀ after ∈ (Charter.revoke charters workspaceId charterId reason now).rows, after.status = .active →
        after ∈ charters.rows := by
      intro after hafter
      obtain ⟨before, hbefore, rfl⟩ := List.mem_map.mp hafter
      split_ifs
      · exact fun hactive => by cases hactive
      · exact fun _ => hbefore
    intro row hrow row' hrow' hactive hactive'
    exact h row (hold row hrow hactive) row' (hold row' hrow' hactive') hactive hactive'

/-! ### No revival -/

/-- Superseded or revoked. -/
def CharterRow.Retired (row : CharterRow) : Prop := row.status = .superseded ∨ row.status = .revoked

/-- A retired row stays retired. -/
theorem retired_step {charters charters' : Table CharterRow.id} (hstep : ChartersStep charters charters')
    {row : CharterRow} (hrow : row ∈ charters.rows) (hretired : row.Retired) :
    ∃ row' ∈ charters'.rows, row'.id = row.id ∧ row'.Retired := by
  cases hstep with
  | same => exact ⟨row, hrow, rfl, hretired⟩
  | created hdraft hinsert =>
    rw [Table.insert_eq_some hinsert]
    exact ⟨row, List.mem_append_left _ hrow, rfl, hretired⟩
  | approved workspaceId approvedBy now _ _ _ =>
    refine ⟨_, List.mem_map_of_mem (List.mem_map_of_mem hrow), ?_⟩
    have hnotActive : ¬ row.status = .active := by rcases hretired with h | h <;> simp [h]
    have hnotDraft : ¬ row.status = .draft := by rcases hretired with h | h <;> simp [h]
    simp [hnotActive, hnotDraft, hretired]
  | revoked workspaceId charterId reason now =>
    refine ⟨_, List.mem_map_of_mem hrow, ?_⟩
    simp only
    split_ifs
    · exact ⟨rfl, Or.inr rfl⟩
    · exact ⟨rfl, hretired⟩

theorem retired_run {actions : List CharterAction} (h : (charterSystem host).run db actions = some db')
    {row : CharterRow} (hrow : row ∈ db.charters.rows) (hretired : row.Retired) :
    ∃ row' ∈ db'.charters.rows, row'.id = row.id ∧ row'.Retired := by
  refine System.run_keeps (I := fun t => ∃ row' ∈ t.charters.rows, row'.id = row.id ∧ row'.Retired)
    (fun t a t' hkept hnext => ?_) h ⟨row, hrow, rfl, hretired⟩
  obtain ⟨row', hrow', hid, hretired'⟩ := hkept
  obtain ⟨row'', hrow'', hid', hretired''⟩ := retired_step (chartersStep_next hnext) hrow' hretired'
  exact ⟨row'', hrow'', hid'.trans hid, hretired''⟩

variable (host)

/-- In any interleaving of creations, approvals, revocations and narrowings: two active
charters of one owner are the same one, and a charter that has been superseded or revoked is
not active in any later state. -/
theorem one_active_charter (h : (charterSystem host).Reachable db) :
    (∀ row ∈ db.charters.rows, ∀ row' ∈ db.charters.rows, row.status = .active → row'.status = .active →
      row.workspaceId = row'.workspaceId → row.ownerId = row'.ownerId → row = row') ∧
    ∀ row ∈ db.charters.rows, row.status = .superseded ∨ row.status = .revoked →
      ∀ actions db', (charterSystem host).run db actions = some db' →
        ∀ row' ∈ db'.charters.rows, row'.id = row.id → row'.status ≠ .active := by
  constructor
  · have hone : OneActive db.charters.rows := by
      refine System.Reachable.invariant (I := fun db => OneActive db.charters.rows) (fun db hinit => ?_)
        (fun db a db' _ hone hnext => oneActive_step hone (chartersStep_next hnext)) h
      rw [show db.charters.rows = [] from hinit]
      exact fun row hrow => absurd hrow List.not_mem_nil
    intro row hrow row' hrow' hactive hactive' hworkspace howner
    exact List.inj_on_of_nodup_map db.charters.nodup hrow hrow'
      (hone row hrow row' hrow' hactive hactive' hworkspace howner)
  · intro row hrow hretired actions db' hrun row' hrow' hid hactive
    obtain ⟨found, hfound, hsame, hstill⟩ := retired_run hrun hrow hretired
    obtain rfl := List.inj_on_of_nodup_map db'.charters.nodup hrow' hfound (hid.trans hsame.symm)
    rcases hstill with hstill | hstill <;> exact absurd (hstill.symm.trans hactive) (by decide)

/-- A minute of the hour after `noon`. -/
def exampleTime (minute : Fin 60) : Utc :=
  ⟨{noon.val with clock := {noon.val.clock with
    minute
    time_bounds := ⟨noon.val.clock.time_bounds.1, minute.isLt, noon.val.clock.time_bounds.2.2⟩ }}, rfl⟩

/-- The same for a number of minutes. -/
def exampleMinute (minutes : Nat) : Utc := exampleTime (Fin.ofNat 60 minutes)

/-- A host that reads every time as the epoch and lets a charter last to its creation. -/
def exampleStoreHost : StoreHost := {epochHost with addSeconds := fun now _ => now}

def exampleStoreAuth : AuthContext := ⟨"w", "o", "o", "supervisor"⟩

def exampleCreation (newId : String) : CharterAction :=
  .create ⟨60, 0, 60⟩ exampleStoreAuth
    ⟨[("enforcement_tier", .str "advisory"), ("permitted_roots", .arr [.str "a"]),
      ("protected_write_prefixes", .arr [.str "b"])], none, "r"⟩ (exampleTime 0) newId

/-- Two drafts of one owner are approved. -/
def exampleApprovals : Option CharterDatabase :=
  (charterSystem exampleStoreHost).run ⟨⟨[], List.nodup_nil⟩, [], [⟨"r", "w", "o", "o"⟩], []⟩
    [exampleCreation "x", exampleCreation "y", .approve exampleStoreAuth "x" (exampleTime 1),
      .approve exampleStoreAuth "y" (exampleTime 2)]

theorem one_active_charter_approvals : ∃ db, exampleApprovals = some db ∧
    db.charters.rows.map (fun row => (row.id, row.status)) = [("x", .superseded), ("y", .active)] ∧
    (∀ row ∈ db.charters.rows, ∀ row' ∈ db.charters.rows, row.status = .active → row'.status = .active →
      row.workspaceId = row'.workspaceId → row.ownerId = row'.ownerId → row = row') ∧
    ∀ row ∈ db.charters.rows, row.status = .superseded ∨ row.status = .revoked →
      ∀ actions db', (charterSystem exampleStoreHost).run db actions = some db' →
        ∀ row' ∈ db'.charters.rows, row'.id = row.id → row'.status ≠ .active := by
  obtain ⟨db, hdb⟩ := Option.isSome_iff_exists.mp (show exampleApprovals.isSome by decide +kernel)
  have hrows : exampleApprovals.map (fun db => db.charters.rows.map fun row => (row.id, row.status)) =
      some [("x", .superseded), ("y", .active)] := by decide +kernel
  rw [hdb] at hrows
  have hreachable : (charterSystem exampleStoreHost).Reachable db := by
    refine System.Reachable.run (.init ?_) hdb
    rfl
  exact ⟨db, hdb, Option.some.inj hrows, one_active_charter exampleStoreHost hreachable⟩

end OpenTimeline.Charter
