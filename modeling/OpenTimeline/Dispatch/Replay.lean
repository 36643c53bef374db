import OpenTimeline.Dispatch.Budget

/-! `open_dispatch` of Full, repeated.

Full counts and sums the owner's open rows before it comes to the INSERT, whose conflict on
the attempt is what returns the row of an earlier call. So a repeat is measured against a
count and a total that its own row is part of, and returns the row only where the caps have
room for it twice (`replay_iff`). -/
namespace OpenTimeline.Dispatch
open Library Charter

variable (host : Host)

/-! ### Opening -/

/-- What `open_dispatch` of Full checks first. -/
def fullOpenGate (reconcileComplete : Bool) (selfTests : List SandboxSelfTest) (auth : AuthContext)
    (body : DispatchOpenRequest) (settings : Settings) (now : Instant) : Except Failure Unit :=
  if !reconcileComplete then refuse 409 "reconcile_pending"
  else if body.enforcementTier = "advisory" then
    if body.taskFamily ∈ readOnlyTaskFamilies then .ok ()
    else refuse 422 "task_family_not_read_only" [("task_family", .str body.taskFamily)]
  else match latestSelfTest selfTests auth.workspaceId body.sandboxProvider with
  | none => refuse 409 "sandbox_self_test_missing"
  | some selfTest =>
    if !selfTest.passed then refuse 409 "sandbox_self_test_missing"
    else if (selfTest.ranAt : Int) < now - max 1 settings.sandboxSelfTestMaxAgeSeconds * 1000000 then
      refuse 409 "sandbox_self_test_stale"
    else if selfTest.profileDigest ≠ body.sandboxProfileDigest.getD "" then
      refuse 409 "sandbox_self_test_digest_mismatch"
    else .ok ()

/-- The first statement: the owner's open rows are fewer than the charter permits. -/
def countCheck (charter : ResolvedCharter) (openCount : Nat) : Except Failure Unit :=
  if charter.caps.maxConcurrentDispatches ≤ openCount then
    refuse 409 "dispatch_concurrency_exceeded"
      [("open", .int openCount), ("cap", .int charter.caps.maxConcurrentDispatches)]
  else .ok ()

/-- The second: what they reserve leaves room for the request. -/
def sumCheck (charter : ResolvedCharter) (body : DispatchOpenRequest) (settings : Settings) (already : Int) :
    Except Failure Reservation :=
  reserveOrRefuse charter.caps.budgetMinorUnits already
    (body.requestMinorUnits.getD settings.budgetDefaultMinorUnits) settings.budgetCurrency body.surface

/-- The row the third inserts. -/
def fullRow (auth : AuthContext) (charter : ResolvedCharter) (body : DispatchOpenRequest) (reservation : Reservation)
    (newId : String) (now : Instant) : Except Failure DispatchRecord := do
  let matrix ← capabilityMatrixJson body.surface
  return body.row auth charter reservation matrix body.sandboxSelfTestId body.sessionId newId now

/-- `open_dispatch` of Full, its statements one after the other. -/
def fullOpenDispatch (reconcileComplete : Bool) (auth : AuthContext) (charter : ResolvedCharter)
    (body : DispatchOpenRequest) (settings : Settings) (now : Instant) (newId : String) (db : Database) :
    Except Failure (Database × DispatchRecord) := do
  fullOpenGate reconcileComplete db.selfTests auth body settings now
  countCheck charter (openDispatchCount db.dispatches.rows auth.workspaceId auth.userId)
  let reservation ← sumCheck charter body settings
    (openReservationTotal db.dispatches.rows auth.workspaceId auth.userId)
  let record ← fullRow auth charter body reservation newId now
  match db.dispatches.insert record with
  | none => match db.dispatches.findAttempt body.attemptKey with
    | none => refuse 409 "dispatch_conflict"
    | some existing => return (db, existing)
  | some dispatches =>
    return ({db with
      dispatches
      directives := db.directives.map fun directive =>
        if directive.directiveId = body.directiveId ∧ directive.workspaceId = auth.workspaceId then
          {directive with dispatchId := some newId, charterId := some charter.charterId}
        else directive}, record)

/-- The reconciliation of a request, where it has one. -/
def fullReconciliation (payload : Payload) : Except Failure (Option Reconciliation) :=
  if payload.isEmpty then .ok none else some <$> passing (reconciliationFromJson host payload)

/-- `reconcile_dispatch` of Full: without a reconciliation the cost is unknown. -/
def fullReconcileDispatch (dispatchId : String) (body : DispatchReconcileRequest) (now : Instant) (db : Database) :
    Except Failure (Database × DispatchRecord) :=
  match db.dispatches.find dispatchId with
  | none => refuse 404 "dispatch_not_found"
  | some record => do
    let reconciliation ← fullReconciliation host body.reconciliation
    return ({db with dispatches := db.dispatches.reconcile dispatchId body reconciliation now},
      record.reconciled body reconciliation now)

/-! ### A repeat -/

/-- The caps have room for the request beside the rows that are open. -/
def HasRoom (auth : AuthContext) (charter : ResolvedCharter) (body : DispatchOpenRequest) (settings : Settings)
    (rows : List DispatchRecord) : Prop :=
  (openDispatchCount rows auth.workspaceId auth.userId : Int) < charter.caps.maxConcurrentDispatches ∧
    openReservationTotal rows auth.workspaceId auth.userId +
      body.requestMinorUnits.getD settings.budgetDefaultMinorUnits ≤ charter.caps.budgetMinorUnits

variable {auth : AuthContext} {charter : ResolvedCharter} {body : DispatchOpenRequest} {settings : Settings}

theorem countCheck_ok_iff {openCount : Nat} :
    countCheck charter openCount = .ok () ↔ (openCount : Int) < charter.caps.maxConcurrentDispatches := by
  unfold countCheck
  split_ifs with h
  · exact iff_of_false (by intro h'; cases h') (not_lt.mpr h)
  · exact iff_of_true rfl (not_le.mp h)

theorem sumCheck_ok_iff {already : Int} : (∃ reservation, sumCheck charter body settings already = .ok reservation) ↔
    0 ≤ body.requestMinorUnits.getD settings.budgetDefaultMinorUnits ∧
      already + body.requestMinorUnits.getD settings.budgetDefaultMinorUnits ≤ charter.caps.budgetMinorUnits := by
  constructor
  · rintro ⟨reservation, h⟩
    exact (reserveOrRefuse_ok h).2
  · rintro ⟨hnonneg, hroom⟩
    unfold sumCheck reserveOrRefuse reserve
    rw [if_neg (not_lt.mpr hnonneg), if_neg (not_lt.mpr hroom)]
    exact ⟨_, rfl⟩

/-- What a successful opening says of its request, whatever it found. -/
theorem fullOpenDispatch_ok {reconcileComplete : Bool} {now : Instant} {newId : String} {db db' : Database}
    {record : DispatchRecord}
    (h : fullOpenDispatch reconcileComplete auth charter body settings now newId db = .ok (db', record)) :
    fullOpenGate reconcileComplete db.selfTests auth body settings now = .ok () ∧
      HasRoom auth charter body settings db.dispatches.rows ∧
      0 ≤ body.requestMinorUnits.getD settings.budgetDefaultMinorUnits ∧
      (∃ matrix, capabilityMatrixJson body.surface = .ok matrix) ∧
      record ∈ db'.dispatches.rows ∧ record.attemptKey = body.attemptKey := by
  obtain ⟨_, hgate, h⟩ := bind_ok h
  obtain ⟨_, hcount, h⟩ := bind_ok h
  obtain ⟨reservation, hsum, h⟩ := bind_ok h
  obtain ⟨row, hrow, h⟩ := bind_ok h
  obtain ⟨matrix, hmatrix, hrow⟩ := bind_ok hrow
  obtain ⟨hnonneg, hroom⟩ := sumCheck_ok_iff.mp ⟨reservation, hsum⟩
  refine ⟨hgate, ⟨countCheck_ok_iff.mp hcount, hroom⟩, hnonneg, ⟨matrix, hmatrix⟩, ?_⟩
  cases hrow
  split at h
  · split at h
    · cases h
    · rename_i existing hexisting
      cases h
      exact DispatchTable.findAttempt_eq_some_iff.mp hexisting
  · rename_i dispatches hinsert
    cases h
    refine ⟨?_, rfl⟩
    rw [DispatchTable.insert_eq_some hinsert]
    exact List.mem_append_right _ (List.mem_singleton_self _)

theorem insert_eq_none {t : DispatchTable} {record existing : DispatchRecord} (h : existing ∈ t.rows)
    (hattempt : existing.attemptKey = record.attemptKey) : t.insert record = none := by
  unfold DispatchTable.insert
  split_ifs with hid hkey
  · rfl
  · rfl
  · exact absurd (List.mem_map.mpr ⟨existing, h, hattempt⟩) hkey

/-- A call that finds the row of its attempt returns it just where it passes the checks and
the caps have room for it once more. -/
theorem fullOpenDispatch_replay {reconcileComplete : Bool} {now : Instant} {newId : String} {db : Database}
    {record : DispatchRecord} (hrecord : record ∈ db.dispatches.rows) (hattempt : record.attemptKey = body.attemptKey)
    (hnonneg : 0 ≤ body.requestMinorUnits.getD settings.budgetDefaultMinorUnits)
    (hmatrix : ∃ matrix, capabilityMatrixJson body.surface = .ok matrix) :
    fullOpenDispatch reconcileComplete auth charter body settings now newId db = .ok (db, record) ↔
      fullOpenGate reconcileComplete db.selfTests auth body settings now = .ok () ∧
        HasRoom auth charter body settings db.dispatches.rows := by
  constructor
  · intro h
    obtain ⟨hgate, hroom, _⟩ := fullOpenDispatch_ok h
    exact ⟨hgate, hroom⟩
  · rintro ⟨hgate, hcount, hroom⟩
    obtain ⟨reservation, hsum⟩ := sumCheck_ok_iff.mpr ⟨hnonneg, hroom⟩
    obtain ⟨matrix, hmatrix⟩ := hmatrix
    have hfind := DispatchTable.findAttempt_eq_some_iff.mpr ⟨hrecord, hattempt⟩
    unfold fullOpenDispatch fullRow
    rw [hgate, countCheck_ok_iff.mpr hcount, hsum, hmatrix]
    simp only [bind, Except.bind, pure, Except.pure]
    have hkey : record.attemptKey = (body.row auth charter reservation matrix body.sandboxSelfTestId body.sessionId
        newId now).attemptKey := hattempt
    rw [insert_eq_none hrecord hkey]
    simp only [hfind]

/-! ### Calls one after another -/

inductive FullAction
  | openDispatch (auth : AuthContext) (body : DispatchOpenRequest) (settings : Settings) (now : Instant)
    (newId : String)
  | reconcileDispatch (dispatchId : String) (body : DispatchReconcileRequest) (now : Instant)
  | recordSelfTest (selfTest : SandboxSelfTest)
  | setReconcileComplete (complete : Bool)

/-- The database, and whether the startup reconcile is over. -/
structure FullState where
  db : Database
  reconcileComplete : Bool

/-- Calls of any owners, each under one charter, from any table. -/
def fullSystem (charters : String → String → ResolvedCharter) : System FullState FullAction where
  init _ := True
  next s
    | .openDispatch auth body settings now newId => some {s with
        db := (runCasSection (fullOpenDispatch s.reconcileComplete auth (charters auth.workspaceId auth.userId) body
          settings now newId) s.db).1}
    | .reconcileDispatch dispatchId body now =>
      some {s with db := (runCasSection (fullReconcileDispatch host dispatchId body now) s.db).1}
    | .recordSelfTest selfTest => some {s with db := {s.db with selfTests := s.db.selfTests ++ [selfTest]}}
    | .setReconcileComplete complete => some {s with reconcileComplete := complete}

variable {host} {charters : String → String → ResolvedCharter} {s s' : FullState}

/-- A row stays as it is, or is finished. -/
def Stays (t t' : DispatchTable) : Prop :=
  ∀ record ∈ t.rows, ∃ record' ∈ t'.rows, record'.id = record.id ∧ (record'.finishedAt = none → record' = record)

theorem stays_next {a : FullAction} (h : (fullSystem host charters).next s a = some s') :
    Stays s.db.dispatches s'.db.dispatches := by
  intro record hrecord
  cases a with
  | openDispatch auth body settings now newId =>
    simp only [fullSystem, Option.some.injEq] at h
    subst h
    refine ⟨record, ?_, rfl, fun _ => rfl⟩
    unfold runCasSection
    split
    · rename_i db' opened hopened
      obtain ⟨_, _, hopened⟩ := bind_ok hopened
      obtain ⟨_, _, hopened⟩ := bind_ok hopened
      obtain ⟨_, _, hopened⟩ := bind_ok hopened
      obtain ⟨_, _, hopened⟩ := bind_ok hopened
      split at hopened
      · split at hopened <;> cases hopened
        exact hrecord
      · rename_i dispatches hinsert
        cases hopened
        rw [DispatchTable.insert_eq_some hinsert]
        exact List.mem_append_left _ hrecord
    · exact hrecord
  | reconcileDispatch dispatchId body now =>
    simp only [fullSystem, Option.some.injEq] at h
    subst h
    unfold runCasSection
    split
    · rename_i db' reconciled hreconciled
      unfold fullReconcileDispatch at hreconciled
      split at hreconciled
      · cases hreconciled
      obtain ⟨reconciliation, _, hreconciled⟩ := bind_ok hreconciled
      cases hreconciled
      refine ⟨_, List.mem_map_of_mem hrecord, ?_, ?_⟩ <;> simp only <;> split_ifs
      · rfl
      · rfl
      · exact fun hopen => by cases hopen
      · exact fun _ => rfl
    · exact ⟨record, hrecord, rfl, fun _ => rfl⟩
  | recordSelfTest selfTest =>
    cases h
    exact ⟨record, hrecord, rfl, fun _ => rfl⟩
  | setReconcileComplete complete =>
    cases h
    exact ⟨record, hrecord, rfl, fun _ => rfl⟩

/-- A row that is open at the end of a run was there as it is from the start. -/
theorem mem_of_run_open {actions : List FullAction} (h : (fullSystem host charters).run s actions = some s')
    {record record' : DispatchRecord} (hrecord : record ∈ s.db.dispatches.rows)
    (hrecord' : record' ∈ s'.db.dispatches.rows) (hid : record'.id = record.id) (hopen : record'.finishedAt = none) :
    record' = record := by
  induction actions generalizing s record with
  | nil =>
    cases h
    exact List.inj_on_of_nodup_map s'.db.dispatches.nodup hrecord' hrecord hid
  | cons a rest ih =>
    rw [System.run, List.foldlM_cons] at h
    obtain ⟨next, hnext, hrest⟩ := Option.bind_eq_some_iff.mp h
    obtain ⟨middle, hmiddle, hsame, hstays⟩ := stays_next hnext record hrecord
    have heq := ih hrest hmiddle (hid.trans hsame.symm)
    rw [heq] at hopen
    exact heq.trans (hstays hopen)

variable (host charters)

/-- An opening repeated in any later state of a run, while its row is open, returns the row
and changes nothing just where it passes the checks again and the caps have room for it
beside the open rows, its own among them. -/
theorem replay_iff (auth : AuthContext) (body : DispatchOpenRequest)
    (settings : Settings) (now : Instant) (newId : String) (db : Database) (record : DispatchRecord)
    (hfirst : fullOpenDispatch s.reconcileComplete auth (charters auth.workspaceId auth.userId) body settings now newId
      s.db = .ok (db, record)) (actions : List FullAction)
    (hrun : (fullSystem host charters).run {s with db} actions = some s')
    (hopen : ∃ record' ∈ s'.db.dispatches.rows, record'.id = record.id ∧ record'.finishedAt = none)
    (now' : Instant) (newId' : String) :
    fullOpenDispatch s'.reconcileComplete auth (charters auth.workspaceId auth.userId) body settings now' newId' s'.db =
        .ok (s'.db, record) ↔
      fullOpenGate s'.reconcileComplete s'.db.selfTests auth body settings now' = .ok () ∧
        HasRoom auth (charters auth.workspaceId auth.userId) body settings s'.db.dispatches.rows := by
  obtain ⟨_, _, hnonneg, hmatrix, hrecord, hattempt⟩ := fullOpenDispatch_ok hfirst
  obtain ⟨record', hrecord', hid, hunfinished⟩ := hopen
  obtain rfl := mem_of_run_open hrun hrecord hrecord' hid hunfinished
  exact fullOpenDispatch_replay hrecord' hattempt hnonneg hmatrix

/-! ### Runs -/

def emptyState : FullState := ⟨⟨.empty, [], []⟩, true⟩

/-- The first opening of a directive under a charter. -/
def firstOpening (charter : ResolvedCharter) : Except Failure (Database × DispatchRecord) :=
  fullOpenDispatch true exampleAuth charter (exampleBody "d") exampleSettings epoch "x" emptyState.db

theorem firstOpening_ok {charter : ResolvedCharter}
    (h : (firstOpening charter).toOption.any fun opened =>
      opened.1.dispatches.rows = [opened.2] && opened.2.finishedAt = none) :
    ∃ db record, firstOpening charter = .ok (db, record) ∧ db.dispatches.rows = [record] ∧ record.finishedAt = none := by
  obtain ⟨⟨db, record⟩, hopened, hrows⟩ := (Option.any_eq_true _ _).mp h
  simp only [Bool.and_eq_true, decide_eq_true_eq] at hrows
  exact ⟨db, record, toOption_eq_some_iff.mp hopened, hrows⟩

/-- Room for two: a repeat returns the row. -/
theorem replay_iff_room : ∃ charter db record, firstOpening charter = .ok (db, record) ∧
    fullOpenDispatch true exampleAuth charter (exampleBody "d") exampleSettings epoch "y" db = .ok (db, record) := by
  let charter := {exampleCharter with caps := {exampleCharter.caps with maxConcurrentDispatches := 2}}
  obtain ⟨db, record, hfirst, hrows, hopen⟩ := @firstOpening_ok charter (by decide +kernel)
  have hcaps : (firstOpening charter).toOption.any fun opened =>
      openDispatchCount opened.1.dispatches.rows "w" "o" = 1 && openReservationTotal opened.1.dispatches.rows "w" "o" = 5 := by
    decide +kernel
  rw [hfirst] at hcaps
  simp only [Except.toOption, Option.any_some, Bool.and_eq_true, decide_eq_true_eq] at hcaps
  refine ⟨charter, db, record, hfirst, ?_⟩
  refine (@replay_iff (asciiHost [] []) (fun _ _ => charter) emptyState ⟨db, true⟩ exampleAuth
    (exampleBody "d") exampleSettings epoch "x" db record hfirst [] rfl ⟨record, by simp [hrows], rfl, hopen⟩ epoch "y").mpr
      ⟨rfl, ?_, ?_⟩
  · rw [show exampleAuth.workspaceId = "w" from rfl, show exampleAuth.userId = "o" from rfl, hcaps.1]
    decide
  · rw [show exampleAuth.workspaceId = "w" from rfl, show exampleAuth.userId = "o" from rfl, hcaps.2]
    decide

/-- Room for one: a repeat, which passes the checks, is refused for its own row. -/
theorem replay_refused : ¬ ∀ host charters (s s' : FullState) auth body settings now newId db record,
    fullOpenDispatch s.reconcileComplete auth (charters auth.workspaceId auth.userId) body settings now newId s.db =
      .ok (db, record) → ∀ actions, (fullSystem host charters).run {s with db} actions = some s' →
    (∃ record' ∈ s'.db.dispatches.rows, record'.id = record.id ∧ record'.finishedAt = none) → ∀ now' newId',
    fullOpenGate s'.reconcileComplete s'.db.selfTests auth body settings now' = .ok () →
    fullOpenDispatch s'.reconcileComplete auth (charters auth.workspaceId auth.userId) body settings now' newId' s'.db =
      .ok (s'.db, record) := by
  intro h
  obtain ⟨db, record, hfirst, hrows, hopen⟩ := @firstOpening_ok exampleCharter (by decide +kernel)
  have hreplay := h (asciiHost [] []) (fun _ _ => exampleCharter) emptyState ⟨db, true⟩ exampleAuth (exampleBody "d")
    exampleSettings epoch "x" db record hfirst [] rfl ⟨record, by simp [hrows], rfl, hopen⟩ epoch "y" rfl
  obtain ⟨_, hroom, _⟩ := fullOpenDispatch_ok hreplay
  have hcount : (firstOpening exampleCharter).toOption.any fun opened =>
      openDispatchCount opened.1.dispatches.rows "w" "o" = 1 := by decide +kernel
  rw [hfirst] at hcount
  simp only [Except.toOption, Option.any_some, decide_eq_true_eq] at hcount
  have hfew := hroom.1
  rw [show exampleAuth.workspaceId = "w" from rfl, show exampleAuth.userId = "o" from rfl, hcount] at hfew
  exact absurd hfew (by decide)

end OpenTimeline.Dispatch
