import OpenTimeline.Library.Transition
import OpenTimeline.Dispatch.Records

/-! `open_dispatch` and `reconcile_dispatch` of Lite, in any interleaving.

The checks of an opening that read the process and the self-tests come before its section;
the section finds the attempt's row, or counts and sums the owner's open rows and inserts
one. Sections are serialised and a row's reservation never changes, so each opening measures
the rows it adds to, and a reconciliation only takes rows away (`fits_next`). -/
namespace OpenTimeline.Dispatch
open Library Charter

variable (host : Host)

/-! ### Opening -/

/-- What `open_dispatch` checks before its section: the id of the self-test it goes by. -/
def openGate (reconcileComplete : Bool) (selfTests : List SandboxSelfTest) (auth : AuthContext)
    (body : DispatchOpenRequest) (settings : Settings) (now : Instant) : Except Failure (Option String) :=
  if !reconcileComplete then
    refuse 409 "reconcile_pending"
      [("message", .str "startup reconcile has not completed; no new dispatch may open")]
  else if body.enforcementTier = "advisory" then
    if body.taskFamily ∈ readOnlyTaskFamilies then .ok none
    else refuse 422 "task_family_not_read_only"
      [("message",
          .str "enforcement_tier='advisory' applies no OS boundary and may only run a read-only task family"),
        ("read_only_task_families", .arr ((readOnlyTaskFamilies.insertionSort (· ≤ ·)).map .str))]
  else match latestSelfTest selfTests auth.workspaceId body.sandboxProvider with
  | none => refuse 409 "sandbox_self_test_missing"
  | some latest =>
    if !latest.passed then
      refuse 409 "sandbox_self_test_missing" [("message", .str "the most recent self-test did not pass")]
    else if (latest.ranAt : Int) + max 1 settings.sandboxSelfTestMaxAgeSeconds * 1000000 < now then
      refuse 409 "sandbox_self_test_stale" [("ran_at", .str latest.ranAtText)]
    else if latest.profileDigest ≠ body.sandboxProfileDigest.getD "" then
      refuse 409 "sandbox_self_test_digest_mismatch"
        [("measured", .str latest.profileDigest), ("requested", .str (body.sandboxProfileDigest.getD ""))]
    else .ok (some latest.selfTestId)

/-- `UPDATE directive_executions SET dispatch_id = ?, charter_id = ? WHERE directive_id = ?` -/
def linkDispatch (directives : List DirectiveDispatch) (directiveId dispatchId charterId : String) :
    List DirectiveDispatch :=
  directives.map fun directive =>
    if directive.directiveId = directiveId then
      {directive with dispatchId := some dispatchId, charterId := some charterId}
    else directive

/-- `str(body.session_id or "default")` -/
def DispatchOpenRequest.sessionOrDefault (body : DispatchOpenRequest) : String :=
  if body.sessionId = "" then "default" else body.sessionId

/-- The section of `open_dispatch`. -/
def openSection (auth : AuthContext) (charter : ResolvedCharter) (body : DispatchOpenRequest) (settings : Settings)
    (now : Instant) (selfTestId : Option String) (newId : String) (db : Database) :
    Except Failure (Database × DispatchRecord) :=
  match db.dispatches.findAttempt body.attemptKey with
  | some existing => .ok (db, existing)
  | none =>
    if charter.caps.maxConcurrentDispatches ≤ openDispatchCount db.dispatches.rows auth.workspaceId auth.userId then
      refuse 409 "dispatch_concurrency_exceeded"
        [("max_concurrent_dispatches", .int charter.caps.maxConcurrentDispatches)]
    else do
      let reservation ← reserveOrRefuse charter.caps.budgetMinorUnits
        (openReservationTotal db.dispatches.rows auth.workspaceId auth.userId)
        (body.requestMinorUnits.getD settings.budgetDefaultMinorUnits) settings.budgetCurrency body.surface
      let matrix ← capabilityMatrixJson body.surface
      let record := body.row auth charter reservation matrix selfTestId body.sessionOrDefault newId now
      match db.dispatches.insert record with
      | none => .error .integrityError
      | some dispatches =>
        return ({db with
          dispatches
          directives := linkDispatch db.directives body.directiveId newId charter.charterId}, record)

/-- `open_dispatch` -/
def openDispatch (reconcileComplete : Bool) (auth : AuthContext) (charter : ResolvedCharter)
    (body : DispatchOpenRequest) (settings : Settings) (now : Instant) (newId : String) (db : Database) :
    Database × Except Failure DispatchRecord :=
  match openGate reconcileComplete db.selfTests auth body settings now with
  | .error e => (db, .error e)
  | .ok selfTestId => runCasSection (openSection auth charter body settings now selfTestId newId) db

/-- The section of `reconcile_dispatch`. -/
def reconcileSection (dispatchId : String) (body : DispatchReconcileRequest) (now : Instant) (db : Database) :
    Except Failure (Database × DispatchRecord) :=
  match db.dispatches.find dispatchId with
  | none => refuse 404 "dispatch_not_found"
  | some record => do
    let reconciliation ← passing (reconciliationFromJson host body.reconciliation)
    return ({db with dispatches := db.dispatches.reconcile dispatchId body (some reconciliation) now},
      record.reconciled body (some reconciliation) now)

/-! ### What a section does -/

/-- What an opening added a row under. -/
structure Opened (auth : AuthContext) (charter : ResolvedCharter) (body : DispatchOpenRequest) (rows : List DispatchRecord)
    (record : DispatchRecord) : Prop where
  owner : ∀ workspaceId ownerId,
    record.isOpenOf workspaceId ownerId ↔ auth.workspaceId = workspaceId ∧ auth.userId = ownerId
  attempt : record.attemptKey = body.attemptKey
  count : (openDispatchCount rows auth.workspaceId auth.userId : Int) < charter.caps.maxConcurrentDispatches
  reservation : 0 ≤ record.budgetReservedMinorUnits
  budget : openReservationTotal rows auth.workspaceId auth.userId + record.budgetReservedMinorUnits ≤
    charter.caps.budgetMinorUnits

/-- An opening returns the attempt's row and changes nothing, or adds a row within the caps. -/
theorem openSection_cases {auth : AuthContext} {charter : ResolvedCharter} {body : DispatchOpenRequest}
    {settings : Settings} {now : Instant} {selfTestId : Option String} {newId : String} {db db' : Database}
    {record : DispatchRecord}
    (h : openSection auth charter body settings now selfTestId newId db = .ok (db', record)) :
    (db.dispatches.findAttempt body.attemptKey = some record ∧ db' = db) ∨
      (db.dispatches.findAttempt body.attemptKey = none ∧ Opened auth charter body db.dispatches.rows record ∧
        db.dispatches.insert record = some db'.dispatches) := by
  unfold openSection at h
  cases hexisting : db.dispatches.findAttempt body.attemptKey with
  | some existing =>
    rw [hexisting] at h
    cases h
    exact Or.inl ⟨rfl, rfl⟩
  | none =>
    simp only [hexisting] at h
    split_ifs at h with hfull
    · cases h
    obtain ⟨reservation, hreserve, h⟩ := bind_ok h
    obtain ⟨matrix, _, h⟩ := bind_ok h
    obtain ⟨hreserved, hnonneg, hbudget⟩ := reserveOrRefuse_ok hreserve
    split at h
    · cases h
    · rename_i dispatches hinsert
      cases h
      refine Or.inr ⟨rfl, ⟨fun workspaceId ownerId => ?_, rfl, not_le.mp hfull, ?_, ?_⟩, hinsert⟩
      · exact DispatchRecord.isOpenOf_iff.trans (and_iff_left rfl)
      · exact hnonneg.trans_eq hreserved.symm
      · exact (congrArg (_ + ·) hreserved).trans_le hbudget

/-- A reconciliation sets the row's finish and leaves the rest. -/
theorem reconcileSection_cases {dispatchId : String} {body : DispatchReconcileRequest} {now : Instant}
    {db db' : Database} {record : DispatchRecord}
    (h : reconcileSection host dispatchId body now db = .ok (db', record)) :
    ∃ reconciliation, db'.dispatches = db.dispatches.reconcile dispatchId body (some reconciliation) now := by
  unfold reconcileSection at h
  cases hfind : db.dispatches.find dispatchId with
  | none =>
    rw [hfind] at h
    cases h
  | some found =>
    rw [hfind] at h
    obtain ⟨reconciliation, _, h⟩ := bind_ok h
    cases h
    exact ⟨reconciliation, rfl⟩

/-! ### The caps -/

/-- The owner's open rows are within the caps, and none reserves less than nothing. -/
structure Fits (caps : CharterCaps) (workspaceId ownerId : String) (rows : List DispatchRecord) : Prop where
  count : (openDispatchCount rows workspaceId ownerId : Int) ≤ caps.maxConcurrentDispatches
  budget : openReservationTotal rows workspaceId ownerId ≤ caps.budgetMinorUnits
  reservations : ∀ record ∈ rows, record.isOpenOf workspaceId ownerId → 0 ≤ record.budgetReservedMinorUnits

section Caps
variable {caps : CharterCaps} {workspaceId ownerId : String} {rows : List DispatchRecord}

theorem openReservationTotal_cons (record : DispatchRecord) :
    openReservationTotal (record :: rows) workspaceId ownerId =
      (if record.isOpenOf workspaceId ownerId then record.budgetReservedMinorUnits else 0) +
        openReservationTotal rows workspaceId ownerId := by
  unfold openReservationTotal
  rw [List.filter_cons]
  split_ifs <;> simp

theorem openReservationTotal_append (record : DispatchRecord) :
    openReservationTotal (rows ++ [record]) workspaceId ownerId = openReservationTotal rows workspaceId ownerId +
      (if record.isOpenOf workspaceId ownerId then record.budgetReservedMinorUnits else 0) := by
  unfold openReservationTotal
  rw [List.filter_append, List.map_append, List.sum_append, List.filter_singleton]
  split_ifs <;> simp_all

/-- Rows of others, and rows that are finished, take nothing from the owner. -/
theorem append_other {record : DispatchRecord} (hother : ¬ record.isOpenOf workspaceId ownerId) :
    openDispatchCount (rows ++ [record]) workspaceId ownerId = openDispatchCount rows workspaceId ownerId ∧
      openReservationTotal (rows ++ [record]) workspaceId ownerId = openReservationTotal rows workspaceId ownerId := by
  constructor
  · rw [openDispatchCount, List.countP_append, List.countP_singleton, if_neg hother]
    rfl
  · rw [openReservationTotal_append, if_neg hother, add_zero]

theorem Fits.append_other (h : Fits caps workspaceId ownerId rows) {record : DispatchRecord}
    (hother : ¬ record.isOpenOf workspaceId ownerId) : Fits caps workspaceId ownerId (rows ++ [record]) where
  count := by
    rw [(Dispatch.append_other hother).1]
    exact h.count
  budget := by
    rw [(Dispatch.append_other hother).2]
    exact h.budget
  reservations r hr hopen := by
    rcases List.mem_append.mp hr with hr | hr
    · exact h.reservations r hr hopen
    · rw [List.mem_singleton.mp hr] at hopen
      exact absurd hopen hother

theorem Fits.append_opened (h : Fits caps workspaceId ownerId rows) {record : DispatchRecord}
    (hcount : (openDispatchCount rows workspaceId ownerId : Int) < caps.maxConcurrentDispatches)
    (hbudget : openReservationTotal rows workspaceId ownerId + record.budgetReservedMinorUnits ≤ caps.budgetMinorUnits)
    (hopen : record.isOpenOf workspaceId ownerId) (hreservation : 0 ≤ record.budgetReservedMinorUnits) :
    Fits caps workspaceId ownerId (rows ++ [record]) where
  count := by
    rw [openDispatchCount, List.countP_append, List.countP_singleton, if_pos hopen]
    push_cast
    exact hcount
  budget := by
    rw [openReservationTotal_append, if_pos hopen]
    exact hbudget
  reservations r hr hopen := by
    rcases List.mem_append.mp hr with hr | hr
    · exact h.reservations r hr hopen
    · rw [List.mem_singleton.mp hr]
      exact hreservation

theorem fits_of_finished (hcount : 0 ≤ caps.maxConcurrentDispatches) (hbudget : 0 ≤ caps.budgetMinorUnits)
    (h : ∀ record ∈ rows, record.finishedAt ≠ none) : Fits caps workspaceId ownerId rows := by
  have hnone : ∀ record ∈ rows, ¬ record.isOpenOf workspaceId ownerId := fun record hrecord hopen =>
    h record hrecord (DispatchRecord.isOpenOf_iff.mp hopen).2
  refine ⟨?_, ?_, fun record hrecord hopen => absurd hopen (hnone record hrecord)⟩
  · rw [openDispatchCount, List.countP_eq_zero.mpr hnone]
    exact hcount
  · rw [openReservationTotal, List.filter_eq_nil_iff.mpr hnone]
    exact hbudget

/-- Closing rows takes from the count and from the total. -/
theorem close_le {f : DispatchRecord → DispatchRecord}
    (hf : ∀ record, f record = record ∨ ¬ (f record).isOpenOf workspaceId ownerId)
    (hreservations : ∀ record ∈ rows, record.isOpenOf workspaceId ownerId → 0 ≤ record.budgetReservedMinorUnits) :
    openDispatchCount (rows.map f) workspaceId ownerId ≤ openDispatchCount rows workspaceId ownerId ∧
      openReservationTotal (rows.map f) workspaceId ownerId ≤ openReservationTotal rows workspaceId ownerId := by
  induction rows with
  | nil => exact ⟨le_refl _, le_refl _⟩
  | cons record rest ih =>
    obtain ⟨hcount, htotal⟩ := ih fun r hr => hreservations r (List.mem_cons_of_mem _ hr)
    simp only [openDispatchCount] at hcount ⊢
    rw [List.map_cons, List.countP_cons, List.countP_cons, openReservationTotal_cons, openReservationTotal_cons]
    rcases hf record with hsame | hclosed
    · rw [hsame]
      exact ⟨Nat.add_le_add_right hcount _, by gcongr⟩
    · rw [if_neg hclosed, if_neg hclosed, zero_add]
      refine ⟨hcount.trans (Nat.le_add_right _ _), htotal.trans (le_add_of_nonneg_left ?_)⟩
      split_ifs with hopen
      · exact hreservations record List.mem_cons_self hopen
      · exact le_refl _

theorem Fits.close (h : Fits caps workspaceId ownerId rows) {f : DispatchRecord → DispatchRecord}
    (hf : ∀ record, f record = record ∨ ¬ (f record).isOpenOf workspaceId ownerId) :
    Fits caps workspaceId ownerId (rows.map f) := by
  obtain ⟨hcount, htotal⟩ := close_le hf h.reservations
  refine ⟨le_trans (by exact_mod_cast hcount) h.count, htotal.trans h.budget, fun record hrecord hopen => ?_⟩
  obtain ⟨before, hbefore, rfl⟩ := List.mem_map.mp hrecord
  rcases hf before with hsame | hclosed
  · rw [hsame] at hopen ⊢
    exact h.reservations before hbefore hopen
  · exact absurd hopen hclosed

/-- A reconciliation changes a row by closing it. -/
theorem reconcile_closes {dispatchId : String} {body : DispatchReconcileRequest} {reconciliation : Option Reconciliation}
    {now : Instant} (workspaceId ownerId : String) (record : DispatchRecord) :
    (if decide (record.id = dispatchId) then record.reconciled body reconciliation now else record) = record ∨
      ¬ DispatchRecord.isOpenOf workspaceId ownerId
        (if decide (record.id = dispatchId) then record.reconciled body reconciliation now else record) := by
  split_ifs
  · exact Or.inr fun hopen => by cases (DispatchRecord.isOpenOf_iff.mp hopen).2
  · exact Or.inl rfl

end Caps

/-! ### The system -/

/-- A call of `open_dispatch`. -/
structure Call where
  auth : AuthContext
  body : DispatchOpenRequest
  settings : Settings
  now : Instant
deriving DecidableEq, Repr

structure DispatchState where
  db : Database
  reconcileComplete : Bool
  /-- the calls that have passed the checks, each with the self-test it goes by -/
  admitted : List (Call × Option String)

inductive DispatchAction
  /-- a call passes the checks before its section, or is refused -/
  | arrive (call : Call)
  /-- the section of an admitted call -/
  | openSection (call : Call) (selfTestId : Option String) (newId : String)
  | reconcile (dispatchId : String) (body : DispatchReconcileRequest) (now : Instant)
  | recordSelfTest (selfTest : SandboxSelfTest)
  | setReconcileComplete (complete : Bool)

/-- Any calls, each owner under one charter. An admitted call may run its section again, as
a retry of it does. -/
def dispatchSystem (charters : String → String → ResolvedCharter) : System DispatchState DispatchAction where
  init s := ∀ record ∈ s.db.dispatches.rows, record.finishedAt ≠ none
  next s
    | .arrive call =>
      match openGate s.reconcileComplete s.db.selfTests call.auth call.body call.settings call.now with
      | .ok selfTestId => some {s with admitted := (call, selfTestId) :: s.admitted}
      | .error _ => some s
    | .openSection call selfTestId newId =>
      if (call, selfTestId) ∈ s.admitted then
        some {s with db := (runCasSection (openSection call.auth (charters call.auth.workspaceId call.auth.userId)
          call.body call.settings call.now selfTestId newId) s.db).1}
      else none
    | .reconcile dispatchId body now =>
      some {s with db := (runCasSection (reconcileSection host dispatchId body now) s.db).1}
    | .recordSelfTest selfTest => some {s with db := {s.db with selfTests := s.db.selfTests ++ [selfTest]}}
    | .setReconcileComplete complete => some {s with reconcileComplete := complete}

/-- What a step does to the rows: nothing, an opening that adds one, or a reconciliation. -/
inductive RowsStep (charters : String → String → ResolvedCharter) (t : DispatchTable) : DispatchTable → Prop
  | same : RowsStep charters t t
  | opened {t' : DispatchTable} {record : DispatchRecord} (auth : AuthContext) (body : DispatchOpenRequest)
    (h : Opened auth (charters auth.workspaceId auth.userId) body t.rows record) (hinsert : t.insert record = some t') :
    RowsStep charters t t'
  | reconciled (dispatchId : String) (body : DispatchReconcileRequest) (reconciliation : Option Reconciliation)
    (now : Instant) : RowsStep charters t (t.reconcile dispatchId body reconciliation now)

variable {host} {charters : String → String → ResolvedCharter} {s s' : DispatchState}

theorem rowsStep_next {a : DispatchAction} (h : (dispatchSystem host charters).next s a = some s') :
    RowsStep charters s.db.dispatches s'.db.dispatches := by
  cases a with
  | arrive call =>
    simp only [dispatchSystem] at h
    split at h <;> cases h <;> exact .same
  | openSection call selfTestId newId =>
    simp only [dispatchSystem, Option.ite_none_right_eq_some, Option.some.injEq] at h
    obtain ⟨_, rfl⟩ := h
    unfold runCasSection
    split
    · rename_i db' record hsection
      rcases openSection_cases hsection with ⟨_, rfl⟩ | ⟨_, hopened, hinsert⟩
      · exact .same
      · exact .opened call.auth call.body hopened hinsert
    · exact .same
  | reconcile dispatchId body now =>
    simp only [dispatchSystem, Option.some.injEq] at h
    subst h
    unfold runCasSection
    split
    · rename_i db' record hsection
      obtain ⟨reconciliation, hdispatches⟩ := reconcileSection_cases host hsection
      simp only [hdispatches]
      exact .reconciled dispatchId body (some reconciliation) now
    · exact .same
  | recordSelfTest selfTest =>
    cases h
    exact .same
  | setReconcileComplete complete =>
    cases h
    exact .same

theorem fits_rowsStep {t t' : DispatchTable} {workspaceId ownerId : String} (h : RowsStep charters t t')
    (hfits : Fits (charters workspaceId ownerId).caps workspaceId ownerId t.rows) :
    Fits (charters workspaceId ownerId).caps workspaceId ownerId t'.rows := by
  cases h with
  | same => exact hfits
  | opened auth body hopened hinsert =>
    rw [DispatchTable.insert_eq_some hinsert]
    rename_i record
    by_cases hown : record.isOpenOf workspaceId ownerId
    · obtain ⟨rfl, rfl⟩ := (hopened.owner workspaceId ownerId).mp hown
      exact hfits.append_opened hopened.count hopened.budget hown hopened.reservation
    · exact hfits.append_other hown
  | reconciled dispatchId body reconciliation now =>
    exact hfits.close (reconcile_closes workspaceId ownerId)

/-- A row keeps its id, its attempt and its reservation. -/
def Keeps (t t' : DispatchTable) : Prop :=
  ∀ record ∈ t.rows, ∃ record' ∈ t'.rows, record'.id = record.id ∧ record'.attemptKey = record.attemptKey ∧
    record'.budgetReservedMinorUnits = record.budgetReservedMinorUnits

theorem keeps_rowsStep {t t' : DispatchTable} (h : RowsStep charters t t') : Keeps t t' := by
  intro record hrecord
  cases h with
  | same => exact ⟨record, hrecord, rfl, rfl, rfl⟩
  | opened auth body hopened hinsert =>
    rw [DispatchTable.insert_eq_some hinsert]
    exact ⟨record, List.mem_append_left _ hrecord, rfl, rfl, rfl⟩
  | reconciled dispatchId body reconciliation now =>
    refine ⟨_, List.mem_map_of_mem hrecord, ?_⟩
    simp only
    split_ifs <;> exact ⟨rfl, rfl, rfl⟩

theorem keeps_run {actions : List DispatchAction} (h : (dispatchSystem host charters).run s actions = some s') :
    Keeps s.db.dispatches s'.db.dispatches := by
  refine System.run_keeps (I := fun t => Keeps s.db.dispatches t.db.dispatches) (fun t a t' hkept hnext => ?_) h
    fun record hrecord => ⟨record, hrecord, rfl, rfl, rfl⟩
  intro record hrecord
  obtain ⟨record₁, hrecord₁, hid₁, hattempt₁, hreserved₁⟩ := hkept record hrecord
  obtain ⟨record₂, hrecord₂, hid₂, hattempt₂, hreserved₂⟩ := keeps_rowsStep (rowsStep_next hnext) record₁ hrecord₁
  exact ⟨record₂, hrecord₂, hid₂.trans hid₁, hattempt₂.trans hattempt₁, hreserved₂.trans hreserved₁⟩

/-- An attempt that has a row is opened no more: its section returns the row. -/
theorem openSection_of_mem {auth : AuthContext} {charter : ResolvedCharter} {body : DispatchOpenRequest}
    {settings : Settings} {now : Instant} {selfTestId : Option String} {newId : String} {db : Database}
    {record : DispatchRecord} (hrecord : record ∈ db.dispatches.rows) (hattempt : body.attemptKey = record.attemptKey) :
    runCasSection (openSection auth charter body settings now selfTestId newId) db = (db, .ok record) := by
  unfold runCasSection openSection
  rw [DispatchTable.findAttempt_eq_some_iff.mpr ⟨hrecord, hattempt.symm⟩]

theorem openDispatch_error {reconcileComplete : Bool} {auth : AuthContext} {charter : ResolvedCharter}
    {body : DispatchOpenRequest} {settings : Settings} {now : Instant} {newId : String} {db db' : Database} {e : Failure}
    (h : openDispatch reconcileComplete auth charter body settings now newId db = (db', .error e)) : db' = db := by
  unfold openDispatch at h
  split at h
  · cases h
    rfl
  · exact runCasSection_error h

variable (host charters)

/-- In any interleaving of openings and reconciliations: the open rows of an owner and what
they reserve are within the caps of its charter; an attempt has one row at most, which any
later opening of it returns that passes the checks, and changes nothing; and an opening that
is refused changes nothing. -/
theorem dispatch_within_caps (workspaceId ownerId : String)
    (hcount : 0 ≤ (charters workspaceId ownerId).caps.maxConcurrentDispatches)
    (hbudget : 0 ≤ (charters workspaceId ownerId).caps.budgetMinorUnits)
    (h : (dispatchSystem host charters).Reachable s) :
    (openDispatchCount s.db.dispatches.rows workspaceId ownerId : Int) ≤
        (charters workspaceId ownerId).caps.maxConcurrentDispatches ∧
      openReservationTotal s.db.dispatches.rows workspaceId ownerId ≤
        (charters workspaceId ownerId).caps.budgetMinorUnits ∧
      (∀ key, s.db.dispatches.rows.countP (·.attemptKey = key) ≤ 1) ∧
      (∀ record ∈ s.db.dispatches.rows, ∀ actions s', (dispatchSystem host charters).run s actions = some s' →
        ∃ record' ∈ s'.db.dispatches.rows, record'.id = record.id ∧
          record'.budgetReservedMinorUnits = record.budgetReservedMinorUnits ∧
          ∀ auth charter body settings now newId selfTestId, body.attemptKey = record.attemptKey →
            openGate s'.reconcileComplete s'.db.selfTests auth body settings now = .ok selfTestId →
              openDispatch s'.reconcileComplete auth charter body settings now newId s'.db = (s'.db, .ok record')) ∧
      ∀ auth charter body settings now newId db' e,
        openDispatch s.reconcileComplete auth charter body settings now newId s.db = (db', .error e) → db' = s.db := by
  have hfits : Fits (charters workspaceId ownerId).caps workspaceId ownerId s.db.dispatches.rows := by
    refine System.Reachable.invariant (I := fun s =>
      Fits (charters workspaceId ownerId).caps workspaceId ownerId s.db.dispatches.rows)
      (fun s => fits_of_finished hcount hbudget)
      (fun s a s' _ hfits hnext => fits_rowsStep (rowsStep_next hnext) hfits) h
  refine ⟨hfits.count, hfits.budget, fun key => ?_, fun record hrecord actions s' hrun => ?_,
    fun _ _ _ _ _ _ _ _ => openDispatch_error⟩
  · have hnodup := List.nodup_iff_count_le_one.mp s.db.dispatches.attempts key
    rw [List.count_eq_countP, List.countP_map] at hnodup
    refine le_trans (List.countP_mono_left fun record _ heq => ?_) hnodup
    simpa using heq
  · obtain ⟨record', hrecord', hid, hattempt, hreserved⟩ := keeps_run hrun record hrecord
    refine ⟨record', hrecord', hid, hreserved, fun auth charter body settings now newId selfTestId hbody hgate => ?_⟩
    unfold openDispatch
    rw [hgate]
    exact openSection_of_mem hrecord' (hbody.trans hattempt.symm)

/-! ### Runs -/

/-- A charter for one dispatch at a time and ten units. -/
def exampleCharter : ResolvedCharter where
  charterId := "c"
  workspaceId := "w"
  ownerId := "o"
  projectId := none
  charterVersion := "v1"
  policyRevision := ""
  status := "active"
  enforcementTier := .osSandbox
  permittedRoots := []
  protectedWritePrefixes := []
  deniedReadPaths := []
  permittedCapabilities := ∅
  confirmRequiredCapabilities := ∅
  egressMode := .denyAll
  runtimeAllowlist := []
  caps := ⟨1, 1, 1800, 10, "USD", .unsupported⟩
  approvedBy := "o"
  approvedAt := ⟨epoch, true⟩
  expiresAt := ⟨epoch + 1, true⟩
  revokedAt := none
  narrowingIds := []
  charterDigest := ""
  schemaVersion := "v1"
  credentialRiskAcknowledged := false

/-- A read-only review of a directive, for five units. -/
def exampleBody (directiveId : String) : DispatchOpenRequest where
  directiveId
  runtimeId := "codex"
  runtimeVersion := "1"
  surface := "codex/exec"
  taskFamily := "read_only_review"
  enforcementTier := "advisory"
  sandboxProvider := "none"
  providerRunId := "p"
  requestMinorUnits := some 5

def exampleAuth : AuthContext := ⟨"w", "o", "o", "supervisor"⟩

def exampleSettings : Settings := ⟨3600, 0, "USD"⟩

def exampleCall (directiveId : String) : Call := ⟨exampleAuth, exampleBody directiveId, exampleSettings, epoch⟩

/-- Two calls pass the checks before either has its row. -/
def exampleDispatches : Option DispatchState :=
  (dispatchSystem (asciiHost [] []) fun _ _ => exampleCharter).run
    ⟨⟨.empty, [], []⟩, true, []⟩
    [.arrive (exampleCall "d"), .arrive (exampleCall "e"), .openSection (exampleCall "d") none "x",
      .openSection (exampleCall "e") none "y"]

theorem dispatch_within_caps_two : ∃ s, exampleDispatches = some s ∧
    s.db.dispatches.rows.map (fun record => (record.id, record.directiveId)) = [("x", "d")] ∧
    (openDispatchCount s.db.dispatches.rows "w" "o" : Int) ≤ 1 ∧
    openReservationTotal s.db.dispatches.rows "w" "o" ≤ 10 := by
  obtain ⟨s, hs⟩ := Option.isSome_iff_exists.mp (show exampleDispatches.isSome by decide +kernel)
  have hrows : exampleDispatches.map (fun s => s.db.dispatches.rows.map fun record =>
      (record.id, record.directiveId)) = some [("x", "d")] := by decide +kernel
  rw [hs] at hrows
  have hreachable : (dispatchSystem (asciiHost [] []) fun _ _ => exampleCharter).Reachable s :=
    System.Reachable.run (.init fun _ h => absurd h List.not_mem_nil) hs
  have hcaps := dispatch_within_caps (asciiHost [] []) (fun _ _ => exampleCharter) "w" "o" (by decide) (by decide)
    hreachable
  exact ⟨s, hs, Option.some.inj hrows, hcaps.1, hcaps.2.1⟩

end OpenTimeline.Dispatch
