import OpenTimeline.Dispatch.Replay

/-! `open_dispatch` and `reconcile_dispatch` of Full, statement by statement.

The transactions run under READ COMMITTED: a statement reads the rows committed by then, so
what an opening counts and sums can be old when it commits. No statement locks the rows that
are counted, and two openings can each fit alone. The caps hold in the runs in which no
opening commits that another of its owner has overtaken, since its count
(`isolated_within_caps`). -/
namespace OpenTimeline.Dispatch
open Library Charter

variable {ι : Type} [DecidableEq ι]

/-! ### Transactions -/

/-- How far an opening is. -/
inductive OpenPhase
  | started
  | counted
  | reserved (reservation : Reservation)
  | inserted (record : DispatchRecord)

/-- What the opening reserves, once it is known. -/
def OpenPhase.amount : OpenPhase → Option Int
  | .reserved reservation => some reservation.reservedMinorUnits
  | .inserted record => some record.budgetReservedMinorUnits
  | _ => none

/-- A transaction of `open_dispatch`. -/
structure Opening where
  call : Call
  phase : OpenPhase := .started
  /-- the count and the total it has read -/
  count : Nat := 0
  total : Int := 0
  /-- another opening of the owner has committed since the count -/
  overtaken : Bool := false

/-- Whether the opening is of the owner of a row. -/
def Opening.isOf (opening : Opening) (record : DispatchRecord) : Bool :=
  record.isOpenOf opening.call.auth.workspaceId opening.call.auth.userId

/-- A transaction of `reconcile_dispatch`, which holds the row it has locked. -/
inductive Closing
  | locked (dispatchId : String)
  | updated (dispatchId : String) (body : DispatchReconcileRequest) (reconciliation : Option Reconciliation)
    (now : Instant)

def Closing.dispatchId : Closing → String
  | .locked dispatchId => dispatchId
  | .updated dispatchId _ _ _ => dispatchId

/-- The committed rows, and the transactions under way. -/
structure IsolatedState (ι : Type) where
  dispatches : DispatchTable
  openings : List (ι × Opening)
  closings : List (ι × Closing)

namespace IsolatedState

def opening (s : IsolatedState ι) (tx : ι) : Option Opening := (s.openings.find? (·.1 = tx)).map (·.2)

def closing (s : IsolatedState ι) (tx : ι) : Option Closing := (s.closings.find? (·.1 = tx)).map (·.2)

/-- The transaction is over. -/
def done (s : IsolatedState ι) (tx : ι) : IsolatedState ι :=
  {s with
    openings := s.openings.filter (·.1 ≠ tx)
    closings := s.closings.filter (·.1 ≠ tx)}

def setOpening (s : IsolatedState ι) (tx : ι) (opening : Opening) : IsolatedState ι :=
  {s with openings := (tx, opening) :: s.openings.filter (·.1 ≠ tx)}

def setClosing (s : IsolatedState ι) (tx : ι) (closing : Closing) : IsolatedState ι :=
  {s with closings := (tx, closing) :: s.closings.filter (·.1 ≠ tx)}

/-- Some opening has inserted the id or the attempt of a row, and not committed it. -/
def awaits (s : IsolatedState ι) (record : DispatchRecord) : Bool :=
  s.openings.any fun entry => match entry.2.phase with
    | .inserted other => other.id = record.id || other.attemptKey = record.attemptKey
    | _ => false

/-- A row becomes visible; the openings of its owner that are under way are overtaken. -/
def commitRow (s : IsolatedState ι) (record : DispatchRecord) (dispatches : DispatchTable) : IsolatedState ι :=
  {s with
    dispatches
    openings := s.openings.map fun entry =>
      (entry.1, {entry.2 with overtaken := entry.2.overtaken || entry.2.isOf record})}

end IsolatedState

/-! ### Statements -/

inductive Statement (ι : Type)
  /-- a call passes the checks before its count -/
  | start (tx : ι) (call : Call) (reconcileComplete : Bool) (selfTests : List SandboxSelfTest)
  | count (tx : ι)
  | sum (tx : ι)
  | insert (tx : ι) (newId : String)
  | commit (tx : ι)
  /-- an exception, or a connection lost -/
  | rollback (tx : ι)
  /-- `SELECT … FOR UPDATE` -/
  | lock (tx : ι) (dispatchId : String)
  | update (tx : ι) (body : DispatchReconcileRequest) (now : Instant)
  | commitClosing (tx : ι)

section Steps
variable (host : Host) (charters : String → String → ResolvedCharter)

/-- The statements of an opening, after its checks: the state it leaves, `none` where it is
not the next one or has to wait for another transaction. -/
def countStatement (s : IsolatedState ι) (tx : ι) (opening : Opening) : Option (IsolatedState ι) :=
  let auth := opening.call.auth
  let count := openDispatchCount s.dispatches.rows auth.workspaceId auth.userId
  match opening.phase, countCheck (charters auth.workspaceId auth.userId) count with
  | .started, .ok () => some (s.setOpening tx {opening with phase := .counted, count, overtaken := false})
  | .started, .error _ => some (s.done tx)
  | _, _ => none

def sumStatement (s : IsolatedState ι) (tx : ι) (opening : Opening) : Option (IsolatedState ι) :=
  let auth := opening.call.auth
  let total := openReservationTotal s.dispatches.rows auth.workspaceId auth.userId
  match opening.phase,
    sumCheck (charters auth.workspaceId auth.userId) opening.call.body opening.call.settings total with
  | .counted, .ok reservation => some (s.setOpening tx {opening with phase := .reserved reservation, total})
  | .counted, .error _ => some (s.done tx)
  | _, _ => none

def insertStatement (s : IsolatedState ι) (tx : ι) (newId : String) (opening : Opening) : Option (IsolatedState ι) :=
  let auth := opening.call.auth
  match opening.phase with
  | .reserved reservation =>
    match fullRow auth (charters auth.workspaceId auth.userId) opening.call.body reservation newId opening.call.now with
    | .error _ => some (s.done tx)
    | .ok record =>
      -- a conflict with a committed row ends the transaction, one with another's waits for it
      if (s.dispatches.insert record).isNone then some (s.done tx)
      else if s.awaits record then none
      else some (s.setOpening tx {opening with phase := .inserted record})
  | _ => none

/-- The UPDATE of the directive, which changes no row that is counted, goes with the COMMIT. -/
def commitStatement (s : IsolatedState ι) (tx : ι) (opening : Opening) : Option (IsolatedState ι) :=
  match opening.phase with
  | .inserted record => (s.dispatches.insert record).map ((s.done tx).commitRow record)
  | _ => none

/-- The statements of any transactions, in any order. -/
def isolatedSystem (ι : Type) [DecidableEq ι] : System (IsolatedState ι) (Statement ι) where
  init s := (∀ record ∈ s.dispatches.rows, record.finishedAt ≠ none) ∧ s.openings = [] ∧ s.closings = []
  next s
    | .start tx call reconcileComplete selfTests =>
      match s.opening tx, fullOpenGate reconcileComplete selfTests call.auth call.body call.settings call.now with
      | none, .ok () => some (s.setOpening tx {call})
      | _, _ => none
    | .count tx => (s.opening tx).bind (countStatement charters s tx)
    | .sum tx => (s.opening tx).bind (sumStatement charters s tx)
    | .insert tx newId => (s.opening tx).bind (insertStatement charters s tx newId)
    | .commit tx => (s.opening tx).bind (commitStatement s tx)
    | .rollback tx => some (s.done tx)
    | .lock tx dispatchId =>
      if s.closings.any fun entry => entry.1 = tx || entry.2.dispatchId = dispatchId then none
      else (s.dispatches.find dispatchId).map fun _ => s.setClosing tx (.locked dispatchId)
    | .update tx body now =>
      match s.closing tx, fullReconciliation host body.reconciliation with
      | some (.locked dispatchId), .ok reconciliation =>
        some (s.setClosing tx (.updated dispatchId body reconciliation now))
      | _, _ => none
    | .commitClosing tx =>
      match s.closing tx with
      | some (.updated dispatchId body reconciliation now) =>
        some {s.done tx with dispatches := s.dispatches.reconcile dispatchId body reconciliation now}
      | _ => none

end Steps

/-! ### What an opening knows -/

/-- What an opening has read is what its caps were checked by, and bounds the rows there are
unless it has been overtaken. -/
structure Opening.Measured (charters : String → String → ResolvedCharter) (rows : List DispatchRecord)
    (opening : Opening) : Prop where
  count : opening.phase ≠ .started →
    (opening.count : Int) < (charters opening.call.auth.workspaceId opening.call.auth.userId).caps.maxConcurrentDispatches ∧
      (opening.overtaken = false →
        openDispatchCount rows opening.call.auth.workspaceId opening.call.auth.userId ≤ opening.count)
  total : ∀ amount, opening.phase.amount = some amount → 0 ≤ amount ∧
    opening.total + amount ≤
      (charters opening.call.auth.workspaceId opening.call.auth.userId).caps.budgetMinorUnits ∧
    (opening.overtaken = false →
      openReservationTotal rows opening.call.auth.workspaceId opening.call.auth.userId ≤ opening.total)
  row : ∀ record, opening.phase = .inserted record → ∀ workspaceId ownerId,
    record.isOpenOf workspaceId ownerId ↔
      opening.call.auth.workspaceId = workspaceId ∧ opening.call.auth.userId = ownerId

section Measured
variable {charters : String → String → ResolvedCharter} {rows rows' : List DispatchRecord} {opening : Opening}

/-- Rows that close leave what has been read a bound. -/
theorem Opening.Measured.mono (h : opening.Measured charters rows)
    (hcount : openDispatchCount rows' opening.call.auth.workspaceId opening.call.auth.userId ≤
      openDispatchCount rows opening.call.auth.workspaceId opening.call.auth.userId)
    (htotal : openReservationTotal rows' opening.call.auth.workspaceId opening.call.auth.userId ≤
      openReservationTotal rows opening.call.auth.workspaceId opening.call.auth.userId) :
    opening.Measured charters rows' where
  count hphase := ⟨(h.count hphase).1, fun hfresh => hcount.trans ((h.count hphase).2 hfresh)⟩
  total amount hamount :=
    ⟨(h.total amount hamount).1, (h.total amount hamount).2.1,
      fun hfresh => htotal.trans ((h.total amount hamount).2.2 hfresh)⟩
  row := h.row

/-- A row that is committed overtakes the openings of its owner, and is nothing to the rest. -/
theorem Opening.Measured.append (h : opening.Measured charters rows) (record : DispatchRecord) :
    Opening.Measured charters (rows ++ [record])
      {opening with overtaken := opening.overtaken || opening.isOf record} where
  count hphase := by
    refine ⟨(h.count hphase).1, fun hfresh => ?_⟩
    obtain ⟨hfresh, hother⟩ := Bool.or_eq_false_iff.mp hfresh
    exact (append_other (ne_true_of_eq_false hother)).1.trans_le ((h.count hphase).2 hfresh)
  total amount hamount := by
    refine ⟨(h.total amount hamount).1, (h.total amount hamount).2.1, fun hfresh => ?_⟩
    obtain ⟨hfresh, hother⟩ := Bool.or_eq_false_iff.mp hfresh
    exact (append_other (ne_true_of_eq_false hother)).2.trans_le ((h.total amount hamount).2.2 hfresh)
  row := h.row

end Measured

/-! ### Runs without overtaking -/

section Runs
variable {host : Host} {charters : String → String → ResolvedCharter} {s s' : IsolatedState ι}

/-- No opening commits that another has overtaken. -/
def NotOvertaken (s : IsolatedState ι) : Statement ι → Prop
  | .commit tx => (s.opening tx).all (!·.overtaken)
  | _ => True

instance (s : IsolatedState ι) (a : Statement ι) : Decidable (NotOvertaken s a) :=
  match a with
  | .commit _ => inferInstanceAs (Decidable (_ = true))
  | .start .. | .count _ | .sum _ | .insert .. | .rollback _ | .lock .. | .update .. | .commitClosing _ =>
    inferInstanceAs (Decidable True)

/-- The owner's rows are within the caps, and every opening under way knows it. -/
structure Isolated (charters : String → String → ResolvedCharter) (workspaceId ownerId : String)
    (s : IsolatedState ι) : Prop where
  fits : Fits (charters workspaceId ownerId).caps workspaceId ownerId s.dispatches.rows
  reservations : ∀ record ∈ s.dispatches.rows, record.finishedAt = none → 0 ≤ record.budgetReservedMinorUnits
  openings : ∀ entry ∈ s.openings, entry.2.Measured charters s.dispatches.rows

namespace Isolated
variable {workspaceId ownerId : String}

theorem measured (h : Isolated charters workspaceId ownerId s) {tx : ι} {opening : Opening}
    (hopening : s.opening tx = some opening) : opening.Measured charters s.dispatches.rows := by
  obtain ⟨entry, hentry, rfl⟩ := Option.map_eq_some_iff.mp hopening
  exact h.openings entry (List.mem_of_find?_eq_some hentry)

theorem done (h : Isolated charters workspaceId ownerId s) (tx : ι) :
    Isolated charters workspaceId ownerId (s.done tx) :=
  ⟨h.fits, h.reservations, fun entry hentry => h.openings entry (List.mem_of_mem_filter hentry)⟩

theorem setOpening (h : Isolated charters workspaceId ownerId s) {tx : ι} {opening : Opening}
    (hmeasured : opening.Measured charters s.dispatches.rows) :
    Isolated charters workspaceId ownerId (s.setOpening tx opening) := by
  refine ⟨h.fits, h.reservations, fun entry hentry => ?_⟩
  rcases List.mem_cons.mp hentry with rfl | hentry
  · exact hmeasured
  · exact h.openings entry (List.mem_of_mem_filter hentry)

omit [DecidableEq ι] in
theorem commitRow (h : Isolated charters workspaceId ownerId s) {opening : Opening} {record : DispatchRecord}
    {dispatches : DispatchTable} (hmeasured : opening.Measured charters s.dispatches.rows)
    (hphase : opening.phase = .inserted record) (hfresh : opening.overtaken = false)
    (hinsert : s.dispatches.insert record = some dispatches) :
    Isolated charters workspaceId ownerId (s.commitRow record dispatches) := by
  have hrows := DispatchTable.insert_eq_some hinsert
  have hamount : opening.phase.amount = some record.budgetReservedMinorUnits := by rw [hphase]; rfl
  obtain ⟨hlt, hcount⟩ := hmeasured.count (by rw [hphase]; intro h; cases h)
  obtain ⟨hnonneg, hroom, htotal⟩ := hmeasured.total _ hamount
  refine ⟨?_, fun r hr hopen => ?_, fun entry hentry => ?_⟩
  · show Fits _ workspaceId ownerId dispatches.rows
    rw [hrows]
    by_cases hown : record.isOpenOf workspaceId ownerId
    · obtain ⟨rfl, rfl⟩ := (hmeasured.row record hphase workspaceId ownerId).mp hown
      refine h.fits.append_opened (lt_of_le_of_lt ?_ hlt) ?_ hown hnonneg
      · exact_mod_cast hcount hfresh
      · exact (add_le_add_left (htotal hfresh) _).trans hroom
    · exact h.fits.append_other hown
  · change r ∈ dispatches.rows at hr
    rw [hrows] at hr
    rcases List.mem_append.mp hr with hr | hr
    · exact h.reservations r hr hopen
    · rw [List.mem_singleton.mp hr]
      exact hnonneg
  · obtain ⟨before, hbefore, rfl⟩ := List.mem_map.mp hentry
    show Opening.Measured charters dispatches.rows _
    rw [hrows]
    exact (h.openings before hbefore).append record

theorem commitClosing (h : Isolated charters workspaceId ownerId s) (tx : ι) (dispatchId : String)
    (body : DispatchReconcileRequest) (reconciliation : Option Reconciliation) (now : Instant) :
    Isolated charters workspaceId ownerId
      {s.done tx with dispatches := s.dispatches.reconcile dispatchId body reconciliation now} := by
  refine ⟨h.fits.close (reconcile_closes workspaceId ownerId), fun record hrecord hopen => ?_, fun entry hentry => ?_⟩
  · obtain ⟨before, hbefore, rfl⟩ := List.mem_map.mp hrecord
    split_ifs at hopen ⊢
    · cases hopen
    · exact h.reservations before hbefore hopen
  · obtain ⟨hcount, htotal⟩ := close_le
      (reconcile_closes entry.2.call.auth.workspaceId entry.2.call.auth.userId)
      fun record hrecord hopen => h.reservations record hrecord (DispatchRecord.isOpenOf_iff.mp hopen).2
    exact (h.openings entry (List.mem_of_mem_filter hentry)).mono hcount htotal

/-- What an opening counts, sums and inserts is what it is measured by. -/
theorem countStatement (h : Isolated charters workspaceId ownerId s) {tx : ι} {opening : Opening}
    (hnext : Dispatch.countStatement charters s tx opening = some s') : Isolated charters workspaceId ownerId s' := by
  simp only [Dispatch.countStatement] at hnext
  split at hnext
  · rename_i hphase hcheck
    obtain rfl := Option.some.inj hnext
    refine h.setOpening ⟨fun _ => ⟨countCheck_ok_iff.mp hcheck, fun _ => le_refl _⟩, ?_, ?_⟩
    · intro amount hamount
      cases hamount
    · intro record hinserted
      cases hinserted
  · obtain rfl := Option.some.inj hnext
    exact h.done tx
  · cases hnext

theorem sumStatement (h : Isolated charters workspaceId ownerId s) {tx : ι} {opening : Opening}
    (hmeasured : opening.Measured charters s.dispatches.rows)
    (hnext : Dispatch.sumStatement charters s tx opening = some s') : Isolated charters workspaceId ownerId s' := by
  simp only [Dispatch.sumStatement] at hnext
  split at hnext
  · rename_i reservation hphase hcheck
    obtain rfl := Option.some.inj hnext
    obtain ⟨hreserved, hnonneg, hroom⟩ := reserveOrRefuse_ok hcheck
    refine h.setOpening ⟨fun _ => hmeasured.count (by rw [hphase]; intro h; cases h), ?_, ?_⟩
    · rintro amount ⟨⟩
      rw [hreserved]
      exact ⟨hnonneg, hroom, fun _ => le_refl _⟩
    · intro record hinserted
      cases hinserted
  · obtain rfl := Option.some.inj hnext
    exact h.done tx
  · cases hnext

theorem insertStatement (h : Isolated charters workspaceId ownerId s) {tx : ι} {newId : String} {opening : Opening}
    (hmeasured : opening.Measured charters s.dispatches.rows)
    (hnext : Dispatch.insertStatement charters s tx newId opening = some s') :
    Isolated charters workspaceId ownerId s' := by
  simp only [Dispatch.insertStatement] at hnext
  split at hnext
  · rename_i reservation hphase
    split at hnext
    · obtain rfl := Option.some.inj hnext
      exact h.done tx
    rename_i record hrow
    obtain ⟨matrix, _, hrow⟩ := bind_ok hrow
    cases hrow
    split_ifs at hnext
    · obtain rfl := Option.some.inj hnext
      exact h.done tx
    · obtain rfl := Option.some.inj hnext
      refine h.setOpening ⟨fun _ => hmeasured.count (by rw [hphase]; intro h; cases h), ?_, ?_⟩
      · rintro amount ⟨⟩
        exact hmeasured.total _ (by rw [hphase]; rfl)
      · rintro record ⟨⟩ workspaceId ownerId
        exact DispatchRecord.isOpenOf_iff.trans (and_iff_left rfl)
  · cases hnext

theorem next (h : Isolated charters workspaceId ownerId s) {a : Statement ι} (hfresh : NotOvertaken s a)
    (hnext : (isolatedSystem host charters ι).next s a = some s') : Isolated charters workspaceId ownerId s' := by
  cases a with
  | start tx call reconcileComplete selfTests =>
    simp only [isolatedSystem] at hnext
    split at hnext
    · obtain rfl := Option.some.inj hnext
      refine h.setOpening ⟨fun hphase => absurd rfl hphase, ?_, ?_⟩
      · intro amount hamount
        cases hamount
      · intro record hinserted
        cases hinserted
    · cases hnext
  | count tx =>
    obtain ⟨opening, hopening, hnext⟩ := Option.bind_eq_some_iff.mp hnext
    exact h.countStatement hnext
  | sum tx =>
    obtain ⟨opening, hopening, hnext⟩ := Option.bind_eq_some_iff.mp hnext
    exact h.sumStatement (h.measured hopening) hnext
  | insert tx newId =>
    obtain ⟨opening, hopening, hnext⟩ := Option.bind_eq_some_iff.mp hnext
    exact h.insertStatement (h.measured hopening) hnext
  | commit tx =>
    obtain ⟨opening, hopening, hnext⟩ := Option.bind_eq_some_iff.mp hnext
    have hfresh : opening.overtaken = false := by simpa [NotOvertaken, hopening] using hfresh
    unfold commitStatement at hnext
    split at hnext
    · rename_i record hphase
      obtain ⟨dispatches, hinsert, rfl⟩ := Option.map_eq_some_iff.mp hnext
      exact (h.done tx).commitRow (h.measured hopening) hphase hfresh hinsert
    · cases hnext
  | rollback tx =>
    obtain rfl := Option.some.inj hnext
    exact h.done tx
  | lock tx dispatchId =>
    simp only [isolatedSystem] at hnext
    split_ifs at hnext
    obtain ⟨record, _, rfl⟩ := Option.map_eq_some_iff.mp hnext
    exact ⟨h.fits, h.reservations, h.openings⟩
  | update tx body now =>
    simp only [isolatedSystem] at hnext
    split at hnext
    · obtain rfl := Option.some.inj hnext
      exact ⟨h.fits, h.reservations, h.openings⟩
    · cases hnext
  | commitClosing tx =>
    simp only [isolatedSystem] at hnext
    split at hnext
    · obtain rfl := Option.some.inj hnext
      exact h.commitClosing tx _ _ _ _
    · cases hnext

end Isolated

/-- In every run in which no opening commits that another of its owner has overtaken since
its count, the owner's open rows and what they reserve are within the caps. -/
theorem isolated_within_caps (host : Host) (charters : String → String → ResolvedCharter) (workspaceId ownerId : String)
    (hcount : 0 ≤ (charters workspaceId ownerId).caps.maxConcurrentDispatches)
    (hbudget : 0 ≤ (charters workspaceId ownerId).caps.budgetMinorUnits)
    (h : ((isolatedSystem host charters ι).restrict NotOvertaken).Reachable s) :
    (openDispatchCount s.dispatches.rows workspaceId ownerId : Int) ≤
        (charters workspaceId ownerId).caps.maxConcurrentDispatches ∧
      openReservationTotal s.dispatches.rows workspaceId ownerId ≤
        (charters workspaceId ownerId).caps.budgetMinorUnits := by
  have hisolated : Isolated charters workspaceId ownerId s := by
    refine System.Reachable.invariant (fun s hinit => ?_) (fun s a s' _ hisolated hnext => ?_) h
    · refine ⟨fits_of_finished hcount hbudget hinit.1, fun record hrecord hopen => absurd hopen (hinit.1 record hrecord),
        fun entry hentry => ?_⟩
      rw [hinit.2.1] at hentry
      cases hentry
    · obtain ⟨hfresh, hnext⟩ := System.restrict_next hnext
      exact hisolated.next hfresh hnext
  exact ⟨hisolated.fits.count, hisolated.fits.budget⟩

end Runs

/-! ### Two openings -/

/-- Two transactions under a charter for one dispatch. -/
def emptyTable : IsolatedState Bool := ⟨.empty, [], []⟩

def exampleSystem : System (IsolatedState Bool) (Statement Bool) :=
  isolatedSystem (asciiHost [] []) (fun _ _ => exampleCharter) Bool

theorem emptyTable_init : exampleSystem.init emptyTable := ⟨fun _ h => absurd h List.not_mem_nil, rfl, rfl⟩

/-- The statements of one opening. -/
def openingOf (tx : Bool) (directiveId newId : String) : List (Statement Bool) :=
  [.start tx (exampleCall directiveId) true [], .count tx, .sum tx, .insert tx newId, .commit tx]

/-- One after the other: the second is refused. -/
theorem isolated_within_caps_serial : ∃ s,
    (exampleSystem.restrict NotOvertaken).run emptyTable (openingOf true "d" "x" ++ (openingOf false "e" "y").take 2) =
      some s ∧
    openDispatchCount s.dispatches.rows "w" "o" = 1 ∧ (openDispatchCount s.dispatches.rows "w" "o" : Int) ≤ 1 ∧
    openReservationTotal s.dispatches.rows "w" "o" ≤ 10 := by
  let run := (exampleSystem.restrict NotOvertaken).run emptyTable
    (openingOf true "d" "x" ++ (openingOf false "e" "y").take 2)
  obtain ⟨s, hs⟩ := Option.isSome_iff_exists.mp (show run.isSome by decide +kernel)
  have hcount : run.map (fun s => openDispatchCount s.dispatches.rows "w" "o") = some 1 := by decide +kernel
  rw [hs] at hcount
  have hcaps := isolated_within_caps (asciiHost [] []) (fun _ _ => exampleCharter) "w" "o" (by decide) (by decide)
    (System.Reachable.run (.init emptyTable_init) hs)
  exact ⟨s, hs, Option.some.inj hcount, hcaps⟩

/-- Both count before either commits: both fit, and are two. -/
theorem isolated_exceeds_caps : ¬ ∀ host charters workspaceId ownerId (s : IsolatedState Bool),
    0 ≤ (charters workspaceId ownerId).caps.maxConcurrentDispatches →
    0 ≤ (charters workspaceId ownerId).caps.budgetMinorUnits → (isolatedSystem host charters Bool).Reachable s →
      (openDispatchCount s.dispatches.rows workspaceId ownerId : Int) ≤
          (charters workspaceId ownerId).caps.maxConcurrentDispatches ∧
        openReservationTotal s.dispatches.rows workspaceId ownerId ≤
          (charters workspaceId ownerId).caps.budgetMinorUnits := by
  intro h
  let run := exampleSystem.run emptyTable
    [.start true (exampleCall "d") true [], .start false (exampleCall "e") true [], .count true, .count false,
      .sum true, .sum false, .insert true "x", .insert false "y", .commit true, .commit false]
  obtain ⟨s, hs⟩ := Option.isSome_iff_exists.mp (show run.isSome by decide +kernel)
  have hcount : run.map (fun s => openDispatchCount s.dispatches.rows "w" "o") = some 2 := by decide +kernel
  rw [hs] at hcount
  have hcaps := h (asciiHost [] []) (fun _ _ => exampleCharter) "w" "o" s (by decide) (by decide)
    (System.Reachable.run (.init emptyTable_init) hs)
  have hcount : openDispatchCount s.dispatches.rows "w" "o" = 2 := Option.some.inj hcount
  rw [hcount] at hcaps
  exact absurd hcaps.1 (by decide)

end OpenTimeline.Dispatch
