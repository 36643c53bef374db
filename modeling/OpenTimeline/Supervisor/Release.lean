import OpenTimeline.Dispatch.Budget
import OpenTimeline.Supervisor.WallClock

/-! Dispatches that are opened and closed.

An opening takes a concurrency slot and a reservation, and one call gives them back: the
reconciliation at the end of `dispatch_once`. Between the two are the claim, the root effect, the
profile, the start, the loop, the report and the verification; where one of them raises the run
is over and its dispatch stays open. The API's startup reconcile looks at directives and their
effects.

`released_iff` has the runs in which no dispatch stays open without a run. -/
namespace OpenTimeline.Supervisor
open Library Charter Dispatch

variable (host : Host) (round : PyFloat → Int)

/-! ### A run with an open dispatch -/

/-- A run once its dispatch is open: which of the calls up to the start do not raise, the child it
starts, and which of the later calls do not raise. -/
structure DispatchRun where
  claim : Bool := true
  openRoot : Bool := true
  verifyProfile : Bool := true
  start : Bool := true
  watch : Watch
  answers : Answers := {}
  wallMs : Int := 0

def Outcome.value : Outcome → String
  | succeeded => "succeeded"
  | failed => "failed"
  | interrupted => "interrupted"
  | unknown => "unknown"

namespace DispatchRun
variable (run : DispatchRun)

/-- The calls before the last. -/
def callsBefore : List (Act × Bool) :=
  [(.claim, run.claim), (.openRoot, run.openRoot), (.verifyProfile, run.verifyProfile), (.start, run.start),
    (.markRunning, run.answers.markRunning)] ++ ((run.watch.watched host).ended.acts ++
  let (state, source) := rootState (run.watch.override host) (run.watch.result host round).outcome
  [(.readResult, true), (.resolveRoot state source, run.answers.resolveRoot),
    (.report (run.watch.reportState host round), run.answers.report), (.verifyProfile, run.answers.verifyProfile),
    (.verify, run.answers.verify)])

/-- The calls of `dispatch_once` once its dispatch is open. -/
def calls : List (Act × Bool) :=
  [(.claim, run.claim), (.openRoot, run.openRoot), (.verifyProfile, run.verifyProfile), (.start, run.start)] ++
    run.watch.calls host round run.answers

/-- The reconciliation the API is sent; the numbers stand beside the object it takes them from. -/
def reconciliation : DispatchReconcileRequest where
  outcome := (run.watch.override host).getD (run.watch.result host round).outcome.value
  terminalReason := (run.watch.override host).getD (run.watch.result host round).terminalReason
  wallMs := run.wallMs
  humanInterventionCount := (run.watch.watched host).child.events.countP (·.kind = .approval)

/-- The run gets to its reconciliation, and the API takes it. -/
def Reconciles : Prop := .reconcile ∈ performed (run.calls host round) ∧ run.answers.reconcile = true

/-- No call of the run raises. -/
structure Passes : Prop where
  claim : run.claim = true
  openRoot : run.openRoot = true
  verifyProfile : run.verifyProfile = true
  start : run.start = true
  markRunning : run.answers.markRunning = true
  charter : ¬ run.watch.CutOff host
  resolveRoot : run.answers.resolveRoot = true
  report : run.answers.report = true
  profileAgain : run.answers.verifyProfile = true
  verify : run.answers.verify = true
  reconcile : run.answers.reconcile = true

instance : Decidable (run.Reconciles host round) := inferInstanceAs (Decidable (_ ∧ _))

end DispatchRun

/-- A call is made exactly where none before it raises. -/
theorem mem_performed_concat {before : List (Act × Bool)} {act : Act} {passes : Bool}
    (h : act ∉ before.map (·.1)) :
    act ∈ performed (before ++ [(act, passes)]) ↔ ∀ call ∈ before, call.2 = true := by
  induction before with
  | nil => simp [performed]
  | cons call before ih =>
    obtain ⟨hcall, hbefore⟩ := not_or.mp (List.mem_cons.not.mp h)
    cases hpasses : call.2 with
    | true => simp [performed, hpasses, hcall, ih hbefore]
    | false => simp [performed, hpasses, hcall]

/-- The loop's own calls raise where the charter cannot be read. -/
theorem Ended.acts_pass_iff (ended : Ended) : (∀ call ∈ ended.acts, call.2 = true) ↔ ended ≠ .raised := by
  cases ended with
  | done => simp [Ended.acts]
  | raised => simp [Ended.acts]
  | stopped stop => cases stop <;> simp [Ended.acts]

variable {host round} in
theorem DispatchRun.reconciles_iff (run : DispatchRun) : run.Reconciles host round ↔ run.Passes host := by
  have hcalls : run.calls host round = run.callsBefore host round ++ [(.reconcile, run.answers.reconcile)] := by
    simp [DispatchRun.calls, DispatchRun.callsBefore, Watch.calls, Watch.settling]
  have hnot : Act.reconcile ∉ (run.callsBefore host round).map (·.1) := by
    cases hended : (run.watch.watched host).ended with
    | stopped stop => cases stop <;> simp [DispatchRun.callsBefore, hended, Ended.acts]
    | done => simp [DispatchRun.callsBefore, hended, Ended.acts]
    | raised => simp [DispatchRun.callsBefore, hended, Ended.acts]
  have hended := Ended.acts_pass_iff (run.watch.watched host).ended
  rw [DispatchRun.Reconciles, hcalls, mem_performed_concat hnot]
  rw [ne_eq, Watch.watched_raised_iff] at hended
  simp only [DispatchRun.callsBefore, List.forall_mem_append, hended, List.forall_mem_cons]
  constructor
  · rintro ⟨⟨⟨hclaim, hroot, hprofile, hstart, hrunning, -⟩, hcut, -, hresolve, hreport, hagain, hverify, -⟩, hreconcile⟩
    exact ⟨hclaim, hroot, hprofile, hstart, hrunning, hcut, hresolve, hreport, hagain, hverify, hreconcile⟩
  · intro h
    exact ⟨⟨⟨h.claim, h.openRoot, h.verifyProfile, h.start, h.markRunning, by simp⟩, h.charter, trivial, h.resolveRoot,
      h.report, h.profileAgain, h.verify, by simp⟩, h.reconcile⟩

/-! ### The system -/

/-- The API's dispatches, and the dispatch each run of a supervisor holds. -/
structure ReleaseState where
  db : Database
  reconcileComplete : Bool
  running : List String

inductive ReleaseAction
  /-- a run comes to `open_dispatch` -/
  | openDispatch (auth : AuthContext) (charter : ResolvedCharter) (body : DispatchOpenRequest) (settings : Settings)
      (now : Instant) (newId : String)
  /-- the run at this place does the rest and is over -/
  | finish (place : Nat) (run : DispatchRun) (now : Instant)
  | recordSelfTest (selfTest : SandboxSelfTest)
  /-- the API is started again -/
  | restart
  /-- and has swept its directives and effects -/
  | startupReconcile

/-- Runs of `dispatch_once` beside one another, and restarts of the API. -/
def releaseSystem : System ReleaseState ReleaseAction where
  init s := (∀ record ∈ s.db.dispatches.rows, record.finishedAt ≠ none) ∧ s.running = []
  next s
    | .openDispatch auth charter body settings now newId =>
      match openDispatch s.reconcileComplete auth charter body settings now newId s.db with
      | (db, .ok record) => some {s with db, running := s.running ++ [record.id]}
      | (db, .error _) => some {s with db}
    | .finish place run now =>
      s.running[place]?.map fun dispatchId => {s with
        db := if run.Reconciles host round then
            (runCasSection (reconcileSection host dispatchId (run.reconciliation host round) now) s.db).1
          else s.db
        running := s.running.eraseIdx place}
    | .recordSelfTest selfTest => some {s with db := {s.db with selfTests := s.db.selfTests ++ [selfTest]}}
    | .restart => some {s with reconcileComplete := false}
    | .startupReconcile => some {s with reconcileComplete := true}

/-- No dispatch is open that no run holds; and so an owner none of whose dispatches a run holds has
all its slots and all its budget. -/
structure Released (s : ReleaseState) : Prop where
  held : ∀ record ∈ s.db.dispatches.rows, record.finishedAt = none → record.id ∈ s.running
  free : ∀ workspaceId ownerId, (∀ record ∈ s.db.dispatches.rows, record.workspaceId = workspaceId →
    record.ownerId = ownerId → record.id ∉ s.running) →
      openDispatchCount s.db.dispatches.rows workspaceId ownerId = 0 ∧
        openReservationTotal s.db.dispatches.rows workspaceId ownerId = 0

/-- A run that is over had no call that raised, or another run holds its dispatch, or the dispatch was
finished before. -/
def Releases (s : ReleaseState) : ReleaseAction → Prop
  | .finish place run _ => ∀ dispatchId, s.running[place]? = some dispatchId → run.Passes host ∨
      dispatchId ∈ s.running.eraseIdx place ∨
        ∀ record ∈ s.db.dispatches.rows, record.id = dispatchId → record.finishedAt ≠ none
  | _ => True

variable {host round} {s s' : ReleaseState}

/-! ### One step -/

theorem released_of_held (h : ∀ record ∈ s.db.dispatches.rows, record.finishedAt = none → record.id ∈ s.running) :
    Released s := by
  refine ⟨h, fun workspaceId ownerId hnone => ?_⟩
  have hclosed : ∀ record ∈ s.db.dispatches.rows, ¬ record.isOpenOf workspaceId ownerId := by
    intro record hrecord hopen
    obtain ⟨⟨hworkspace, howner⟩, hfinished⟩ := DispatchRecord.isOpenOf_iff.mp hopen
    exact hnone record hrecord hworkspace howner (h record hrecord hfinished)
  constructor
  · exact List.countP_eq_zero.mpr hclosed
  · rw [openReservationTotal, List.filter_eq_nil_iff.mpr hclosed]
    rfl

theorem mem_eraseIdx_of_ne {running : List String} {place : Nat} {dispatchId id : String}
    (hplace : running[place]? = some dispatchId) (hid : id ∈ running) (hne : id ≠ dispatchId) :
    id ∈ running.eraseIdx place := by
  obtain ⟨i, hi⟩ := List.getElem?_of_mem hid
  refine List.mem_eraseIdx_iff_getElem?.mpr ⟨i, ?_, hi⟩
  rintro rfl
  rw [hplace] at hi
  exact hne (Option.some.inj hi).symm

/-- When a run is over and has closed nothing, its dispatch is still held or finished. -/
theorem held_eraseIdx_iff {rows : List DispatchRecord} {running : List String} {place : Nat} {dispatchId : String}
    (hplace : running[place]? = some dispatchId)
    (hheld : ∀ record ∈ rows, record.finishedAt = none → record.id ∈ running) :
    (∀ record ∈ rows, record.finishedAt = none → record.id ∈ running.eraseIdx place) ↔
      dispatchId ∈ running.eraseIdx place ∨ ∀ record ∈ rows, record.id = dispatchId → record.finishedAt ≠ none := by
  constructor
  · intro h
    by_cases hmem : dispatchId ∈ running.eraseIdx place
    · exact Or.inl hmem
    · exact Or.inr fun record hrecord hid hopen => hmem (hid ▸ h record hrecord hopen)
  · intro h record hrecord hopen
    by_cases hid : record.id = dispatchId
    · obtain hmem | hfinished := h
      · exact hid ▸ hmem
      · exact absurd hopen (hfinished record hrecord hid)
    · exact mem_eraseIdx_of_ne hplace (hheld record hrecord hopen) hid

variable (host round) in
/-- A reconciliation that says nothing of the cost is taken, where there is a dispatch. -/
theorem reconcileSection_reconciliation (run : DispatchRun) (dispatchId : String) (now : Instant) (db : Database) :
    let after := (runCasSection (reconcileSection host dispatchId (run.reconciliation host round) now) db).1
    (db.dispatches.find dispatchId = none ∧ after = db) ∨ ∃ reconciliation, after.dispatches =
      db.dispatches.reconcile dispatchId (run.reconciliation host round) (some reconciliation) now := by
  cases hfind : db.dispatches.find dispatchId with
  | none => exact Or.inl ⟨rfl, by simp [runCasSection, reconcileSection, hfind, refuse]⟩
  | some record =>
    refine Or.inr ⟨⟨0, .unavailable, 0, 0, 0, 0, 0⟩, ?_⟩
    have hjson : reconciliationFromJson host (run.reconciliation host round).reconciliation =
        .ok ⟨0, .unavailable, 0, 0, 0, 0, 0⟩ := rfl
    simp [runCasSection, reconcileSection, hfind, hjson, passing]

/-- A run that opens a dispatch holds it. -/
theorem held_of_opened {auth : AuthContext} {charter : ResolvedCharter} {body : DispatchOpenRequest} {settings : Settings}
    {now : Instant} {newId : String} {db : Database} {record : DispatchRecord}
    (h : openDispatch s.reconcileComplete auth charter body settings now newId s.db = (db, .ok record))
    (hheld : ∀ record ∈ s.db.dispatches.rows, record.finishedAt = none → record.id ∈ s.running) :
    ∀ other ∈ db.dispatches.rows, other.finishedAt = none → other.id ∈ s.running ++ [record.id] := by
  unfold openDispatch at h
  split at h
  · cases h
  · obtain ⟨-, rfl⟩ | ⟨-, -, hinsert⟩ := openSection_cases (runCasSection_ok h)
    · exact fun other hother hopen => List.mem_append_left _ (hheld other hother hopen)
    · rw [DispatchTable.insert_eq_some hinsert]
      intro other hother hopen
      obtain hother | hother := List.mem_append.mp hother
      · exact List.mem_append_left _ (hheld other hother hopen)
      · rw [List.mem_singleton.mp hother]
        simp

/-- A run that reconciles leaves nothing open behind it. -/
theorem held_of_reconciles {run : DispatchRun} {place : Nat} {dispatchId : String} {now : Instant}
    (hplace : s.running[place]? = some dispatchId)
    (hheld : ∀ record ∈ s.db.dispatches.rows, record.finishedAt = none → record.id ∈ s.running) :
    ∀ record ∈ (runCasSection (reconcileSection host dispatchId (run.reconciliation host round) now) s.db).1.dispatches.rows,
      record.finishedAt = none → record.id ∈ s.running.eraseIdx place := by
  obtain ⟨hfind, hsame⟩ | ⟨reconciliation, hreconciled⟩ :=
    reconcileSection_reconciliation host round run dispatchId now s.db
  · rw [hsame]
    refine (held_eraseIdx_iff hplace hheld).mpr (Or.inr fun record hrecord hid => ?_)
    have hfound := Table.find_eq_some_iff.mpr ⟨hrecord, hid⟩
    rw [hfind] at hfound
    cases hfound
  · rw [hreconciled]
    intro record hrecord hopen
    obtain ⟨before, hbefore, rfl⟩ := List.mem_map.mp hrecord
    by_cases hid : before.id = dispatchId
    · simp [hid, DispatchRecord.reconciled] at hopen
    · simp only [hid, decide_false, Bool.false_eq_true, if_false] at hopen ⊢
      exact mem_eraseIdx_of_ne hplace (hheld before hbefore hopen) hid

/-- What a step makes of the dispatches, by the step. -/
theorem released_step_iff {a : ReleaseAction} (hreleased : Released s)
    (h : (releaseSystem host round).next s a = some s') : Released s' ↔ Releases host s a := by
  have hheld := hreleased.held
  cases a with
  | openDispatch auth charter body settings now newId =>
    refine iff_of_true (released_of_held ?_) trivial
    simp only [releaseSystem] at h
    split at h
    · rename_i db record hopened
      cases h
      exact held_of_opened hopened hheld
    · rename_i db e hrefused
      cases h
      rw [openDispatch_error hrefused]
      exact hheld
  | finish place run now =>
    simp only [releaseSystem] at h
    obtain ⟨dispatchId, hplace, rfl⟩ := Option.map_eq_some_iff.mp h
    have hcondition : Releases host s (.finish place run now) ↔ run.Passes host ∨
        dispatchId ∈ s.running.eraseIdx place ∨
          ∀ record ∈ s.db.dispatches.rows, record.id = dispatchId → record.finishedAt ≠ none := by
      simp [Releases, hplace]
    rw [hcondition]
    by_cases hreconciles : run.Reconciles host round
    · refine iff_of_true (released_of_held ?_) (Or.inl (run.reconciles_iff.mp hreconciles))
      simp only [if_pos hreconciles]
      exact held_of_reconciles hplace hheld
    · have hpasses : ¬ run.Passes host := fun hpasses => hreconciles (run.reconciles_iff.mpr hpasses)
      rw [or_iff_right hpasses, ← held_eraseIdx_iff hplace hheld]
      simp only [if_neg hreconciles]
      exact ⟨fun hafter => hafter.held, fun hafter => released_of_held hafter⟩
  | recordSelfTest selfTest =>
    cases h
    exact iff_of_true (released_of_held hheld) trivial
  | restart =>
    cases h
    exact iff_of_true (released_of_held hheld) trivial
  | startupReconcile =>
    cases h
    exact iff_of_true (released_of_held hheld) trivial

variable (host round) in
/-- In a run of the system no dispatch stays open that no supervisor's run holds, exactly where each
supervisor's run that is over had no call that raised, or left its dispatch to another run of it, or
found it finished. -/
theorem released_iff {s s' : ReleaseState} {actions : List ReleaseAction} (hinit : (releaseSystem host round).init s)
    (hrun : (releaseSystem host round).run s actions = some s') :
    (∀ before after mid, actions = before ++ after → (releaseSystem host round).run s before = some mid → Released mid) ↔
      ∀ before a after mid, actions = before ++ a :: after → (releaseSystem host round).run s before = some mid →
        Releases host mid a := by
  refine System.run_always_iff (fun s a s' _ hreleased hnext => released_step_iff hreleased hnext) (.init hinit) ?_ hrun
  exact released_of_held fun record hrecord hopen => absurd hopen (hinit.1 record hrecord)

/-! ### A refused run -/

/-- No dispatches, and the API ready. -/
def noDispatches : ReleaseState := ⟨⟨.empty, [], []⟩, true, []⟩

/-- A child of `codex exec` that tells the end of its turn. -/
def shortWatch : Watch where
  surface := .codexExec
  wallSeconds := 60
  startedAt := 0
  observedAt := 0
  checkedAt := 0
  providerRunId := "p"
  threadId := none
  pending := []
  polls := [⟨1, .line (some ⟨1, [("type", .str "turn.completed")]⟩) ⟨1, 1, 1, .stands, false⟩⟩]
  left := []

def openingOf (directiveId newId : String) : ReleaseAction :=
  .openDispatch exampleAuth exampleCharter (exampleBody directiveId) exampleSettings epoch newId

theorem noDispatches_init : (releaseSystem (asciiHost [] []) fun _ => 0).init noDispatches :=
  ⟨fun _ h => absurd h List.not_mem_nil, rfl⟩

theorem released_iff_passing : ∃ s, (releaseSystem (asciiHost [] []) fun _ => 0).run noDispatches
    [openingOf "d" "x", .finish 0 { watch := shortWatch } epoch] = some s ∧ Released s := by
  let run := (releaseSystem (asciiHost [] []) fun _ => 0).run noDispatches
    [openingOf "d" "x", .finish 0 { watch := shortWatch } epoch]
  obtain ⟨s, hs⟩ := Option.isSome_iff_exists.mp (show run.isSome by decide +kernel)
  refine ⟨s, hs, (released_iff _ _ noDispatches_init hs).mpr ?_ _ [] s (List.append_nil _).symm hs⟩
  intro before a after mid hsplit _
  have ha : a ∈ [openingOf "d" "x", .finish 0 { watch := shortWatch } epoch] := by
    rw [hsplit]
    simp
  simp only [List.mem_cons, List.not_mem_nil, or_false] at ha
  obtain rfl | rfl := ha
  · trivial
  · have hreconciles : DispatchRun.Reconciles (asciiHost [] []) (fun _ => 0) { watch := shortWatch } := by decide +kernel
    exact fun _ _ => Or.inl ((DispatchRun.reconciles_iff _).mp hreconciles)

/-- A refused claim leaves the dispatch open for good, through a restart of the API, and with one slot
the owner's next dispatch is refused. -/
theorem refused_claim_blocks : ∃ s, (releaseSystem (asciiHost [] []) fun _ => 0).Reachable s ∧ ¬ Released s ∧
    s.running = [] ∧ s.db.dispatches.rows.map (fun record => (record.id, record.finishedAt)) = [("x", none)] ∧
      (openDispatch s.reconcileComplete exampleAuth exampleCharter (exampleBody "e") exampleSettings epoch "y"
        s.db).2.toOption = none := by
  let run := (releaseSystem (asciiHost [] []) fun _ => 0).run noDispatches
    [openingOf "d" "x", .finish 0 { claim := false, watch := shortWatch } epoch, .restart, .startupReconcile]
  obtain ⟨s, hs, hstate⟩ := (Option.any_eq_true _ _).mp (show run.any (fun s => decide (s.running = [] ∧
    s.db.dispatches.rows.map (fun record => (record.id, record.finishedAt)) = [("x", none)] ∧
      (openDispatch s.reconcileComplete exampleAuth exampleCharter (exampleBody "e") exampleSettings epoch "y"
        s.db).2.toOption = none)) from by decide +kernel)
  obtain ⟨hrunning, hrows, hrefused⟩ := of_decide_eq_true hstate
  refine ⟨s, (System.Reachable.init noDispatches_init).run hs, fun hreleased => ?_, hrunning, hrows, hrefused⟩
  obtain ⟨record, hrecord, heq⟩ : ∃ record ∈ s.db.dispatches.rows, (record.id, record.finishedAt) = ("x", none) := by
    rw [← List.mem_map, hrows]
    simp
  have hheld := hreleased.held record hrecord (congrArg Prod.snd heq)
  rw [hrunning] at hheld
  exact absurd hheld List.not_mem_nil

end OpenTimeline.Supervisor
