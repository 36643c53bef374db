import OpenTimeline.Dream.Full

/-! Full's writers against each other.

The sweep, the reconcile and the owner's route each read proposals without a lock and append
under one, any number of them at once and in any order. A turn leaves its log legal exactly
where the status at the lock is still one its decision is for (`Held.fits_iff`), and what is
illegal in a log stays there: so the logs of a run are legal exactly as long as every turn of
it fits (`races_legal`). -/
namespace OpenTimeline.Dream.Full
open Library
open TaskState (TaskStore TaskStateProjection)
open Planning (BindCall)

variable (host : Host) (isoformat : Instant → String)

/-! ### Writers -/

/-- What a writer does with a row it has read. -/
inductive Turn
  | sweep (request : SweepRequest)
  | reconcile (planner : Planner) (call : BindCall) (afterSurfaces : Int)
  | verdict (request : VerdictRequest)

def Turn.scope : Turn → DreamScope
  | .sweep request => request.scope
  | .reconcile _ call _ => dreamScope call.scope
  | .verdict request => request.scope

def Turn.afterSurfaces : Turn → Int
  | .sweep request => request.afterSurfaces
  | .reconcile _ _ afterSurfaces => afterSurfaces
  | .verdict request => request.afterSurfaces

/-- The rows it goes through. -/
def Turn.reads (db : DreamDatabase) : Turn → List ProposalRow
  | .sweep request => request.reads db
  | .reconcile _ call _ => db.pursuable (dreamScope call.scope)
  | .verdict request => request.reads db

/-- A row that was read and not yet come to. -/
structure Held where
  turn : Turn
  row : ProposalRow

/-- What is decided of it, and the task that is left. -/
def Held.decision (held : Held) (validate : Validator) (db : DreamDatabase) :
    DreamDatabase × List DreamProposalEvent :=
  match held.turn with
  | .sweep request => (db, request.events host isoformat validate held.row)
  | .reconcile planner call _ =>
    match reconcileOne host planner call db held.row with
    | .error _ => (db, [])
    | .ok (after, event) => (after, event.toList)
  | .verdict request => (db, [request.event isoformat])

/-- A turn. A batch that finds no row is lost. -/
def Held.take (held : Held) (validate : Validator) (db : DreamDatabase) : DreamDatabase :=
  let (decided, events) := held.decision host isoformat validate db
  if events = [] then decided
  else match applyDreamEvents host decided held.turn.scope held.row.id events held.turn.afterSurfaces with
  | .error _ => decided
  | .ok after => after

/-! ### The system -/

variable (W : Type) [DecidableEq W]

structure RaceState where
  db : DreamDatabase
  held : W → List Held

inductive RaceAction
  /-- A writer that is free reads its rows. -/
  | read (w : W) (turn : Turn)
  /-- It comes to one of them, its citations validated now. Its locks are let go of as each turn ends. -/
  | turn (w : W) (index : Nat) (validate : Validator)
  /-- It is done, or has failed. -/
  | stop (w : W)
  /-- Others write tasks. -/
  | tasks (tasks : TaskKey → Option TaskStore)

/-- A log that is minted and goes on as the table allows. -/
def legalLog : List DreamProposalEvent → Bool
  | [] => false
  | mint :: rest => mint.kind = .known .proposed && legalPath host (foldStep host {} mint) rest

/-- Every log is. -/
def Legal (db : DreamDatabase) : Prop := ∀ id row, db.proposals.find id = some row → legalLog host (db.log id)

/-- What the writers find: legal logs, and rows that have the status of their log. -/
structure Lawful (db : DreamDatabase) : Prop where
  kept : Kept db
  legal : Legal host db
  status : ∀ id row, db.proposals.find id = some row → row.status = (foldEvents host (db.log id)).status

def races : System (RaceState W) (RaceAction W) where
  init s := Lawful host s.db ∧ ∀ w, s.held w = []
  next s
    | .read w turn =>
      if (s.held w).isEmpty then
        some {s with held := Function.update s.held w ((turn.reads s.db).map fun row => ⟨turn, row⟩)}
      else none
    | .turn w index validate =>
      (s.held w)[index]?.map fun held =>
        { db := held.take host isoformat validate s.db
          held := Function.update s.held w ((s.held w).eraseIdx index) }
    | .stop w => some {s with held := Function.update s.held w []}
    | .tasks tasks => some {s with db := {s.db with tasks}}

/-! ### Where a turn fits -/

/-- The status at the lock is one the decision is for. -/
def Held.fits (held : Held) (validate : Validator) (db : DreamDatabase) (locked : DreamProposalStatus) : Bool :=
  match held.turn with
  | .sweep request =>
    if request.wakes held.row then locked = .snoozed
    else if request.lapses held.row then locked ∈ [.proposed, .surfaced, .snoozed]
    else
      let (surviving, dropped) := validate held.row.citations
      dropped = [] || request.minCitations ≤ surviving.length || locked ∈ liveStatuses
  | .reconcile planner call _ =>
    let scope := dreamScope call.scope
    match held.row.taskId with
    | none =>
      let bound := (Planning.bindObjective host planner call held.row (db.tasks (scope.taskKey call.sessionId))).toOption
      bound.join.isNone || locked = .accepted
    | some taskId =>
      match db.loadTaskState scope taskId with
      | none => locked ∈ [.accepted, .pursued]
      | some task =>
        if !objectiveAgrees held.row task || task.status = .cancelled then locked ∈ [.accepted, .pursued]
        else if task.status = .done ∧ held.row.status ≠ .completed then locked = .pursued
        else if held.row.status = .accepted ∧ planHasStarted task then locked = .accepted
        else true
  | .verdict request => (transitionAllowed locked request.action.kind).1

/-- A turn that fits, where there still is a row. -/
def Fits (s : RaceState W) : RaceAction W → Prop
  | .turn w index validate => ∀ held ∈ (s.held w)[index]?, ∀ row ∈ s.db.loadProposal held.turn.scope held.row.id,
    held.fits host validate s.db row.status
  | _ => True

instance (s : RaceState W) (a : RaceAction W) : Decidable (Fits host W s a) := by
  cases a <;> unfold Fits <;> infer_instance

/-! ### One turn -/

section Turns
variable {host isoformat} {held : Held} {validate : Validator} {db : DreamDatabase}

theorem pathFrom_stamp (status : DreamProposalStatus) (seq : Int) (batch : List DreamProposalEvent) :
    pathFrom status (stamp seq batch) = pathFrom status batch := by
  induction batch generalizing status seq with
  | nil => rfl
  | cons event rest ih => exact congrArg (allows status event && ·) (ih (statusAfter status event) (seq + 1))

theorem pathFrom_single (status : DreamProposalStatus) (kind : DreamProposalEventKind) (payload : Payload)
    (now : Instant) : pathFrom status [systemEventOf kind payload now] = (transitionAllowed status kind).1 :=
  Bool.and_true _

theorem pathFrom_revalidated (status : DreamProposalStatus) (payload : Payload) (now : Instant)
    (rest : List DreamProposalEvent) :
    pathFrom status (systemEventOf .evidenceRevalidated payload now :: rest) = pathFrom status rest :=
  Bool.true_and _

/-- The statuses the table has each decision for. -/
theorem transitionAllowed_eq (status : DreamProposalStatus) :
    (transitionAllowed status .unsnoozed).1 = decide (status = .snoozed) ∧
    (transitionAllowed status .expired).1 = decide (status ∈ [.proposed, .surfaced, .snoozed]) ∧
    (transitionAllowed status .withdrawn).1 = decide (status ∈ liveStatuses) ∧
    (transitionAllowed status .objectiveBound).1 = decide (status = .accepted) ∧
    (transitionAllowed status .pursuitStarted).1 = decide (status = .accepted) ∧
    (transitionAllowed status .pursuitAbandoned).1 = decide (status ∈ [.accepted, .pursued]) ∧
    (transitionAllowed status .completed).1 = decide (status = .pursued) := by
  cases status <;> decide

/-- What a sweep decides is legal where it fits. -/
theorem sweep_fits (request : SweepRequest) (row : ProposalRow) (locked : DreamProposalStatus) :
    Held.fits host ⟨.sweep request, row⟩ validate db locked =
      pathFrom locked (request.events host isoformat validate row) := by
  obtain ⟨hunsnoozed, hexpired, hwithdrawn, _⟩ := transitionAllowed_eq locked
  simp only [Held.fits, SweepRequest.events]
  split_ifs with hwakes hlapses hdropped hfew
  · rw [pathFrom_single, hunsnoozed]
  · rw [pathFrom_single, hexpired]
  · simp [hdropped, pathFrom]
  · rw [pathFrom_revalidated, pathFrom_single, hwithdrawn]
    simp [hdropped, hfew]
  · rw [pathFrom_revalidated]
    simp [Nat.le_of_not_lt hfew, pathFrom]

theorem pursuit_fits {row : ProposalRow} {taskId : String} (hbound : row.taskId = some taskId) (planner : Planner)
    (call : BindCall) (afterSurfaces : Int) (locked : DreamProposalStatus) :
    Held.fits host ⟨.reconcile planner call afterSurfaces, row⟩ validate db locked =
      pathFrom locked (pursuitEvent row taskId (db.loadTaskState (dreamScope call.scope) taskId) call.now).toList := by
  obtain ⟨_, _, _, _, hstarted, habandoned, hcompleted⟩ := transitionAllowed_eq locked
  have habandons (reason : String) : pathFrom locked (some (abandon taskId reason call.now)).toList =
      decide (locked ∈ [.accepted, .pursued]) := (pathFrom_single _ _ _ _).trans habandoned
  simp only [Held.fits, hbound, pursuitEvent]
  cases db.loadTaskState (dreamScope call.scope) taskId with
  | none => exact (habandons _).symm
  | some task =>
    dsimp only
    by_cases hagrees : objectiveAgrees row task
    · simp only [hagrees, Bool.not_true, Bool.false_or, decide_eq_true_eq, Bool.false_eq_true, if_false]
      split_ifs
      · exact (habandons _).symm
      · exact ((pathFrom_single _ _ _ _).trans hcompleted).symm
      · exact ((pathFrom_single _ _ _ _).trans hstarted).symm
      · rfl
    · simp only [hagrees, Bool.not_false, Bool.true_or, if_true]
      exact (habandons _).symm

/-- What is decided is legal where it fits. -/
theorem Held.fits_iff (held : Held) (validate : Validator) (db : DreamDatabase) (locked : DreamProposalStatus) :
    held.fits host validate db locked = pathFrom locked (held.decision host isoformat validate db).2 := by
  obtain ⟨turn, row⟩ := held
  cases turn with
  | sweep request => exact sweep_fits request row locked
  | verdict request => exact (Bool.and_true _).symm
  | reconcile planner call afterSurfaces =>
    cases htask : row.taskId with
    | some taskId =>
      rw [pursuit_fits htask]
      simp only [Held.decision, reconcileOne, htask]
    | none =>
      obtain ⟨_, _, _, hallowed, _⟩ := transitionAllowed_eq locked
      simp only [Held.fits, Held.decision, reconcileOne, htask]
      cases hbound : Planning.bindObjective host planner call row
          (db.tasks ((dreamScope call.scope).taskKey call.sessionId)) with
      | error e => rfl
      | ok bound =>
        cases bound with
        | none => rfl
        | some binding =>
          obtain ⟨_, _, _, _, _, hevent⟩ := Planning.bindObjective_some hbound
          have hkind : allows locked binding.event = (transitionAllowed locked .objectiveBound).1 := by
            rw [hevent]
            rfl
          show (false || decide (locked = .accepted)) = (allows locked binding.event && true)
          rw [hkind, hallowed, Bool.false_or, Bool.and_true]

/-- Deciding writes no proposal. -/
theorem decision_db (held : Held) (validate : Validator) (db : DreamDatabase) :
    ∃ tasks, (held.decision host isoformat validate db).1 = {db with tasks} := by
  obtain ⟨turn, row⟩ := held
  cases turn with
  | sweep _ => exact ⟨db.tasks, rfl⟩
  | verdict _ => exact ⟨db.tasks, rfl⟩
  | reconcile planner call _ =>
    simp only [Held.decision, reconcileOne]
    cases row.taskId with
    | some _ => exact ⟨db.tasks, rfl⟩
    | none =>
      dsimp only
      cases Planning.bindObjective host planner call row (db.tasks ((dreamScope call.scope).taskKey call.sessionId)) with
      | error _ => exact ⟨db.tasks, rfl⟩
      | ok bound =>
        cases bound with
        | none => exact ⟨db.tasks, rfl⟩
        | some binding => exact ⟨_, rfl⟩

end Turns

/-! ### Legal logs -/

section Logs
variable {host isoformat}

theorem legalPath_append (st : DreamFields) (a b : List DreamProposalEvent) :
    legalPath host st (a ++ b) = (legalPath host st a && legalPath host (a.foldl (foldStep host) st) b) := by
  induction a generalizing st with
  | nil => rfl
  | cons event rest ih => simp only [List.cons_append, legalPath, ih, List.foldl_cons, Bool.and_assoc]

/-- A log goes on legally from the status it has reached. -/
theorem legalLog_append {log : List DreamProposalEvent} (hlog : log ≠ []) (batch : List DreamProposalEvent) :
    legalLog host (log ++ batch) = (legalLog host log && pathFrom (foldEvents host log).status batch) := by
  cases log with
  | nil => exact absurd rfl hlog
  | cons mint rest =>
    simp only [List.cons_append, legalLog, legalPath_append, Bool.and_assoc]
    rw [legalPath_eq host _ batch]
    rfl

theorem legalLog_minted {log : List DreamProposalEvent} (h : legalLog host log) :
    log ≠ [] ∧ ∃ event ∈ log, event.kind = .known .proposed := by
  cases log with
  | nil => cases h
  | cons mint rest =>
    rw [legalLog, Bool.and_eq_true, decide_eq_true_eq] at h
    exact ⟨List.cons_ne_nil _ _, mint, List.mem_cons_self, h.1⟩

/-- Each event of a legal log, the mint apart, is one the table allows in the status reached before it. -/
theorem allows_of_legalLog {pre post : List DreamProposalEvent} {event : DreamProposalEvent}
    (h : legalLog host (pre ++ event :: post)) (hpre : pre ≠ []) : allows (foldEvents host pre).status event := by
  rw [legalLog_append hpre, Bool.and_eq_true, pathFrom, Bool.and_eq_true] at h
  exact h.2.1

variable {db after : DreamDatabase}

theorem Lawful.tasks (h : Lawful host db) (tasks : TaskKey → Option TaskStore) : Lawful host {db with tasks} :=
  ⟨⟨h.kept.sorted, h.kept.highest, h.kept.owned⟩, h.legal, h.status⟩

/-- A batch leaves a legal log where it is legal from the status at the lock, and only there. -/
theorem Lawful.append (h : Lawful host db) {scope : DreamScope} {proposalId : String} {row : ProposalRow}
    (hrow : db.loadProposal scope proposalId = some row) {batch : List DreamProposalEvent} {afterSurfaces : Int}
    (hok : applyDreamEvents host db scope proposalId batch afterSurfaces = .ok after) :
    (pathFrom row.status batch = true → Lawful host after) ∧ (pathFrom row.status batch = false → ¬ Legal host after) := by
  obtain ⟨hkept, locked, hlocked, hafter⟩ := applyDreamEvents_ok h.kept hok
  obtain rfl := Option.some.inj (hrow.symm.trans hlocked)
  obtain ⟨hfind, _, hid⟩ := loadProposal_eq_some hrow
  subst hid
  obtain ⟨hnonempty, hminted⟩ := legalLog_minted (h.legal row.id row hfind)
  have hlog : legalLog host (after.log row.id) = pathFrom row.status batch := by
    rw [hafter.log, if_pos rfl, legalLog_append hnonempty, h.legal row.id row hfind, Bool.true_and, pathFrom_stamp,
      ← h.status row.id row hfind]
  have hstored := hafter.rows row.id
  rw [if_pos rfl] at hstored
  refine ⟨fun hlegal => ⟨hkept, fun id other hother => ?_, fun id other hother => ?_⟩, fun hillegal hlegal => ?_⟩
  · rw [hafter.rows] at hother
    split_ifs at hother with hid
    · rw [hid, hlog, hlegal]
    · rw [hafter.log, if_neg hid]
      exact h.legal id other hother
  · rw [hafter.rows] at hother
    rw [hafter.log]
    split_ifs at hother ⊢ with hid
    · rw [← Option.some.inj hother, hid]
      exact status_prepare h.kept hfind hminted batch afterSurfaces
    · exact h.status id other hother
  · have hcontra := hlegal row.id _ hstored
    rw [hlog, hillegal] at hcontra
    cases hcontra

/-- A turn keeps every log legal where it fits, and only there. -/
theorem Lawful.take (h : Lawful host db) (held : Held) (validate : Validator) :
    ((∀ row ∈ db.loadProposal held.turn.scope held.row.id, held.fits host validate db row.status) →
      Lawful host (held.take host isoformat validate db)) ∧
    ((∃ row ∈ db.loadProposal held.turn.scope held.row.id, held.fits host validate db row.status = false) →
      ¬ Legal host (held.take host isoformat validate db)) := by
  obtain ⟨tasks, hdecided⟩ := @decision_db host isoformat held validate db
  have hload : ({db with tasks} : DreamDatabase).loadProposal held.turn.scope held.row.id =
      db.loadProposal held.turn.scope held.row.id := rfl
  have hfits := @Held.fits_iff host isoformat held validate db
  simp only [hfits, Held.take, hdecided]
  split_ifs with hempty
  · rw [hempty]
    refine ⟨fun _ => h.tasks tasks, ?_⟩
    rintro ⟨row, _, hfalse⟩
    cases hfalse
  · cases hrow : db.loadProposal held.turn.scope held.row.id with
    | none =>
      rw [applyDreamEvents, hload, hrow]
      refine ⟨fun _ => h.tasks tasks, ?_⟩
      rintro ⟨row, hnone, _⟩
      cases hnone
    | some row =>
      obtain ⟨after, hok⟩ := applyDreamEvents_isOk (h.tasks tasks).kept (hload.trans hrow)
        (held.decision host isoformat validate db).2 held.turn.afterSurfaces
      obtain ⟨hlegal, hillegal⟩ := (h.tasks tasks).append (hload.trans hrow) hok
      rw [hok]
      refine ⟨fun hall => hlegal (hall row rfl), ?_⟩
      rintro ⟨_, ⟨⟩, hfalse⟩
      exact hillegal hfalse

end Logs

/-! ### Runs -/

section Runs
variable {host isoformat W} {s s' : RaceState W} {a : RaceAction W}

variable (host W) in
def LawfulRaces (s : RaceState W) : Prop := Lawful host s.db

/-- A step of the writers keeps every log legal where it fits, and only there. -/
theorem LawfulRaces.step (h : LawfulRaces host W s) (hnext : (races host isoformat W).next s a = some s') :
    (Fits host W s a → LawfulRaces host W s') ∧ (¬ Fits host W s a → ¬ Legal host s'.db) := by
  cases a with
  | read w turn =>
    simp only [races] at hnext
    split_ifs at hnext
    cases hnext
    exact ⟨fun _ => h, fun hnot => absurd trivial hnot⟩
  | stop w =>
    cases hnext
    exact ⟨fun _ => h, fun hnot => absurd trivial hnot⟩
  | tasks tasks =>
    cases hnext
    exact ⟨fun _ => h.tasks tasks, fun hnot => absurd trivial hnot⟩
  | turn w index validate =>
    obtain ⟨held, hheld, rfl⟩ := Option.map_eq_some_iff.mp hnext
    obtain ⟨hlegal, hillegal⟩ := @Lawful.take host isoformat s.db h held validate
    refine ⟨fun hfits => hlegal (hfits held hheld), fun hnot => hillegal ?_⟩
    simp only [Fits, hheld, Option.mem_def, Option.some.injEq, forall_eq'] at hnot
    push Not at hnot
    obtain ⟨row, hrow, hfalse⟩ := hnot
    exact ⟨row, hrow, Bool.eq_false_of_not_eq_true hfalse⟩

theorem lawful_of_reachable (h : ((races host isoformat W).restrict (Fits host W)).Reachable s) :
    LawfulRaces host W s := by
  have hstart : ∀ s, ((races host isoformat W).restrict (Fits host W)).init s → LawfulRaces host W s :=
    fun s hinit => hinit.1
  refine h.invariant hstart fun s a s' _ hs hnext => ?_
  obtain ⟨hfits, hnext⟩ := System.restrict_next hnext
  exact (hs.step hnext).1 hfits

variable (host isoformat W)

/-- **While every turn fits, Full's logs are legal**: no event is in one that the table does not allow in the status
reached before it, so that no accepted proposal expires and none is completed but a pursued one. The first turn that
does not fit leaves an illegal log. -/
theorem races_legal (s : RaceState W)
    (hreach : ((races host isoformat W).restrict (Fits host W)).Reachable s) :
    (∀ id row, s.db.proposals.find id = some row → ∀ pre event post, s.db.log id = pre ++ event :: post → pre ≠ [] →
      allows (foldEvents host pre).status event ∧
      (event.kind = .known .expired → (foldEvents host pre).status ≠ .accepted) ∧
      (event.kind = .known .completed → (foldEvents host pre).status = .pursued)) ∧
    ∀ a s', (races host isoformat W).next s a = some s' → ¬ Fits host W s a → ¬ Legal host s'.db := by
  have hlawful := lawful_of_reachable hreach
  refine ⟨fun id row hfind pre event post hlog hpre => ?_, fun a s' hnext => (hlawful.step hnext).2⟩
  have hallows := allows_of_legalLog (hlog ▸ hlawful.legal id row hfind) hpre
  obtain ⟨_, _, _, _, _, _, hcompleted⟩ := transitionAllowed_eq (foldEvents host pre).status
  refine ⟨hallows, fun hkind haccepted => ?_, fun hkind => ?_⟩
  · simp only [allows, hkind, haccepted] at hallows
    exact absurd hallows (by decide)
  · simp only [allows, hkind, hcompleted] at hallows
    exact of_decide_eq_true hallows

end Runs

/-! ### Concrete races -/

theorem lawful_of_all {db : DreamDatabase} (hkept : Kept db) (hall : db.proposals.rows.all fun row =>
    legalLog host (db.log row.id) && row.status = (foldEvents host (db.log row.id)).status) : Lawful host db := by
  have hrow (id : String) (row : ProposalRow) (hfind : db.proposals.find id = some row) :
      legalLog host (db.log id) ∧ row.status = (foldEvents host (db.log id)).status := by
    obtain ⟨hmem, rfl⟩ := Table.find_eq_some_iff.mp hfind
    have hchecked := List.all_eq_true.mp hall row hmem
    rwa [Bool.and_eq_true, decide_eq_true_eq] at hchecked
  exact ⟨hkept, fun id row hfind => (hrow id row hfind).1, fun id row hfind => (hrow id row hfind).2⟩

/-- One proposal, minted on the first day. -/
def mintedRaces (db : DreamDatabase) : RaceState Nat := ⟨db, fun _ => []⟩

theorem mintedRaces_init {db : DreamDatabase} (h : Lawful dayHost db) :
    (races dayHost dayText Nat).init (mintedRaces db) := ⟨h, fun _ => rfl⟩

/-- A sweep on the day the proposal lapses. -/
def lateSweep : Turn := .sweep {
  scope := exampleScope
  now := nextDay
  ttlDays := 1
  minCitations := 0 }

def acceptance : VerdictRequest where
  scope := exampleScope
  proposalId := "p"
  action := .accepted
  now := nextDay
  actor := "owner"

/-- Its evidence stands. -/
def unchanged : Validator := fun citations => (citations, [])

/-- What a run of some writers leaves of the minted proposal. -/
def raceLeaves (M : System (RaceState Nat) (RaceAction Nat)) (actions : List (RaceAction Nat))
    (check : DreamDatabase → Bool) : Bool :=
  ((mintProposal dayHost dayText emptyStore exampleScope exampleMint).toOption).any fun db =>
    (db.proposals.rows.all fun row => legalLog dayHost (db.log row.id) &&
      row.status = (foldEvents dayHost (db.log row.id)).status) &&
    (M.run (mintedRaces db) actions).any fun s => (s.db.proposals.find "p").isSome && check s.db

theorem exists_of_raceLeaves {M : System (RaceState Nat) (RaceAction Nat)}
    (hinit : ∀ db, Lawful dayHost db → M.init (mintedRaces db)) {actions : List (RaceAction Nat)}
    {check : DreamDatabase → Bool} (h : raceLeaves M actions check) :
    ∃ s row, M.Reachable s ∧ s.db.proposals.find "p" = some row ∧ check s.db := by
  obtain ⟨db, hmint, hdb⟩ := (Option.any_eq_true _ _).mp h
  rw [Bool.and_eq_true] at hdb
  obtain ⟨s, hrun, hs⟩ := (Option.any_eq_true _ _).mp hdb.2
  rw [Bool.and_eq_true] at hs
  obtain ⟨row, hrow⟩ := Option.isSome_iff_exists.mp hs.1
  have hkept := (Kept.mintProposal sound_emptyStore.kept (toOption_eq_some_iff.mp hmint)).1
  exact ⟨s, row, (System.Reachable.init (hinit db (lawful_of_all dayHost hkept hdb.1))).run hrun, hrow, hs.2⟩

/-- The owner accepts, and nobody else comes to the proposal. -/
theorem races_legal_accepted : ∃ (s : RaceState Nat) (mint accepted : DreamProposalEvent),
    s.db.log "p" = [mint, accepted] ∧ allows (foldEvents dayHost [mint]).status accepted := by
  obtain ⟨s, row, hreach, hrow, hcheck⟩ := @exists_of_raceLeaves
    ((races dayHost dayText Nat).restrict (Fits dayHost Nat)) (fun _ => mintedRaces_init)
    [.read 1 (.verdict acceptance), .turn 1 0 unchanged] (fun db => (db.log "p").length = 2) (by decide +kernel)
  obtain ⟨mint, accepted, hlog⟩ := List.length_eq_two.mp (of_decide_eq_true hcheck)
  exact ⟨s, mint, accepted, hlog,
    ((races_legal dayHost dayText Nat s hreach).1 "p" row hrow [mint] accepted [] hlog (List.cons_ne_nil _ _)).1⟩

/-- A proposal is accepted between the sweep's read and its turn, and expires. -/
theorem accepted_expires : ¬ ∀ (host : Host) (isoformat : Instant → String) (s : RaceState Nat),
    (races host isoformat Nat).Reachable s → ∀ id row, s.db.proposals.find id = some row →
      ∀ pre event post, s.db.log id = pre ++ event :: post → pre ≠ [] →
        allows (foldEvents host pre).status event := by
  intro h
  obtain ⟨s, row, hreach, hrow, hcheck⟩ := @exists_of_raceLeaves (races dayHost dayText Nat)
    (fun _ => mintedRaces_init)
    [.read 0 lateSweep, .read 1 (.verdict acceptance), .turn 1 0 unchanged, .turn 0 0 unchanged]
    (fun db => (db.log "p").getLast?.any fun expired => (db.log "p").dropLast ≠ [] &&
      !allows (foldEvents dayHost (db.log "p").dropLast).status expired) (by decide +kernel)
  obtain ⟨expired, hlast, hexpired⟩ := (Option.any_eq_true _ _).mp hcheck
  rw [Bool.and_eq_true, decide_eq_true_eq, Bool.not_eq_true'] at hexpired
  have hallows := h dayHost dayText s hreach "p" row hrow _ expired []
    (List.dropLast_append_getLast? expired hlast).symm hexpired.1
  rw [hexpired.2] at hallows
  cases hallows

end OpenTimeline.Dream.Full
