import OpenTimeline.Dream.Store
import OpenTimeline.Dream.Truncation

/-! Batches of dream events.

The store checks a batch against one status, the stored one; the transition table asks for
each event of the status reached with those before it. The two judge a batch alike while
its events leave the status where it was (`judgedAlike_snoc`), as the sweep's do. They part
at the first event that only one of them refuses, and agree on the batch all the same
exactly where the other refuses a later event (`applyDreamEvents_legal_iff`). -/
namespace OpenTimeline.Dream

variable (host : Host)

/-! ### Statuses -/

/-- The status a kind of event leaves. -/
def DreamProposalStatus.after (status : DreamProposalStatus) (kind : DreamProposalEventKind) :
    DreamProposalStatus :=
  match kind with
  | .proposed | .unsnoozed => .proposed
  | .surfaced => if status = .proposed then .surfaced else status
  | .accepted => .accepted
  | .rejected => .rejected
  | .snoozed => .snoozed
  | .pursuitStarted => .pursued
  | .pursuitAbandoned => .abandoned
  | .completed => .completed
  | .withdrawn | .superseded => .withdrawn
  | .expired => .expired
  | .objectiveBound | .evidenceRevalidated => status

def statusAfter (status : DreamProposalStatus) (event : DreamProposalEvent) : DreamProposalStatus :=
  match event.kind with
  | .known kind => status.after kind
  | .unknown _ => status

/-- The status of the fold depends on nothing else. -/
theorem status_foldStep (st : DreamFields) (event : DreamProposalEvent) :
    (foldStep host st event).status = statusAfter st.status event := by
  unfold foldStep statusAfter
  cases event.kind with
  | unknown _ => rfl
  | known kind => cases kind <;> rfl

/-- A write stores the status its last event leaves, of some status the fold reaches
before it. -/
theorem Kept.status_prepare {db : DreamDatabase} (h : Kept db) (scope : DreamScope) {row : ProposalRow}
    (hfind : db.proposals.find row.id = some row) (batch : List DreamProposalEvent) (last : DreamProposalEvent)
    (afterSurfaces highestSeq : Int) :
    ∃ reached, (row.swapped (db.prepare host scope row (batch ++ [last]) afterSurfaces) highestSeq).status =
      statusAfter reached last := by
  have hlog : db.loadProposalEvents row.id ++ stamp row.highestSeq (batch ++ [last]) =
      (db.log row.id ++ stamp row.highestSeq batch) ++
        [{last with seq := row.highestSeq + batch.length + 1}] := by
    rw [h.loadProposalEvents, stamp_append, List.append_assoc]
    rfl
  have hsorted : (db.log row.id ++ stamp row.highestSeq (batch ++ [last])).Pairwise fun a b => a.seq < b.seq := by
    refine List.pairwise_append.mpr ⟨h.sorted row.id, stamp_sorted _ _, fun a ha b hb => ?_⟩
    exact (h.highest row.id row hfind a ha).trans_lt (lt_seq_stamp b hb)
  rw [← h.loadProposalEvents, hlog] at hsorted
  obtain ⟨before, hretained⟩ := retainedEvents_snoc host hsorted
    (show (pinnedDreamKinds.length : Int) < maxDreamEventsPerFold by decide)
  refine ⟨(foldEvents host before).status, ?_⟩
  have hstatus : (row.swapped (db.prepare host scope row (batch ++ [last]) afterSurfaces) highestSeq).status =
      (foldEvents host (retainedEvents host maxDreamEventsPerFold
        (db.loadProposalEvents row.id ++ stamp row.highestSeq (batch ++ [last])))).status := rfl
  rw [hstatus, hlog, hretained, foldEvents, List.foldl_append]
  exact status_foldStep host _ _

/-! ### Paths -/

/-- Each event is allowed in the status the fold reaches with the events before it. -/
def legalPath : DreamFields → List DreamProposalEvent → Bool
  | _, [] => true
  | st, event :: rest => allows st.status event && legalPath (foldStep host st event) rest

/-- The same of statuses alone. -/
def pathFrom : DreamProposalStatus → List DreamProposalEvent → Bool
  | _, [] => true
  | reached, event :: rest => allows reached event && pathFrom (statusAfter reached event) rest

theorem legalPath_eq (st : DreamFields) (batch : List DreamProposalEvent) :
    legalPath host st batch = pathFrom st.status batch := by
  induction batch generalizing st with
  | nil => rfl
  | cons event rest ih => rw [legalPath, pathFrom, ih, status_foldStep]

/-- No event of the batch is the first that only one of the stored status and the status
reached refuses, unless the other refuses a later one. -/
def judgedAlike (stored : DreamProposalStatus) : DreamProposalStatus → List DreamProposalEvent → Bool
  | _, [] => true
  | reached, event :: rest =>
    match allows stored event, allows reached event with
    | true, true => judgedAlike stored (statusAfter reached event) rest
    | true, false => rest.any fun later => !allows stored later
    | false, true => !pathFrom (statusAfter reached event) rest
    | false, false => true

theorem allowed_iff_pathFrom_iff (stored reached : DreamProposalStatus) (batch : List DreamProposalEvent) :
    ((∀ event ∈ batch, allows stored event) ↔ pathFrom reached batch) ↔ judgedAlike stored reached batch := by
  induction batch generalizing reached with
  | nil => simp [pathFrom, judgedAlike]
  | cons event rest ih =>
    simp only [judgedAlike, pathFrom]
    cases hstored : allows stored event <;> cases hreached : allows reached event
    · simp [hstored]
    · simp [hstored]
    · simp [hstored]
    · simpa [hstored] using ih (statusAfter reached event)

/-! ### Batches judged alike -/

/-- Events that leave the status where it is do not part the two, whatever the last does. -/
theorem judgedAlike_snoc {stored : DreamProposalStatus} {still : List DreamProposalEvent}
    (h : ∀ event ∈ still, statusAfter stored event = stored) (last : DreamProposalEvent) :
    judgedAlike stored stored (still ++ [last]) := by
  induction still with
  | nil => cases hlast : allows stored last <;> simp [judgedAlike, hlast]
  | cons event rest ih =>
    rw [List.cons_append, judgedAlike, h event List.mem_cons_self]
    cases allows stored event
    · rfl
    · exact ih fun other hother => h other (List.mem_cons_of_mem event hother)

/-- Two events are judged alike where the second is, once the first is allowed. -/
theorem judgedAlike_pair (stored : DreamProposalStatus) (first second : DreamProposalEvent) :
    judgedAlike stored stored [first, second] ↔
      (allows stored first → allows (statusAfter stored first) second = allows stored second) := by
  cases hfirst : allows stored first
  · simp [judgedAlike, hfirst]
  · cases hstored : allows stored second <;> cases hreached : allows (statusAfter stored first) second <;>
      simp [judgedAlike, pathFrom, hfirst, hstored, hreached]

/-- The store accepts just the batches that are paths of the table from the stored status,
for a batch the stored status and the statuses reached judge alike, and for no other. -/
theorem applyDreamEvents_legal_iff (db : DreamDatabase) (scope : DreamScope) (proposalId : String)
    (row : ProposalRow) (hrow : db.loadProposal scope proposalId = some row) (expectedRevision : Option Int)
    (hexpected : ∀ revision ∈ expectedRevision, revision = row.revision) (batch : List DreamProposalEvent)
    (afterSurfaces : Int) :
    ((∃ after, applyDreamEvents host db scope proposalId batch afterSurfaces expectedRevision = .ok after) ↔
        legalPath host row.toDreamFields batch) ↔
      judgedAlike row.status row.status batch := by
  rw [applyDreamEvents_isOk hrow hexpected, legalPath_eq]
  exact allowed_iff_pathFrom_iff row.status row.status batch

/-! ### Runs -/

def exampleScope : DreamScope := ⟨"w", "o", "u", none, false⟩

def exampleMint : MintRequest where
  proposalId := "p"
  sessionId := "s"
  title := "ship it"
  connectionText := ""
  benefitText := ""
  firstStep := "write the notes"
  citations := []
  themeTokens := ["ship"]
  evidenceBasis := evidenceBasisTrusted
  evidenceRevision := "r1"
  evidenceCutoffAt := none
  supersedesProposalId := none
  reproposeDepth := 0
  ttlDays := 1
  now := firstDay

/-- An event of the system's, its payload empty. -/
def systemEvent (kind : DreamProposalEventKind) : DreamProposalEvent where
  seq := 0
  kind := .known kind
  payload := []
  occurredAt := firstDay

/-- A proposal minted and taken through some events, each appended alone. -/
def exampleRun (kinds : List DreamProposalEventKind) : Except DreamError DreamDatabase := do
  let db ← mintProposal dayHost dayText emptyStore exampleScope exampleMint
  kinds.foldlM (fun db kind => applyDreamEvents dayHost db exampleScope "p" [systemEvent kind] 3) db

theorem exampleRun_loads {kinds : List DreamProposalEventKind} {status : DreamProposalStatus}
    (h : (exampleRun kinds).toOption.bind (fun db => (db.loadProposal exampleScope "p").map (·.status)) =
      some status) :
    ∃ db row, exampleRun kinds = .ok db ∧ db.loadProposal exampleScope "p" = some row ∧ row.status = status := by
  cases hrun : exampleRun kinds with
  | error _ =>
    rw [hrun] at h
    cases h
  | ok db =>
    rw [hrun] at h
    obtain ⟨row, hrow, hstatus⟩ := Option.map_eq_some_iff.mp h
    exact ⟨db, row, rfl, hrow, hstatus⟩

/-- The sweep's batch. -/
theorem applyDreamEvents_legal_withdrawn : ∃ db row, exampleRun [] = .ok db ∧
    db.loadProposal exampleScope "p" = some row ∧
    ((∃ after, applyDreamEvents dayHost db exampleScope "p"
        [systemEvent .evidenceRevalidated, systemEvent .withdrawn] 3 = .ok after) ↔
      legalPath dayHost row.toDreamFields [systemEvent .evidenceRevalidated, systemEvent .withdrawn]) := by
  obtain ⟨db, row, hrun, hrow, hstatus⟩ := @exampleRun_loads [] .proposed (by decide)
  refine ⟨db, row, hrun, hrow, ?_⟩
  refine (applyDreamEvents_legal_iff dayHost db exampleScope "p" row hrow none nofun _ 3).mpr ?_
  rw [hstatus]
  decide

/-- The batch of a finished pursuit is a path and is refused; a second acceptance is none
and is taken. -/
theorem applyDreamEvents_misjudged :
    (¬ ∀ host db scope proposalId row, DreamDatabase.loadProposal db scope proposalId = some row →
      ∀ batch afterSurfaces, legalPath host row.toDreamFields batch →
        ∃ after, applyDreamEvents host db scope proposalId batch afterSurfaces = .ok after) ∧
    ¬ ∀ host db scope proposalId row, DreamDatabase.loadProposal db scope proposalId = some row →
      ∀ batch afterSurfaces, (∃ after, applyDreamEvents host db scope proposalId batch afterSurfaces = .ok after) →
        legalPath host row.toDreamFields batch := by
  constructor
  · intro h
    obtain ⟨db, row, _, hrow, hstatus⟩ := @exampleRun_loads [.accepted] .accepted (by decide)
    have hok := h dayHost db exampleScope "p" row hrow
      [systemEvent .pursuitStarted, systemEvent .completed] 3 (by rw [legalPath_eq, hstatus]; decide)
    rw [@applyDreamEvents_isOk _ db exampleScope "p" row hrow none nofun, hstatus] at hok
    revert hok
    decide
  · intro h
    obtain ⟨db, row, _, hrow, hstatus⟩ := @exampleRun_loads [] .proposed (by decide)
    have hpath := h dayHost db exampleScope "p" row hrow
      [systemEvent .accepted, systemEvent .accepted] 3 (by
        rw [@applyDreamEvents_isOk _ db exampleScope "p" row hrow none nofun, hstatus]
        decide)
    rw [legalPath_eq, hstatus] at hpath
    revert hpath
    decide

end OpenTimeline.Dream
