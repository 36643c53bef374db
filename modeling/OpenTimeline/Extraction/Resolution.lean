import OpenTimeline.Extraction.Recorded
import OpenTimeline.Library.Transition

/-! A question is resolved once.

Extractions of any receipts go on at once, with sweeps and retries between their steps. Each
reads the questions that are open before it writes anything, and the resolution of an answer
is inserted whatever has become of its question since; only the UPDATEs of the question and
of its prediction look. Where every answer that is written finds its question still open,
each question has at most one first resolution, has it exactly where it is resolved, and its
prediction carries that choice (`resolved_once`). -/
namespace OpenTimeline.Extraction
open Library

variable (host : TextHost) (uuid4 : Uuid4)

/-! ### The protocol -/

/-- How far an extraction has got. -/
inductive Phase
  | claimed
  /-- with what is still to be done of its candidates -/
  | between (loaded : Loaded) (openRows : List OpportunityRow) (todo : List DecisionCandidate)
  /-- the evidence of a candidate is committed -/
  | written (loaded : Loaded) (openRows : List OpportunityRow) (todo : List DecisionCandidate) (pending : Pending)

structure Flight where
  call : ExtractCall
  phase : Phase := .claimed

/-- The receipt as the extraction has read it, or would. -/
def Flight.receipt (flight : Flight) (db : CaptureDb) : Option ReceiptRow :=
  match flight.phase with
  | .claimed => db.receipts.find flight.call.receiptId
  | .between loaded _ _ => some loaded.receipt
  | .written loaded _ _ _ => some loaded.receipt

structure CaptureState (ι : Type) where
  db : CaptureDb
  flights : ι → Option Flight

inductive CaptureStep (ι : Type)
  | ask (question : Question) (now : Instant)
  | ingest (capture : Capture)
  | relay (opportunityId : String) (now : Instant)
  | sweep (settings : Settings) (now : Instant)
  | close (workspaceId subjectUserId sessionId : String) (abandoned : Bool) (now : Instant)
  | claim (i : ι) (call : ExtractCall)
  | read (i : ι)
  | begin (i : ι)
  | settle (i : ι)
  | finish (i : ι)
  | fail (i : ι) (error : String)
  | crash (i : ι)

section System
variable {ι : Type} [DecidableEq ι]

namespace CaptureState

def set (s : CaptureState ι) (i : ι) (flight : Option Flight) : CaptureState ι :=
  {s with flights := Function.update s.flights i flight}

def next (s : CaptureState ι) : CaptureStep ι → Option (CaptureState ι)
  | .ask question now => some {s with db := freezeQuestion uuid4 question now s.db}
  | .ingest capture => some {s with db := captureInput uuid4 capture s.db}
  | .relay opportunityId now => some {s with db := markOpportunityRelayed opportunityId now s.db}
  | .sweep settings now => some {s with db := sweepStaleOpportunities settings now s.db}
  | .close workspaceId subjectUserId sessionId abandoned now =>
    some {s with db := closeOpportunities workspaceId subjectUserId sessionId abandoned now s.db}
  | .claim i call =>
    match s.flights i with
    | some _ => none
    | none =>
      if call.claims s.db.receipts then
        some ({s with db := {s.db with receipts := call.claim s.db.receipts}}.set i (some {call}))
      else some s
  | .read i =>
    match s.flights i with
    | some ⟨call, .claimed⟩ =>
      match (s.db.receipts.find call.receiptId).map (call.load host s.db) with
      | some (.ok loaded) => some (s.set i (some ⟨call, .between loaded loaded.openRows loaded.candidates⟩))
      | _ => none
    | _ => none
  | .begin i =>
    match s.flights i with
    | some ⟨call, .between loaded openRows (candidate :: todo)⟩ =>
      match beginCandidate uuid4 call loaded openRows candidate s.db with
      | .ignored => some (s.set i (some ⟨call, .between loaded openRows todo⟩))
      | .discarded db => some ({s with db}.set i (some ⟨call, .between loaded openRows todo⟩))
      | .written db pending => some ({s with db}.set i (some ⟨call, .written loaded openRows todo pending⟩))
    | _ => none
  | .settle i =>
    match s.flights i with
    | some ⟨call, .written loaded openRows todo pending⟩ =>
      let db := settleCandidate host uuid4 call loaded.receipt pending s.db
      some ({s with db}.set i (some ⟨call, .between loaded (openAfter openRows pending.branch) todo⟩))
    | _ => none
  | .finish i =>
    match s.flights i with
    | some ⟨call, .between _ _ []⟩ =>
      some ({s with db := {s.db with receipts := call.finish s.db.receipts}}.set i none)
    | _ => none
  | .fail i error =>
    match s.flights i with
    | some flight =>
      match flight.receipt s.db with
      | some receipt =>
        let db := {s.db with receipts := flight.call.fail receipt error s.db.receipts}
        some ({s with db := flight.call.giveUp receipt db}.set i none)
      | none => none
    | none => none
  | .crash i => some (s.set i none)

end CaptureState

/-- Any number of extractions, their steps in any order, with questions, messages and sweeps
between them. -/
def captureSystem (ι : Type) [DecidableEq ι] : System (CaptureState ι) (CaptureStep ι) where
  init s := s.db = .empty ∧ ∀ i, s.flights i = none
  next := CaptureState.next host uuid4

/-- The step writes no answer whose question is not open any more, and none that the column
of a resolution would cut. -/
def CaptureStep.findsOpen (s : CaptureState ι) : CaptureStep ι → Bool
  | .settle i =>
    match s.flights i with
    | some ⟨_, .written _ _ _ pending⟩ =>
      match pending.branch with
      | .answer target => (s.db.opportunities.find target.id).any (·.status = .open) &&
          (pending.candidate.selectedOption.getD "").toList.length ≤ 500
      | _ => true
    | _ => true
  | _ => true

end System

/-! ### What is owed -/

/-- The resolutions of a question that supersede nothing. -/
def firstResolutions (db : CaptureDb) (opportunityId : String) : List ResolutionRow :=
  db.resolutions.rows.filter fun row => row.opportunityId = opportunityId && row.supersedesResolutionId = none

/-- A question is resolved once, and its prediction by what it was resolved to. -/
structure ResolvedOnce (db : CaptureDb) : Prop where
  once : ∀ o ∈ db.opportunities.rows, (firstResolutions db o.id).length ≤ 1
  status : ∀ o ∈ db.opportunities.rows, o.status = .resolved ↔ firstResolutions db o.id ≠ []
  carried : ∀ o ∈ db.opportunities.rows, ∀ p ∈ db.predictions.rows, o.shadowPredictionId = some p.id →
    p.resolutionState = .resolved → ∃ r ∈ firstResolutions db o.id, p.actualChoice = r.selectedChoice

/-- With what else holds of the tables: a resolution is of a question there is, and a
prediction is of one question. -/
structure Consistent (db : CaptureDb) : Prop extends ResolvedOnce db where
  known : ∀ r ∈ db.resolutions.rows, ∃ o ∈ db.opportunities.rows, o.id = r.opportunityId
  linked : ∀ o ∈ db.opportunities.rows, ∀ o' ∈ db.opportunities.rows, ∀ p, o.shadowPredictionId = some p →
    o'.shadowPredictionId = some p → o = o'
  frozen : ∀ o ∈ db.opportunities.rows, ∀ p, o.shadowPredictionId = some p → p ∈ db.predictions.rows.map (·.id)

/-! ### Moves that resolve nothing -/

/-- No question and no prediction comes to be resolved, and no resolution is a first one. -/
structure Quiet (db db' : CaptureDb) : Prop where
  opportunities : ∃ g : OpportunityRow → OpportunityRow, db'.opportunities.rows = db.opportunities.rows.map g ∧
    ∀ o, (g o).id = o.id ∧ (g o).shadowPredictionId = o.shadowPredictionId ∧
      ((g o).status = .resolved ↔ o.status = .resolved)
  predictions : ∃ g : PredictionRow → PredictionRow, db'.predictions.rows = db.predictions.rows.map g ∧
    ∀ p, (g p).id = p.id ∧ ((g p).resolutionState = .resolved →
      p.resolutionState = .resolved ∧ (g p).actualChoice = p.actualChoice)
  firsts : ∀ id, firstResolutions db' id = firstResolutions db id
  known : ∀ r ∈ db'.resolutions.rows, r ∈ db.resolutions.rows ∨ ∃ o ∈ db.opportunities.rows, o.id = r.opportunityId

namespace Quiet
variable {db db' db'' : CaptureDb}

theorem trans (h : Quiet db db') (h' : Quiet db' db'') : Quiet db db'' := by
  obtain ⟨g, hrows, hg⟩ := h.opportunities
  obtain ⟨g', hrows', hg'⟩ := h'.opportunities
  obtain ⟨f, hpreds, hf⟩ := h.predictions
  obtain ⟨f', hpreds', hf'⟩ := h'.predictions
  refine ⟨⟨g' ∘ g, by rw [hrows', hrows, List.map_map], fun o => ?_⟩, ⟨f' ∘ f, by rw [hpreds', hpreds, List.map_map],
    fun p => ⟨(hf' (f p)).1.trans (hf p).1, fun hresolved => ?_⟩⟩, fun id => (h'.firsts id).trans (h.firsts id),
    fun r hr => ?_⟩
  · exact ⟨(hg' (g o)).1.trans (hg o).1, (hg' (g o)).2.1.trans (hg o).2.1, (hg' (g o)).2.2.trans (hg o).2.2⟩
  · obtain ⟨hmid, hchoice⟩ := (hf' (f p)).2 hresolved
    obtain ⟨hfirst, hchoice'⟩ := (hf p).2 hmid
    exact ⟨hfirst, hchoice.trans hchoice'⟩
  · rcases h'.known r hr with hold | ⟨o, ho, hid⟩
    · exact h.known r hold
    · rw [hrows] at ho
      obtain ⟨before, hbefore, rfl⟩ := List.mem_map.mp ho
      exact Or.inr ⟨before, hbefore, (hg before).1 ▸ hid⟩

/-- Where the questions and predictions are touched by UPDATEs alone. -/
theorem of_updates {g : OpportunityRow → OpportunityRow} {f : PredictionRow → PredictionRow}
    (ho : db'.opportunities.rows = db.opportunities.rows.map g)
    (hg : ∀ o, (g o).id = o.id ∧ (g o).shadowPredictionId = o.shadowPredictionId ∧
      ((g o).status = .resolved ↔ o.status = .resolved))
    (hp : db'.predictions.rows = db.predictions.rows.map f)
    (hf : ∀ p, (f p).id = p.id ∧ ((f p).resolutionState = .resolved →
      p.resolutionState = .resolved ∧ (f p).actualChoice = p.actualChoice))
    (hr : db'.resolutions = db.resolutions) : Quiet db db' where
  opportunities := ⟨g, ho, hg⟩
  predictions := ⟨f, hp, hf⟩
  firsts id := by rw [firstResolutions, hr, firstResolutions]
  known r hmem := Or.inl (hr ▸ hmem)

theorem of_eq (ho : db'.opportunities = db.opportunities) (hp : db'.predictions = db.predictions)
    (hr : db'.resolutions = db.resolutions) : Quiet db db' :=
  of_updates ((congrArg _ ho).trans (List.map_id _).symm) (fun _ => ⟨rfl, rfl, Iff.rfl⟩)
    ((congrArg _ hp).trans (List.map_id _).symm) (fun _ => ⟨rfl, fun h => ⟨h, rfl⟩⟩) hr

theorem consistent (h : Quiet db db') (hdb : Consistent db) : Consistent db' := by
  obtain ⟨g, hrows, hg⟩ := h.opportunities
  obtain ⟨f, hpreds, hf⟩ := h.predictions
  constructor
  · constructor
    · rw [hrows, List.forall_mem_map]
      intro o ho
      rw [h.firsts, (hg o).1]
      exact hdb.once o ho
    · rw [hrows, List.forall_mem_map]
      intro o ho
      rw [h.firsts, (hg o).1, (hg o).2.2]
      exact hdb.status o ho
    · rw [hrows, hpreds, List.forall_mem_map]
      intro o ho
      rw [List.forall_mem_map]
      intro p hp hlink hresolved
      obtain ⟨hbefore, hchoice⟩ := (hf p).2 hresolved
      rw [h.firsts, (hg o).1, hchoice]
      exact hdb.carried o ho p hp (by rw [← (hg o).2.1, hlink, (hf p).1]) hbefore
  · intro r hr
    rw [hrows]
    obtain ⟨o, ho, hid⟩ : ∃ o ∈ db.opportunities.rows, o.id = r.opportunityId :=
      (h.known r hr).elim (hdb.known r) id
    exact ⟨g o, List.mem_map_of_mem ho, (hg o).1.trans hid⟩
  · rw [hrows, List.forall_mem_map]
    intro o ho
    rw [List.forall_mem_map]
    intro o' ho' p hlink hlink'
    rw [(hg o).2.1] at hlink
    rw [(hg o').2.1] at hlink'
    rw [hdb.linked o ho o' ho' p hlink hlink']
  · rw [hrows, hpreds, List.forall_mem_map, List.map_map]
    intro o ho p hlink
    rw [(hg o).2.1] at hlink
    rw [show PredictionRow.id ∘ f = PredictionRow.id from funext fun p => (hf p).1]
    exact hdb.frozen o ho p hlink

end Quiet

theorem closeWhere_quiet {closes : OpportunityRow → Bool} {status : OpportunityStatus} {state : PredictionState}
    {source : String} {now : Instant} {db : CaptureDb} (hstatus : status ≠ .resolved) (hstate : state ≠ .resolved) :
    Quiet db (closeWhere closes status state source now db) := by
  refine Quiet.of_updates rfl (fun o => ?_) rfl (fun p => ?_) rfl
  · split_ifs with hdue
    · simp only [Bool.and_eq_true, decide_eq_true_eq] at hdue
      simp [hstatus, hdue.1]
    · exact ⟨rfl, rfl, Iff.rfl⟩
  · split_ifs
    · exact ⟨rfl, fun h => absurd h hstate⟩
    · exact ⟨rfl, fun h => ⟨h, rfl⟩⟩

theorem sweepStaleOpportunities_quiet (settings : Settings) (now : Instant) (db : CaptureDb) :
    Quiet db (sweepStaleOpportunities settings now db) :=
  (closeWhere_quiet (by decide) (by decide)).trans (closeWhere_quiet (by decide) (by decide))

theorem closeOpportunities_quiet (workspaceId subjectUserId sessionId : String) (abandoned : Bool) (now : Instant)
    (db : CaptureDb) : Quiet db (closeOpportunities workspaceId subjectUserId sessionId abandoned now db) := by
  refine closeWhere_quiet ?_ ?_
  · split_ifs <;> decide
  · split_ifs <;> decide

theorem markOpportunityRelayed_quiet (opportunityId : String) (now : Instant) (db : CaptureDb) :
    Quiet db (markOpportunityRelayed opportunityId now db) := by
  refine Quiet.of_updates rfl (fun o => ?_) (List.map_id _).symm (fun p => ⟨rfl, fun h => ⟨h, rfl⟩⟩) rfl
  split_ifs <;> exact ⟨rfl, rfl, Iff.rfl⟩

theorem giveUp_quiet (call : ExtractCall) (receipt : ReceiptRow) (db : CaptureDb) :
    Quiet db (call.giveUp receipt db) := by
  unfold ExtractCall.giveUp
  split_ifs
  · refine Quiet.of_updates (List.map_id _).symm (fun o => ⟨rfl, rfl, Iff.rfl⟩) rfl (fun p => ?_) rfl
    split_ifs
    · exact ⟨rfl, fun h => by cases h⟩
    · exact ⟨rfl, fun h => ⟨h, rfl⟩⟩
  · exact Quiet.of_eq rfl rfl rfl

/-! ### What an extraction writes -/

section Begin
variable {uuid4} {call : ExtractCall} {loaded : Loaded} {openRows : List OpportunityRow} {candidate : DecisionCandidate}
  {db db' : CaptureDb}

theorem insertCandidate_db {promotion : Promotion} {candidateId : String}
    (h : insertCandidate uuid4 call loaded.receipt candidate promotion db = some (db', candidateId)) :
    ∃ candidates, db' = {db with candidates} := by
  obtain ⟨candidates, _, heq⟩ := Option.map_eq_some_iff.mp h
  exact ⟨candidates, (Prod.mk.inj heq).1.symm⟩

theorem beginCandidate_discarded (h : beginCandidate uuid4 call loaded openRows candidate db = .discarded db') :
    Quiet db db' := by
  unfold beginCandidate at h
  simp only at h
  split at h
  · cases h
  · obtain ⟨candidates, rfl⟩ := insertCandidate_db ‹_›
    split at h <;> cases h
    exact Quiet.of_eq rfl rfl rfl

theorem beginCandidate_written {pending : Pending}
    (h : beginCandidate uuid4 call loaded openRows candidate db = .written db' pending) : Quiet db db' ∧
      branch loaded openRows candidate = some pending.branch ∧ ∀ target, pending.branch = .correction target →
        pending.previous = latestResolutionForOpportunity target.id db.resolutions := by
  unfold beginCandidate at h
  simp only at h
  split at h
  · cases h
  · obtain ⟨candidates, rfl⟩ := insertCandidate_db ‹_›
    split at h
    · cases h
    · cases h
      refine ⟨Quiet.of_eq rfl rfl rfl, ‹_›, fun target htarget => ?_⟩
      simp only at htarget ⊢
      rw [htarget]

end Begin

section Branches
variable {loaded : Loaded} {openRows : List OpportunityRow} {candidate : DecisionCandidate}

theorem branch_answer {target : OpportunityRow} (h : branch loaded openRows candidate = some (.answer target)) :
    target ∈ openRows := by
  unfold branch at h
  simp only at h
  split at h <;> cases h
  obtain ⟨_, _, hfind⟩ := Option.bind_eq_some_iff.mp ‹_›
  exact List.mem_of_find?_eq_some hfind

theorem branch_correction {target : OpportunityRow} (h : branch loaded openRows candidate = some (.correction target)) :
    target ∈ loaded.resolvedRows := by
  unfold branch at h
  simp only at h
  split at h <;> cases h
  obtain ⟨_, _, hfind⟩ := Option.bind_eq_some_iff.mp ‹_›
  exact List.mem_of_find?_eq_some hfind

end Branches

section Settle
variable {host uuid4} {call : ExtractCall} {receipt : ReceiptRow} {pending : Pending} {db : CaptureDb}

theorem settleHeld_quiet (target : Option OpportunityRow) :
    Quiet db (settleHeld uuid4 call receipt pending target db) := Quiet.of_eq rfl rfl rfl

theorem settleCorrection_quiet {target : OpportunityRow} (htarget : ∃ o ∈ db.opportunities.rows, o.id = target.id)
    (hprevious : pending.previous ≠ none) : Quiet db (settleCorrection uuid4 call receipt pending target db) where
  opportunities := ⟨id, (List.map_id _).symm, fun _ => ⟨rfl, rfl, Iff.rfl⟩⟩
  predictions := by
    cases hshadow : target.shadowPredictionId with
    | none =>
      refine ⟨id, ?_, fun _ => ⟨rfl, fun h => ⟨h, rfl⟩⟩⟩
      simp only [settleCorrection, hshadow, List.map_id]
    | some shadowId =>
      simp only [settleCorrection, hshadow]
      refine ⟨_, rfl, fun p => ?_⟩
      split_ifs <;> exact ⟨rfl, fun h => ⟨h, rfl⟩⟩
  firsts id := by
    obtain ⟨previous, hprevious⟩ := Option.ne_none_iff_exists'.mp hprevious
    simp [firstResolutions, settleCorrection, insertHumanResolution, Table.add, hprevious]
  known r hr := by
    rcases List.mem_append.mp hr with hold | hnew
    · exact Or.inl hold
    · rw [List.mem_singleton.mp hnew]
      exact Or.inr htarget

/-- The resolution of an answer is the first of its question. -/
theorem firstResolutions_settleAnswer {target : OpportunityRow}
    (hlength : (pending.candidate.selectedOption.getD "").toList.length ≤ 500) :
    ∃ new : ResolutionRow, new.selectedChoice = pending.candidate.selectedOption.getD "" ∧
      new.opportunityId = target.id ∧
      (settleAnswer host uuid4 call receipt pending target db).resolutions.rows = db.resolutions.rows ++ [new] ∧
      ∀ id, firstResolutions (settleAnswer host uuid4 call receipt pending target db) id =
        firstResolutions db id ++ if id = target.id then [new] else [] := by
  refine ⟨_, ?_, rfl, rfl, fun id => ?_⟩
  · simp only [prefixOf, List.take_of_length_le hlength, String.ofList_toList]
  · rw [firstResolutions, settleAnswer, insertHumanResolution, Table.add, List.filter_append, ← firstResolutions]
    by_cases hid : target.id = id
    · simp [hid]
    · simp [hid, Ne.symm hid]

theorem settleAnswer_predictions (target : OpportunityRow) :
    let after := (settleAnswer host uuid4 call receipt pending target db).predictions
    after.rows.map (·.id) = db.predictions.rows.map (·.id) ∧ ∀ p' ∈ after.rows, ∃ p ∈ db.predictions.rows,
      p'.id = p.id ∧ (p'.resolutionState = .resolved → p.resolutionState = .resolved ∧ p'.actualChoice = p.actualChoice ∨
        target.shadowPredictionId = some p.id ∧ p'.actualChoice = pending.candidate.selectedOption.getD "") := by
  intro after
  cases hshadow : target.shadowPredictionId with
  | none =>
    have hsame : after = db.predictions := by simp only [after, settleAnswer, hshadow]
    rw [hsame]
    exact ⟨rfl, fun p hp => ⟨p, hp, rfl, fun h => Or.inl ⟨h, rfl⟩⟩⟩
  | some shadowId =>
    simp only [after, settleAnswer, hshadow, resolveShadowPrediction]
    refine ⟨Table.map_updateWhere _ fun _ => rfl, fun p' hp' => ?_⟩
    obtain ⟨p, hp, rfl⟩ := List.mem_map.mp hp'
    refine ⟨p, hp, ?_⟩
    by_cases hpending : (decide (p.id = shadowId) && decide (p.resolutionState = .pending)) = true
    · rw [if_pos hpending]
      simp only [Bool.and_eq_true, decide_eq_true_eq] at hpending
      exact ⟨rfl, fun _ => Or.inr ⟨congrArg some hpending.1.symm, rfl⟩⟩
    · rw [if_neg hpending]
      exact ⟨rfl, fun h => Or.inl ⟨h, rfl⟩⟩

theorem settleAnswer_consistent (hdb : Consistent db) {target o : OpportunityRow} (ho : o ∈ db.opportunities.rows)
    (hid : o.id = target.id) (hshadow : o.shadowPredictionId = target.shadowPredictionId) (hopen : o.status = .open)
    (hlength : (pending.candidate.selectedOption.getD "").toList.length ≤ 500) :
    Consistent (settleAnswer host uuid4 call receipt pending target db) := by
  obtain ⟨new, hchoice, hnew, hresolutions, hfirsts⟩ :=
    @firstResolutions_settleAnswer host uuid4 call receipt pending db target hlength
  obtain ⟨hids, hpredictions⟩ := @settleAnswer_predictions host uuid4 call receipt pending db target
  let g := fun row : OpportunityRow => if row.id = target.id && row.status = .open then
    {row with status := .resolved, resolvedAt := some call.now} else row
  have hrows : (settleAnswer host uuid4 call receipt pending target db).opportunities.rows =
    db.opportunities.rows.map g := rfl
  have hg : ∀ row, (g row).id = row.id ∧ (g row).shadowPredictionId = row.shadowPredictionId := by
    intro row
    simp only [g]
    split_ifs <;> exact ⟨rfl, rfl⟩
  have hsame : ∀ row ∈ db.opportunities.rows, row.id = target.id → row = o := fun row hrow hrowid =>
    List.inj_on_of_nodup_map db.opportunities.nodup hrow ho (hrowid.trans hid.symm)
  -- the question is open, so nothing has resolved it
  have hnone : firstResolutions db target.id = [] := by
    by_contra hne
    have hresolved := (hdb.status o ho).mpr (hid ▸ hne)
    rw [hopen] at hresolved
    cases hresolved
  constructor
  · constructor
    · rw [hrows, List.forall_mem_map]
      intro row hrow
      rw [hfirsts, (hg row).1]
      split_ifs with htarget
      · rw [htarget, hnone]
        exact le_rfl
      · rw [List.append_nil]
        exact hdb.once row hrow
    · rw [hrows, List.forall_mem_map]
      intro row hrow
      rw [hfirsts, (hg row).1]
      split_ifs with htarget
      · obtain rfl := hsame row hrow htarget
        simp [g, htarget, hopen]
      · have hkept : g row = row := by simp [g, htarget]
        rw [hkept, List.append_nil]
        exact hdb.status row hrow
    · rw [hrows, List.forall_mem_map]
      intro row hrow p' hp' hlink hresolved
      obtain ⟨p, hp, hpid, hp'⟩ := hpredictions p' hp'
      rw [(hg row).2, hpid] at hlink
      rw [hfirsts, (hg row).1]
      rcases hp' hresolved with ⟨hbefore, hactual⟩ | ⟨hshadow', hactual⟩
      · obtain ⟨r, hr, hr'⟩ := hdb.carried row hrow p hp hlink hbefore
        exact ⟨r, List.mem_append_left _ hr, hactual.trans hr'⟩
      · obtain rfl := hdb.linked row hrow o ho p.id hlink (hshadow.trans hshadow')
        rw [if_pos hid]
        exact ⟨new, by simp, hactual.trans hchoice.symm⟩
  · rw [hresolutions, hrows, List.forall_mem_append]
    have hmapped : ∀ id, (∃ row ∈ db.opportunities.rows, row.id = id) → ∃ row ∈ db.opportunities.rows.map g, row.id = id := by
      rintro id ⟨row, hrow, hrowid⟩
      exact ⟨g row, List.mem_map_of_mem hrow, (hg row).1.trans hrowid⟩
    refine ⟨fun r hr => hmapped _ (hdb.known r hr), fun r hr => hmapped _ ⟨o, ho, ?_⟩⟩
    rw [List.mem_singleton.mp hr, hnew, hid]
  · rw [hrows, List.forall_mem_map]
    intro row hrow
    rw [List.forall_mem_map]
    intro row' hrow' p hlink hlink'
    rw [(hg row).2] at hlink
    rw [(hg row').2] at hlink'
    rw [hdb.linked row hrow row' hrow' p hlink hlink']
  · rw [hrows, List.forall_mem_map, hids]
    intro row hrow p hlink
    rw [(hg row).2] at hlink
    exact hdb.frozen row hrow p hlink

end Settle

/-! ### What comes in -/

/-- A question of its own, with a prediction of its own. -/
theorem freezeQuestion_rows (question : Question) (now : Instant) (db : CaptureDb) :
    ∃ (o : OpportunityRow) (p : PredictionRow),
      (freezeQuestion uuid4 question now db).opportunities.rows = db.opportunities.rows ++ [o] ∧
      (freezeQuestion uuid4 question now db).predictions.rows = db.predictions.rows ++ [p] ∧
      o.id ∉ db.opportunities.rows.map (·.id) ∧ p.id ∉ db.predictions.rows.map (·.id) ∧
      o.shadowPredictionId = some p.id ∧ o.status = .open ∧ p.resolutionState = .pending :=
  ⟨_, _, rfl, rfl, uuid4.draw_notMem _, uuid4.draw_notMem _, rfl, rfl, rfl⟩

theorem freezeQuestion_consistent {db : CaptureDb} (hdb : Consistent db) (question : Question) (now : Instant) :
    Consistent (freezeQuestion uuid4 question now db) := by
  obtain ⟨o, p, hrows, hpreds, hid, hpid, hlink, hopen, hpending⟩ := freezeQuestion_rows uuid4 question now db
  have hfirsts : ∀ id, firstResolutions (freezeQuestion uuid4 question now db) id = firstResolutions db id :=
    fun _ => rfl
  have hnone : firstResolutions db o.id = [] := by
    refine List.filter_eq_nil_iff.mpr fun r hr hfirst => hid ?_
    simp only [Bool.and_eq_true, decide_eq_true_eq] at hfirst
    obtain ⟨o', ho', hsame⟩ := hdb.known r hr
    exact List.mem_map.mpr ⟨o', ho', hsame.trans hfirst.1⟩
  -- no question there was is linked to the new prediction
  have hunlinked : ∀ o' ∈ db.opportunities.rows, o'.shadowPredictionId ≠ some p.id := fun o' ho' hlink' =>
    hpid (hdb.frozen o' ho' p.id hlink')
  constructor
  · constructor
    · rw [hrows, List.forall_mem_append, List.forall_mem_singleton]
      exact ⟨hdb.once, by rw [hfirsts, hnone]; exact Nat.zero_le _⟩
    · rw [hrows, List.forall_mem_append, List.forall_mem_singleton]
      exact ⟨hdb.status, by simp [hfirsts, hnone, hopen]⟩
    · rw [hrows, hpreds, List.forall_mem_append, List.forall_mem_singleton]
      refine ⟨fun o' ho' => ?_, ?_⟩
      · rw [List.forall_mem_append, List.forall_mem_singleton]
        exact ⟨hdb.carried o' ho', fun hlink' => absurd hlink' (hunlinked o' ho')⟩
      · rw [List.forall_mem_append, List.forall_mem_singleton]
        refine ⟨fun p' hp' hlink' => ?_, fun _ hresolved => ?_⟩
        · rw [hlink, Option.some.injEq] at hlink'
          exact absurd (List.mem_map.mpr ⟨p', hp', hlink'.symm⟩) hpid
        · rw [hpending] at hresolved
          cases hresolved
  · rw [hrows]
    exact fun r hr => (hdb.known r hr).imp fun o ho => ⟨List.mem_append_left _ ho.1, ho.2⟩
  · rw [hrows]
    intro a ha b hb q hqa hqb
    rcases List.mem_append.mp ha with ha | ha <;> rcases List.mem_append.mp hb with hb | hb
    · exact hdb.linked a ha b hb q hqa hqb
    · rw [List.mem_singleton.mp hb, hlink] at hqb
      exact absurd (hqa.trans hqb.symm) (hunlinked a ha)
    · rw [List.mem_singleton.mp ha, hlink] at hqa
      exact absurd (hqb.trans hqa.symm) (hunlinked b hb)
    · rw [List.mem_singleton.mp ha, List.mem_singleton.mp hb]
  · rw [hrows, hpreds, List.forall_mem_append, List.forall_mem_singleton, List.map_append]
    refine ⟨fun o' ho' q hq => List.mem_append_left _ (hdb.frozen o' ho' q hq), fun q hq => ?_⟩
    rw [hlink, Option.some.injEq] at hq
    simp [hq]

theorem captureInput_quiet (capture : Capture) (db : CaptureDb) : Quiet db (captureInput uuid4 capture db) :=
  Quiet.of_eq rfl rfl rfl

/-! ### What an extraction has read -/

/-- A question that was read is still there. -/
def Known (db : CaptureDb) (row : OpportunityRow) : Prop :=
  ∃ o ∈ db.opportunities.rows, o.id = row.id ∧ o.shadowPredictionId = row.shadowPredictionId

/-- A question that was read as resolved is so still. -/
def KnownResolved (db : CaptureDb) (row : OpportunityRow) : Prop :=
  ∃ o ∈ db.opportunities.rows, o.id = row.id ∧ o.status = .resolved

/-- Questions are not removed, keep their predictions and stay resolved. -/
def Grows (db db' : CaptureDb) : Prop :=
  ∀ o ∈ db.opportunities.rows, ∃ o' ∈ db'.opportunities.rows, o'.id = o.id ∧
    o'.shadowPredictionId = o.shadowPredictionId ∧ (o.status = .resolved → o'.status = .resolved)

structure Reads (db : CaptureDb) (loaded : Loaded) (openRows : List OpportunityRow) : Prop where
  opens : ∀ row ∈ openRows, Known db row
  resolved : ∀ row ∈ loaded.resolvedRows, KnownResolved db row

def Pending.Targets (db : CaptureDb) (pending : Pending) : Prop :=
  match pending.branch with
  | .answer target => Known db target
  | .correction target => KnownResolved db target ∧ pending.previous ≠ none
  | .hold _ => True

def Flight.Sound (db : CaptureDb) (flight : Flight) : Prop :=
  match flight.phase with
  | .claimed => True
  | .between loaded openRows _ => Reads db loaded openRows
  | .written loaded openRows _ pending => Reads db loaded openRows ∧ pending.Targets db

section Grows
variable {db db' : CaptureDb}

theorem Quiet.grows (h : Quiet db db') : Grows db db' := by
  obtain ⟨g, hrows, hg⟩ := h.opportunities
  intro o ho
  rw [hrows]
  exact ⟨g o, List.mem_map_of_mem ho, (hg o).1, (hg o).2.1, (hg o).2.2.mpr⟩

theorem freezeQuestion_grows (question : Question) (now : Instant) (db : CaptureDb) :
    Grows db (freezeQuestion uuid4 question now db) := by
  obtain ⟨_, _, hrows, _⟩ := freezeQuestion_rows uuid4 question now db
  intro o ho
  rw [hrows]
  exact ⟨o, List.mem_append_left _ ho, rfl, rfl, id⟩

theorem settleAnswer_grows (call : ExtractCall) (receipt : ReceiptRow) (pending : Pending) (target : OpportunityRow)
    (db : CaptureDb) : Grows db (settleAnswer host uuid4 call receipt pending target db) := by
  intro o ho
  refine ⟨_, List.mem_map_of_mem ho, ?_⟩
  split_ifs
  · exact ⟨rfl, rfl, fun _ => rfl⟩
  · exact ⟨rfl, rfl, id⟩

theorem Known.mono {row : OpportunityRow} (hgrows : Grows db db') (h : Known db row) : Known db' row := by
  obtain ⟨o, ho, hid, hshadow⟩ := h
  obtain ⟨o', ho', hid', hshadow', _⟩ := hgrows o ho
  exact ⟨o', ho', hid'.trans hid, hshadow'.trans hshadow⟩

theorem KnownResolved.mono {row : OpportunityRow} (hgrows : Grows db db') (h : KnownResolved db row) :
    KnownResolved db' row := by
  obtain ⟨o, ho, hid, hstatus⟩ := h
  obtain ⟨o', ho', hid', _, hstatus'⟩ := hgrows o ho
  exact ⟨o', ho', hid'.trans hid, hstatus' hstatus⟩

theorem Reads.mono {loaded : Loaded} {openRows : List OpportunityRow} (hgrows : Grows db db')
    (h : Reads db loaded openRows) : Reads db' loaded openRows :=
  ⟨fun row hrow => (h.opens row hrow).mono hgrows, fun row hrow => (h.resolved row hrow).mono hgrows⟩

theorem Pending.Targets.mono {pending : Pending} (hgrows : Grows db db') (h : pending.Targets db) :
    pending.Targets db' := by
  unfold Pending.Targets at h ⊢
  split at h
  · exact h.mono hgrows
  · exact ⟨h.1.mono hgrows, h.2⟩
  · trivial

theorem Flight.Sound.mono {flight : Flight} (hgrows : Grows db db') (h : flight.Sound db) : flight.Sound db' := by
  unfold Flight.Sound at h ⊢
  split at h
  · trivial
  · exact h.mono hgrows
  · exact ⟨h.1.mono hgrows, h.2.mono hgrows⟩

end Grows

/-- What was read when it was read. -/
theorem load_reads {call : ExtractCall} {db : CaptureDb} {receipt : ReceiptRow} {loaded : Loaded}
    (h : call.load host db receipt = .ok loaded) : Reads db loaded loaded.openRows := by
  unfold ExtractCall.load at h
  split at h
  · cases h
  · cases h
    constructor
    · intro row hrow
      exact ⟨row, (List.mem_filter.mp ((List.mem_insertionSort _).mp hrow)).1, rfl, rfl⟩
    · intro row hrow
      obtain ⟨hmem, hwhere⟩ := List.mem_filter.mp ((List.mem_insertionSort _).mp hrow)
      simp only [Bool.and_eq_true, decide_eq_true_eq] at hwhere
      exact ⟨row, hmem, rfl, hwhere.1.2⟩

/-- A resolved question has a latest resolution. -/
theorem latestResolution_ne_none {db : CaptureDb} (hdb : Consistent db) {target : OpportunityRow}
    (htarget : KnownResolved db target) : latestResolutionForOpportunity target.id db.resolutions ≠ none := by
  obtain ⟨o, ho, hid, hstatus⟩ := htarget
  obtain ⟨r, hr⟩ := List.exists_mem_of_ne_nil _ ((hdb.status o ho).mp hstatus)
  obtain ⟨hmem, hfirst⟩ := List.mem_filter.mp hr
  simp only [Bool.and_eq_true, decide_eq_true_eq] at hfirst
  rw [latestResolutionForOpportunity, Ne, List.getLast?_eq_none_iff]
  intro hnil
  have hsorted : r ∈ sortOn (·.resolvedAt) (db.resolutions.rows.filter (·.opportunityId = target.id)) := by
    rw [(sortOn_perm _ _).mem_iff, List.mem_filter]
    exact ⟨hmem, by simpa using hfirst.1.trans hid⟩
  rw [hnil] at hsorted
  cases hsorted

/-! ### Runs -/

section Runs
variable {host uuid4} {ι : Type} [DecidableEq ι] {s s' : CaptureState ι}

structure CaptureState.Sound (s : CaptureState ι) : Prop where
  db : Consistent s.db
  flights : ∀ i flight, s.flights i = some flight → flight.Sound s.db

namespace CaptureState.Sound

omit [DecidableEq ι] in
theorem quiet (h : s.Sound) {db : CaptureDb} (hquiet : Quiet s.db db) : CaptureState.Sound {s with db} :=
  ⟨hquiet.consistent h.db, fun i flight hflight => (h.flights i flight hflight).mono hquiet.grows⟩

theorem set (h : s.Sound) {db : CaptureDb} (hgrows : Grows s.db db) (hdb : Consistent db) (i : ι)
    {flight : Option Flight} (hflight : ∀ f, flight = some f → f.Sound db) :
    (CaptureState.set {s with db} i flight).Sound := by
  refine ⟨hdb, fun j f hf => ?_⟩
  simp only [CaptureState.set, Function.update_apply] at hf
  split_ifs at hf
  · exact hflight f hf
  · exact (h.flights j f hf).mono hgrows

theorem set_quiet (h : s.Sound) {db : CaptureDb} (hquiet : Quiet s.db db) (i : ι) {flight : Option Flight}
    (hflight : ∀ f, flight = some f → f.Sound db) : (CaptureState.set {s with db} i flight).Sound :=
  h.set hquiet.grows (hquiet.consistent h.db) i hflight

variable (host uuid4) in
omit [DecidableEq ι] in
/-- What a candidate's evidence is followed by, where an answer finds its question open. -/
theorem settle (h : s.Sound) {i : ι} {call : ExtractCall} {loaded : Loaded} {openRows : List OpportunityRow}
    {todo : List DecisionCandidate} {pending : Pending}
    (hflight : s.flights i = some ⟨call, .written loaded openRows todo pending⟩)
    (hopen : (CaptureStep.settle i).findsOpen s) :
    Grows s.db (settleCandidate host uuid4 call loaded.receipt pending s.db) ∧
      Consistent (settleCandidate host uuid4 call loaded.receipt pending s.db) := by
  obtain ⟨_, htargets⟩ := h.flights i _ hflight
  simp only [CaptureStep.findsOpen, hflight] at hopen
  unfold settleCandidate
  unfold Pending.Targets at htargets
  split at hopen
  · next target htaken =>
    simp only [htaken] at htargets ⊢
    simp only [Bool.and_eq_true, decide_eq_true_eq] at hopen
    obtain ⟨o, ho, hid, hshadow⟩ := htargets
    have hfind : s.db.opportunities.find target.id = some o := Table.find_eq_some_iff.mpr ⟨ho, hid⟩
    rw [hfind] at hopen
    exact ⟨settleAnswer_grows host uuid4 _ _ _ _ _,
      settleAnswer_consistent h.db ho hid hshadow (by simpa using hopen.1) hopen.2⟩
  · next hother =>
    split
    · next target htaken => exact absurd htaken (hother target)
    · next target htaken =>
      simp only [htaken] at htargets
      obtain ⟨⟨o, ho, hid, _⟩, hprevious⟩ := htargets
      have hquiet := @settleCorrection_quiet uuid4 call loaded.receipt pending s.db target ⟨o, ho, hid⟩ hprevious
      exact ⟨hquiet.grows, hquiet.consistent h.db⟩
    · next target _ =>
      have hquiet := @settleHeld_quiet uuid4 call loaded.receipt pending s.db target
      exact ⟨hquiet.grows, hquiet.consistent h.db⟩

theorem step (h : s.Sound) {step : CaptureStep ι} (hopen : step.findsOpen s)
    (hnext : s.next host uuid4 step = some s') : s'.Sound := by
  cases step with
  | ask question now =>
    cases hnext
    exact ⟨freezeQuestion_consistent uuid4 h.db question now, fun i flight hflight =>
      (h.flights i flight hflight).mono (freezeQuestion_grows uuid4 question now s.db)⟩
  | ingest capture =>
    cases hnext
    exact h.quiet (captureInput_quiet uuid4 capture s.db)
  | relay opportunityId now =>
    cases hnext
    exact h.quiet (markOpportunityRelayed_quiet opportunityId now s.db)
  | sweep settings now =>
    cases hnext
    exact h.quiet (sweepStaleOpportunities_quiet settings now s.db)
  | close workspaceId subjectUserId sessionId abandoned now =>
    cases hnext
    exact h.quiet (closeOpportunities_quiet workspaceId subjectUserId sessionId abandoned now s.db)
  | claim i call =>
    simp only [next] at hnext
    split at hnext
    · cases hnext
    · split_ifs at hnext
      · cases hnext
        have hquiet : Quiet s.db {s.db with receipts := call.claim s.db.receipts} := Quiet.of_eq rfl rfl rfl
        refine h.set_quiet hquiet i fun f hf => ?_
        cases hf
        trivial
      · cases hnext
        exact h
  | read i =>
    simp only [next] at hnext
    split at hnext
    · split at hnext
      · cases hnext
        obtain ⟨receipt, _, hload⟩ := Option.map_eq_some_iff.mp ‹_›
        refine h.set_quiet (Quiet.of_eq rfl rfl rfl) i fun f hf => ?_
        cases hf
        exact load_reads host hload
      · cases hnext
    · cases hnext
  | begin i =>
    simp only [next] at hnext
    split at hnext
    · next call loaded openRows candidate todo hflight =>
      have hreads : Reads s.db loaded openRows := h.flights i _ hflight
      split at hnext
      · cases hnext
        refine h.set_quiet (Quiet.of_eq rfl rfl rfl) i fun f hf => ?_
        cases hf
        exact hreads
      · cases hnext
        have hquiet := beginCandidate_discarded ‹_›
        refine h.set_quiet hquiet i fun f hf => ?_
        cases hf
        exact hreads.mono hquiet.grows
      · next db pending hbegin =>
        cases hnext
        obtain ⟨hquiet, hbranch, hprevious⟩ := beginCandidate_written hbegin
        refine h.set_quiet hquiet i fun f hf => ?_
        cases hf
        refine ⟨hreads.mono hquiet.grows, Pending.Targets.mono hquiet.grows ?_⟩
        unfold Pending.Targets
        split
        · next target htaken => exact hreads.opens target (branch_answer (htaken ▸ hbranch))
        · next target htaken =>
          have hresolved := hreads.resolved target (branch_correction (htaken ▸ hbranch))
          exact ⟨hresolved, hprevious target htaken ▸ latestResolution_ne_none h.db hresolved⟩
        · trivial
    · cases hnext
  | settle i =>
    simp only [next] at hnext
    split at hnext
    · next call loaded openRows todo pending hflight =>
      cases hnext
      obtain ⟨hgrows, hdb⟩ := h.settle host uuid4 hflight hopen
      have hreads : Reads s.db loaded openRows := (h.flights i _ hflight).1
      refine h.set hgrows hdb i fun f hf => ?_
      cases hf
      refine Reads.mono hgrows ⟨fun row hrow => hreads.opens row ?_, hreads.resolved⟩
      unfold openAfter at hrow
      split at hrow
      · exact List.mem_of_mem_filter hrow
      · exact hrow
    · cases hnext
  | finish i =>
    simp only [next] at hnext
    split at hnext
    · next call loaded openRows hflight =>
      cases hnext
      have hquiet : Quiet s.db {s.db with receipts := call.finish s.db.receipts} := Quiet.of_eq rfl rfl rfl
      refine h.set_quiet hquiet i fun f hf => ?_
      cases hf
    · cases hnext
  | fail i error =>
    simp only [next] at hnext
    split at hnext
    · split at hnext
      · cases hnext
        refine h.set_quiet (Quiet.trans ?_ (giveUp_quiet _ _ _)) i fun f hf => ?_
        · exact Quiet.of_eq rfl rfl rfl
        · cases hf
      · cases hnext
    · cases hnext
  | crash i =>
    cases hnext
    refine h.set_quiet (Quiet.of_eq rfl rfl rfl) i fun f hf => ?_
    cases hf

end CaptureState.Sound

theorem empty_consistent : Consistent CaptureDb.empty := by
  constructor
  · constructor <;> intro _ h <;> cases h
  · intro _ h
    cases h
  · intro _ h
    cases h
  · intro _ h
    cases h

/-- **In a run in which every answer finds its question open when it is written, each
question is resolved at most once**, exactly where its status says so, and its prediction
carries the choice. -/
theorem resolved_once (hs : ((captureSystem host uuid4 ι).restrict fun s step => step.findsOpen s).Reachable s) :
    ResolvedOnce s.db := by
  have hsound : s.Sound := by
    refine hs.invariant (fun s hinit => ?_) fun s step s' _ hsound hnext => ?_
    · refine ⟨hinit.1 ▸ empty_consistent, fun i f hf => ?_⟩
      rw [hinit.2 i] at hf
      cases hf
    · obtain ⟨hopen, hnext⟩ := System.restrict_next hnext
      exact hsound.step hopen hnext
  exact hsound.db.toResolvedOnce

end Runs

/-! ### One question, two answers -/

/-- The first and the second receipt that come in. -/
def exampleExtract (second : Bool) : CaptureStep Bool :=
  .claim second {receiptId := if second then "uu" else "u", now := epoch + 3, version := "dc-v1"}

def exampleCaptures : CaptureState Bool := ⟨.empty, fun _ => none⟩

def exampleOneAnswer : List (CaptureStep Bool) := [.ask exampleAsked epoch, .ingest (exampleMessage "Use postgres."),
  exampleExtract false, .read false, .begin false, .settle false, .finish false]

/-- The question is answered once. -/
theorem resolved_once_example : ∃ s,
    ((captureSystem exampleTextHost exampleUuid4 Bool).restrict fun s step => step.findsOpen s).run exampleCaptures
      exampleOneAnswer = some s ∧ s.db.resolutions.rows.length = 1 ∧ ResolvedOnce s.db := by
  have hone : (((captureSystem exampleTextHost exampleUuid4 Bool).restrict fun s step => step.findsOpen s).run
      exampleCaptures exampleOneAnswer).any fun s => s.db.resolutions.rows.length = 1 := by
    decide +kernel
  obtain ⟨s, hrun, hs⟩ := (Option.any_eq_true _ _).mp hone
  exact ⟨s, hrun, by simpa using hs, resolved_once (System.Reachable.run (.init ⟨rfl, fun _ => rfl⟩) hrun)⟩

/-- Both extractions have read the question as open before either writes. -/
theorem resolved_twice : ¬ ∀ s, (captureSystem exampleTextHost exampleUuid4 Bool).Reachable s → ResolvedOnce s.db := by
  intro hall
  have htwo : ((captureSystem exampleTextHost exampleUuid4 Bool).run exampleCaptures
      [.ask exampleAsked epoch, .ingest (exampleMessage "Use postgres."), .ingest (exampleMessage "Use redis."),
        exampleExtract false, exampleExtract true, .read false, .read true, .begin false, .settle false, .begin true, .settle true]).any
      fun s => s.db.opportunities.rows.any fun o => 1 < (firstResolutions s.db o.id).length := by
    decide +kernel
  obtain ⟨s, hrun, hs⟩ := (Option.any_eq_true _ _).mp htwo
  obtain ⟨o, ho, hlength⟩ := List.any_eq_true.mp hs
  have hreach : (captureSystem exampleTextHost exampleUuid4 Bool).Reachable s :=
    System.Reachable.run (.init ⟨rfl, fun _ => rfl⟩) hrun
  exact absurd ((hall s hreach).once o ho) (by simpa using hlength)

end OpenTimeline.Extraction
