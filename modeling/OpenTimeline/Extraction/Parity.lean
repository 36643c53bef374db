import OpenTimeline.Extraction.Recorded
import OpenTimeline.Extraction.Worker

/-! Two extractions of one receipt.

`_extract_one` and `_extract_receipt` go through the same candidates. Each enters a candidate
under its span and takes it to the end its promotion says, so both are folds of one operation
on what is on record (`Account.record`). The promotion goes by the questions that are open:
the one drops a question that the message has answered, the other keeps it. The two leave the
same exactly where that makes no difference to any candidate (`sameAccount_iff`). -/
namespace OpenTimeline.Extraction
open Library

variable {host : TextHost} {maybeDecryptPayload : Payload → Except String Payload} {uuid4 : Uuid4}

/-! ### What is on record -/

/-- What becomes of a candidate. -/
inductive Outcome
  | answered (opportunityId : String)
  | corrected (opportunityId : String)
  | held
  | discarded

namespace Outcome

def status : Outcome → CandidateStatus
  | .answered _ => .promoted
  | .corrected _ => .promoted
  | .held => .pendingReview
  | .discarded => .discarded

/-- The question that is resolved, and the choice. -/
def resolution (candidate : DecisionCandidate) : Outcome → Option (String × String)
  | .answered id => some (id, prefixOf 500 (candidate.selectedOption.getD ""))
  | .corrected id => some (id,
      prefixOf 500 ((candidate.selectedOption.filter (· ≠ "")).getD (prefixOf 500 candidate.supportingSpan)))
  | _ => none

/-- The question that is closed. -/
def close (now : Instant) (opportunities : Table OpportunityRow.id) : Outcome → Table OpportunityRow.id
  | .answered id => resolveOpportunity id now opportunities
  | _ => opportunities

/-- What a promotion comes to. -/
def ofPromotion (candidate : DecisionCandidate) : Promotion → Outcome
  | .discard => .discarded
  | .pendingReview => .held
  | .promote =>
    let id := candidate.opportunityId.getD ""
    if candidate.kind = .correction then .corrected id else .answered id

def ofBranch : Option Branch → Outcome
  | none => .discarded
  | some (.answer target) => .answered target.id
  | some (.correction target) => .corrected target.id
  | some (.hold _) => .held

theorem status_ne_new (outcome : Outcome) : outcome.status ≠ .new := by
  cases outcome <;> simp [status]

theorem ofPromotion_inj {candidate : DecisionCandidate} {p p' : Promotion}
    (h : (ofPromotion candidate p).status = (ofPromotion candidate p').status) : p = p' := by
  cases p <;> cases p' <;> unfold ofPromotion at h <;> split_ifs at h <;> first | rfl | cases h

end Outcome

/-- The candidates by their spans, the choices in order, and the questions. -/
@[ext] structure Account where
  candidates : SpanKey → Option (DecisionCandidate × CandidateStatus)
  resolutions : List (String × String)
  opportunities : Table OpportunityRow.id

def CaptureDb.account (db : CaptureDb) : Account where
  candidates k := (db.candidates.find k).map fun row => (row.candidate, row.status)
  resolutions := db.resolutions.rows.map fun row => (row.opportunityId, row.selectedChoice)
  opportunities := db.opportunities

namespace Account

/-- A candidate that comes to an end, unless its span is on record. -/
def record (receiptId : String) (now : Instant) (a : Account) (candidate : DecisionCandidate) (outcome : Outcome) :
    Account :=
  if a.candidates (candidate.spanKey receiptId) = none then {
    candidates := Function.update a.candidates (candidate.spanKey receiptId) (some (candidate, outcome.status))
    resolutions := a.resolutions ++ (outcome.resolution candidate).toList
    opportunities := outcome.close now a.opportunities }
  else a

variable {receiptId : String} {now : Instant} {a : Account} {candidate : DecisionCandidate} {outcome : Outcome}

/-- What is on record stays. -/
theorem record_keeps {k : SpanKey} {x : DecisionCandidate × CandidateStatus} (h : a.candidates k = some x) :
    (a.record receiptId now candidate outcome).candidates k = some x := by
  unfold record
  split_ifs with hfree
  · have hne : k ≠ candidate.spanKey receiptId := by
      rintro rfl
      rw [hfree] at h
      cases h
    exact (Function.update_of_ne hne _ _).trans h
  · exact h

theorem record_of_some {x : DecisionCandidate × CandidateStatus}
    (h : a.candidates (candidate.spanKey receiptId) = some x) : a.record receiptId now candidate outcome = a := by
  rw [record, if_neg]
  rw [h]
  exact Option.some_ne_none x

theorem record_self (h : a.candidates (candidate.spanKey receiptId) = none) :
    (a.record receiptId now candidate outcome).candidates (candidate.spanKey receiptId) =
      some (candidate, outcome.status) := by
  rw [record, if_pos h]
  exact Function.update_self _ _ _

end Account

/-! ### The branches -/

/-- A correction names a question that is resolved. -/
def Loaded.Corrects (loaded : Loaded) (candidate : DecisionCandidate) : Prop :=
  candidate.kind = .correction → ∀ id, candidate.opportunityId = some id → ∃ row ∈ loaded.resolvedRows, row.id = id

/-- What is promoted is an answer to an open question, or a correction. -/
theorem promotionDecision_promote {candidate : DecisionCandidate} {openOpportunities : List DecisionOpportunity}
    {now expiryNow : Instant} (h : promotionDecision candidate openOpportunities now expiryNow = .promote) :
    ∃ id, candidate.opportunityId = some id ∧ (candidate.kind = .correction ∨
      candidate.kind = .answer ∧ ∃ target, openOpportunities.find? (·.opportunityId = id) = some target) := by
  unfold promotionDecision promotionDecisionDetail at h
  split at h
  · cases h
  split at h
  · cases h
  split at h
  · cases h
  split at h
  · cases h
  split at h
  · next id hkind hid =>
    split at h
    · split at h
      · next target htarget => exact ⟨id, hid, Or.inr ⟨hkind, target, htarget⟩⟩
      · cases h
    · cases h
  · next id hkind hid => exact ⟨id, hid, Or.inl hkind⟩
  · cases h
  · cases h

section Branches
variable {loaded : Loaded} {candidate : DecisionCandidate}

theorem find_toModel {rows : List OpportunityRow} {id : String} {target : DecisionOpportunity}
    (h : (rows.map (·.toModel)).find? (·.opportunityId = id) = some target) :
    ∃ row, rows.find? (·.id = id) = some row := by
  rw [List.find?_map] at h
  obtain ⟨row, hrow, _⟩ := Option.map_eq_some_iff.mp h
  exact ⟨row, hrow⟩

theorem find_id {rows : List OpportunityRow} {id : String} {row : OpportunityRow}
    (h : rows.find? (·.id = id) = some row) : row.id = id := by simpa using List.find?_some h

/-- The branch of `_extract_one` is what the promotion says. -/
theorem ofBranch_branch (hcorrects : loaded.Corrects candidate) (openRows : List OpportunityRow) :
    Outcome.ofBranch (branch loaded openRows candidate) = .ofPromotion candidate
      (promotionDecision candidate (openRows.map (·.toModel)) loaded.observedAt loaded.expiryAt) := by
  cases hpromotion : promotionDecision candidate (openRows.map (·.toModel)) loaded.observedAt loaded.expiryAt with
  | discard => simp [branch, hpromotion, Outcome.ofBranch, Outcome.ofPromotion]
  | pendingReview => simp [branch, hpromotion, Outcome.ofBranch, Outcome.ofPromotion]
  | promote =>
    obtain ⟨id, hid, hkind | ⟨hkind, target, htarget⟩⟩ := promotionDecision_promote hpromotion
    · obtain ⟨row, hrow, hrowid⟩ := hcorrects hkind id hid
      have hsome : (loaded.resolvedRows.find? (·.id = id)).isSome := List.find?_isSome.mpr ⟨row, hrow, by simpa using hrowid⟩
      obtain ⟨resolved, hresolved⟩ := Option.isSome_iff_exists.mp hsome
      simp [branch, hpromotion, hkind, hid, hresolved, Outcome.ofBranch, Outcome.ofPromotion, find_id hresolved]
    · obtain ⟨row, hrow⟩ := find_toModel htarget
      simp [branch, hpromotion, hkind, hid, hrow, Outcome.ofBranch, Outcome.ofPromotion, find_id hrow]

/-- So is the branch of `_extract_receipt`. -/
theorem ofBranch_branchOf (hcorrects : loaded.Corrects candidate) :
    Outcome.ofBranch (loaded.branchOf candidate) = .ofPromotion candidate (loaded.promotion candidate) := by
  cases hpromotion : loaded.promotion candidate with
  | discard => simp [Loaded.branchOf, hpromotion, Outcome.ofBranch, Outcome.ofPromotion]
  | pendingReview => simp [Loaded.branchOf, hpromotion, Outcome.ofBranch, Outcome.ofPromotion]
  | promote =>
    obtain ⟨id, hid, hkind⟩ := promotionDecision_promote hpromotion
    have htarget : ∃ row, loaded.targetRow candidate = some row ∧ row.id = id := by
      cases hresolved : loaded.resolvedRows.find? (·.id = id) with
      | some row => exact ⟨row, by simp [Loaded.targetRow, hid, hresolved], find_id hresolved⟩
      | none =>
        rcases hkind with hkind | ⟨hkind, target, htarget⟩
        · obtain ⟨row, hrow, hrowid⟩ := hcorrects hkind id hid
          exact absurd hrowid (by simpa using List.find?_eq_none.mp hresolved row hrow)
        · obtain ⟨row, hrow⟩ := find_toModel htarget
          exact ⟨row, by simp [Loaded.targetRow, hid, hresolved, hrow], find_id hrow⟩
    obtain ⟨row, hrow, hrowid⟩ := htarget
    rcases hkind with hkind | ⟨hkind, _⟩
    · simp [Loaded.branchOf, hpromotion, hkind, hid, hrow, hrowid, Outcome.ofBranch, Outcome.ofPromotion]
    · simp [Loaded.branchOf, hpromotion, hkind, hid, hrow, hrowid, Outcome.ofBranch, Outcome.ofPromotion]

theorem branchOf_eq_none_iff : loaded.branchOf candidate = none ↔ loaded.promotion candidate = .discard := by
  unfold Loaded.branchOf
  split <;> simp_all

end Branches

/-! ### The loop of `_extract_one` -/

section Lite
variable {call : ExtractCall} {loaded : Loaded}

/-- The candidate that was inserted, at its end, beside those there were. -/
theorem account_inserted {candidates inserted : Table CandidateRow.spanKey} {row : CandidateRow}
    {status : CandidateStatus} {reason : String} {observationId reviewId : Option String}
    (hinsert : candidates.insert row = some inserted) (hfresh : row.id ∉ candidates.rows.map (·.id)) :
    (fun k => ((updateCandidate row.id status reason observationId reviewId inserted).find k).map
        fun row => (row.candidate, row.status)) =
      Function.update (fun k => (candidates.find k).map fun row => (row.candidate, row.status)) row.spanKey
        (some (row.candidate, status)) := by
  funext k
  by_cases hk : k = row.spanKey
  · subst hk
    obtain ⟨row', hrow, hcandidate, hstatus⟩ := @find_update_inserted_self _ _ _ status reason observationId reviewId hinsert
    rw [hrow, Function.update_self, Option.map_some, hcandidate, hstatus]
  · rw [find_update_inserted hinsert hfresh hk, Function.update_of_ne hk]

/-- A turn enters the candidate and takes it to the end its branch says. -/
theorem next_account (turn : Turn) (candidate : DecisionCandidate) :
    let free := turn.db.account.candidates (candidate.spanKey loaded.receipt.id) = none
    (Turn.next host uuid4 call loaded turn candidate).db.account = turn.db.account.record loaded.receipt.id call.now
        candidate (.ofBranch (branch loaded turn.openRows candidate)) ∧
      (free → (Turn.next host uuid4 call loaded turn candidate).openRows =
        ((branch loaded turn.openRows candidate).map (openAfter turn.openRows)).getD turn.openRows) ∧
      (¬ free → Turn.next host uuid4 call loaded turn candidate = turn) := by
  intro free
  let row := newCandidate uuid4 call loaded.receipt candidate
    (promotionDecision candidate (turn.openRows.map (·.toModel)) loaded.observedAt loaded.expiryAt) turn.db.candidates
  have hfresh : row.id ∉ turn.db.candidates.rows.map (·.id) := uuid4.draw_notMem _
  cases hinsert : turn.db.candidates.insert row with
  | none =>
    obtain ⟨old, hold⟩ := Table.find_of_insert_eq_none hinsert
    have htaken : ¬ free := by
      have hold' : turn.db.candidates.find (candidate.spanKey loaded.receipt.id) = some old := hold
      simp [free, CaptureDb.account, hold']
    have hsame : Turn.next host uuid4 call loaded turn candidate = turn := by
      simp only [Turn.next, beginCandidate, insertCandidate]
      rw [hinsert, Option.map_none]
    rw [hsame, Account.record, if_neg htaken]
    exact ⟨rfl, fun h => absurd h htaken, fun _ => rfl⟩
  | some inserted =>
    have hfree : free := by
      have hnone : turn.db.candidates.find (candidate.spanKey loaded.receipt.id) = none := (Table.find_insert hinsert).1
      simp [free, CaptureDb.account, hnone]
    have hend : ∀ status reason observationId reviewId, (fun k => ((updateCandidate row.id status reason observationId
        reviewId inserted).find k).map fun row => (row.candidate, row.status)) =
        Function.update turn.db.account.candidates (candidate.spanKey loaded.receipt.id) (some (candidate, status)) :=
      fun _ _ _ _ => account_inserted hinsert hfresh
    have hturn : ∀ {db : CaptureDb} {outcome : Outcome}, (fun k => (db.candidates.find k).map fun row =>
        (row.candidate, row.status)) = Function.update turn.db.account.candidates
          (candidate.spanKey loaded.receipt.id) (some (candidate, outcome.status)) →
        (db.resolutions.rows.map fun row => (row.opportunityId, row.selectedChoice)) =
          turn.db.account.resolutions ++ (outcome.resolution candidate).toList →
        db.opportunities = outcome.close call.now turn.db.opportunities →
        db.account = turn.db.account.record loaded.receipt.id call.now candidate outcome := by
      intro db outcome hcandidates hresolutions hopportunities
      rw [Account.record, if_pos hfree]
      exact Account.ext hcandidates hresolutions hopportunities
    simp only [Turn.next, beginCandidate, insertCandidate]
    rw [hinsert, Option.map_some]
    cases hbranch : branch loaded turn.openRows candidate with
    | none =>
      refine ⟨hturn (hend _ _ _ _) ?_ rfl, fun _ => rfl, fun h => absurd hfree h⟩
      simp [Outcome.ofBranch, Outcome.resolution, CaptureDb.account]
    | some taken =>
      cases taken with
      | answer target =>
        refine ⟨hturn (hend _ _ _ _) ?_ rfl, fun _ => rfl, fun h => absurd hfree h⟩
        simp [Outcome.ofBranch, Outcome.resolution, CaptureDb.account, settleCandidate, settleAnswer,
          insertHumanResolution, Table.add]
      | correction target =>
        refine ⟨hturn (hend _ _ _ _) ?_ rfl, fun _ => rfl, fun h => absurd hfree h⟩
        simp [Outcome.ofBranch, Outcome.resolution, CaptureDb.account, settleCandidate, settleCorrection,
          insertHumanResolution, Table.add]
      | hold target =>
        refine ⟨hturn (hend _ _ _ _) ?_ rfl, fun _ => rfl, fun h => absurd hfree h⟩
        simp [Outcome.ofBranch, Outcome.resolution, CaptureDb.account, settleCandidate, settleHeld]

/-- What is on record stays, to the end of the loop. -/
theorem foldl_next_keeps {k : SpanKey} {x : DecisionCandidate × CandidateStatus} (todo : List DecisionCandidate)
    {turn : Turn} (h : turn.db.account.candidates k = some x) :
    (todo.foldl (Turn.next host uuid4 call loaded) turn).db.account.candidates k = some x := by
  induction todo generalizing turn with
  | nil => exact h
  | cons candidate rest ih =>
    refine ih ?_
    rw [(next_account turn candidate).1]
    exact Account.record_keeps h

end Lite

/-! ### The loop of `_extract_receipt` -/

namespace Loaded
variable (loaded : Loaded)

/-- The account of a candidate, as its branch says. -/
def recordBranch (now : Instant) (a : Account) (candidate : DecisionCandidate) : Account :=
  a.record loaded.receipt.id now candidate (.ofBranch (loaded.branchOf candidate))

variable {loaded} {now : Instant}

theorem foldl_recordBranch_keeps {k : SpanKey} {x : DecisionCandidate × CandidateStatus}
    (todo : List DecisionCandidate) {a : Account} (h : a.candidates k = some x) :
    (todo.foldl (loaded.recordBranch now) a).candidates k = some x := by
  induction todo generalizing a with
  | nil => exact h
  | cons candidate rest ih => exact ih (Account.record_keeps h)

end Loaded

/-! ### Where the two agree -/

namespace Loaded
variable (loaded : Loaded)

/-- The questions a message has left open. -/
def remaining (answered : List String) : List OpportunityRow := loaded.openRows.filter (·.id ∉ answered)

/-- The question a candidate answers, where all that were open count. -/
def answers (candidate : DecisionCandidate) : List String :=
  if loaded.promotion candidate = .promote && candidate.kind = .answer then candidate.opportunityId.toList else []

/-- Each candidate that is not on record is decided on alike, whether the questions that were
answered before it are left out or not. -/
def decidesAlike (taken : List SpanKey) (answered : List String) : List DecisionCandidate → Bool
  | [] => true
  | candidate :: rest =>
    if candidate.spanKey loaded.receipt.id ∈ taken then decidesAlike taken answered rest
    else
      promotionDecision candidate ((loaded.remaining answered).map (·.toModel)) loaded.observedAt loaded.expiryAt =
          loaded.promotion candidate &&
        decidesAlike (candidate.spanKey loaded.receipt.id :: taken) (loaded.answers candidate ++ answered) rest

end Loaded

section Compare
variable {call : ExtractCall} {loaded : Loaded}

/-- The questions that are left open, where the promotion is the same. -/
theorem openAfter_remaining {candidate : DecisionCandidate} {answered : List String}
    (hsame : promotionDecision candidate ((loaded.remaining answered).map (·.toModel)) loaded.observedAt loaded.expiryAt =
      loaded.promotion candidate) :
    ((branch loaded (loaded.remaining answered) candidate).map (openAfter (loaded.remaining answered))).getD
      (loaded.remaining answered) = loaded.remaining (loaded.answers candidate ++ answered) := by
  by_cases hanswers : loaded.promotion candidate = .promote ∧ candidate.kind = .answer
  · obtain ⟨hpromote, hkind⟩ := hanswers
    rw [hpromote] at hsame
    obtain ⟨id, hid, hcorrection | ⟨_, target, htarget⟩⟩ := promotionDecision_promote hsame
    · cases hkind.symm.trans hcorrection
    · obtain ⟨row, hrow⟩ := find_toModel htarget
      have hbranch : branch loaded (loaded.remaining answered) candidate = some (.answer row) := by
        simp [branch, hsame, hkind, hid, hrow]
      have hids : loaded.answers candidate = [row.id] := by
        simp [Loaded.answers, hpromote, hkind, hid, find_id hrow]
      rw [hbranch, hids]
      simp [openAfter, Loaded.remaining, List.filter_filter]
  · have hids : loaded.answers candidate = [] := if_neg (by simpa using hanswers)
    rw [hids, List.nil_append]
    cases hbranch : branch loaded (loaded.remaining answered) candidate with
    | none => rfl
    | some taken =>
      cases taken with
      | correction target => rfl
      | hold target => rfl
      | answer target =>
        unfold branch at hbranch
        simp only at hbranch
        split at hbranch
        · exact absurd ⟨hsame.symm.trans ‹_›, ‹_›⟩ hanswers
        · cases hbranch
        · cases hbranch
        · cases hbranch

theorem foldl_next_account_iff (todo : List DecisionCandidate) {turn : Turn} {taken : List SpanKey}
    {answered : List String} (hopen : turn.openRows = loaded.remaining answered)
    (htaken : ∀ k, k ∈ taken ↔ turn.db.account.candidates k ≠ none) (hcorrects : ∀ c ∈ todo, loaded.Corrects c) :
    (todo.foldl (Turn.next host uuid4 call loaded) turn).db.account =
        todo.foldl (loaded.recordBranch call.now) turn.db.account ↔ loaded.decidesAlike taken answered todo := by
  induction todo generalizing turn taken answered with
  | nil => simp [Loaded.decidesAlike]
  | cons candidate rest ih =>
    rw [List.forall_mem_cons] at hcorrects
    obtain ⟨haccount, hfreed, hkept⟩ := @next_account host uuid4 call loaded turn candidate
    have hworker : loaded.recordBranch call.now turn.db.account candidate = turn.db.account.record loaded.receipt.id
        call.now candidate (.ofPromotion candidate (loaded.promotion candidate)) := by
      rw [Loaded.recordBranch, ofBranch_branchOf hcorrects.1]
    rw [ofBranch_branch hcorrects.1] at haccount
    rw [List.foldl_cons, List.foldl_cons, Loaded.decidesAlike]
    by_cases hfree : turn.db.account.candidates (candidate.spanKey loaded.receipt.id) = none
    · rw [if_neg fun h => (htaken _).mp h hfree, Bool.and_eq_true, decide_eq_true_eq]
      by_cases hsame : promotionDecision candidate ((loaded.remaining answered).map (·.toModel)) loaded.observedAt
          loaded.expiryAt = loaded.promotion candidate
      · rw [hopen, hsame, ← hworker] at haccount
        have hopen' := hfreed hfree
        rw [hopen, openAfter_remaining hsame] at hopen'
        rw [← haccount, and_iff_right hsame]
        refine ih hopen' (fun k => ?_) hcorrects.2
        rw [haccount, hworker, Account.record, if_pos hfree, List.mem_cons, htaken]
        by_cases hk : k = candidate.spanKey loaded.receipt.id
        · simp [hk]
        · simp [hk]
      · -- the candidate ends differently, and stays so
        rw [hopen] at haccount
        refine iff_of_false (fun heq => hsame ?_) fun h => hsame h.1
        have hlite := (congrFun (congrArg (·.candidates) haccount) _).trans (Account.record_self hfree)
        have hrest := (congrFun (congrArg (·.candidates) hworker) _).trans (Account.record_self hfree)
        have hlite := @foldl_next_keeps host uuid4 call loaded _ _ rest _ hlite
        have hrest := @Loaded.foldl_recordBranch_keeps loaded call.now _ _ rest _ hrest
        rw [heq, hrest] at hlite
        exact (Outcome.ofPromotion_inj (Prod.mk.inj (Option.some.inj hlite)).2).symm
    · obtain ⟨x, hx⟩ := Option.ne_none_iff_exists'.mp hfree
      rw [if_pos ((htaken _).mpr hfree), hkept hfree, Loaded.recordBranch, Account.record_of_some hx]
      exact ih hopen htaken hcorrects.2

end Compare

/-! ### A worker that is alone -/

/-- The step an attempt takes. -/
def WorkerPhase.step : WorkerPhase → WorkerStep Unit
  | .claimed => .read ()
  | .between _ [] => .finish ()
  | .between _ (_ :: _) => .enter ()
  | .entered .. => .save ()
  | .saved .. => .checkpoint ()
  | .recorded .. => .settle ()

variable (host maybeDecryptPayload uuid4) in
/-- The attempt goes on to its end; `none` where it does not get there in so many steps. -/
def WorkerState.goOn : Nat → WorkerState Unit → Option (WorkerState Unit)
  | 0, _ => none
  | fuel + 1, s =>
    match s.attempts () with
    | none => some s
    | some attempt => (s.next host maybeDecryptPayload uuid4 attempt.phase.step).bind (goOn fuel)

variable (host maybeDecryptPayload uuid4) in
/-- `_extract_receipt`, by a worker that is alone with the database. -/
def extractReceipt (fuel : Nat) (call : ExtractCall) (db : CaptureDb) : Option CaptureDb :=
  let s : WorkerState Unit := ⟨{db}, fun _ => none, db.candidates.rows.map (·.id), fun _ => none⟩
  ((s.next host maybeDecryptPayload uuid4 (.claim () call)).bind (WorkerState.goOn host maybeDecryptPayload uuid4 fuel)).map
    (·.store.db)

section Worker
variable {call : ExtractCall} {receipt : ReceiptRow} {loaded : Loaded} {s s' s'' : WorkerState Unit}
  {candidate : DecisionCandidate} {todo : List DecisionCandidate} {attempt : WorkerAttempt}

theorem goOn_inj {n m : Nat} (h : s.goOn host maybeDecryptPayload uuid4 n = some s')
    (h' : s.goOn host maybeDecryptPayload uuid4 m = some s'') : s' = s'' := by
  induction n generalizing s m with
  | zero => cases h
  | succ n ih =>
    cases m with
    | zero => cases h'
    | succ m =>
      simp only [WorkerState.goOn] at h h'
      split at h
      · next hnone =>
        rw [hnone] at h'
        exact Option.some.inj (h.symm.trans h')
      · next attempt hat =>
        rw [hat] at h'
        obtain ⟨next, hnext, hrest⟩ := Option.bind_eq_some_iff.mp h
        obtain ⟨next', hnext', hrest'⟩ := Option.bind_eq_some_iff.mp h'
        rw [hnext] at hnext'
        cases hnext'
        exact ih hrest hrest'

variable (host maybeDecryptPayload uuid4) in
/-- An attempt that gets to the end from there gets to the same from here. -/
def Leads (s s' : WorkerState Unit) : Prop :=
  ∀ last n, s'.goOn host maybeDecryptPayload uuid4 n = some last →
    ∃ m, s.goOn host maybeDecryptPayload uuid4 m = some last

theorem Leads.trans (h : Leads host maybeDecryptPayload uuid4 s s') (h' : Leads host maybeDecryptPayload uuid4 s' s'') :
    Leads host maybeDecryptPayload uuid4 s s'' := by
  intro last n hlast
  obtain ⟨m, hm⟩ := h' last n hlast
  exact h last m hm

theorem leads_step (hat : s.attempts () = some attempt)
    (hnext : s.next host maybeDecryptPayload uuid4 attempt.phase.step = some s') :
    Leads host maybeDecryptPayload uuid4 s s' := by
  refine fun last n hlast => ⟨n + 1, ?_⟩
  rw [WorkerState.goOn, hat]
  simp only [hnext, Option.bind_some]
  exact hlast

theorem attempts_set (s : WorkerState Unit) (attempt : Option WorkerAttempt) :
    (s.set () attempt).attempts () = attempt := by
  simp [WorkerState.set]

theorem waits_alone (key : SpanKey) : s.waits () key = false := by
  simp [WorkerState.waits]

/-- What holds between two candidates: the ids there are were drawn, and nothing of the receipt is unfinished. -/
structure Ready (host : TextHost) (uuid4 : Uuid4) (receiptId : String) (s : WorkerState Unit) : Prop where
  drawn : (s.view host uuid4 ()).candidates.rows.map (·.id) ⊆ s.drawn
  ended : ∀ k x, (s.view host uuid4 ()).account.candidates k = some x → k.receiptId = receiptId → x.2 ≠ .new

/-! ### A candidate of its own -/

theorem find_endCandidate {candidateId observationId : String} {status : CandidateStatus} {reviewId : Option String}
    (candidates : Table CandidateRow.spanKey) (k : SpanKey) :
    (endCandidate candidateId status observationId reviewId candidates).find k =
      (candidates.find k).map fun row => if row.id = candidateId then {row with
        status
        promotedObservationId := some observationId
        reviewId := reviewId.or row.reviewId } else row := by
  refine (Table.find_updateWhere candidates _ _ _ k).trans ?_
  simp only [decide_eq_true_eq]

theorem find_recordObservation {candidateId observationId : String} (candidates : Table CandidateRow.spanKey)
    (k : SpanKey) : (recordObservation candidateId observationId candidates).find k =
      (candidates.find k).map fun row =>
        if row.id = candidateId then {row with promotedObservationId := some observationId} else row := by
  refine (Table.find_updateWhere candidates _ _ _ k).trans ?_
  simp only [decide_eq_true_eq]

section Inserted
variable {candidates inserted : Table CandidateRow.spanKey} {row : CandidateRow}

theorem account_insert (hinsert : candidates.insert row = some inserted) :
    (fun k => (inserted.find k).map fun row => (row.candidate, row.status)) =
      Function.update (fun k => (candidates.find k).map fun row => (row.candidate, row.status)) row.spanKey
        (some (row.candidate, row.status)) := by
  funext k
  rw [(Table.find_insert hinsert).2]
  by_cases hk : k = row.spanKey
  · rw [if_pos hk, hk, Function.update_self, Option.map_some]
  · rw [if_neg hk, Function.update_of_ne hk]

/-- A candidate that was entered, and brought to an end. -/
theorem account_ended {observationId : String} {status : CandidateStatus} {reviewId : Option String}
    (hinsert : candidates.insert row = some inserted) (hfresh : row.id ∉ candidates.rows.map (·.id)) :
    (fun k => ((endCandidate row.id status observationId reviewId
        (recordObservation row.id observationId inserted)).find k).map fun row => (row.candidate, row.status)) =
      Function.update (fun k => (candidates.find k).map fun row => (row.candidate, row.status)) row.spanKey
        (some (row.candidate, status)) := by
  funext k
  rw [find_endCandidate, find_recordObservation, (Table.find_insert hinsert).2]
  by_cases hk : k = row.spanKey
  · simp [hk]
  · rw [if_neg hk, Function.update_of_ne hk]
    cases hold : candidates.find k with
    | none => rfl
    | some old =>
      have hne : old.id ≠ row.id := fun heq =>
        hfresh (heq ▸ List.mem_map_of_mem (Table.find_eq_some_iff.mp hold).1)
      simp [hne]

end Inserted

section Steps
variable {taken : Taken} {pending : Pending}

/-- What the database of an attempt that is alone holds of its own writes. -/
theorem view_commit (s : WorkerState Unit) : (s.commit host uuid4 ()).view host uuid4 () = s.view host uuid4 () :=
  Transactions.view_of_committed _ _ _

theorem save_leads {inserted : Bool}
    (hat : s.attempts () = some ⟨call, receipt, .entered loaded todo taken inserted⟩) :
    ∃ s' observations observationId, Leads host maybeDecryptPayload uuid4 s s' ∧ s'.drawn = s.drawn ∧
      s'.attempts () = some ⟨call, receipt, .saved loaded todo (taken.saved observationId)⟩ ∧
      s'.store.pending = [] ∧ s'.store.db = {s.view host uuid4 () with observations} := by
  let evidence := taken.evidence call loaded.receipt
  let written := saveBehaviorEvidence uuid4 evidence (s.view host uuid4 ()).observations
  let s' := s.save host uuid4 () ⟨call, receipt, .claimed⟩ loaded todo taken
  have hnext : s.next host maybeDecryptPayload uuid4 (.save ()) = some s' := by
    simp only [WorkerState.next, hat, s']
  have hat' : s'.attempts () = some ⟨call, receipt, .saved loaded todo (taken.saved written.2)⟩ := attempts_set _ _
  refine ⟨s', written.1, written.2, leads_step hat hnext, rfl, hat', ?_, rfl⟩
  simp [s', WorkerState.save, WorkerState.commit, WorkerState.set, WorkerState.setDb, Transactions.commit,
    Transactions.rollback]

theorem checkpoint_leads (hat : s.attempts () = some ⟨call, receipt, .saved loaded todo pending⟩) :
    ∃ s', Leads host maybeDecryptPayload uuid4 s s' ∧ s'.drawn = s.drawn ∧
      s'.attempts () = some ⟨call, receipt, .recorded loaded todo pending false⟩ ∧ s'.store = {s.store with db :=
        {s.store.db with
          candidates := recordObservation pending.candidateId pending.observationId s.store.db.candidates }} := by
  let candidates := recordObservation pending.candidateId pending.observationId s.store.db.candidates
  let s' := (s.setDb {s.store.db with candidates}).set () (some ⟨call, receipt, .recorded loaded todo pending false⟩)
  have hnext : s.next host maybeDecryptPayload uuid4 (.checkpoint ()) = some s' := by
    simp only [WorkerState.next, hat, s', candidates]
  have hat' : s'.attempts () = some ⟨call, receipt, .recorded loaded todo pending false⟩ := attempts_set _ _
  exact ⟨s', leads_step hat hnext, rfl, hat', rfl⟩

/-- The end of a candidate of which nothing is resolved yet. -/
theorem view_settle (hcommitted : s.store.pending = []) :
    ∃ (reviews : Table ReviewRow.id) (reviewId : Option String),
      (s.settle host uuid4 () attempt loaded todo pending false).view host uuid4 () =
        ({toPending := pending, call := attempt.call, receipt := loaded.receipt, resolves := true, reviewId} :
          Ending).apply host uuid4 {s.store.db with reviews} := by
  obtain ⟨⟨db, _⟩, _, _, _⟩ := s
  obtain rfl : _ = [] := hcommitted
  unfold WorkerState.settle
  simp only [Bool.not_false, Bool.true_or]
  split
  · exact ⟨_, _, rfl⟩
  · exact ⟨db.reviews, none, rfl⟩

theorem settle_leads (hat : s.attempts () = some ⟨call, receipt, .recorded loaded todo pending false⟩)
    (hcommitted : s.store.pending = []) :
    ∃ s' reviews reviewId, Leads host maybeDecryptPayload uuid4 s s' ∧ s'.drawn = s.drawn ∧
      s'.attempts () = some ⟨call, receipt, .between loaded todo⟩ ∧
      s'.view host uuid4 () = ({toPending := pending, call, receipt := loaded.receipt, resolves := true, reviewId} :
        Ending).apply host uuid4 {s.store.db with reviews} := by
  let s' := s.settle host uuid4 () ⟨call, receipt, .claimed⟩ loaded todo pending false
  have hnext : s.next host maybeDecryptPayload uuid4 (.settle ()) = some s' := by
    simp only [WorkerState.next, hat, s']
  have hat' : s'.attempts () = some ⟨call, receipt, .between loaded todo⟩ := attempts_set _ _
  have hdrawn : s'.drawn = s.drawn := by
    simp only [s', WorkerState.settle, WorkerState.set]
    split <;> rfl
  obtain ⟨reviews, reviewId, hview⟩ := @view_settle host uuid4 loaded s todo ⟨call, receipt, .claimed⟩ pending hcommitted
  exact ⟨s', reviews, reviewId, leads_step hat hnext, hdrawn, hat', hview⟩

end Steps

section Turn

/-- The candidates of a candidate's end. -/
theorem Ending.apply_account {ending : Ending} {db : CaptureDb} {outcome : Outcome}
    (houtcome : Outcome.ofBranch (some ending.branch) = outcome) (hresolves : ending.resolves = true) :
    ending.status = outcome.status ∧
      ((ending.apply host uuid4 db).resolutions.rows.map fun row => (row.opportunityId, row.selectedChoice)) =
        (db.resolutions.rows.map fun row => (row.opportunityId, row.selectedChoice)) ++
          (outcome.resolution ending.candidate).toList ∧
      (ending.apply host uuid4 db).opportunities = outcome.close ending.call.now db.opportunities := by
  subst houtcome
  cases hbranch : ending.branch <;>
    simp [Ending.status, Ending.apply, Ending.resolution, hbranch, hresolves, Outcome.ofBranch, Outcome.status,
      Outcome.resolution, Outcome.close, insertHumanResolution, Table.add]

theorem endCandidate_ids {candidateId observationId : String} {status : CandidateStatus} {reviewId : Option String}
    (candidates : Table CandidateRow.spanKey) :
    (endCandidate candidateId status observationId reviewId
      (recordObservation candidateId observationId candidates)).rows.map (·.id) = candidates.rows.map (·.id) := by
  refine (Table.map_updateWhere _ ?_).trans (Table.map_updateWhere _ ?_)
  · exact fun _ => rfl
  · exact fun _ => rfl

theorem recordBranch_ended {a : Account} {now : Instant}
    (h : ∀ k x, a.candidates k = some x → k.receiptId = loaded.receipt.id → x.2 ≠ .new) :
    ∀ k x, (loaded.recordBranch now a candidate).candidates k = some x → k.receiptId = loaded.receipt.id →
      x.2 ≠ .new := by
  intro k x hx
  rw [Loaded.recordBranch, Account.record] at hx
  split_ifs at hx
  · by_cases hk : k = candidate.spanKey loaded.receipt.id
    · simp only [hk, Function.update_self, Option.some.injEq] at hx
      subst hx
      exact fun _ => Outcome.status_ne_new _
    · simp only [Function.update_of_ne hk] at hx
      exact h k x hx
  · exact h k x hx

/-- A candidate is gone through. -/
theorem turn_leads (hat : s.attempts () = some ⟨call, receipt, .between loaded (candidate :: todo)⟩)
    (hready : Ready host uuid4 loaded.receipt.id s) :
    ∃ s', Leads host maybeDecryptPayload uuid4 s s' ∧ s'.attempts () = some ⟨call, receipt, .between loaded todo⟩ ∧
      Ready host uuid4 loaded.receipt.id s' ∧ (s'.view host uuid4 ()).account =
        loaded.recordBranch call.now (s.view host uuid4 ()).account candidate := by
  set db := s.view host uuid4 () with hdb
  cases hfind : db.candidates.find (candidate.spanKey loaded.receipt.id) with
  | some row =>
    have hrecorded : db.account.candidates (candidate.spanKey loaded.receipt.id) = some (row.candidate, row.status) := by
      simp [CaptureDb.account, hfind]
    have hstatus : row.status ≠ .new := hready.ended _ _ hrecorded rfl
    let s' := s.set () (some ⟨call, receipt, .between loaded todo⟩)
    have hnext : s.next host maybeDecryptPayload uuid4 (.enter ()) = some s' := by
      simp only [WorkerState.next, hat, WorkerState.enter, ← hdb, hfind, if_pos hstatus, s']
    exact ⟨s', leads_step hat hnext, attempts_set _ _, ⟨hready.drawn, hready.ended⟩,
      (Account.record_of_some hrecorded).symm⟩
  | none =>
    let row := insertedCandidate call loaded candidate (uuid4.draw s.drawn)
    have hfresh : row.id ∉ db.candidates.rows.map (·.id) := fun hmem => uuid4.draw_notMem _ (hready.drawn hmem)
    have hfree : db.account.candidates (candidate.spanKey loaded.receipt.id) = none := by
      simp [CaptureDb.account, hfind]
    have hrecord : loaded.recordBranch call.now db.account candidate = _ := if_pos hfree
    obtain ⟨inserted, hinsert⟩ : ∃ inserted, db.candidates.insert row = some inserted := by
      cases hinsert : db.candidates.insert row with
      | some inserted => exact ⟨inserted, rfl⟩
      | none =>
        obtain ⟨x, hx⟩ := Table.find_of_insert_eq_none hinsert
        cases hfind.symm.trans hx
    have hids : inserted.rows.map (·.id) ⊆ row.id :: s.drawn := by
      rw [Table.insert_eq_some hinsert, List.map_append]
      exact List.append_subset.mpr ⟨fun id hid => List.mem_cons_of_mem _ (hready.drawn hid), by simp⟩
    let entered := {s with store := s.store.write () (.insert row), drawn := row.id :: s.drawn}
    have hview : entered.view host uuid4 () = {db with candidates := inserted} := by
      refine (Transactions.view_write_self _ _ _ _).trans ?_
      show Write.apply host uuid4 (.insert row) db = _
      simp [Write.apply, hinsert]
    cases hbranch : loaded.branchOf candidate with
    | none =>
      let s' := entered.set () (some ⟨call, receipt, .between loaded todo⟩)
      have hnext : s.next host maybeDecryptPayload uuid4 (.enter ()) = some s' := by
        simp only [WorkerState.next, hat, WorkerState.enter, ← hdb, hfind, waits_alone, WorkerState.take, hbranch, s',
          entered, row]
        rfl
      have hview' : s'.view host uuid4 () = {db with candidates := inserted} := hview
      have haccount : (s'.view host uuid4 ()).account = loaded.recordBranch call.now db.account candidate := by
        have hdiscard : row.status = .discarded := if_pos (branchOf_eq_none_iff.mp hbranch)
        rw [hview', hrecord, hbranch]
        refine Account.ext ?_ (List.append_nil _).symm rfl
        have hinserted := account_insert hinsert
        rwa [hdiscard] at hinserted
      refine ⟨s', leads_step hat hnext, attempts_set _ _, ⟨?_, ?_⟩, haccount⟩
      · rw [hview']
        exact hids
      · rw [haccount]
        exact recordBranch_ended hready.ended
    | some branch =>
      obtain ⟨previous, hnext⟩ : ∃ previous, s.next host maybeDecryptPayload uuid4 (.enter ()) =
          some (entered.set () (some ⟨call, receipt, .entered loaded todo
            {candidate, candidateId := row.id, branch, previous} true⟩)) := by
        apply Exists.intro
        simp only [WorkerState.next, hat, WorkerState.enter, ← hdb, hfind, waits_alone, WorkerState.take, hbranch,
          entered, row]
        rfl
      let taken : Taken := {candidate, candidateId := row.id, branch, previous}
      let s₁ := entered.set () (some ⟨call, receipt, .entered loaded todo taken true⟩)
      obtain ⟨s₂, observations, o, hleads₂, hdrawn₂, hat₂, hpending₂, hdb₂⟩ :=
        @save_leads host maybeDecryptPayload uuid4 call receipt loaded s₁ todo taken true (attempts_set _ _)
      obtain ⟨s₃, hleads₃, hdrawn₃, hat₃, hstore₃⟩ := @checkpoint_leads host maybeDecryptPayload uuid4 _ _ _ _ _ _ hat₂
      have hpending₃ : s₃.store.pending = [] := by rw [hstore₃, hpending₂]
      obtain ⟨s₄, reviews, reviewId, hleads₄, hdrawn₄, hat₄, hview₄⟩ :=
        @settle_leads host maybeDecryptPayload uuid4 _ _ _ _ _ _ hat₃ hpending₃
      rw [show s₁.view host uuid4 () = {db with candidates := inserted} from hview] at hdb₂
      rw [hstore₃, hdb₂] at hview₄
      obtain ⟨hstatus, hresolutions, hopportunities⟩ := @Ending.apply_account host uuid4
        ⟨taken.saved o, call, loaded.receipt, true, reviewId⟩
        {db with candidates := recordObservation row.id o inserted, observations, reviews} _ rfl rfl
      have haccount : (s₄.view host uuid4 ()).account = loaded.recordBranch call.now db.account candidate := by
        rw [hview₄, hrecord, hbranch]
        refine Account.ext ?_ hresolutions hopportunities
        refine (account_ended hinsert hfresh).trans ?_
        rw [hstatus]
        rfl
      refine ⟨s₄, (leads_step hat hnext).trans (hleads₂.trans (hleads₃.trans hleads₄)), hat₄, ⟨?_, ?_⟩, haccount⟩
      · rw [hview₄, hdrawn₄, hdrawn₃, hdrawn₂]
        exact fun id hid => hids ((congrArg (id ∈ ·) (endCandidate_ids inserted)).mp hid)
      · rw [haccount]
        exact recordBranch_ended hready.ended

/-- So are the rest of them. -/
theorem between_leads (hat : s.attempts () = some ⟨call, receipt, .between loaded todo⟩)
    (hready : Ready host uuid4 loaded.receipt.id s) :
    ∃ n last, s.goOn host maybeDecryptPayload uuid4 n = some last ∧
      last.store.db.account = todo.foldl (loaded.recordBranch call.now) (s.view host uuid4 ()).account := by
  induction todo generalizing s with
  | nil =>
    let s' := s.commit host uuid4 ()
    let last := (s'.setDb {s'.store.db with receipts := call.finish s'.store.db.receipts}).set () none
    have hnext : s.next host maybeDecryptPayload uuid4 (.finish ()) = some last := by
      simp only [WorkerState.next, hat, last, s']
    refine ⟨2, last, ?_, rfl⟩
    simp [WorkerState.goOn, hat, WorkerPhase.step, hnext, last, attempts_set]
  | cons candidate rest ih =>
    obtain ⟨s', hleads, hat', hready', haccount⟩ := @turn_leads host maybeDecryptPayload uuid4 _ _ _ _ _ _ hat hready
    obtain ⟨n, last, hlast, hfold⟩ := ih hat' hready'
    obtain ⟨m, hm⟩ := hleads last n hlast
    refine ⟨m, last, hm, ?_⟩
    rw [hfold, haccount, List.foldl_cons]

end Turn

end Worker

/-! ### The two -/

section Parity
variable {call : ExtractCall} {db : CaptureDb} {loaded : Loaded}

/-- What is not encrypted is read alike. -/
theorem loadContent_of_loadReceiptContent {receipt : ReceiptRow} {content : String}
    (hdecrypt : ∀ fields : Payload, fields.any (·.1 = "_tce_encrypted") = false → maybeDecryptPayload fields = .ok fields)
    (h : loadReceiptContent host db receipt = .ok content) :
    loadContent host maybeDecryptPayload db receipt = .ok content := by
  unfold loadReceiptContent at h
  split at h
  · cases h
  · next eventId hevent =>
    obtain ⟨hevent, _⟩ := Option.filter_eq_some_iff.mp hevent
    split at h
    · cases h
    · next event hfind =>
      rw [loadContent, hevent]
      simp only [hfind]
      split at h
      · next hpayload =>
        cases h
        have hempty : asDict host .null = [] := rfl
        rw [hpayload, hempty, hdecrypt [] rfl]
        rfl
      · next fields hpayload =>
        split_ifs at h with hencrypted
        rw [hpayload, asDict, hdecrypt fields (Bool.not_eq_true _ ▸ hencrypted)]
        exact h
      · cases h

theorem loadReceipt_of_load {receipt : ReceiptRow}
    (hdecrypt : ∀ fields : Payload, fields.any (·.1 = "_tce_encrypted") = false → maybeDecryptPayload fields = .ok fields)
    (h : call.load host db receipt = .ok loaded) : call.loadReceipt host maybeDecryptPayload db receipt = .ok loaded := by
  unfold ExtractCall.load at h
  split at h
  · cases h
  · next content hcontent =>
    rw [ExtractCall.loadReceipt, loadContent_of_loadReceiptContent hdecrypt hcontent]
    exact h

theorem load_corrects {receipt : ReceiptRow} (h : call.load host db receipt = .ok loaded) :
    ∀ candidate ∈ loaded.candidates, loaded.Corrects candidate := by
  unfold ExtractCall.load at h
  split at h
  · cases h
  · cases h
    intro candidate hcandidate hkind id hid
    simp only at hcandidate
    obtain ⟨resolved, hmem, hsame⟩ := extractCandidates_correction host hcandidate hkind hid
    obtain ⟨row, hrow, rfl⟩ := List.mem_map.mp hmem
    exact ⟨row, hrow, hsame⟩

theorem load_receipt {receipt : ReceiptRow} (h : call.load host db receipt = .ok loaded) : loaded.receipt = receipt := by
  unfold ExtractCall.load at h
  split at h <;> cases h
  rfl

/-- **The two extractions of a receipt leave the same candidates, choices and questions
exactly when each candidate is decided on alike**, whether the questions that were answered
before it are left out or not. -/
theorem sameAccount_iff
    (hdecrypt : ∀ fields : Payload, fields.any (·.1 = "_tce_encrypted") = false → maybeDecryptPayload fields = .ok fields)
    (hloads : call.loads host db = some loaded)
    (hended : ∀ row ∈ db.candidates.rows, row.receiptId = call.receiptId → row.status ≠ .new) :
    (∃ fuel, (extractReceipt host maybeDecryptPayload uuid4 fuel call db).isSome) ∧
      ∀ fuel after, extractReceipt host maybeDecryptPayload uuid4 fuel call db = some after →
        ((extractOne host uuid4 call db).1.account = after.account ↔
          loaded.decidesAlike (db.candidates.rows.map (·.spanKey)) [] loaded.candidates) := by
  have hone := @extractOne_of_loads host uuid4 call db loaded hloads
  unfold ExtractCall.loads at hloads
  split_ifs at hloads with hclaims
  obtain ⟨receipt, hreceipt, hload⟩ := Option.bind_eq_some_iff.mp hloads
  rw [toOption_eq_some_iff] at hload
  simp only at hreceipt hload hone
  set claimed : CaptureDb := {db with receipts := call.claim db.receipts} with hclaimed
  have hreceiptId : receipt.id = call.receiptId := (Table.find_eq_some_iff.mp hreceipt).2
  have hloaded := load_receipt hload
  let idle : WorkerState Unit := ⟨{db}, fun _ => none, db.candidates.rows.map (·.id), fun _ => none⟩
  let s := (idle.setDb claimed).set () (some ⟨call, receipt, .claimed⟩)
  have hclaim : idle.next host maybeDecryptPayload uuid4 (.claim () call) = some s := by
    simp [WorkerState.next, idle, hclaims, hreceipt, s, claimed]
  let s' := s.set () (some ⟨call, receipt, .between loaded loaded.candidates⟩)
  have hat : s.attempts () = some ⟨call, receipt, .claimed⟩ := attempts_set _ _
  have hread : s.next host maybeDecryptPayload uuid4 (.read ()) = some s' := by
    have hload' : call.loadReceipt host maybeDecryptPayload s.store.db receipt = .ok loaded :=
      loadReceipt_of_load hdecrypt hload
    simp only [WorkerState.next, hat, hload', s']
  have hready : Ready host uuid4 loaded.receipt.id s' := by
    refine ⟨fun id hid => hid, fun k x hx hk => ?_⟩
    obtain ⟨row, hrow, rfl⟩ := Option.map_eq_some_iff.mp hx
    obtain ⟨hmem, rfl⟩ := Table.find_eq_some_iff.mp hrow
    exact hended row hmem (hk.trans (hloaded ▸ hreceiptId))
  obtain ⟨n, last, hlast, hfold⟩ := between_leads (attempts_set s _) hready
  obtain ⟨m, hm⟩ := leads_step hat hread last n hlast
  have hworker : ∀ fuel, extractReceipt host maybeDecryptPayload uuid4 fuel call db =
      (s.goOn host maybeDecryptPayload uuid4 fuel).map (·.store.db) := by
    intro fuel
    simp only [extractReceipt, idle, hclaim, Option.bind_some]
  refine ⟨⟨m, by simp [hworker, hm]⟩, fun fuel after hafter => ?_⟩
  rw [hworker] at hafter
  obtain ⟨last', hlast', rfl⟩ := Option.map_eq_some_iff.mp hafter
  rw [goOn_inj hlast' hm, hfold, hone]
  refine @foldl_next_account_iff host uuid4 call loaded loaded.candidates ⟨claimed, loaded.openRows, {}⟩ _ [] ?_ ?_
    (load_corrects hload)
  · simp [Loaded.remaining]
  · intro k
    show _ ↔ (claimed.candidates.find k).map _ ≠ none
    rw [Ne, Option.map_eq_none_iff, Table.find, List.find?_eq_none]
    simp [claimed]

/-! ### An answer, and one that is left -/

/-- Two questions that offer one option in common, and a message. -/
def exampleOverlap (message : String) : CaptureDb := {exampleDb message with
  opportunities := ⟨[exampleQuestion "store" "Which store?" ["postgres", "redis"],
    exampleQuestion "cache" "Which cache?" ["redis", "memcached"]], by simp [exampleQuestion]⟩ }

/-- Only one of the two questions is answered. -/
theorem sameAccount_iff_example : ∃ loaded,
    (exampleCall (epoch + 3)).loads exampleTextHost (exampleOverlap "Use postgres.") = some loaded ∧
      (∃ fuel, (extractReceipt exampleTextHost .ok exampleUuid4 fuel (exampleCall (epoch + 3))
        (exampleOverlap "Use postgres.")).isSome) ∧
      ∀ fuel after, extractReceipt exampleTextHost .ok exampleUuid4 fuel (exampleCall (epoch + 3))
          (exampleOverlap "Use postgres.") = some after →
        ((extractOne exampleTextHost exampleUuid4 (exampleCall (epoch + 3)) (exampleOverlap "Use postgres.")).1.account =
            after.account ↔ loaded.decidesAlike [] [] loaded.candidates) := by
  have hsome : ((exampleCall (epoch + 3)).loads exampleTextHost (exampleOverlap "Use postgres.")).isSome := by
    decide +kernel
  obtain ⟨loaded, hloads⟩ := Option.isSome_iff_exists.mp hsome
  exact ⟨loaded, hloads, sameAccount_iff (fun _ _ => rfl) hloads (by simp [exampleOverlap, exampleDb])⟩

/-- Once the first question is answered the second has the option they share to itself; the
worker holds that answer for a review. -/
theorem promoted_and_held : ¬ ∀ (call : ExtractCall) (db after : CaptureDb) (fuel : Nat), db.candidates.rows = [] →
    extractReceipt exampleTextHost .ok exampleUuid4 fuel call db = some after →
    (extractOne exampleTextHost exampleUuid4 call db).1.account = after.account := by
  intro hall
  have htwo : (extractReceipt exampleTextHost .ok exampleUuid4 20 (exampleCall (epoch + 3))
      (exampleOverlap "Use postgres. Not memcached.")).any fun after => after.resolutions.rows.length = 1 &&
        (extractOne exampleTextHost exampleUuid4 (exampleCall (epoch + 3))
          (exampleOverlap "Use postgres. Not memcached.")).1.resolutions.rows.length = 2 := by
    decide +kernel
  obtain ⟨after, hafter, hlengths⟩ := (Option.any_eq_true _ _).mp htwo
  simp only [Bool.and_eq_true, decide_eq_true_eq] at hlengths
  have hsame := congrArg (·.resolutions.length) (hall _ _ after 20 rfl hafter)
  simp only [CaptureDb.account, List.length_map] at hsame
  omega

end Parity

end OpenTimeline.Extraction
