import OpenTimeline.Host
import OpenTimeline.Library.Ranking
import OpenTimeline.Library.Table
import OpenTimeline.Library.Transition

/-! The queue of receipts.

A receipt is claimed under a lease, extracted, and marked with the version that did it. A
claim takes a receipt that waits or has failed, or whose lease has run out; the selection of
a batch lists the first two kinds alone. Outside a claim no receipt has a lease
(`unleased`), so the two differ on exactly the receipts a claim was made of and never
finished (`selected_iff`). The selection of the worker lists those as well
(`fullSelects_of_accepts`). -/
namespace OpenTimeline.Extraction
open Library

/-! ### Rows -/

inductive OriginKind
  | humanInput
  | managerInstruction
  | executorOutput
  | importedTranscript
  | toolResult
deriving DecidableEq, Repr

inductive ExtractionState
  | pending
  | extracting
  | extracted
  | failed
deriving DecidableEq, Repr

structure ReceiptRow where
  id : String
  workspaceId : String
  subjectUserId : String
  originKind : OriginKind
  capturePrincipal : String
  eventId : Option String
  projectId : Option String
  observedAt : Instant
  ingestedAt : Instant
  extractionState : ExtractionState := .pending
  extractionLeaseUntil : Option Instant := none
  extractionAttempts : Nat := 0
  extractionLastError : Option String := none
  extractionVersionDone : Option String := none
  nextExtractionAt : Option Instant := none
deriving DecidableEq, Repr

structure Settings where
  decisionExtractionLeaseSeconds : Int := 300
  decisionExtractionMaxAttempts : Int := 10
  captureOpportunityTtlSeconds : Int := 3600

namespace Settings

def leaseSeconds (settings : Settings) : Nat := (max 30 settings.decisionExtractionLeaseSeconds).toNat

def maxAttempts (settings : Settings) : Nat := (max 1 settings.decisionExtractionMaxAttempts).toNat

end Settings

/-! ### One receipt -/

/-- A call of `_extract_one`, under the version that is deployed. -/
structure ExtractCall where
  settings : Settings := {}
  receiptId : String
  now : Instant
  version : String

namespace ExtractCall
variable (call : ExtractCall)

/-- The WHERE clause of the claim. A comparison with NULL does not hold. -/
def accepts (row : ReceiptRow) : Bool :=
  (row.extractionState ∈ [.pending, .failed] || row.extractionLeaseUntil.any (· < call.now)) &&
    row.extractionVersionDone.all (· < call.version)

def claim (receipts : Table ReceiptRow.id) : Table ReceiptRow.id :=
  receipts.updateWhere (fun row => row.id = call.receiptId && call.accepts row) (fun row => {row with
    extractionState := .extracting
    extractionLeaseUntil := some (call.now + call.settings.leaseSeconds * 1000000)
    extractionAttempts := row.extractionAttempts + 1 }) fun _ => rfl

/-- The claim hits a row. -/
def claims (receipts : Table ReceiptRow.id) : Bool := (receipts.find call.receiptId).any call.accepts

def finish (receipts : Table ReceiptRow.id) : Table ReceiptRow.id :=
  receipts.updateWhere (fun row => row.id = call.receiptId) (fun row => {row with
    extractionState := .extracted
    extractionVersionDone := some call.version
    extractionLeaseUntil := none
    extractionLastError := none }) fun _ => rfl

/-- After an exception; `receipt` is the row as it was read under the claim. -/
def fail (receipt : ReceiptRow) (error : String) (receipts : Table ReceiptRow.id) : Table ReceiptRow.id :=
  receipts.updateWhere (fun row => row.id = call.receiptId) (fun row => {row with
    extractionState := .failed
    extractionLastError := some (String.ofList (error.toList.take 1000))
    extractionLeaseUntil := none
    nextExtractionAt := some (call.now + min 3600 (2 ^ max 1 receipt.extractionAttempts) * 1000000) }) fun _ => rfl

end ExtractCall

/-! ### Batches -/

/-- The WHERE clause of `extract_pending_inputs`. -/
def selects (settings : Settings) (now : Instant) (row : ReceiptRow) : Bool :=
  row.extractionState ∈ [.pending, .failed] && row.nextExtractionAt.all (· ≤ now) &&
    row.extractionLeaseUntil.all (· < now) && row.extractionAttempts < settings.maxAttempts

def selectable (settings : Settings) (now : Instant) (receipts : Table ReceiptRow.id) : List ReceiptRow :=
  receipts.rows.filter (selects settings now)

/-- The receipts `extract_pending_inputs` goes through. -/
def batch (settings : Settings) (now : Instant) (limit : Int) (receipts : Table ReceiptRow.id) : List String :=
  ((sortOn (·.observedAt) (selectable settings now receipts)).take (max 1 limit).toNat).map (·.id)

/-- The WHERE clause of the worker's `_sweep`. -/
def fullSelects (settings : Settings) (version : String) (now : Instant) (row : ReceiptRow) : Bool :=
  (row.extractionState ∈ [.pending, .failed] ||
      row.extractionState = .extracting && row.extractionLeaseUntil.any (· < now)) &&
    row.nextExtractionAt.all (· ≤ now) && row.extractionLeaseUntil.all (· < now) &&
    row.extractionAttempts < settings.maxAttempts && row.extractionVersionDone.all (· < version)

/-! ### Runs -/

/-- A call whose claim has hit, and the receipt once it has read it. -/
structure Attempt where
  call : ExtractCall
  receipt : Option ReceiptRow := none

structure QueueState (ι : Type) where
  receipts : Table ReceiptRow.id
  attempts : ι → Option Attempt

inductive QueueStep (ι : Type)
  /-- `insert_receipt` -/
  | ingest (id workspaceId subjectUserId : String) (originKind : OriginKind) (capturePrincipal : String)
    (eventId projectId : Option String) (observedAt ingestedAt : Instant)
  | claim (i : ι) (call : ExtractCall)
  | load (i : ι)
  | finish (i : ι)
  | fail (i : ι) (error : String)
  | crash (i : ι)

section System
variable {ι : Type} [DecidableEq ι]

def QueueState.set (s : QueueState ι) (i : ι) (attempt : Option Attempt) : QueueState ι :=
  {s with attempts := Function.update s.attempts i attempt}

/-- Any number of calls on any receipts, their steps in any order. -/
def queueSystem (ι : Type) [DecidableEq ι] : System (QueueState ι) (QueueStep ι) where
  init s := s.receipts.rows = [] ∧ ∀ i, s.attempts i = none
  next s
    | .ingest id workspaceId subjectUserId originKind capturePrincipal eventId projectId observedAt ingestedAt =>
      (s.receipts.insert {
        id, workspaceId, subjectUserId, originKind, capturePrincipal, eventId, projectId, observedAt, ingestedAt
      }).map fun receipts => {s with receipts}
    | .claim i call =>
      match s.attempts i with
      | some _ => none
      | none =>
        if call.claims s.receipts then some ({s with receipts := call.claim s.receipts}.set i (some {call}))
        else some s
    | .load i =>
      match s.attempts i with
      | some ⟨call, none⟩ =>
        match s.receipts.find call.receiptId with
        | some receipt => some (s.set i (some ⟨call, some receipt⟩))
        | none => some (s.set i none)
      | _ => none
    | .finish i =>
      match s.attempts i with
      | some ⟨call, some _⟩ => some ({s with receipts := call.finish s.receipts}.set i none)
      | _ => none
    | .fail i error =>
      match s.attempts i with
      | some ⟨call, some receipt⟩ =>
        some ({s with receipts := call.fail receipt error s.receipts}.set i none)
      | _ => none
    | .crash i => some (s.set i none)

/-! ### Leases -/

/-- Outside a claim a receipt has no lease. -/
def ReceiptRow.Unleased (row : ReceiptRow) : Prop :=
  row.extractionState ≠ .extracting → row.extractionLeaseUntil = none

section
variable {receipts : Table ReceiptRow.id} (call : ExtractCall) (hrows : ∀ row ∈ receipts.rows, row.Unleased)
include hrows

theorem claim_unleased : ∀ row ∈ (call.claim receipts).rows, row.Unleased := by
  rw [ExtractCall.claim]
  exact Table.forall_updateWhere hrows fun _ _ _ _ hstate => absurd rfl hstate

theorem finish_unleased : ∀ row ∈ (call.finish receipts).rows, row.Unleased := by
  rw [ExtractCall.finish]
  exact Table.forall_updateWhere hrows fun _ _ _ _ _ => rfl

theorem fail_unleased (receipt : ReceiptRow) (error : String) :
    ∀ row ∈ (call.fail receipt error receipts).rows, row.Unleased := by
  rw [ExtractCall.fail]
  exact Table.forall_updateWhere hrows fun _ _ _ _ _ => rfl

end

theorem queue_step_unleased {s s' : QueueState ι} {step : QueueStep ι} (hinv : ∀ row ∈ s.receipts.rows, row.Unleased)
    (h : (queueSystem ι).next s step = some s') : ∀ row ∈ s'.receipts.rows, row.Unleased := by
  cases step with
  | ingest =>
    obtain ⟨receipts, hinsert, rfl⟩ := Option.map_eq_some_iff.mp h
    exact Table.forall_insert hinsert hinv fun _ => rfl
  | claim i call =>
    simp only [queueSystem] at h
    split at h
    · cases h
    · split_ifs at h with hclaims
      · cases h
        exact claim_unleased call hinv
      · cases h
        exact hinv
  | load i =>
    simp only [queueSystem] at h
    split at h
    · split at h <;> cases h <;> exact hinv
    · cases h
  | finish i =>
    simp only [queueSystem] at h
    split at h
    · cases h
      exact finish_unleased _ hinv
    · cases h
  | fail i error =>
    simp only [queueSystem] at h
    split at h
    · cases h
      exact fail_unleased _ hinv _ _
    · cases h
  | crash i =>
    cases h
    exact hinv

theorem unleased {s : QueueState ι} (hs : (queueSystem ι).Reachable s) : ∀ row ∈ s.receipts.rows, row.Unleased := by
  refine hs.invariant (fun s hinit row hrow => ?_) fun _ _ _ _ hinv h => queue_step_unleased hinv h
  rw [hinit.1] at hrow
  cases hrow

/-! ### What is selected -/

theorem mem_batch_iff {settings : Settings} {now : Instant} {limit : Int} {receipts : Table ReceiptRow.id}
    {row : ReceiptRow} (hrow : row ∈ receipts.rows) : row.id ∈ batch settings now limit receipts ↔
      selects settings now row ∧ rank (·.observedAt) (selectable settings now receipts) row < (max 1 limit).toNat := by
  have hnodup : (selectable settings now receipts).Nodup := (receipts.nodup.of_map).filter _
  have hsub : ∀ row' ∈ sortOn (·.observedAt) (selectable settings now receipts),
      row' ∈ receipts.rows ∧ selects settings now row' := fun row' hrow' =>
    List.mem_filter.mp ((sortOn_perm _ _).mem_iff.mp hrow')
  constructor
  · intro hid
    obtain ⟨row', htake, hid⟩ := List.mem_map.mp hid
    obtain ⟨hrow', hselects⟩ := hsub row' (List.mem_of_mem_take htake)
    obtain rfl := List.inj_on_of_nodup_map receipts.nodup hrow' hrow hid
    exact ⟨hselects, (mem_take_sortOn_iff hnodup (List.mem_filter.mpr ⟨hrow, hselects⟩)).mp htake⟩
  · rintro ⟨hselects, hrank⟩
    exact List.mem_map_of_mem ((mem_take_sortOn_iff hnodup (List.mem_filter.mpr ⟨hrow, hselects⟩)).mpr hrank)

section Due
variable {call : ExtractCall} {row : ReceiptRow} (haccepts : call.accepts row)
  (hattempts : row.extractionAttempts < call.settings.maxAttempts) (hbackoff : row.nextExtractionAt.all (· ≤ call.now))
include haccepts hattempts hbackoff

theorem selects_iff_of_accepts (hrow : row.Unleased) :
    selects call.settings call.now row ↔ row.extractionState ≠ .extracting := by
  simp only [ExtractCall.accepts, Bool.and_eq_true, Bool.or_eq_true, decide_eq_true_eq] at haccepts
  simp only [selects, Bool.and_eq_true, decide_eq_true_eq]
  constructor
  · rintro ⟨⟨⟨hstate, _⟩, _⟩, _⟩ heq
    simp [heq] at hstate
  · intro hstate
    have hlease := hrow hstate
    refine ⟨⟨⟨?_, hbackoff⟩, by simp [hlease]⟩, hattempts⟩
    rcases haccepts.1 with hwaits | hexpired
    · exact hwaits
    · simp [hlease] at hexpired

/-- The selection of the worker misses no receipt. -/
theorem fullSelects_of_accepts (hrow : row.Unleased) : fullSelects call.settings call.version call.now row := by
  simp only [ExtractCall.accepts, Bool.and_eq_true, Bool.or_eq_true, decide_eq_true_eq] at haccepts
  simp only [fullSelects, Bool.and_eq_true, Bool.or_eq_true, decide_eq_true_eq]
  obtain ⟨hclaim, hversion⟩ := haccepts
  by_cases hstate : row.extractionState = .extracting
  · rcases hclaim with hwaits | hexpired
    · simp [hstate] at hwaits
    · obtain ⟨lease, hlease, hlt⟩ := (Option.any_eq_true _ _).mp hexpired
      exact ⟨⟨⟨⟨Or.inr ⟨hstate, hexpired⟩, hbackoff⟩, by simpa [hlease] using hlt⟩, hattempts⟩, hversion⟩
  · have hlease := hrow hstate
    rcases hclaim with hwaits | hexpired
    · exact ⟨⟨⟨⟨Or.inl hwaits, hbackoff⟩, by simp [hlease]⟩, hattempts⟩, hversion⟩
    · simp [hlease] at hexpired

end Due

/-- **A receipt that a claim would take, with attempts left and its back-off over, is in the
batch exactly when no claim was made of it and left unfinished**, and fewer receipts than
the limit come before it. -/
theorem selected_iff {s : QueueState ι} (hs : (queueSystem ι).Reachable s) (call : ExtractCall) (limit : Int)
    {row : ReceiptRow} (hrow : row ∈ s.receipts.rows) (haccepts : call.accepts row)
    (hattempts : row.extractionAttempts < call.settings.maxAttempts)
    (hbackoff : row.nextExtractionAt.all (· ≤ call.now)) :
    row.id ∈ batch call.settings call.now limit s.receipts ↔ row.extractionState ≠ .extracting ∧
      rank (·.observedAt) (selectable call.settings call.now s.receipts) row < (max 1 limit).toNat := by
  rw [mem_batch_iff hrow, selects_iff_of_accepts haccepts hattempts hbackoff (unleased hs row hrow)]

/-! ### A claim that is never finished -/

/-- A receipt comes in. -/
def exampleIngest : QueueStep Unit :=
  .ingest "receipt" "default" "owner" .humanInput "host:claude" (some "event") none epoch epoch

def exampleCall (now : Instant) : ExtractCall := {receiptId := "receipt", now, version := "dc-v1"}

/-- A claim made an hour later would take the receipt. -/
def exampleDue (row : ReceiptRow) : Bool :=
  let call := exampleCall (epoch + 3600 * 1000000)
  call.accepts row && (row.extractionAttempts < call.settings.maxAttempts && row.nextExtractionAt.all (· ≤ call.now))

def exampleQueue : QueueState Unit := ⟨⟨[], List.nodup_nil⟩, fun _ => none⟩

theorem exampleQueue_run {steps : List (QueueStep Unit)} {s : QueueState Unit}
    (h : (queueSystem Unit).run exampleQueue steps = some s) : (queueSystem Unit).Reachable s :=
  System.Reachable.run (.init ⟨rfl, fun _ => rfl⟩) h

/-- The receipt waits, and is the only one. -/
theorem selected_iff_example : ∃ s, (queueSystem Unit).run exampleQueue [exampleIngest] = some s ∧
    ∃ row ∈ s.receipts.rows, row.id ∈ batch {} (epoch + 3600 * 1000000) 1 s.receipts ↔
      row.extractionState ≠ .extracting ∧
        rank (·.observedAt) (selectable {} (epoch + 3600 * 1000000) s.receipts) row < 1 := by
  have hdue : ((queueSystem Unit).run exampleQueue [exampleIngest]).any fun s => s.receipts.rows.any exampleDue := by
    decide +kernel
  obtain ⟨s, hrun, hs⟩ := (Option.any_eq_true _ _).mp hdue
  obtain ⟨row, hrow, hrowdue⟩ := List.any_eq_true.mp hs
  simp only [exampleDue, Bool.and_eq_true, decide_eq_true_eq] at hrowdue
  exact ⟨s, hrun, row, hrow, selected_iff (exampleQueue_run hrun) (exampleCall (epoch + 3600 * 1000000)) 1 hrow
    hrowdue.1 hrowdue.2.1 hrowdue.2.2⟩

/-- The call that claimed the receipt is gone, and no batch lists it again. -/
theorem stranded : ¬ ∀ s, (queueSystem Unit).Reachable s → ∀ (call : ExtractCall) (limit : Int), ∀ row ∈ s.receipts.rows,
    call.accepts row → row.extractionAttempts < call.settings.maxAttempts →
    row.nextExtractionAt.all (· ≤ call.now) → row.id ∈ batch call.settings call.now limit s.receipts := by
  intro hall
  have hstranded : ((queueSystem Unit).run exampleQueue
      [exampleIngest, .claim () (exampleCall epoch), .crash ()]).any fun s => s.receipts.rows.any fun row =>
        exampleDue row && row.id ∉ batch {} (epoch + 3600 * 1000000) 1 s.receipts := by
    decide +kernel
  obtain ⟨s, hrun, hs⟩ := (Option.any_eq_true _ _).mp hstranded
  obtain ⟨row, hrow, hrowdue⟩ := List.any_eq_true.mp hs
  simp only [exampleDue, Bool.and_eq_true, decide_eq_true_eq] at hrowdue
  exact hrowdue.2 (hall s (exampleQueue_run hrun) (exampleCall (epoch + 3600 * 1000000)) 1 row hrow hrowdue.1.1
    hrowdue.1.2.1 hrowdue.1.2.2)

end System
end OpenTimeline.Extraction
