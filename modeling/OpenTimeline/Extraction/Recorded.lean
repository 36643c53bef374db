import OpenTimeline.Extraction.Extract
import OpenTimeline.Library.Once

/-! Every candidate is recorded.

The loop enters each candidate under its receipt, its version and the digest of its span,
unless a row is there, and takes the row it entered to an end (`entersOnce`). Two candidates
that go back to one sentence have one span, so only the first is entered; all of them are
recorded exactly when their spans are distinct, and the rows that were there are theirs and
settled (`recorded_iff`). -/
namespace OpenTimeline.Extraction
open Library

variable {host : TextHost} {uuid4 : Uuid4}

/-! ### What is owed -/

/-- The row is the candidate's: it names its question and has come to an end. -/
structure Records (candidate : DecisionCandidate) (row : CandidateRow) : Prop where
  opportunity : row.candidate.opportunityId = candidate.opportunityId
  settled : row.status ≠ .new

/-- Each candidate of a receipt has a row of its own. -/
def Recorded (receiptId : String) (candidates : List DecisionCandidate) (table : Table CandidateRow.spanKey) : Prop :=
  ∃ rows : List CandidateRow, rows.Nodup ∧ List.Forall₂
    (fun candidate row => row ∈ table.rows ∧ row.spanKey = candidate.spanKey receiptId ∧ Records candidate row)
    candidates rows

theorem forall₂_exists {α β : Type} {R : α → β → Prop} {l : List α} {l' : List β} (h : List.Forall₂ R l l') :
    ∀ a ∈ l, ∃ b ∈ l', R a b := by
  induction h with
  | nil => simp
  | cons hR _ ih =>
    rw [List.forall_mem_cons]
    exact ⟨⟨_, List.mem_cons_self, hR⟩, fun a ha => (ih a ha).imp fun b hb => ⟨List.mem_cons_of_mem _ hb.1, hb.2⟩⟩

theorem recorded_iff_find {receiptId : String} {candidates : List DecisionCandidate}
    {table : Table CandidateRow.spanKey} : Recorded receiptId candidates table ↔
      (candidates.map (·.spanKey receiptId)).Nodup ∧
        ∀ candidate ∈ candidates, ∃ row, table.find (candidate.spanKey receiptId) = some row ∧ Records candidate row := by
  constructor
  · rintro ⟨rows, hnodup, hrows⟩
    have hkeys : candidates.map (·.spanKey receiptId) = rows.map (·.spanKey) := by
      rw [← List.forall₂_eq_eq_eq, List.forall₂_map_left_iff, List.forall₂_map_right_iff]
      exact hrows.imp fun _ _ h => h.2.1.symm
    have htable : ∀ row ∈ rows, row ∈ table.rows := fun row hrow => by
      obtain ⟨candidate, _, h⟩ := forall₂_exists hrows.flip row hrow
      exact h.1
    refine ⟨?_, fun candidate hcandidate => ?_⟩
    · rw [hkeys]
      exact hnodup.map_on fun row hrow row' hrow' =>
        List.inj_on_of_nodup_map table.nodup (htable row hrow) (htable row' hrow')
    · obtain ⟨row, _, hrow, hkey, hrecords⟩ := forall₂_exists hrows candidate hcandidate
      exact ⟨row, Table.find_eq_some_iff.mpr ⟨hrow, hkey⟩, hrecords⟩
  · rintro ⟨hnodup, hrows⟩
    refine ⟨candidates.filterMap fun candidate => table.find (candidate.spanKey receiptId), ?_, ?_⟩
    · refine List.Nodup.of_map CandidateRow.spanKey (hnodup.sublist (map_filterMap_sublist (fun candidate row hrow => ?_) _))
      exact (Table.find_eq_some_iff.mp hrow).2
    · clear hnodup
      induction candidates with
      | nil => exact .nil
      | cons candidate rest ih =>
        rw [List.forall_mem_cons] at hrows
        obtain ⟨⟨row, hrow, hrecords⟩, hrest⟩ := hrows
        rw [@List.filterMap_cons_some _ _ _ candidate rest row hrow]
        obtain ⟨hmem, hkey⟩ := Table.find_eq_some_iff.mp hrow
        exact .cons ⟨hmem, hkey, hrecords⟩ (ih hrest)

/-! ### A turn of the loop -/

theorem find_updateCandidate {candidateId reason : String} {status : CandidateStatus}
    {observationId reviewId : Option String} (candidates : Table CandidateRow.spanKey) (k : SpanKey) :
    (updateCandidate candidateId status reason observationId reviewId candidates).find k =
      (candidates.find k).map fun row => if row.id = candidateId then {row with
        status
        promotionReason := some reason
        promotedObservationId := observationId.or row.promotedObservationId
        reviewId := reviewId.or row.reviewId } else row := by
  refine (Table.find_updateWhere candidates _ _ _ k).trans ?_
  simp only [decide_eq_true_eq]

section Inserted
variable {candidates inserted : Table CandidateRow.spanKey} {row : CandidateRow} {status : CandidateStatus}
  {reason : String} {observationId reviewId : Option String}

/-- The UPDATE of a row that was inserted under an id that was new. -/
theorem find_update_inserted (hinsert : candidates.insert row = some inserted)
    (hfresh : row.id ∉ candidates.rows.map (·.id)) {k : SpanKey} (hk : k ≠ row.spanKey) :
    (updateCandidate row.id status reason observationId reviewId inserted).find k = candidates.find k := by
  rw [find_updateCandidate, (Table.find_insert hinsert).2, if_neg hk]
  cases hold : candidates.find k with
  | none => rfl
  | some old =>
    have hne : old.id ≠ row.id := fun heq =>
      hfresh (heq ▸ List.mem_map_of_mem (Table.find_eq_some_iff.mp hold).1)
    rw [Option.map_some, if_neg hne]

theorem find_update_inserted_self (hinsert : candidates.insert row = some inserted) :
    ∃ row', (updateCandidate row.id status reason observationId reviewId inserted).find row.spanKey = some row' ∧
      row'.candidate = row.candidate ∧ row'.status = status := by
  rw [find_updateCandidate, (Table.find_insert hinsert).2, if_pos rfl, Option.map_some, if_pos rfl]
  exact ⟨_, rfl, rfl, rfl⟩

end Inserted

section Turn
variable (call : ExtractCall) (loaded : Loaded)

/-- What a turn does to the candidates: nothing, or it inserts one and takes it to an end. -/
theorem next_candidates (turn : Turn) (candidate : DecisionCandidate) :
    let after := (Turn.next host uuid4 call loaded turn candidate).db.candidates
    ((∃ row, turn.db.candidates.find (candidate.spanKey loaded.receipt.id) = some row) ∧ after = turn.db.candidates) ∨
      ∃ (row : CandidateRow) (inserted : Table CandidateRow.spanKey) (status : CandidateStatus) (reason : String)
        (observationId reviewId : Option String), turn.db.candidates.insert row = some inserted ∧
          row.id ∉ turn.db.candidates.rows.map (·.id) ∧ row.candidate = candidate ∧
          row.spanKey = candidate.spanKey loaded.receipt.id ∧ status ≠ .new ∧
          after = updateCandidate row.id status reason observationId reviewId inserted := by
  intro after
  let row := newCandidate uuid4 call loaded.receipt candidate
    (promotionDecision candidate (turn.openRows.map (·.toModel)) loaded.observedAt loaded.expiryAt) turn.db.candidates
  have hfresh : row.id ∉ turn.db.candidates.rows.map (·.id) := uuid4.draw_notMem _
  cases hinsert : turn.db.candidates.insert row with
  | none =>
    refine Or.inl ⟨Table.find_of_insert_eq_none hinsert, ?_⟩
    simp only [after, Turn.next, beginCandidate, insertCandidate]
    rw [hinsert, Option.map_none]
  | some inserted =>
    refine Or.inr ⟨row, inserted, ?_⟩
    simp only [after, Turn.next, beginCandidate, insertCandidate]
    rw [hinsert, Option.map_some]
    cases hbranch : branch loaded turn.openRows candidate with
    | none => exact ⟨.discarded, _, _, _, rfl, hfresh, rfl, rfl, by decide, rfl⟩
    | some taken =>
      cases taken with
      | answer target => exact ⟨.promoted, _, _, _, rfl, hfresh, rfl, rfl, by decide, rfl⟩
      | correction target => exact ⟨.promoted, _, _, _, rfl, hfresh, rfl, rfl, by decide, rfl⟩
      | hold target => exact ⟨.pendingReview, _, _, _, rfl, hfresh, rfl, rfl, by decide, rfl⟩

variable (host uuid4) in
theorem entersOnce : EntersOnce (Turn.next host uuid4 call loaded) (fun turn k => turn.db.candidates.find k)
    (·.spanKey loaded.receipt.id) Records where
  keeps turn candidate k row hrow := by
    rcases next_candidates call loaded turn candidate with ⟨_, hafter⟩ | h
    · rw [hafter]
      exact hrow
    · obtain ⟨new, inserted, _, _, _, _, hinsert, hfresh, _, hkey, _, hafter⟩ := h
      have hne : k ≠ new.spanKey := by
        rintro rfl
        rw [(Table.find_insert hinsert).1] at hrow
        cases hrow
      rw [hafter, find_update_inserted hinsert hfresh hne]
      exact hrow
  others turn candidate k hk := by
    rcases next_candidates call loaded turn candidate with ⟨_, hafter⟩ | h
    · rw [hafter]
    · obtain ⟨new, inserted, _, _, _, _, hinsert, hfresh, _, hkey, _, hafter⟩ := h
      rw [hafter, find_update_inserted hinsert hfresh (hkey ▸ hk)]
  enters turn candidate hfree := by
    rcases next_candidates call loaded turn candidate with ⟨⟨row, hrow⟩, _⟩ | h
    · rw [hrow] at hfree
      cases hfree
    · obtain ⟨new, inserted, _, _, _, _, hinsert, _, hcandidate, hkey, hstatus, hafter⟩ := h
      obtain ⟨row, hrow, hsame, hstatus'⟩ := find_update_inserted_self hinsert
      refine ⟨row, ?_, ⟨congrArg _ (hsame.trans hcandidate), hstatus' ▸ hstatus⟩⟩
      rw [hafter, ← hkey]
      exact hrow

/-! ### The loop -/

variable (host uuid4) in
theorem persist_recorded_iff {version : String} (hversion : ∀ c ∈ loaded.candidates, c.extractionVersion = version)
    (db : CaptureDb) :
    Recorded loaded.receipt.id loaded.candidates (persistCandidates host uuid4 call loaded db).db.candidates ↔
      (loaded.candidates.map (·.spanSha256)).Nodup ∧ ∀ candidate ∈ loaded.candidates, ∀ row ∈ db.candidates.rows,
        row.spanKey = candidate.spanKey loaded.receipt.id → Records candidate row := by
  have hkeys : (loaded.candidates.map (·.spanKey loaded.receipt.id)).Nodup ↔
      (loaded.candidates.map (·.spanSha256)).Nodup := by
    have hsame : loaded.candidates.map (·.spanKey loaded.receipt.id) =
        (loaded.candidates.map (·.spanSha256)).map (⟨loaded.receipt.id, version, ·⟩) := by
      rw [List.map_map]
      exact List.map_congr_left fun c hc => by simp [DecisionCandidate.spanKey, hversion c hc]
    rw [hsame, List.nodup_map_iff fun a b heq => (SpanKey.mk.inj heq).2.2]
  rw [recorded_iff_find, hkeys]
  refine and_congr_right fun hnodup => ?_
  have hfits := (entersOnce host uuid4 call loaded).foldl_fits_iff (hkeys.mpr hnodup)
    {db, openRows := loaded.openRows}
  refine hfits.trans (forall₂_congr fun candidate _ => ?_)
  constructor
  · intro hall row hrow hkey
    exact hall row (Table.find_eq_some_iff.mpr ⟨hrow, hkey⟩)
  · intro hall row hrow
    obtain ⟨hmem, hkey⟩ := Table.find_eq_some_iff.mp hrow
    exact hall row hmem hkey

/-- Where every candidate has a row, none is inserted. -/
theorem persist_again {db : CaptureDb}
    (hthere : ∀ c ∈ loaded.candidates, db.candidates.find (c.spanKey loaded.receipt.id) ≠ none) :
    (persistCandidates host uuid4 call loaded db).db.candidates = db.candidates := by
  have hloop : ∀ (candidates : List DecisionCandidate) (turn : Turn),
      (∀ c ∈ candidates, turn.db.candidates.find (c.spanKey loaded.receipt.id) ≠ none) →
      (candidates.foldl (Turn.next host uuid4 call loaded) turn).db.candidates = turn.db.candidates := by
    intro candidates turn hthere
    induction candidates generalizing turn with
    | nil => rfl
    | cons candidate rest ih =>
      rw [List.forall_mem_cons] at hthere
      have hsame : (Turn.next host uuid4 call loaded turn candidate).db.candidates = turn.db.candidates := by
        rcases next_candidates call loaded turn candidate with ⟨_, hafter⟩ | h
        · exact hafter
        · obtain ⟨new, inserted, _, _, _, _, hinsert, _, _, hkey, _⟩ := h
          exact absurd (hkey ▸ (Table.find_insert hinsert).1) hthere.1
      rw [List.foldl_cons, ih _ (hsame ▸ hthere.2), hsame]
  exact hloop loaded.candidates _ hthere

end Turn

/-! ### An extraction -/

/-- A receipt that was extracted is not claimed again. -/
theorem finish_claims {call call' : ExtractCall} (hreceipt : call'.receiptId = call.receiptId)
    (receipts : Table ReceiptRow.id) : call'.claims (call.finish receipts) = false := by
  rw [ExtractCall.claims, ExtractCall.finish, Table.find_updateWhere_key, hreceipt, if_pos rfl]
  cases receipts.find call.receiptId with
  | none => rfl
  | some row => simp [ExtractCall.accepts]

variable (host uuid4) in
/-- What an extraction owes: each candidate has a row of its own that names its question and
has come to an end, and to run the extraction again adds none. -/
structure CandidatesKept (call : ExtractCall) (loaded : Loaded) (db : CaptureDb) : Prop where
  recorded : Recorded loaded.receipt.id loaded.candidates db.candidates
  skipped : ∀ call' : ExtractCall, call'.receiptId = call.receiptId → extractOne host uuid4 call' db = (db, .skipped)
  again : ∀ (call' : ExtractCall) (loaded' : Loaded), loaded'.receipt.id = loaded.receipt.id →
    loaded'.candidates = loaded.candidates →
    (persistCandidates host uuid4 call' loaded' db).db.candidates = db.candidates

theorem loads_candidates {call : ExtractCall} {db : CaptureDb} {loaded : Loaded}
    (h : call.loads host db = some loaded) : ∀ c ∈ loaded.candidates, c.extractionVersion = call.version := by
  unfold ExtractCall.loads at h
  split_ifs at h
  obtain ⟨receipt, _, hload⟩ := Option.bind_eq_some_iff.mp h
  exact fun c hc => load_candidates (toOption_eq_some_iff.mp hload) hc

/-- **An extraction records all of its candidates exactly when no two of them have one
span**, and each row that was there under a candidate's span is the candidate's and has
come to an end. -/
theorem candidatesKept_iff {call : ExtractCall} {db : CaptureDb} {loaded : Loaded}
    (h : call.loads host db = some loaded) : CandidatesKept host uuid4 call loaded (extractOne host uuid4 call db).1 ↔
      (loaded.candidates.map (·.spanSha256)).Nodup ∧ ∀ candidate ∈ loaded.candidates, ∀ row ∈ db.candidates.rows,
        row.spanKey = candidate.spanKey loaded.receipt.id →
        row.candidate.opportunityId = candidate.opportunityId ∧ row.status ≠ .new := by
  have hrecorded := persist_recorded_iff host uuid4 call loaded (loads_candidates h)
    {db with receipts := call.claim db.receipts}
  rw [extractOne_of_loads h]
  constructor
  · intro hkept
    obtain ⟨hnodup, hrows⟩ := hrecorded.mp hkept.recorded
    exact ⟨hnodup, fun candidate hcandidate row hrow hkey =>
      ⟨(hrows candidate hcandidate row hrow hkey).opportunity, (hrows candidate hcandidate row hrow hkey).settled⟩⟩
  · rintro ⟨hnodup, hrows⟩
    have hall := hrecorded.mpr ⟨hnodup, fun candidate hcandidate row hrow hkey =>
      ⟨(hrows candidate hcandidate row hrow hkey).1, (hrows candidate hcandidate row hrow hkey).2⟩⟩
    refine ⟨hall, fun call' hreceipt => ?_, fun call' loaded' hid hcandidates => ?_⟩
    · rw [extractOne, finish_claims hreceipt]
      rfl
    · refine persist_again call' loaded' fun candidate hcandidate => ?_
      rw [hcandidates] at hcandidate
      obtain ⟨row, hrow, _⟩ := (recorded_iff_find.mp hall).2 candidate hcandidate
      rw [hid, hrow]
      exact Option.some_ne_none row

/-! ### One sentence, two questions -/

def exampleTextHost : TextHost := {asciiHost [] [] with
  casefold := fun text => String.ofList (text.toList.map Char.toLower)
  isAlnum := Char.isAlphanum }

/-- Longer than what is in use. -/
def exampleUuid4 : Uuid4 where
  draw used := String.ofList (List.replicate ((used.map (·.toList.length)).sum + 1) 'u')
  draw_notMem used hmem := by
    have hle := List.single_le_sum (fun _ _ => Nat.zero_le _) _ (List.mem_map_of_mem (f := (·.toList.length)) hmem)
    simp at hle

def exampleQuestion (id question : String) (alternatives : List String) : OpportunityRow where
  id
  workspaceId := "default"
  subjectUserId := "owner"
  sessionId := "session"
  projectId := none
  questionText := question
  alternatives
  shadowPredictionId := none
  expiresAt := none
  createdAt := epoch
  frozenAt := epoch

/-- Two questions are open, and a message comes in. -/
def exampleDb (message : String) : CaptureDb where
  events := ⟨[⟨"event", .obj [("input_excerpt", .str message)]⟩], List.nodup_singleton _⟩
  receipts := ⟨[{
    id := "receipt"
    workspaceId := "default"
    subjectUserId := "owner"
    originKind := .humanInput
    capturePrincipal := "host:claude"
    eventId := some "event"
    projectId := none
    observedAt := epoch + 1
    ingestedAt := epoch + 2 }], List.nodup_singleton _⟩
  opportunities := ⟨[exampleQuestion "store" "Which store?" ["postgres", "redis"],
    exampleQuestion "colour" "Which colour?" ["green", "blue"]], by simp [exampleQuestion]⟩
  predictions := ⟨[], List.nodup_nil⟩
  candidates := ⟨[], List.nodup_nil⟩
  observations := ⟨[], List.nodup_nil⟩
  resolutions := ⟨[], List.nodup_nil⟩
  reviews := ⟨[], List.nodup_nil⟩

/-- Each question is answered in a sentence of its own. -/
theorem candidatesKept_iff_example : ∃ loaded,
    (exampleCall (epoch + 3)).loads exampleTextHost (exampleDb "Use postgres. And green.") = some loaded ∧
      loaded.candidates.length = 2 ∧
      (CandidatesKept exampleTextHost exampleUuid4 (exampleCall (epoch + 3)) loaded
          (extractOne exampleTextHost exampleUuid4 (exampleCall (epoch + 3))
            (exampleDb "Use postgres. And green.")).1 ↔
        (loaded.candidates.map (·.spanSha256)).Nodup ∧ ∀ candidate ∈ loaded.candidates, ∀ row ∈ ([] : List CandidateRow),
          row.spanKey = candidate.spanKey loaded.receipt.id →
          row.candidate.opportunityId = candidate.opportunityId ∧ row.status ≠ .new) := by
  have htwo : ((exampleCall (epoch + 3)).loads exampleTextHost (exampleDb "Use postgres. And green.")).any
      fun loaded => loaded.candidates.length = 2 := by
    decide +kernel
  obtain ⟨loaded, hloads, hlength⟩ := (Option.any_eq_true _ _).mp htwo
  exact ⟨loaded, hloads, by simpa using hlength, candidatesKept_iff hloads⟩

/-- Both questions are answered in one sentence, and only one answer is recorded. -/
theorem one_recorded : ¬ ∀ (call : ExtractCall) (db : CaptureDb) (loaded : Loaded),
    call.loads exampleTextHost db = some loaded →
    CandidatesKept exampleTextHost exampleUuid4 call loaded (extractOne exampleTextHost exampleUuid4 call db).1 := by
  intro hall
  have hone : ((exampleCall (epoch + 3)).loads exampleTextHost (exampleDb "postgres and green please")).any
      fun loaded => loaded.candidates.length = 2 && (extractOne exampleTextHost exampleUuid4 (exampleCall (epoch + 3))
        (exampleDb "postgres and green please")).1.candidates.rows.length = 1 := by
    decide +kernel
  obtain ⟨loaded, hloads, hlengths⟩ := (Option.any_eq_true _ _).mp hone
  simp only [Bool.and_eq_true, decide_eq_true_eq] at hlengths
  obtain ⟨rows, hnodup, hrows⟩ := (hall _ _ loaded hloads).recorded
  have hsub : rows ⊆ _ := fun row hrow => (forall₂_exists hrows.flip row hrow).choose_spec.2.1
  have hle := (hnodup.subperm hsub).length_le
  rw [← hrows.length_eq, hlengths.1, hlengths.2] at hle
  omega

def exampleAsked : Question where
  workspaceId := "default"
  subjectUserId := "owner"
  sessionId := "session"
  projectId := none
  questionText := "Which store?"
  alternatives := ["postgres", "redis"]
  expiresAt := none
  predictedChoice := none
  abstained := true

/-- An answer, or what may be one. -/
def exampleMessage (message : String) : Capture where
  payload := .obj [("input_excerpt", .str message)]
  workspaceId := "default"
  subjectUserId := "owner"
  originKind := .humanInput
  capturePrincipal := "host:claude"
  projectId := none
  observedAt := epoch + 1
  ingestedAt := epoch + 2

end OpenTimeline.Extraction
