import OpenTimeline.Dream.Reconcile
import OpenTimeline.Redaction

/-! Relevance, judged apart from acceptance.

A judgement is blind if it was claimed to be and no human verdict was there for the judge to see. The server takes
this from the log of the proposal when it stores the judgement, and the row keeps it. What is stored stays true: a
verdict that comes later is no earlier (`blind_truthful`). The census of a scope has one judgement per proposal, the
latest, so a judge who judges again is counted once (`census_replaced`). -/
namespace OpenTimeline.Dream
open Library

/-! ### Blindness -/

/-- `VERDICT_EVENT_KINDS` -/
def verdictEventKinds : List DreamProposalEventKind := [.accepted, .rejected, .snoozed, .unsnoozed]

/-- `VerdictEvent` -/
structure VerdictEvent where
  kind : DreamKind
  actor : String
  occurredAt : Instant
deriving DecidableEq, Repr

def DreamKind.isVerdict (kind : DreamKind) : Bool := kind ∈ verdictEventKinds.map .known

/-- `BLIND_REASONS` -/
inductive BlindReason
  | verifiedNoVerdictYet | verifiedBeforeVerdict | notClaimed | verdictPrecedesAdjudication
  | adjudicatorGavePriorVerdict
deriving DecidableEq, Repr

/-- `BlindVerdict` -/
structure BlindVerdict where
  verified : Bool
  reason : BlindReason
  firstVerdict : Option (Instant × DreamKind) := none
deriving DecidableEq, Repr

/-- `verify_blind` -/
def verifyBlind (blindClaimed : Bool) (adjudicatorId : String) (adjudicatedAt : Instant)
    (verdictEvents : List VerdictEvent) : BlindVerdict :=
  if !blindClaimed then ⟨false, .notClaimed, none⟩
  else
    let verdicts := (verdictEvents.filter (·.kind.isVerdict)).insertionSort fun a b => a.occurredAt ≤ b.occurredAt
    match verdicts with
    | [] => ⟨true, .verifiedNoVerdictYet, none⟩
    | first :: _ =>
      let prior := verdicts.filter (·.occurredAt ≤ adjudicatedAt)
      let firstVerdict := some (first.occurredAt, first.kind)
      if prior = [] then ⟨true, .verifiedBeforeVerdict, firstVerdict⟩
      else if adjudicatorId ≠ "" ∧ prior.any (·.actor = adjudicatorId) then
        ⟨false, .adjudicatorGavePriorVerdict, firstVerdict⟩
      else ⟨false, .verdictPrecedesAdjudication, firstVerdict⟩

/-- A judgement is blind exactly where it is claimed and no verdict is as early. -/
theorem verifyBlind_verified_iff {blindClaimed : Bool} {adjudicatorId : String} {adjudicatedAt : Instant}
    {verdictEvents : List VerdictEvent} :
    (verifyBlind blindClaimed adjudicatorId adjudicatedAt verdictEvents).verified = true ↔
      blindClaimed = true ∧
        ∀ event ∈ verdictEvents, event.kind.isVerdict = true → adjudicatedAt < event.occurredAt := by
  have hmem : ∀ event, event ∈ (verdictEvents.filter (·.kind.isVerdict)).insertionSort
      (fun a b => a.occurredAt ≤ b.occurredAt) ↔ event ∈ verdictEvents ∧ event.kind.isVerdict = true := by
    intro event
    rw [List.mem_insertionSort, List.mem_filter]
  rw [verifyBlind]
  cases blindClaimed with
  | false => simp
  | true =>
    simp only [Bool.not_true, Bool.false_eq_true, if_false, true_and]
    generalize (verdictEvents.filter (·.kind.isVerdict)).insertionSort
      (fun a b => a.occurredAt ≤ b.occurredAt) = verdicts at hmem
    cases verdicts with
    | nil =>
      refine iff_of_true rfl fun event hevent hkind => ?_
      exact absurd ((hmem event).mpr ⟨hevent, hkind⟩) List.not_mem_nil
    | cons first rest =>
      have hprior : (first :: rest).filter (·.occurredAt ≤ adjudicatedAt) = [] ↔
          ∀ event ∈ verdictEvents, event.kind.isVerdict = true → adjudicatedAt < event.occurredAt := by
        rw [List.filter_eq_nil_iff]
        constructor
        · intro h event hevent hkind
          simpa using h event ((hmem event).mpr ⟨hevent, hkind⟩)
        · intro h event hevent
          obtain ⟨hin, hkind⟩ := (hmem event).mp hevent
          simpa using h event hin hkind
      rw [← hprior]
      split_ifs with hnone hjudge <;> simp [hnone]

/-! ### Delivery -/

/-- `RelevanceVerdict` -/
inductive RelevanceVerdict
  | relevant | notRelevant | cannotJudge
deriving DecidableEq, Repr

/-- `DeliveryUsefulness` -/
inductive DeliveryUsefulness
  | useful | notUseful | tooEarly
deriving DecidableEq, Repr

/-- `DELIVERY_REASONS` -/
inductive DeliveryReason
  | counted | notAnswered | notDelivered | tooEarly | answeredTooEarlyByCaller
deriving DecidableEq, Repr

/-- `DeliveryAdmission` -/
structure DeliveryAdmission where
  stored : Option DeliveryUsefulness
  counted : Bool
  reason : DeliveryReason
  eligibleAt : Option Instant := none
deriving DecidableEq, Repr

/-- `DELIVERY_LOOKBACK_DAYS` -/
def deliveryLookbackDays : Nat := 30

/-- `delivery_eligible_at` -/
def deliveryEligibleAt (completedAt : Instant) (lookbackDays : Nat) : Instant :=
  completedAt + lookbackDays * 86400000000

/-- `admit_delivery` -/
def admitDelivery (claimed : Option DeliveryUsefulness) (completedAt : Option Instant) (adjudicatedAt : Instant)
    (lookbackDays : Nat) : DeliveryAdmission :=
  match claimed with
  | none => ⟨none, false, .notAnswered, none⟩
  | some .tooEarly =>
    ⟨claimed, false, .answeredTooEarlyByCaller, completedAt.map fun done => deliveryEligibleAt done lookbackDays⟩
  | some _ => match completedAt with
    | none => ⟨claimed, false, .notDelivered, none⟩
    | some done =>
      let eligible := deliveryEligibleAt done lookbackDays
      if adjudicatedAt < eligible then ⟨claimed, false, .tooEarly, some eligible⟩
      else ⟨claimed, true, .counted, some eligible⟩

/-- The answer is kept as it was given. -/
@[simp] theorem admitDelivery_stored (claimed : Option DeliveryUsefulness) (completedAt : Option Instant)
    (adjudicatedAt : Instant) (lookbackDays : Nat) :
    (admitDelivery claimed completedAt adjudicatedAt lookbackDays).stored = claimed := by
  cases claimed with
  | none => rfl
  | some answer =>
    cases answer with
    | tooEarly => rfl
    | useful =>
      cases completedAt with
      | none => rfl
      | some done =>
        simp only [admitDelivery]
        split_ifs <;> rfl
    | notUseful =>
      cases completedAt with
      | none => rfl
      | some done =>
        simp only [admitDelivery]
        split_ifs <;> rfl

/-! ### The rows -/

/-- A row of `dream_relevance_adjudications`. -/
structure AdjudicationRow where
  id : String
  proposalId : String
  workspaceId : String
  ownerId : String
  subjectUserId : String
  projectId : Option String
  adjudicatorId : String
  adjudicatorVerified : Bool
  relevance : RelevanceVerdict
  rationale : String
  blindClaimed : Bool
  blindVerified : Bool
  deliveryUseful : Option DeliveryUsefulness
  countedForDelivery : Bool
  adjudicatedAt : Instant
  supersedesAdjudicationId : Option String
deriving DecidableEq, Repr

/-- The arguments of `record_adjudication`; `id` is the one it draws. -/
structure AdjudicationRequest where
  id : String
  proposalId : String
  adjudicatorId : String
  adjudicatorVerified : Bool
  relevance : RelevanceVerdict
  rationale : String
  blindClaimed : Bool
  deliveryUseful : Option DeliveryUsefulness
  supersedesAdjudicationId : Option String
  now : Instant
  lookbackDays : Nat

/-- `load_verdict_events` -/
def DreamDatabase.loadVerdictEvents (db : DreamDatabase) (proposalId : String) : List VerdictEvent :=
  (((db.log proposalId).filter (·.kind.isVerdict)).insertionSort fun a b =>
    a.occurredAt < b.occurredAt ∨ a.occurredAt = b.occurredAt ∧ a.seq ≤ b.seq).map fun event =>
      ⟨event.kind, event.actor, event.occurredAt⟩

/-- The row that is inserted for a proposal. -/
def AdjudicationRequest.row (request : AdjudicationRequest) (db : DreamDatabase) (scope : DreamScope)
    (proposal : ProposalRow) : AdjudicationRow :=
  let blind := verifyBlind request.blindClaimed request.adjudicatorId request.now
    (db.loadVerdictEvents request.proposalId)
  let admission := admitDelivery request.deliveryUseful proposal.completedAt request.now request.lookbackDays
  { id := request.id
    proposalId := request.proposalId
    workspaceId := scope.workspaceId
    ownerId := scope.ownerId
    subjectUserId := scope.subjectUserId
    projectId := if scope.scopeKind = scopeKindProject then scope.projectId else none
    adjudicatorId := request.adjudicatorId
    adjudicatorVerified := request.adjudicatorVerified
    relevance := request.relevance
    rationale := (redactText (String.ofList (request.rationale.toList.take 500)) []).1
    blindClaimed := request.blindClaimed
    blindVerified := blind.verified
    deliveryUseful := admission.stored
    countedForDelivery := admission.counted
    adjudicatedAt := request.now
    supersedesAdjudicationId := request.supersedesAdjudicationId.filter (· ≠ "") }

/-- `record_adjudication`, `none` where the proposal is not in the scope. -/
def recordAdjudication (db : DreamDatabase) (rows : List AdjudicationRow) (scope : DreamScope)
    (request : AdjudicationRequest) : Option (List AdjudicationRow) :=
  (db.loadProposal scope request.proposalId).map fun proposal => rows ++ [request.row db scope proposal]

theorem mem_loadVerdictEvents {db : DreamDatabase} {proposalId : String} {P : VerdictEvent → Prop} :
    (∀ event ∈ db.loadVerdictEvents proposalId, P event) ↔
      ∀ event ∈ db.log proposalId, event.kind.isVerdict = true →
        P ⟨event.kind, event.actor, event.occurredAt⟩ := by
  simp only [DreamDatabase.loadVerdictEvents, List.forall_mem_map, List.mem_insertionSort, List.mem_filter, and_imp]

/-! ### Runs -/

structure JudgedState where
  db : DreamDatabase
  adjudications : List AdjudicationRow
  /-- The time of the last write. -/
  clock : Instant

inductive JudgedAction
  | mint (scope : DreamScope) (request : MintRequest)
  /-- Any writer of events. -/
  | events (scope : DreamScope) (proposalId : String) (batch : List DreamProposalEvent) (afterSurfaces : Int)
      (expectedRevision : Option Int) (time : Instant)
  | adjudicate (scope : DreamScope) (request : AdjudicationRequest)

def JudgedAction.time : JudgedAction → Instant
  | .mint _ request => request.now
  | .events _ _ _ _ _ time => time
  | .adjudicate _ request => request.now

/-- Events are dated by their writer. -/
def JudgedAction.dated : JudgedAction → Bool
  | .events _ _ batch _ _ time => batch.all fun event => event.occurredAt = time
  | _ => true

variable (host : Host) (isoformat : Instant → String)

def judged : System JudgedState JudgedAction where
  init s := s.db = emptyStore ∧ s.adjudications = []
  next s
    | .mint scope request =>
      (mintProposal host isoformat s.db scope request).toOption.map fun db => { s with db, clock := request.now }
    | .events scope proposalId batch afterSurfaces expectedRevision time =>
      (applyDreamEvents host s.db scope proposalId batch afterSurfaces expectedRevision).toOption.map fun db =>
        { s with db, clock := time }
    | .adjudicate scope request =>
      (recordAdjudication s.db s.adjudications scope request).map fun adjudications =>
        { s with adjudications, clock := request.now }

/-- Writes are committed in the order of their times. -/
def InOrder (s : JudgedState) (action : JudgedAction) : Prop := s.clock ≤ action.time ∧ action.dated = true

instance (s : JudgedState) (action : JudgedAction) : Decidable (InOrder s action) :=
  inferInstanceAs (Decidable (_ ∧ _))

/-- What a stored judgement says of itself is true of the log: one that is verified was claimed, and no verdict is
earlier; one that is claimed and not verified had a verdict before it. -/
structure Truthful (db : DreamDatabase) (row : AdjudicationRow) : Prop where
  verified : row.blindVerified = true → row.blindClaimed = true ∧
    ∀ event ∈ db.log row.proposalId, event.kind.isVerdict = true → row.adjudicatedAt ≤ event.occurredAt
  refused : row.blindClaimed = true → row.blindVerified = false →
    ∃ event ∈ db.log row.proposalId, event.kind.isVerdict = true ∧ event.occurredAt ≤ row.adjudicatedAt

structure Judged (s : JudgedState) : Prop where
  kept : Kept s.db
  past : ∀ row ∈ s.adjudications, row.adjudicatedAt ≤ s.clock
  truthful : ∀ row ∈ s.adjudications, Truthful s.db row

/-- Logs that grow by events no earlier than a judgement leave it true. -/
theorem Truthful.appended {db after : DreamDatabase} {proposalId : String} {proposal : ProposalRow}
    {batch : List DreamProposalEvent} {row : AdjudicationRow} (h : Truthful db row)
    (hafter : Appended db after proposalId proposal batch)
    (hbatch : ∀ event ∈ batch, row.adjudicatedAt ≤ event.occurredAt) : Truthful after row := by
  have hlog := hafter.log row.proposalId
  constructor
  · intro hverified
    obtain ⟨hclaimed, hbefore⟩ := h.verified hverified
    refine ⟨hclaimed, fun event hevent hkind => ?_⟩
    rw [hlog] at hevent
    split_ifs at hevent
    · rcases List.mem_append.mp hevent with hold | hnew
      · exact hbefore event hold hkind
      · exact hbatch event hnew
    · exact hbefore event hevent hkind
  · intro hclaimed hrefused
    obtain ⟨event, hevent, hverdict⟩ := h.refused hclaimed hrefused
    refine ⟨event, ?_, hverdict⟩
    rw [hlog]
    split_ifs
    · exact List.mem_append_left _ hevent
    · exact hevent

/-- A judgement is true when it is stored. -/
theorem row_truthful (request : AdjudicationRequest) (db : DreamDatabase) (scope : DreamScope)
    (proposal : ProposalRow) : Truthful db (request.row db scope proposal) := by
  have hverified : (request.row db scope proposal).blindVerified = true ↔ request.blindClaimed = true ∧
      ∀ event ∈ db.log request.proposalId, event.kind.isVerdict = true → request.now < event.occurredAt := by
    refine verifyBlind_verified_iff.trans (and_congr_right fun _ => ?_)
    rw [mem_loadVerdictEvents]
    exact forall_congr' fun event => forall_congr' fun _ => ⟨fun h hkind => h hkind hkind, fun h hkind _ => h hkind⟩
  constructor
  · intro h
    obtain ⟨hclaimed, hbefore⟩ := hverified.mp h
    exact ⟨hclaimed, fun event hevent hkind => (hbefore event hevent hkind).le⟩
  · intro hclaimed hrefused
    by_contra hnone
    push Not at hnone
    have := hverified.mpr ⟨hclaimed, hnone⟩
    rw [hrefused] at this
    cases this

variable {host isoformat} {s s' : JudgedState} {action : JudgedAction}

/-- What a log grows by leaves every judgement true, if it is no earlier than the last write. -/
theorem Judged.appended (h : Judged s) {after : DreamDatabase} {proposalId : String} {proposal : ProposalRow}
    {batch : List DreamProposalEvent} {time : Instant} (hkept : Kept after)
    (hafter : Appended s.db after proposalId proposal batch) (htime : s.clock ≤ time)
    (hdated : ∀ event ∈ batch, event.occurredAt = time) : Judged { s with db := after, clock := time } where
  kept := hkept
  past row hrow := (h.past row hrow).trans htime
  truthful row hrow := (h.truthful row hrow).appended hafter fun event hevent =>
    (h.past row hrow).trans (htime.trans (hdated event hevent).ge)

theorem stamp_occurredAt {seq : Int} {events : List DreamProposalEvent} {time : Instant}
    (h : ∀ event ∈ events, event.occurredAt = time) : ∀ event ∈ stamp seq events, event.occurredAt = time := by
  intro event hevent
  obtain ⟨original, horiginal, heq⟩ := stamp_kind hevent
  rw [heq]
  exact h original horiginal

/-- Every write keeps the judgements true. -/
theorem Judged.step (h : Judged s) (horder : InOrder s action)
    (hnext : (judged host isoformat).next s action = some s') : Judged s' := by
  cases action with
  | mint scope request =>
    obtain ⟨after, hok, rfl⟩ := Option.map_eq_some_iff.mp hnext
    obtain ⟨hkept, -, hafter⟩ := h.kept.mintProposal (toOption_eq_some_iff.mp hok)
    refine h.appended hkept hafter horder.1 (stamp_occurredAt fun event hevent => ?_)
    rw [List.mem_singleton.mp hevent]
    rfl
  | events scope proposalId batch afterSurfaces expectedRevision time =>
    obtain ⟨after, hok, rfl⟩ := Option.map_eq_some_iff.mp hnext
    obtain ⟨hkept, proposal, -, -, hafter⟩ := h.kept.applyDreamEvents (toOption_eq_some_iff.mp hok)
    refine h.appended hkept hafter horder.1 (stamp_occurredAt fun event hevent => ?_)
    simpa using List.all_eq_true.mp horder.2 event hevent
  | adjudicate scope request =>
    obtain ⟨rows, hrows, rfl⟩ := Option.map_eq_some_iff.mp hnext
    obtain ⟨proposal, -, rfl⟩ := Option.map_eq_some_iff.mp hrows
    refine ⟨h.kept, fun row hrow => ?_, fun row hrow => ?_⟩
    · rcases List.mem_append.mp hrow with hold | hnew
      · exact (h.past row hold).trans horder.1
      · exact (congrArg AdjudicationRow.adjudicatedAt (List.mem_singleton.mp hnew)).le
    · rcases List.mem_append.mp hrow with hold | hnew
      · exact h.truthful row hold
      · exact List.mem_singleton.mp hnew ▸ row_truthful request s.db scope proposal

/-- **What is stored of a judgement stays true of the log**, whatever is minted, written and judged after it in the
order of the times. -/
theorem blind_truthful (hreach : ((judged host isoformat).restrict InOrder).Reachable s) :
    ∀ row ∈ s.adjudications, Truthful s.db row := by
  have hstart : ∀ s, ((judged host isoformat).restrict InOrder).init s → Judged s := by
    intro s ⟨hdb, hrows⟩
    exact ⟨hdb ▸ sound_emptyStore.kept, by simp [hrows], by simp [hrows]⟩
  have hjudged : Judged s := hreach.invariant hstart fun s action s' _ hs hnext =>
    hs.step (System.restrict_next hnext).1 (System.restrict_next hnext).2
  exact hjudged.truthful

/-- A judge who has seen nothing, on the first day. -/
def firstJudgement : AdjudicationRequest where
  id := "a"
  proposalId := "p"
  adjudicatorId := "reviewer"
  adjudicatorVerified := true
  relevance := .relevant
  rationale := ""
  blindClaimed := true
  deliveryUseful := none
  supersedesAdjudicationId := none
  now := firstDay
  lookbackDays := deliveryLookbackDays

/-- The proposal is judged, accepted, and judged again. -/
def judgedTwice : List JudgedAction :=
  [.mint exampleScope exampleMint, .adjudicate exampleScope firstJudgement,
    .events exampleScope "p" [{ systemEvent .accepted with occurredAt := nextDay }] 3 none nextDay,
    .adjudicate exampleScope { firstJudgement with id := "b", relevance := .notRelevant, now := nextDay }]

theorem blind_truthful_example : ∃ s : JudgedState,
    s.adjudications.map AdjudicationRow.blindVerified = [true, false] ∧
      ∀ row ∈ s.adjudications, Truthful s.db row := by
  have hrun : (((judged dayHost dayText).restrict InOrder).run ⟨emptyStore, [], firstDay⟩ judgedTwice).map
      (fun s => s.adjudications.map AdjudicationRow.blindVerified) = some [true, false] := by decide +kernel
  obtain ⟨s, hs, hflags⟩ := Option.map_eq_some_iff.mp hrun
  have hinit : ((judged dayHost dayText).restrict InOrder).init ⟨emptyStore, [], firstDay⟩ := ⟨rfl, rfl⟩
  exact ⟨s, hflags, blind_truthful ((System.Reachable.init hinit).run hs)⟩

/-! ### The census -/

/-- The order of the judgements of a proposal, the latest first. -/
def notEarlier (a b : AdjudicationRow) : Prop :=
  b.adjudicatedAt < a.adjudicatedAt ∨ b.adjudicatedAt = a.adjudicatedAt ∧ b.id ≤ a.id

instance : DecidableRel notEarlier := fun _ _ => inferInstanceAs (Decidable (_ ∨ _))

/-- The latest judgement of a proposal. -/
def latestJudgement (rows : List AdjudicationRow) (proposalId : String) : Option AdjudicationRow :=
  ((rows.filter (·.proposalId = proposalId)).insertionSort notEarlier).head?

/-- `DreamCounts` -/
structure DreamCounts where
  projectId : Option String
  proposals : Nat
  surfaced : Nat
  surfacedAttested : Nat
  byStatus : List (DreamProposalStatus × Nat)
  nonresponse : List (NonresponseState × Nat)
  completedProposals : Nat
  relevant : Nat
  notRelevant : Nat
  cannotJudge : Nat
  blindVerified : Nat
  adjudicatedProposals : Nat
  deliveryUseful : Nat
  deliveryNotUseful : Nat
  deliveryTooEarly : Nat
deriving DecidableEq, Repr

/-- How often each value stands in a column. -/
def tally {α : Type} [DecidableEq α] (values : List α) : List (α × Nat) :=
  values.dedup.map fun value => (value, values.count value)

/-- `dream_counts_for_scope` -/
def dreamCountsForScope (db : DreamDatabase) (rows : List AdjudicationRow) (scope : DreamScope) : DreamCounts :=
  let covered := db.proposals.rows.filter scope.covers
  let adjudications := covered.filterMap fun proposal => latestJudgement rows proposal.id
  { projectId := if scope.scopeKind = scopeKindProject then scope.projectId else none
    proposals := covered.length
    surfaced := covered.countP fun proposal => 0 < proposal.surfacedCount
    surfacedAttested := covered.countP fun proposal => proposal.surfacedAttested
    byStatus := tally (covered.map fun proposal => proposal.status)
    nonresponse := tally (covered.map fun proposal => proposal.nonresponse)
    completedProposals := covered.countP fun proposal => proposal.completedAt.isSome
    relevant := adjudications.countP (·.relevance = .relevant)
    notRelevant := adjudications.countP (·.relevance = .notRelevant)
    cannotJudge := adjudications.countP (·.relevance = .cannotJudge)
    blindVerified := adjudications.countP (·.blindVerified)
    adjudicatedProposals := adjudications.length
    deliveryUseful := adjudications.countP fun row => row.countedForDelivery && row.deliveryUseful = some .useful
    deliveryNotUseful := adjudications.countP fun row => row.countedForDelivery && row.deliveryUseful = some .notUseful
    deliveryTooEarly := adjudications.countP fun row => row.deliveryUseful.isSome && !row.countedForDelivery }

theorem insertionSort_snoc {α : Type} {r : α → α → Prop} [DecidableRel r] {items : List α} {last : α}
    (h : ∀ a ∈ items, ¬ r a last) : (items ++ [last]).insertionSort r = last :: items.insertionSort r := by
  induction items with
  | nil => rfl
  | cons a rest ih =>
    rw [List.cons_append, List.insertionSort_cons, ih fun b hb => h b (List.mem_cons_of_mem a hb),
      List.orderedInsert_cons, if_neg (h a List.mem_cons_self), List.insertionSort_cons]

/-- The latest judgement of a proposal is the one that is added, if it is of the proposal and later than the others. -/
theorem latest_snoc {rows : List AdjudicationRow} {row : AdjudicationRow} (proposalId : String)
    (hlate : ∀ old ∈ rows, old.proposalId = row.proposalId → ¬ notEarlier old row) :
    latestJudgement (rows ++ [row]) proposalId =
      if proposalId = row.proposalId then some row else latestJudgement rows proposalId := by
  rw [latestJudgement, latestJudgement, List.filter_append]
  split_ifs with hid
  · subst hid
    have hkept : [row].filter (·.proposalId = row.proposalId) = [row] := by simp
    rw [hkept, insertionSort_snoc fun old hold => ?_]
    · rfl
    · rw [List.mem_filter, decide_eq_true_eq] at hold
      exact hlate old hold.1 hold.2
  · have hnone : [row].filter (·.proposalId = proposalId) = [] := by simpa using fun h => hid h.symm
    rw [hnone, List.append_nil]

/-- A census has each judged proposal once, under one verdict. -/
theorem census_partition (db : DreamDatabase) (rows : List AdjudicationRow) (scope : DreamScope) :
    let counts := dreamCountsForScope db rows scope
    counts.relevant + counts.notRelevant + counts.cannotJudge = counts.adjudicatedProposals ∧
      counts.adjudicatedProposals ≤ counts.proposals := by
  intro counts
  refine ⟨?_, List.length_filterMap_le _ _⟩
  have hsplit : ∀ judged : List AdjudicationRow, judged.countP (·.relevance = .relevant) +
      judged.countP (·.relevance = .notRelevant) + judged.countP (·.relevance = .cannotJudge) = judged.length := by
    intro judged
    induction judged with
    | nil => rfl
    | cons row rest ih => cases hrow : row.relevance <;> simp [hrow] <;> omega
  exact hsplit _

/-- Two tables that have the same latest judgements of a scope's proposals have the same census. -/
theorem census_congr {db : DreamDatabase} {rows rows' : List AdjudicationRow} {scope : DreamScope}
    (h : ∀ proposal ∈ db.proposals.rows, scope.covers proposal = true →
      latestJudgement rows proposal.id = latestJudgement rows' proposal.id) :
    dreamCountsForScope db rows scope = dreamCountsForScope db rows' scope := by
  have hjudged : (db.proposals.rows.filter scope.covers).filterMap (fun proposal => latestJudgement rows proposal.id) =
      (db.proposals.rows.filter scope.covers).filterMap fun proposal => latestJudgement rows' proposal.id := by
    refine List.filterMap_congr fun proposal hproposal => ?_
    obtain ⟨hmem, hcovers⟩ := List.mem_filter.mp hproposal
    exact h proposal hmem hcovers
  simp only [dreamCountsForScope, hjudged]

/-- **A judgement replaces what was judged before of its proposal**: the census of a scope is as if the earlier
judgements had not been made, and a scope that does not cover the proposal has the census it had. -/
theorem census_replaced {db : DreamDatabase} {rows after : List AdjudicationRow} {scope : DreamScope}
    {request : AdjudicationRequest} (hrecorded : recordAdjudication db rows scope request = some after)
    (hlate : ∀ old ∈ rows, old.proposalId = request.proposalId → old.adjudicatedAt < request.now ∨
      old.adjudicatedAt = request.now ∧ old.id < request.id) :
    ∃ row proposal, after = rows ++ [row] ∧ db.proposals.find request.proposalId = some proposal ∧
      ∀ reader, dreamCountsForScope db after reader =
        if reader.covers proposal then
          dreamCountsForScope db (rows.filter (·.proposalId ≠ request.proposalId) ++ [row]) reader
        else dreamCountsForScope db rows reader := by
  obtain ⟨proposal, hproposal, rfl⟩ := Option.map_eq_some_iff.mp hrecorded
  obtain ⟨hfind, -, hid⟩ := loadProposal_eq_some hproposal
  have hrow : (request.row db scope proposal).proposalId = request.proposalId := rfl
  have hadded : ∀ old ∈ rows, old.proposalId = (request.row db scope proposal).proposalId →
      ¬ notEarlier old (request.row db scope proposal) := by
    intro old hold hsame hnot
    have htime : (request.row db scope proposal).adjudicatedAt = request.now := rfl
    have hname : (request.row db scope proposal).id = request.id := rfl
    rw [notEarlier, htime, hname] at hnot
    rcases hlate old hold hsame with hearlier | ⟨heq, hless⟩
    · rcases hnot with hlater | ⟨heq, -⟩
      · exact absurd hlater hearlier.asymm
      · exact absurd heq hearlier.ne'
    · rcases hnot with hlater | ⟨-, hle⟩
      · exact absurd heq hlater.ne'
      · exact absurd hle (not_le.mpr hless)
  refine ⟨request.row db scope proposal, proposal, rfl, hfind, fun reader => ?_⟩
  split_ifs with hcovers
  · refine census_congr fun other _ _ => ?_
    rw [latest_snoc other.id hadded, latest_snoc other.id fun old hold => hadded old (List.mem_of_mem_filter hold)]
    split_ifs with hother
    · rfl
    · rw [latestJudgement, latestJudgement, List.filter_filter]
      congr 2
      refine List.filter_congr fun old _ => ?_
      rw [hrow] at hother
      by_cases hsame : old.proposalId = other.id
      · simp [hsame, hother]
      · simp [hsame]
  · refine census_congr fun other hmem hreads => ?_
    rw [latest_snoc other.id hadded, if_neg]
    intro heq
    have hother : db.proposals.find request.proposalId = some other :=
      Table.find_eq_some_iff.mpr ⟨hmem, heq⟩
    obtain rfl := Option.some.inj (hother.symm.trans hfind)
    exact hcovers hreads

/-- A day later, of another mind. -/
def secondJudgement : AdjudicationRequest :=
  { firstJudgement with id := "b", relevance := .notRelevant, now := nextDay }

theorem census_replaced_example : ∃ (db : DreamDatabase) (rows after : List AdjudicationRow),
    (dreamCountsForScope db rows exampleScope).relevant = 1 ∧
    (dreamCountsForScope db after exampleScope).relevant = 0 ∧
    ∃ row proposal, after = rows ++ [row] ∧ db.proposals.find "p" = some proposal ∧
      ∀ reader, dreamCountsForScope db after reader = if reader.covers proposal then
        dreamCountsForScope db (rows.filter (·.proposalId ≠ "p") ++ [row]) reader
      else dreamCountsForScope db rows reader := by
  have hrun : ((judged dayHost dayText).run ⟨emptyStore, [], firstDay⟩ (judgedTwice.take 2)).bind
      (fun s => (recordAdjudication s.db s.adjudications exampleScope secondJudgement).map fun after =>
        (s.adjudications.map AdjudicationRow.adjudicatedAt,
          (dreamCountsForScope s.db s.adjudications exampleScope).relevant,
          (dreamCountsForScope s.db after exampleScope).relevant)) = some ([firstDay], 1, 0) := by decide +kernel
  obtain ⟨s, -, hs⟩ := Option.bind_eq_some_iff.mp hrun
  obtain ⟨after, hafter, hcounts⟩ := Option.map_eq_some_iff.mp hs
  simp only [Prod.mk.injEq] at hcounts
  refine ⟨s.db, s.adjudications, after, hcounts.2.1, hcounts.2.2,
    census_replaced hafter fun old hold _ => Or.inl ?_⟩
  have htime : old.adjudicatedAt ∈ [firstDay] := hcounts.1 ▸ List.mem_map_of_mem hold
  rw [List.mem_singleton.mp htime]
  decide

end OpenTimeline.Dream
