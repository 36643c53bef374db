import OpenTimeline.Capability.Broker

/-! What a completion discharges.

A delivery records its completion on every grant of the session that is consumed and has
none, whenever it is run, and a delivery may be retried long after its row was captured. It
discharges earlier actions only as long as none of these grants was consumed after that
(`discharges_earlier`). -/
namespace OpenTimeline.Capability
open Library Directive

variable (host : Host) (settings : Settings)

/-- A delivery that succeeds while a grant of the session waits that was consumed after the row was
captured. -/
def BrokerAction.deliversLate (db : ControlDatabase) : BrokerAction → Bool
  | .deliver outboxId none _ => (db.outbox.find outboxId).any fun row => row.status ≠ .delivered &&
    db.grants.rows.any fun grant => row.discharges grant && grant.consumedAt.any (row.createdAt < ·)
  | _ => false

/-- Calls with no such delivery. -/
def promptSystem : System ControlDatabase BrokerAction :=
  (brokerSystem host settings).restrict fun db action => action.deliversLate db = false

/-- The row is of the grant's session, and the grant was consumed no later than it was captured. -/
def OutboxRow.Covers (row : OutboxRow) (grant : GrantRow) : Prop :=
  row.workspaceId = grant.workspaceId ∧ row.ownerId = grant.ownerId ∧ row.sessionId = grant.sessionId ∧
    ∃ consumedAt, grant.consumedAt = some consumedAt ∧ consumedAt ≤ row.createdAt

/-- A completion is recorded by a row that covers the grant, and until then the grant waits. -/
def DischargesEarlier (M : System ControlDatabase BrokerAction) (db : ControlDatabase) : Prop :=
  (∀ id grant outboxId, db.grants.find id = some grant → grant.completionOutboxId = some outboxId →
    ∃ row, db.outbox.find outboxId = some row ∧ row.Covers grant) ∧
  ∀ id grant, db.grants.find id = some grant → grant.obligated → ∀ actions db', M.run db actions = some db' →
    ∃ grant', db'.grants.find id = some grant' ∧ grant'.consumedAt = grant.consumedAt ∧
      (grant'.obligated ∨ ∃ outboxId row, grant'.completionOutboxId = some outboxId ∧
        db'.outbox.find outboxId = some row ∧ row.Covers grant')

variable {host settings} {db db' : ControlDatabase} {action : BrokerAction}

/-! ### Rows of the outbox -/

/-- What a row of the outbox keeps. -/
structure OutboxRow.Continues (row row' : OutboxRow) : Prop where
  workspaceId : row'.workspaceId = row.workspaceId
  ownerId : row'.ownerId = row.ownerId
  sessionId : row'.sessionId = row.sessionId
  createdAt : row'.createdAt = row.createdAt

theorem OutboxRow.Continues.refl (row : OutboxRow) : row.Continues row := ⟨rfl, rfl, rfl, rfl⟩

theorem OutboxRow.Continues.covers {row row' : OutboxRow} (h : row.Continues row') {grant : GrantRow}
    (hrow : row.Covers grant) : row'.Covers grant := by
  obtain ⟨hworkspace, howner, hsession, consumedAt, hconsumed, hle⟩ := hrow
  exact ⟨h.workspaceId.trans hworkspace, h.ownerId.trans howner, h.sessionId.trans hsession, consumedAt, hconsumed,
    h.createdAt ▸ hle⟩

theorem continues_updateWhere {outbox : Table OutboxRow.id} {p : OutboxRow → Bool} {f : OutboxRow → OutboxRow}
    (hf : ∀ row, (f row).id = row.id) (hcontinues : ∀ row : OutboxRow, row.Continues (f row)) {id : String} {row : OutboxRow}
    (hrow : outbox.find id = some row) : ∃ row', (outbox.updateWhere p f hf).find id = some row' ∧ row.Continues row' := by
  refine ⟨_, by rw [Table.find_updateWhere, hrow, Option.map_some], ?_⟩
  split_ifs
  · exact hcontinues row
  · exact .refl row

theorem outbox_next (h : (brokerSystem host settings).next db action = some db') {id : String} {row : OutboxRow}
    (hrow : db.outbox.find id = some row) : ∃ row', db'.outbox.find id = some row' ∧ row.Continues row' := by
  cases action with
  | issue call =>
    cases h
    cases hissue : issueCapabilityGrant host call db with
    | error => exact ⟨row, hrow, .refl _⟩
    | ok issued =>
      obtain ⟨_, _, _, _, _, hdb⟩ := issueCapabilityGrant_ok host hissue
      refine ⟨row, ?_, .refl _⟩
      simp only
      rw [hdb]
      exact hrow
  | enqueue call =>
    cases h
    cases henqueue : enqueueHandoff call db with
    | error => exact ⟨row, hrow, .refl _⟩
    | ok result =>
      refine ⟨row, ?_, .refl _⟩
      simp only
      rw [(enqueueHandoff_grants henqueue).2, EnqueueCall.inserted]
      split_ifs
      · exact hrow
      · cases hinsert : db.outbox.insert call.row with
        | none => exact hrow
        | some outbox => exact Table.find_insert_of_find hinsert hrow
  | deliver outboxId failure now =>
    cases h
    unfold deliverHandoffSafely
    split
    · exact ⟨row, hrow, .refl _⟩
    · split_ifs
      · exact ⟨row, hrow, .refl _⟩
      · split
        · refine continues_updateWhere ?_ ?_ hrow
          · exact fun _ => rfl
          · exact fun _ => ⟨rfl, rfl, rfl, rfl⟩
        · refine continues_updateWhere ?_ ?_ hrow
          · exact fun _ => rfl
          · exact fun _ => ⟨rfl, rfl, rfl, rfl⟩
  | requeue workspaceId outboxId now =>
    cases h
    unfold requeueHandoff
    split
    · exact ⟨row, hrow, .refl _⟩
    · split_ifs
      · exact ⟨row, hrow, .refl _⟩
      · refine continues_updateWhere ?_ ?_ hrow
        · exact fun _ => rfl
        · exact fun _ => ⟨rfl, rfl, rfl, rfl⟩
  | consume | permits | effects =>
    cases h
    exact ⟨row, hrow, .refl _⟩
  | claim directiveId request | report directiveId request | cancel directiveId now =>
    cases h
    rw [(writeDirective_grants _ _ _).2]
    exact ⟨row, hrow, .refl _⟩

/-! ### Completions recorded -/

/-- A grant has its completion from a row that covers it. -/
structure GrantRow.Recorded (outbox : Table OutboxRow.id) (grant : GrantRow) : Prop where
  consumed : grant.status = .consumed → ∃ consumedAt, grant.consumedAt = some consumedAt
  active : grant.status ≠ .consumed → grant.completionOutboxId = none
  recorded : ∀ outboxId, grant.completionOutboxId = some outboxId →
    ∃ row, outbox.find outboxId = some row ∧ row.Covers grant
  paired : grant.completionRecordedAt ≠ none → ∃ outboxId, grant.completionOutboxId = some outboxId

def Recorded (db : ControlDatabase) : Prop := ∀ id grant, db.grants.find id = some grant → grant.Recorded db.outbox

theorem GrantRow.Recorded.next (h : (brokerSystem host settings).next db action = some db') {grant : GrantRow}
    (hgrant : grant.Recorded db.outbox) : grant.Recorded db'.outbox where
  consumed := hgrant.consumed
  active := hgrant.active
  paired := hgrant.paired
  recorded outboxId houtbox := by
    obtain ⟨row, hrow, hcovers⟩ := hgrant.recorded outboxId houtbox
    obtain ⟨row', hrow', hcontinues⟩ := outbox_next h hrow
    exact ⟨row', hrow', hcontinues.covers hcovers⟩

/-- A row that is not consumed takes a new status, or is consumed, with no completion. -/
theorem recorded_unrecorded {outbox : Table OutboxRow.id} {grant : GrantRow} (houtbox : grant.completionOutboxId = none)
    (hrecorded : grant.completionRecordedAt = none) (hconsumed : grant.status = .consumed → ∃ t, grant.consumedAt = some t) :
    grant.Recorded outbox where
  consumed := hconsumed
  active _ := houtbox
  recorded outboxId h := by
    rw [houtbox] at h
    cases h
  paired h := absurd hrecorded h

theorem recorded_step (htimely : action.deliversLate db = false)
    (h : (brokerSystem host settings).next db action = some db') (hs : Recorded db) : Recorded db' := by
  intro id grant' hgrant'
  have hold : ∀ grant, db.grants.find id = some grant → grant.Recorded db'.outbox := fun grant hgrant =>
    (hs id grant hgrant).next h
  -- an active grant has no completion
  have hactive : ∀ grant, db.grants.find id = some grant → grant.status = .authorized →
      grant.completionOutboxId = none ∧ grant.completionRecordedAt = none := by
    intro grant hgrant hstatus
    have houtbox := (hs id grant hgrant).active (by simp [hstatus])
    refine ⟨houtbox, by_contra fun hne => ?_⟩
    obtain ⟨outboxId, hsome⟩ := (hs id grant hgrant).paired hne
    rw [houtbox] at hsome
    cases hsome
  generalize hgrants : db'.grants = grants at hgrant'
  have hmove := grants_next h
  rw [hgrants] at hmove
  cases hmove with
  | same => exact hold grant' hgrant'
  | issues call decision reason grants hverdict hinsert =>
    rw [(Table.find_insert hinsert).2 id] at hgrant'
    split_ifs at hgrant'
    · obtain rfl := Option.some.inj hgrant'
      refine recorded_unrecorded rfl rfl fun hstatus => ?_
      simp only [IssueCall.row] at hstatus
      split_ifs at hstatus
    · exact hold grant' hgrant'
  | spends call now grant grants hread hrefusal _ hrows =>
    have hfind := (ConsumeCall.read_eq_some hread).1
    rw [hrows id] at hgrant'
    split_ifs at hgrant' with hid
    · obtain rfl := Option.some.inj hgrant'
      rw [← hid] at hfind
      obtain ⟨houtbox, hrecorded⟩ := hactive grant hfind (ConsumeCall.refusal_eq_none hrefusal).1
      exact recorded_unrecorded houtbox hrecorded fun _ => ⟨now, rfl⟩
    · exact hold grant' hgrant'
  | expires call now grant grants hfind hstatus hrows =>
    rw [hrows id] at hgrant'
    split_ifs at hgrant' with hid
    · obtain rfl := Option.some.inj hgrant'
      rw [← hid] at hfind
      obtain ⟨houtbox, hrecorded⟩ := hactive grant hfind hstatus
      exact recorded_unrecorded houtbox hrecorded fun h => by cases h
    · exact hold grant' hgrant'
  | delivers row now grants hfind hrow hrows =>
    rw [hrows id] at hgrant'
    obtain ⟨grant, hgrant, rfl⟩ := Option.map_eq_some_iff.mp hgrant'
    split_ifs with hdischarges
    · have hin : grant ∈ db.grants.rows := (Table.find_eq_some_iff.mp hgrant).1
      have hscope := hdischarges
      simp only [OutboxRow.discharges, Bool.and_eq_true, decide_eq_true_eq] at hscope
      obtain ⟨⟨⟨⟨⟨hworkspace, howner⟩, hsession⟩, _⟩, hstatus⟩, _⟩ := hscope
      obtain ⟨consumedAt, hconsumed⟩ := (hold grant hgrant).consumed hstatus
      have hle : consumedAt ≤ row.createdAt := by
        simp only [BrokerAction.deliversLate, hfind, Option.any_some, hrow, ne_eq, not_false_eq_true, decide_true,
          Bool.true_and, List.any_eq_false] at htimely
        simpa [hdischarges, hconsumed] using htimely grant hin
      obtain ⟨row', hrow', hcontinues⟩ := outbox_next h hfind
      refine ⟨fun _ => ⟨consumedAt, hconsumed⟩, fun hne => absurd hstatus hne, fun outboxId heq => ?_, fun _ => ⟨row.id, rfl⟩⟩
      obtain rfl := Option.some.inj heq
      exact ⟨row', hrow', hcontinues.covers ⟨hworkspace.symm, howner.symm, hsession.symm, consumedAt, hconsumed, hle⟩⟩
    · exact hold grant hgrant

theorem recorded_reachable (h : (promptSystem host settings).Reachable db) : Recorded db := by
  refine h.invariant (fun db hinit => ?_) fun db action db' _ hs hnext => ?_
  · intro id grant hgrant
    rw [Table.find, hinit.1] at hgrant
    cases hgrant
  · obtain ⟨htimely, hnext⟩ := System.restrict_next hnext
    exact recorded_step htimely hnext hs

variable (host settings) in
/-- Where no delivery succeeds while a grant of its session waits that was consumed after the row
was captured, a completion is recorded only by a row that covers the grant, and a grant waits
until there is one. -/
theorem discharges_earlier (h : (promptSystem host settings).Reachable db) :
    DischargesEarlier (promptSystem host settings) db := by
  refine ⟨fun id grant outboxId hgrant => (recorded_reachable h id grant hgrant).recorded outboxId,
    fun id grant hgrant hobligated actions db' hrun => ?_⟩
  obtain ⟨grant', hgrant', hdescends⟩ := descends_run (System.restrict_run hrun) hgrant
  simp only [GrantRow.obligated, Bool.and_eq_true, decide_eq_true_eq] at hobligated
  obtain ⟨hstatus, htime⟩ := hdescends.consumed hobligated.1.1
  have hrequired : grant'.completionRequired = grant.completionRequired := by rw [hdescends.eq]
  refine ⟨grant', hgrant', htime, ?_⟩
  have hrecorded := recorded_reachable (h.run hrun) id grant' hgrant'
  by_cases hwaits : grant'.completionRecordedAt = none
  · left
    simp [GrantRow.obligated, hstatus, hrequired, hobligated.1.2, hwaits]
  · right
    obtain ⟨outboxId, houtbox⟩ := hrecorded.paired hwaits
    obtain ⟨row, hrow, hcovers⟩ := hrecorded.recorded outboxId houtbox
    exact ⟨outboxId, row, houtbox, hrow, hcovers⟩

/-! ### A completion delivered late -/

def exampleEnqueue (now : Instant) : EnqueueCall := ⟨"w", "o", "s", "k", none, now, "c"⟩

/-- A completion is captured, its delivery fails, and a grant is issued and consumed before the
delivery is retried. -/
def retriedLate : List BrokerAction :=
  [.enqueue (exampleEnqueue epoch), .deliver "c" (some "database is locked") (epoch + 1),
    .issue (exampleIssue "g" (epoch + 2)), .consume (exampleUse "g") (epoch + 3), .deliver "c" none (epoch + 4)]

theorem late_completion : ¬ ∀ db, (brokerSystem (asciiHost [] []) exampleSettings).Reachable db →
    DischargesEarlier (brokerSystem (asciiHost [] []) exampleSettings) db := by
  intro hall
  have hlate : ((brokerSystem (asciiHost [] []) exampleSettings).run exampleControl retriedLate).any fun db =>
      ((db.grants.find "g").any fun grant => grant.completionOutboxId = some "c" && grant.consumedAt = some (epoch + 3)) &&
      (db.outbox.find "c").any fun row => row.createdAt = epoch := by
    decide +kernel
  obtain ⟨db, hrun, hdb⟩ := (Option.any_eq_true _ _).mp hlate
  obtain ⟨hgrant, hrow⟩ := (Bool.and_eq_true _ _).mp hdb
  obtain ⟨grant, hgrant, hconsumed⟩ := (Option.any_eq_true _ _).mp hgrant
  obtain ⟨row, hrow, hcreated⟩ := (Option.any_eq_true _ _).mp hrow
  simp only [Bool.and_eq_true, decide_eq_true_eq] at hconsumed hcreated
  have hinit : (brokerSystem (asciiHost [] []) exampleSettings).init exampleControl := ⟨rfl, rfl⟩
  have hreach := System.Reachable.run (.init hinit) hrun
  obtain ⟨row', hrow', _, _, _, consumedAt, hat, hle⟩ := (hall db hreach).1 "g" grant "c" hgrant hconsumed.1
  obtain rfl := Option.some.inj (hrow.symm.trans hrow')
  rw [hconsumed.2] at hat
  obtain rfl := Option.some.inj hat
  rw [hcreated] at hle
  exact absurd hle (by decide)

/-- The same, with the grant consumed before the completion is captured. -/
theorem discharges_earlier_example : ∃ db, (promptSystem (asciiHost [] []) exampleSettings).run exampleControl
      [.issue (exampleIssue "g" epoch), .consume (exampleUse "g") (epoch + 1), .enqueue (exampleEnqueue (epoch + 2)),
        .deliver "c" (some "database is locked") (epoch + 3), .deliver "c" none (epoch + 4)] = some db ∧
    DischargesEarlier (promptSystem (asciiHost [] []) exampleSettings) db := by
  have hsome : ((promptSystem (asciiHost [] []) exampleSettings).run exampleControl
      [.issue (exampleIssue "g" epoch), .consume (exampleUse "g") (epoch + 1), .enqueue (exampleEnqueue (epoch + 2)),
        .deliver "c" (some "database is locked") (epoch + 3), .deliver "c" none (epoch + 4)]).isSome := by
    decide +kernel
  obtain ⟨db, hrun⟩ := Option.isSome_iff_exists.mp hsome
  have hinit : (promptSystem (asciiHost [] []) exampleSettings).init exampleControl := ⟨rfl, rfl⟩
  exact ⟨db, hrun, discharges_earlier (asciiHost [] []) exampleSettings (System.Reachable.run (.init hinit) hrun)⟩

end OpenTimeline.Capability
