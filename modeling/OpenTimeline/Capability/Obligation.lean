import OpenTimeline.Capability.Broker

/-! One mutation at a time.

A consumed mutating grant asks for a completion, and until it has one no other mutating grant
of its session and charter is issued. A grant issued before is consumed all the same: the
check is made at issue and the obligation comes with the consumption. So what a grant must
not find is a grant consumed since its issue and still without a completion
(`one_outstanding`). -/
namespace OpenTimeline.Capability
open Library Directive

variable (host : Host) (settings : Settings)

/-- A mutation whose completion is not recorded. -/
def GrantRow.outstanding (grant : GrantRow) : Bool :=
  grant.mutating && grant.status = .consumed && grant.completionRecordedAt = none

/-- Session and charter. -/
def GrantRow.scope (grant : GrantRow) : String × String × String × Option String :=
  (grant.workspaceId, grant.ownerId, grant.sessionId, grant.charterId)

/-! ### Runs with their consumptions in order -/

/-- The broker, and the order in which its grants were consumed. -/
structure Watched where
  db : ControlDatabase
  /-- the grants consumed, in order -/
  spent : List String
  /-- how many had been when a grant was issued -/
  spentBefore : String → Nat

namespace Watched

/-- The grants consumed since a grant was issued. -/
def spentSince (s : Watched) (id : String) : List String := s.spent.drop (s.spentBefore id)

/-- The grant an action consumes. -/
def consumed (s : Watched) : BrokerAction → List String
  | .consume call now => if (consumeCapabilityGrant host call now s.db.grants).2.authorized then [call.grantId] else []
  | _ => []

/-- An issue notes how many grants have been consumed. -/
def noted (s : Watched) : BrokerAction → String → Nat
  | .issue call => if (s.db.grants.find call.newId).isNone then
      Function.update s.spentBefore call.newId s.spent.length
    else s.spentBefore
  | _ => s.spentBefore

end Watched

def watchedSystem : System Watched BrokerAction where
  init s := (brokerSystem host settings).init s.db ∧ s.spent = [] ∧ ∀ id, s.spentBefore id = 0
  next s action := ((brokerSystem host settings).next s.db action).map fun db =>
    { db, spent := s.spent ++ s.consumed host action, spentBefore := s.noted action }

/-- A mutating grant passes while one of its session and charter that was consumed since its issue has
no completion. -/
def BrokerAction.overlaps (s : Watched) : BrokerAction → Bool
  | .consume call now => (call.read s.db.grants).any fun grant =>
    grant.mutating && (call.refusal host now grant).isNone &&
      (s.spentSince call.grantId).any fun id => (s.db.grants.find id).any fun other =>
        other.outstanding && other.scope = grant.scope
  | _ => false

/-- Calls with no such consumption. -/
def serialSystem : System Watched BrokerAction :=
  (watchedSystem host settings).restrict fun s action => action.overlaps host s = false

/-- One mutation of a session and charter waits for its completion, and while it does no other is
authorized. -/
def OneOutstanding (M : System Watched BrokerAction) (s : Watched) : Prop :=
  (∀ id id' grant grant', s.db.grants.find id = some grant → s.db.grants.find id' = some grant' →
    grant.outstanding → grant'.outstanding → grant'.scope = grant.scope → id' = id) ∧
  ∀ call now s', M.next s (.consume call now) = some s' →
    (consumeCapabilityGrant host call now s.db.grants).2.authorized →
    ∀ grant, s.db.grants.find call.grantId = some grant → grant.mutating →
      ∀ id other, s.db.grants.find id = some other → other.outstanding → other.scope ≠ grant.scope

variable {host settings} {s s' : Watched} {action : BrokerAction} {db : ControlDatabase}

/-! ### Grants that come to wait -/

theorem GrantRow.Descends.scope_eq {grant grant' : GrantRow} (h : grant.Descends grant') :
    grant'.scope = grant.scope ∧ grant'.mutating = grant.mutating ∧
      grant'.completionRequired = grant.completionRequired := by
  rw [h.eq]
  exact ⟨rfl, rfl, rfl⟩

theorem outstanding_iff {grant : GrantRow} : grant.outstanding ↔
    grant.mutating ∧ grant.status = .consumed ∧ grant.completionRecordedAt = none := by
  simp [GrantRow.outstanding, and_assoc]

/-- A grant that waits waited before, or has just been consumed. -/
theorem GrantsMove.outstanding {grants : Table GrantRow.id} (h : GrantsMove host db action grants) {id : String}
    {grant' : GrantRow} (hgrant' : grants.find id = some grant') (hwaits : grant'.outstanding) :
    (∃ grant, db.grants.find id = some grant ∧ grant.outstanding ∧ grant'.scope = grant.scope) ∨
    ∃ call now grant, action = .consume call now ∧ id = call.grantId ∧ call.read db.grants = some grant ∧
      call.refusal host now grant = none ∧ (consumeCapabilityGrant host call now db.grants).2.authorized = true ∧
      grant.mutating = true ∧ grant'.scope = grant.scope := by
  cases h with
  | same => exact Or.inl ⟨grant', hgrant', hwaits, rfl⟩
  | issues call decision reason grants hverdict hinsert =>
    rw [(Table.find_insert hinsert).2 id] at hgrant'
    split_ifs at hgrant'
    · obtain rfl := Option.some.inj hgrant'
      have hstatus := (outstanding_iff.mp hwaits).2.1
      simp only [IssueCall.row] at hstatus
      split_ifs at hstatus
    · exact Or.inl ⟨grant', hgrant', hwaits, rfl⟩
  | spends call now grant grants hread hrefusal hauthorized hrows =>
    rw [hrows id] at hgrant'
    split_ifs at hgrant' with hid
    · obtain rfl := Option.some.inj hgrant'
      exact Or.inr ⟨call, now, grant, rfl, hid, hread, hrefusal, hauthorized, (outstanding_iff.mp hwaits).1, rfl⟩
    · exact Or.inl ⟨grant', hgrant', hwaits, rfl⟩
  | expires call now grant grants hfind hstatus hrows =>
    rw [hrows id] at hgrant'
    split_ifs at hgrant' with hid
    · obtain rfl := Option.some.inj hgrant'
      cases (outstanding_iff.mp hwaits).2.1
    · exact Or.inl ⟨grant', hgrant', hwaits, rfl⟩
  | delivers row now grants hfind hrow hrows =>
    rw [hrows id] at hgrant'
    obtain ⟨grant, hgrant, rfl⟩ := Option.map_eq_some_iff.mp hgrant'
    split_ifs at hwaits ⊢
    · cases (outstanding_iff.mp hwaits).2.2
    · exact Or.inl ⟨grant, hgrant, hwaits, rfl⟩

/-- A mutating grant that was allowed has found no grant of its session and charter waiting. -/
theorem issued_alone {call : IssueCall} {decision : Decision} {reason : String}
    (hverdict : call.verdict host db = .ok (decision, reason))
    (hallowed : (call.row host decision reason).status = .authorized)
    (hmutating : (call.row host decision reason).mutating = true) {id : String} {other : GrantRow}
    (hother : db.grants.find id = some other) (hrequired : other.completionRequired = other.mutating)
    (hwaits : other.outstanding) : other.scope ≠ (call.row host decision reason).scope := by
  have hdecision : decision = .allow := by
    simp only [IssueCall.row] at hallowed
    split_ifs at hallowed with h
    exact h
  subst hdecision
  have hsees := (IssueCall.verdict_allow hverdict hmutating).1 other (Table.find_eq_some_iff.mp hother).1
  intro hscope
  obtain ⟨hmutates, hstatus, hrecorded⟩ := outstanding_iff.mp hwaits
  simp only [GrantRow.scope, IssueCall.row, Prod.mk.injEq] at hscope
  obtain ⟨hworkspace, howner, hsession, hcharter⟩ := hscope
  simp [IssueCall.sees, GrantRow.obligated, hworkspace, howner, hsession, hcharter, hstatus, hrecorded, hrequired,
    hmutates] at hsees

/-! ### The invariant -/

/-- The grants that wait have been consumed since the issue of every grant of their session and
charter that could still be consumed. -/
structure Watched.Serial (s : Watched) : Prop where
  required : ∀ id grant, s.db.grants.find id = some grant → grant.completionRequired = grant.mutating
  before : ∀ id, s.spentBefore id ≤ s.spent.length
  since : ∀ id id' grant other, s.db.grants.find id = some grant → grant.status = .authorized → grant.mutating →
    s.db.grants.find id' = some other → other.outstanding → other.scope = grant.scope → id' ∈ s.spentSince id
  one : ∀ id id' grant grant', s.db.grants.find id = some grant → s.db.grants.find id' = some grant' →
    grant.outstanding → grant'.outstanding → grant'.scope = grant.scope → id' = id

/-- A consumption that is authorized overlaps where a grant waits that is in the log since its issue. -/
theorem overlaps_of_waiting {call : ConsumeCall} {now : Instant} {grant other : GrantRow} {id : String}
    (hread : call.read s.db.grants = some grant) (hrefusal : call.refusal host now grant = none)
    (hmutating : grant.mutating = true) (hsince : id ∈ s.spentSince call.grantId)
    (hother : s.db.grants.find id = some other) (hwaits : other.outstanding) (hscope : other.scope = grant.scope) :
    (BrokerAction.consume call now).overlaps host s = true := by
  simp only [BrokerAction.overlaps, hread, Option.any_some, hmutating, hrefusal, Option.isNone_none, Bool.true_and,
    List.any_eq_true]
  exact ⟨id, hsince, by simp [hother, hwaits, hscope]⟩

theorem watched_next (hnext : (watchedSystem host settings).next s action = some s') :
    GrantsMove host s.db action s'.db.grants ∧ s'.spent = s.spent ++ s.consumed host action ∧
      s'.spentBefore = s.noted action := by
  obtain ⟨db, hdb, rfl⟩ := Option.map_eq_some_iff.mp hnext
  exact ⟨grants_next hdb, rfl, rfl⟩

/-- An action notes its place for a grant that was not there. -/
theorem noted_of_find {id : String} {grant : GrantRow} (hgrant : s.db.grants.find id = some grant) :
    s.noted action id = s.spentBefore id := by
  unfold Watched.noted
  split
  · rename_i call
    split_ifs with hfresh
    · have hne : id ≠ call.newId := by
        rintro rfl
        simp [hgrant] at hfresh
      exact Function.update_of_ne hne _ _
    · rfl
  · rfl

theorem noted_le (hbefore : ∀ id, s.spentBefore id ≤ s.spent.length) (id : String) : s.noted action id ≤ s.spent.length := by
  cases action with
  | issue call =>
    simp only [Watched.noted]
    split_ifs
    · rw [Function.update_apply]
      split_ifs
      · exact le_refl _
      · exact hbefore id
    · exact hbefore id
  | _ => exact hbefore id

theorem mem_spentSince_next (hnext : (watchedSystem host settings).next s action = some s') {id id' : String}
    {grant : GrantRow} (hgrant : s.db.grants.find id = some grant) (h : id' ∈ s.spentSince id) :
    id' ∈ s'.spentSince id := by
  obtain ⟨_, hspent, hbefore⟩ := watched_next hnext
  rw [Watched.spentSince, hbefore, noted_of_find hgrant, hspent, List.drop_append]
  exact List.mem_append_left _ h

/-- A grant just consumed is in the log since every issue. -/
theorem consumed_mem_spentSince {call : ConsumeCall} {now : Instant} (hs : s.Serial)
    (hnext : (watchedSystem host settings).next s (.consume call now) = some s')
    (hauthorized : (consumeCapabilityGrant host call now s.db.grants).2.authorized = true) (id : String) :
    call.grantId ∈ s'.spentSince id := by
  obtain ⟨_, hspent, hbefore⟩ := watched_next hnext
  have hnoted : s.noted (.consume call now) id = s.spentBefore id := rfl
  rw [Watched.spentSince, hbefore, hnoted, hspent, Watched.consumed, if_pos hauthorized,
    List.drop_append_of_le_length (hs.before id)]
  simp

theorem serial_step (hserial : action.overlaps host s = false)
    (hnext : (watchedSystem host settings).next s action = some s') (hs : s.Serial) : s'.Serial where
  required id grant' hgrant' := by
    obtain ⟨grant, hgrant, hdescends⟩ | ⟨call, decision, reason, _, _, _, rfl⟩ := (watched_next hnext).1.origin hgrant'
    · obtain ⟨_, hmutating, hrequired⟩ := hdescends.scope_eq
      rw [hmutating, hrequired]
      exact hs.required id grant hgrant
    · rfl
  before id := by
    obtain ⟨_, hspent, hbefore⟩ := watched_next hnext
    have hgrows : s.spent.length ≤ s'.spent.length := by
      rw [hspent]
      simp
    rw [hbefore]
    exact (noted_le hs.before id).trans hgrows
  since id id' grant' other' hgrant' hstatus hmutating hother' hwaits hscope := by
    have hmove := (watched_next hnext).1
    obtain ⟨grant, hgrant, hdescends⟩ | ⟨call, decision, reason, rfl, hverdict, _, rfl⟩ := hmove.origin hgrant'
    · obtain ⟨hscope', hmutating', _⟩ := hdescends.scope_eq
      obtain ⟨other, hother, hwaited, hsame⟩ | ⟨call, now, _, rfl, rfl, _, _, hauthorized, _, _⟩ :=
        hmove.outstanding hother' hwaits
      · refine mem_spentSince_next hnext hgrant (hs.since id id' grant other hgrant (hdescends.status hstatus) ?_ hother
          hwaited ?_)
        · rw [← hmutating', hmutating]
        · rw [← hsame, hscope, hscope']
      · exact consumed_mem_spentSince hs hnext hauthorized id
    · -- a grant just issued has found none of its session and charter waiting
      obtain ⟨other, hother, hwaited, hsame⟩ | ⟨_, _, _, hother, _⟩ := hmove.outstanding hother' hwaits
      · exact absurd (hsame.symm.trans hscope)
          (issued_alone hverdict hstatus hmutating hother (hs.required id' other hother) hwaited)
      · cases hother
  one id id' grant grant' hgrant hgrant' hwaits hwaits' hscope := by
    have hmove := (watched_next hnext).1
    obtain ⟨before, hbefore, hwaited, hsame⟩ | ⟨call, now, before, rfl, rfl, hread, hrefusal, _, hmutating, hsame⟩ :=
        hmove.outstanding hgrant hwaits <;>
      obtain ⟨before', hbefore', hwaited', hsame'⟩ |
        ⟨call', now', before', haction, rfl, hread', hrefusal', _, hmutating', hsame'⟩ :=
        hmove.outstanding hgrant' hwaits'
    · exact hs.one id id' before before' hbefore hbefore' hwaited hwaited' (by rw [← hsame', hscope, hsame])
    · have hin := hs.since _ id before' before (ConsumeCall.read_eq_some hread').1
        (ConsumeCall.refusal_eq_none hrefusal').1 hmutating' hbefore hwaited (by rw [← hsame, ← hscope, hsame'])
      rw [haction, overlaps_of_waiting hread' hrefusal' hmutating' hin hbefore hwaited
        (by rw [← hsame, ← hscope, hsame'])] at hserial
      cases hserial
    · have hin := hs.since _ id' before before' (ConsumeCall.read_eq_some hread).1
        (ConsumeCall.refusal_eq_none hrefusal).1 hmutating hbefore' hwaited' (by rw [← hsame', hscope, hsame])
      rw [overlaps_of_waiting hread hrefusal hmutating hin hbefore' hwaited' (by rw [← hsame', hscope, hsame])] at hserial
      cases hserial
    · cases haction
      rfl

theorem serial_reachable (h : (serialSystem host settings).Reachable s) : s.Serial := by
  refine h.invariant (fun s hinit => ?_) fun s action s' _ hs hnext => ?_
  · obtain ⟨⟨hrows, _⟩, hspent, hbefore⟩ := hinit
    have hnone : ∀ id grant, s.db.grants.find id ≠ some grant := fun id grant hgrant => by
      rw [Table.find, hrows] at hgrant
      cases hgrant
    refine ⟨fun id grant hgrant => absurd hgrant (hnone id grant), fun id => by simp [hbefore], ?_, ?_⟩
    · exact fun id _ grant _ hgrant => absurd hgrant (hnone id grant)
    · exact fun id _ grant _ hgrant => absurd hgrant (hnone id grant)
  · obtain ⟨hserial, hnext⟩ := System.restrict_next hnext
    exact serial_step hserial hnext hs

variable (host settings) in
/-- Where no mutating grant is consumed while one of its session and charter that was consumed since
its issue has no completion, one at most waits for its completion, and none is authorized
meanwhile. -/
theorem one_outstanding (h : (serialSystem host settings).Reachable s) :
    OneOutstanding host (serialSystem host settings) s := by
  refine ⟨(serial_reachable h).one, fun call now s' hnext hauthorized grant hgrant hmutating id other hother hwaits hscope => ?_⟩
  have hs := serial_reachable h
  obtain ⟨hserial, hnext⟩ := System.restrict_next hnext
  obtain ⟨_, hmiss⟩ | ⟨found, hread, hrefusal, _⟩ | ⟨_, _, _, hmiss, _⟩ :=
    @consumeCapabilityGrant_cases host call now s.db.grants
  · rw [hmiss] at hauthorized
    cases hauthorized
  · obtain rfl := Option.some.inj ((ConsumeCall.read_eq_some hread).1.symm.trans hgrant)
    have hin := hs.since _ id found other hgrant (ConsumeCall.refusal_eq_none hrefusal).1 hmutating hother hwaits hscope
    have hoverlaps : (BrokerAction.consume call now).overlaps host s = true :=
      overlaps_of_waiting hread hrefusal hmutating hin hother hwaits hscope
    rw [hserial] at hoverlaps
    cases hoverlaps
  · rw [hmiss] at hauthorized
    cases hauthorized

/-! ### Two grants issued before either is consumed -/

def exampleWatched : Watched := ⟨exampleControl, [], fun _ => 0⟩

theorem two_outstanding : ¬ ∀ s, (watchedSystem (asciiHost [] []) exampleSettings).Reachable s →
    OneOutstanding (asciiHost [] []) (watchedSystem (asciiHost [] []) exampleSettings) s := by
  intro hall
  have htwo : ((watchedSystem (asciiHost [] []) exampleSettings).run exampleWatched
      [.issue (exampleIssue "g" epoch), .issue (exampleIssue "h" (epoch + 1)), .consume (exampleUse "g") (epoch + 2),
        .consume (exampleUse "h") (epoch + 3)]).any fun s =>
      (s.db.grants.find "g").any fun grant => (s.db.grants.find "h").any fun grant' =>
        grant.outstanding && grant'.outstanding && grant'.scope = grant.scope := by
    decide +kernel
  obtain ⟨s, hrun, hs⟩ := (Option.any_eq_true _ _).mp htwo
  obtain ⟨grant, hgrant, hs⟩ := (Option.any_eq_true _ _).mp hs
  obtain ⟨grant', hgrant', hs⟩ := (Option.any_eq_true _ _).mp hs
  simp only [Bool.and_eq_true, decide_eq_true_eq] at hs
  have hinit : (watchedSystem (asciiHost [] []) exampleSettings).init exampleWatched := ⟨⟨rfl, rfl⟩, rfl, fun _ => rfl⟩
  have hone := (hall s (System.Reachable.run (.init hinit) hrun)).1 "g" "h" grant grant' hgrant hgrant' hs.1.1 hs.1.2 hs.2
  exact absurd hone (by decide)

/-- The second grant is consumed after the completion of the first. -/
theorem one_outstanding_example : ∃ s, (serialSystem (asciiHost [] []) exampleSettings).run exampleWatched
      [.issue (exampleIssue "g" epoch), .issue (exampleIssue "h" (epoch + 1)), .consume (exampleUse "g") (epoch + 2),
        .enqueue ⟨"w", "o", "s", "k", none, epoch + 3, "c"⟩, .deliver "c" none (epoch + 4),
        .consume (exampleUse "h") (epoch + 5)] = some s ∧
    OneOutstanding (asciiHost [] []) (serialSystem (asciiHost [] []) exampleSettings) s := by
  have hsome : ((serialSystem (asciiHost [] []) exampleSettings).run exampleWatched
      [.issue (exampleIssue "g" epoch), .issue (exampleIssue "h" (epoch + 1)), .consume (exampleUse "g") (epoch + 2),
        .enqueue ⟨"w", "o", "s", "k", none, epoch + 3, "c"⟩, .deliver "c" none (epoch + 4),
        .consume (exampleUse "h") (epoch + 5)]).isSome := by
    decide +kernel
  obtain ⟨s, hrun⟩ := Option.isSome_iff_exists.mp hsome
  have hinit : (serialSystem (asciiHost [] []) exampleSettings).init exampleWatched := ⟨⟨rfl, rfl⟩, rfl, fun _ => rfl⟩
  exact ⟨s, hrun, one_outstanding (asciiHost [] []) exampleSettings (System.Reachable.run (.init hinit) hrun)⟩

end OpenTimeline.Capability
