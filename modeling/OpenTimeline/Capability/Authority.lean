import OpenTimeline.Capability.Broker

/-! The authority of a mutating grant.

The permit and the directive of a mutating grant are looked at when it is issued, and a grant
lives for fifteen minutes at most. So an authorized consumption goes back to an issue not longer
ago than that, whose directive was in progress under its permit (`authority_at_issue`); by then
both may have come to an end. -/
namespace OpenTimeline.Capability
open Library Directive

variable {host : Host} {settings : Settings} {db : ControlDatabase}

/-- What an authorized consumption has found. -/
theorem consume_authorized {call : ConsumeCall} {now : Instant} {grants : Table GrantRow.id}
    (h : (consumeCapabilityGrant host call now grants).2.authorized = true) :
    ∃ grant, call.read grants = some grant ∧ call.refusal host now grant = none := by
  obtain ⟨_, hmiss⟩ | ⟨grant, hread, hrefusal, _⟩ | ⟨_, _, _, hmiss, _⟩ :=
    @consumeCapabilityGrant_cases host call now grants
  · rw [hmiss] at h
    cases h
  · exact ⟨grant, hread, hrefusal⟩
  · rw [hmiss] at h
    cases h

variable (host settings) in
/-- A mutating grant whose consumption is authorized was issued not more than 900 seconds before, for a
directive that was in progress under the grant's permit, which was an unexpired allow. -/
theorem authority_at_issue (h : (brokerSystem host settings).Reachable db) {call : ConsumeCall} {now : Instant}
    {grant : GrantRow} (hgrant : db.grants.find call.grantId = some grant) (hmutating : grant.mutating = true)
    (hauthorized : (consumeCapabilityGrant host call now db.grants).2.authorized = true) :
    ∃ before issue permit directive, (brokerSystem host settings).Reachable before ∧
      (∃ actions, (brokerSystem host settings).run before (.issue issue :: actions) = some db) ∧
      (issue.newId = grant.id ∧ issue.permitId = grant.permitId ∧ issue.directiveId = grant.directiveId ∧
        issue.now = grant.createdAt) ∧
      before.permits.find permit.id = some permit ∧ before.directives.find directive.directiveId = some directive ∧
      issue.Bears permit directive ∧ now ≤ issue.now + 900 * 1000000 := by
  obtain ⟨found, hread, hrefusal⟩ := consume_authorized hauthorized
  obtain rfl := Option.some.inj ((ConsumeCall.read_eq_some hread).1.symm.trans hgrant)
  obtain ⟨hstatus, hexpires, _⟩ := ConsumeCall.refusal_eq_none hrefusal
  obtain ⟨before, issue, decision, reason, hissued⟩ := issued_by h hgrant
  have hdescends := hissued.descends
  have hdecision : decision = .allow := by
    have hallowed := hdescends.status hstatus
    simp only [IssueCall.row] at hallowed
    split_ifs at hallowed with hallow
    exact hallow
  subst hdecision
  have hmutates : (issue.row host .allow reason).mutating = true := by
    rw [hdescends.eq] at hmutating
    exact hmutating
  obtain ⟨_, permit, directive, hpermit, hdirective, hbears⟩ := IssueCall.verdict_allow hissued.verdict hmutates
  refine ⟨before, issue, permit, directive, hissued.reachable, hissued.run, ?_, hpermit, hdirective, hbears, ?_⟩
  · rw [hdescends.eq]
    exact ⟨rfl, rfl, rfl, rfl⟩
  · rw [hdescends.eq] at hexpires
    exact hexpires.trans issue.expiresAt_le

/-- The authority of a grant, as it is now. -/
def Authorizes (db : ControlDatabase) (grant : GrantRow) (now : Instant) : Prop :=
  ∃ permit directive, db.permits.find permit.id = some permit ∧ grant.permitId = some permit.id ∧
    db.directives.find directive.directiveId = some directive ∧ grant.directiveId = some directive.directiveId ∧
    permit.decision = some "allow" ∧ (∀ expiresAt, permit.expiresAt = some expiresAt → now ≤ expiresAt.instant) ∧
    directive.state = .inProgress ∧ directive.permitId = grant.permitId

/-- The task of a directive is cancelled between the issue of a grant and its consumption. -/
def cancelledBetween : List BrokerAction := [.issue (exampleIssue "g" epoch), .cancel "d" ⟨epoch + 1, true⟩]

theorem authority_gone : ¬ ∀ db, (brokerSystem (asciiHost [] []) exampleSettings).Reachable db →
    ∀ call now grant, db.grants.find call.grantId = some grant → grant.mutating = true →
      (consumeCapabilityGrant (asciiHost [] []) call now db.grants).2.authorized = true → Authorizes db grant now := by
  intro hall
  have hcancelled : ((brokerSystem (asciiHost [] []) exampleSettings).run exampleControl cancelledBetween).any fun db =>
      ((db.grants.find "g").any fun grant => grant.mutating && grant.directiveId = some "d") &&
      ((db.directives.find "d").any fun directive => directive.state = .cancelled) &&
      (consumeCapabilityGrant (asciiHost [] []) (exampleUse "g") (epoch + 2) db.grants).2.authorized := by
    decide +kernel
  obtain ⟨db, hrun, hdb⟩ := (Option.any_eq_true _ _).mp hcancelled
  obtain ⟨hdb, hauthorized⟩ := (Bool.and_eq_true _ _).mp hdb
  obtain ⟨hgrant, hdirective⟩ := (Bool.and_eq_true _ _).mp hdb
  obtain ⟨grant, hgrant, hgrant'⟩ := (Option.any_eq_true _ _).mp hgrant
  obtain ⟨directive, hdirective, hstate⟩ := (Option.any_eq_true _ _).mp hdirective
  simp only [Bool.and_eq_true, decide_eq_true_eq] at hgrant' hstate
  have hinit : (brokerSystem (asciiHost [] []) exampleSettings).init exampleControl := ⟨rfl, rfl⟩
  obtain ⟨_, found, _, _, hfound, hnamed, _, _, hprogress, _⟩ :=
    hall db (System.Reachable.run (.init hinit) hrun) (exampleUse "g") (epoch + 2) grant hgrant hgrant'.1 hauthorized
  rw [hgrant'.2] at hnamed
  rw [← Option.some.inj hnamed, hdirective] at hfound
  rw [← Option.some.inj hfound, hstate] at hprogress
  cases hprogress

/-- A grant issued, and consumed a second later. -/
theorem authority_at_issue_example : ∃ db, (brokerSystem (asciiHost [] []) exampleSettings).run exampleControl
      [.issue (exampleIssue "g" epoch)] = some db ∧
      ∃ (before : ControlDatabase) (issue : IssueCall) (permit : PermitRow) (directive : DirectiveRow),
        before.permits.find permit.id = some permit ∧ before.directives.find directive.directiveId = some directive ∧
        issue.Bears permit directive ∧ epoch + 1000000 ≤ issue.now + 900 * 1000000 := by
  have hissued : ((brokerSystem (asciiHost [] []) exampleSettings).run exampleControl
      [.issue (exampleIssue "g" epoch)]).any fun db => ((db.grants.find "g").any fun grant => grant.mutating) &&
        (consumeCapabilityGrant (asciiHost [] []) (exampleUse "g") (epoch + 1000000) db.grants).2.authorized := by
    decide +kernel
  obtain ⟨db, hrun, hdb⟩ := (Option.any_eq_true _ _).mp hissued
  obtain ⟨hgrant, hauthorized⟩ := (Bool.and_eq_true _ _).mp hdb
  obtain ⟨grant, hgrant, hmutating⟩ := (Option.any_eq_true _ _).mp hgrant
  have hinit : (brokerSystem (asciiHost [] []) exampleSettings).init exampleControl := ⟨rfl, rfl⟩
  obtain ⟨before, issue, permit, directive, _, _, _, hpermit, hdirective, hbears, hwithin⟩ :=
    @authority_at_issue (asciiHost [] []) exampleSettings db (System.Reachable.run (.init hinit) hrun) (exampleUse "g")
      (epoch + 1000000) grant hgrant hmutating hauthorized
  exact ⟨db, hrun, before, issue, permit, directive, hpermit, hdirective, hbears, hwithin⟩

end OpenTimeline.Capability
