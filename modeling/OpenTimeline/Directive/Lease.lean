import OpenTimeline.Library.Transition
import OpenTimeline.Directive.Transitions

/-! The lease protocol.

A worker reads a directive's row, has `validateTransition` decide on what it read, and
commits with an UPDATE whose WHERE clause compares the state and the lease generation
of that read. Between the two anything may happen to the row: the rule is pure and the
read is old, so the fence alone stands between a late worker and a row it has lost.

What carries the results is that a row only moves forward (`Ownership.Advances`): a
read is never ahead of the row, and one that still has the row's state is the row. -/
namespace OpenTimeline.Directive
open Library

/-- The columns the rule reads. -/
structure Ownership where
  state : DirectiveState
  claimedExecutor : Option String
  leaseGeneration : Nat
deriving DecidableEq, Repr

/-- A claim, a report or a cancellation, as its writer asks for it. -/
structure FencedRequest where
  requested : DirectiveState
  actor : String
  actorLease : Option Nat
  permitOk : Bool := true
  requireLeaseEcho : Bool := false
deriving DecidableEq, Repr

/-- The arguments of `validate_transition` on a row read. -/
def FencedRequest.attempt (request : FencedRequest) (seen : Ownership) : Attempt where
  currentState := seen.state
  claimedBy := seen.claimedExecutor
  leaseGeneration := some seen.leaseGeneration
  requested := request.requested
  actor := request.actor
  actorLease := request.actorLease
  permitOk := request.permitOk
  requireLeaseEcho := request.requireLeaseEcho

/-- The row after a commit; a claim writes the claimant. -/
def Ownership.moved (row : Ownership) (actor : String) (next : DirectiveState) (lease : Nat) : Ownership where
  state := next
  claimedExecutor :=
    if row.state = .pending ∧ next = .inProgress then some actor else row.claimedExecutor
  leaseGeneration := lease

/-- The fenced UPDATE: `none` where the rule refuses or the WHERE clause has no row. -/
def FencedRequest.commit (request : FencedRequest) (seen row : Ownership) : Option Ownership :=
  let decision := validateTransition (request.attempt seen)
  if decision.allowed ∧ row.state = seen.state ∧ row.leaseGeneration = seen.leaseGeneration then
    some (row.moved request.actor request.requested decision.nextLease)
  else none

/-! ### Rows move forward -/

/-- `a` can become `b`: a row stays as it is, or goes on in its life cycle; its lease
never goes back, and a claim raises it. -/
def Ownership.Advances (a b : Ownership) : Prop :=
  a = b ∨ (a.state.rank < b.state.rank ∧ a.leaseGeneration ≤ b.leaseGeneration ∧
    (a.state = .pending → b.state = .inProgress → a.leaseGeneration < b.leaseGeneration))

namespace Ownership

theorem Advances.refl (a : Ownership) : a.Advances a := Or.inl rfl

theorem Advances.trans {a b c : Ownership} (hab : a.Advances b) (hbc : b.Advances c) : a.Advances c := by
  obtain rfl | ⟨hrank, hlease, _⟩ := hab
  · exact hbc
  obtain rfl | ⟨hrank', hlease', _⟩ := hbc
  · exact Or.inr ⟨hrank, hlease, by assumption⟩
  refine Or.inr ⟨hrank.trans hrank', hlease.trans hlease', fun _ hc => ?_⟩
  -- two moves end in a terminal state
  rw [hc] at hrank'
  have : DirectiveState.inProgress.rank = 1 := rfl
  omega

theorem Advances.rank_le {a b : Ownership} (h : a.Advances b) : a.state.rank ≤ b.state.rank := by
  obtain rfl | ⟨hrank, _⟩ := h
  · exact le_refl _
  · exact hrank.le

theorem Advances.lease_le {a b : Ownership} (h : a.Advances b) : a.leaseGeneration ≤ b.leaseGeneration := by
  obtain rfl | ⟨_, hlease, _⟩ := h
  · exact le_refl _
  · exact hlease

/-- A read that has the row's state is the row. -/
theorem Advances.eq_of_state {a b : Ownership} (h : a.Advances b) (hstate : b.state = a.state) : a = b := by
  obtain rfl | ⟨hrank, _⟩ := h
  · rfl
  · rw [hstate] at hrank
    exact absurd hrank (lt_irrefl _)

/-- Nothing comes after a terminal row. -/
theorem Advances.eq_of_terminal {a b : Ownership} (h : a.Advances b) (hterminal : a.state.isTerminal) :
    b = a := by
  obtain rfl | ⟨hrank, _⟩ := h
  · rfl
  · have ha := (DirectiveState.isTerminal_iff _).mp hterminal
    have hb := b.state.rank_le
    omega

end Ownership

/-- The row of the table that grants a request on `row` takes it to `row'`. -/
structure FencedRequest.Takes (request : FencedRequest) (t : Transition) (row row' : Ownership) : Prop where
  granted : (request.attempt row).GrantedBy t
  eq : row' = row.moved request.actor request.requested (t.decision row.leaseGeneration).nextLease

namespace FencedRequest
variable {request : FencedRequest} {t : Transition} {seen row row' : Ownership}

/-- What a commit does to a row its read is not ahead of: it was decided on the row
itself, and some row of the table grants it. -/
theorem commit_cases (h : request.commit seen row = some row') (hseen : seen.Advances row) :
    seen = row ∧ ∃ t, request.Takes t row row' := by
  unfold commit at h
  dsimp only at h
  split_ifs at h with hfence
  obtain ⟨hallowed, hstate, _⟩ := hfence
  obtain rfl := hseen.eq_of_state hstate
  obtain ⟨t, ht⟩ := grantedBy_of_allowed hallowed
  rw [validateTransition_of_grantedBy ht] at h
  exact ⟨rfl, t, ht, (Option.some.inj h).symm⟩

theorem Takes.reclaim_eq (h : request.Takes t row row') (hreclaim : t.IsReclaim) : row' = row := by
  have hbumps : ¬ t.bumpsLease := by
    simp [(mem_allowedTransitions h.granted.mem).bumps, hreclaim.1, hreclaim.2]
  have hstate : row.state = .inProgress := h.granted.source.symm.trans hreclaim.1
  have hrequested : request.requested = .inProgress := h.granted.target.symm.trans hreclaim.2
  rw [h.eq, Ownership.moved, Transition.decision]
  simp [hstate, hrequested, hbumps]
  rw [← hstate]

theorem Takes.rank_lt (h : request.Takes t row row') (hmoves : ¬ t.IsReclaim) :
    row.state.rank < row'.state.rank := by
  have hforward := (mem_allowedTransitions h.granted.mem).forward.resolve_left hmoves
  rw [h.granted.source, h.granted.target] at hforward
  rw [h.eq]
  exact hforward

theorem Takes.advances (h : request.Takes t row row') : row.Advances row' := by
  by_cases hreclaim : t.IsReclaim
  · exact Or.inl (h.reclaim_eq hreclaim).symm
  · refine Or.inr ⟨h.rank_lt hreclaim, ?_, fun hpending hprogress => ?_⟩
    · rw [h.eq]
      simp only [Ownership.moved, Transition.decision]
      split_ifs <;> omega
    · have htarget : t.target = .inProgress := by
        rw [h.eq] at hprogress
        exact h.granted.target.trans hprogress
      have hbumps : t.bumpsLease :=
        (mem_allowedTransitions h.granted.mem).bumps.mpr (Or.inl ⟨h.granted.source.trans hpending, htarget⟩)
      rw [h.eq]
      simp [Ownership.moved, Transition.decision, hbumps]

/-- Who takes a row to succeeded or failed. -/
theorem Takes.outcome (h : request.Takes t row row')
    (hstate : row'.state = .succeeded ∨ row'.state = .failed) :
    request.permitOk ∧ (request.actor = systemActor ∨ (request.attempt row).ByHolder) := by
  have htarget : t.target = .succeeded ∨ t.target = .failed := by
    rw [h.granted.target]
    rwa [h.eq] at hstate
  have hlawful := mem_allowedTransitions h.granted.mem
  exact ⟨h.granted.permit (hlawful.permit.mpr (Or.inr htarget)),
    h.granted.holder (hlawful.report htarget).2⟩

/-- Who moves a row in progress. -/
theorem Takes.owned (h : request.Takes t row row') (hstate : row.state = .inProgress) :
    request.actor = systemActor ∨ row.claimedExecutor = some request.actor := by
  obtain hclaim | hsystem :=
    (mem_allowedTransitions h.granted.mem).owned (h.granted.source.trans hstate)
  · exact (h.granted.holder hclaim).imp id (·.claimed)
  · exact Or.inl (h.granted.system hsystem)

end FencedRequest

/-! ### The protocol -/

/-- A commit that hit its row. -/
structure Success where
  directiveId : String
  seen : Ownership
  request : FencedRequest
deriving DecidableEq, Repr

def Success.IsReclaim (e : Success) : Prop :=
  e.seen.state = .inProgress ∧ e.request.requested = .inProgress

structure LeaseState (ι : Type) where
  directives : String → Option Ownership
  /-- The row each worker has last read. -/
  reads : ι → Option (String × Ownership)
  /-- The commits that hit their row, oldest first. -/
  successes : List Success

inductive LeaseAction (ι : Type)
  | read (worker : ι) (directiveId : String)
  | commit (worker : ι) (request : FencedRequest)
deriving DecidableEq, Repr

section Protocol
variable {ι : Type} [DecidableEq ι]

/-- A commit that is refused, or finds no row, leaves everything as it was. -/
def LeaseState.next (s : LeaseState ι) : LeaseAction ι → Option (LeaseState ι)
  | .read worker directiveId => (s.directives directiveId).map fun row =>
    {s with reads := Function.update s.reads worker (some (directiveId, row))}
  | .commit worker request => (s.reads worker).map fun (directiveId, seen) =>
    match (s.directives directiveId).bind (request.commit seen) with
    | none => s
    | some row => {s with
        directives := Function.update s.directives directiveId (some row)
        successes := s.successes ++ [⟨directiveId, seen, request⟩]}

/-- Workers on a table of directives, whatever its rows. -/
def leaseProtocol (ι : Type) [DecidableEq ι] : System (LeaseState ι) (LeaseAction ι) where
  init s := s.reads = (fun _ => none) ∧ s.successes = []
  next := LeaseState.next

/-- What holds of every state of the protocol. -/
structure LeaseInv (s : LeaseState ι) : Prop where
  /-- No read is ahead of its row. -/
  reads : ∀ worker directiveId seen, s.reads worker = some (directiveId, seen) →
    ∃ row, s.directives directiveId = some row ∧ seen.Advances row
  /-- A success was decided on the row it saw, and the row has left that behind. -/
  successes : ∀ e ∈ s.successes, (∃ t row', e.request.Takes t e.seen row') ∧
    ∃ row, s.directives e.directiveId = some row ∧ e.seen.Advances row ∧
      (e.IsReclaim ∨ e.seen.state.rank < row.state.rank)
  /-- Of two successes that saw one state of one row, the first is a re-claim. -/
  apart : s.successes.Pairwise fun e f => e.directiveId = f.directiveId → e.seen.state = f.seen.state →
    e.IsReclaim ∧ e.seen = f.seen

/-- What a step does: a worker reads a row, or commits on the row it has read and the
row moves forward, or nothing changes. -/
theorem LeaseState.next_cases {s s' : LeaseState ι} {a : LeaseAction ι} (hinv : LeaseInv s)
    (h : s.next a = some s') :
    s' = s ∨
    (∃ worker directiveId row, s.directives directiveId = some row ∧
      s' = {s with reads := Function.update s.reads worker (some (directiveId, row))}) ∨
    ∃ worker request directiveId row row' t, a = .commit worker request ∧
      s.directives directiveId = some row ∧ request.Takes t row row' ∧
      s' = {s with
        directives := Function.update s.directives directiveId (some row')
        successes := s.successes ++ [⟨directiveId, row, request⟩]} := by
  cases a with
  | read worker directiveId =>
    obtain ⟨row, hrow, rfl⟩ := Option.map_eq_some_iff.mp h
    exact Or.inr (Or.inl ⟨worker, directiveId, row, hrow, rfl⟩)
  | commit worker request =>
    obtain ⟨⟨directiveId, seen⟩, hread, hcommit⟩ := Option.map_eq_some_iff.mp h
    obtain ⟨row, hrow, hseen⟩ := hinv.reads worker directiveId seen hread
    simp only [hrow, Option.bind_some] at hcommit
    cases htaken : request.commit seen row with
    | none =>
      rw [htaken] at hcommit
      exact Or.inl hcommit.symm
    | some row' =>
      obtain ⟨rfl, t, htakes⟩ := FencedRequest.commit_cases htaken hseen
      rw [htaken] at hcommit
      exact Or.inr (Or.inr ⟨worker, request, directiveId, seen, row', t, rfl, hrow, htakes, hcommit.symm⟩)

/-- Every row of `directives` is still there in `directives'`, or further on. -/
def RowsAdvance (directives directives' : String → Option Ownership) : Prop :=
  ∀ directiveId row, directives directiveId = some row →
    ∃ row', directives' directiveId = some row' ∧ row.Advances row'

theorem rowsAdvance_update {directives : String → Option Ownership} {directiveId : String}
    {row row' : Ownership} (hrow : directives directiveId = some row) (h : row.Advances row') :
    RowsAdvance directives (Function.update directives directiveId (some row')) := by
  intro other r hr
  by_cases hother : other = directiveId
  · subst hother
    rw [hrow] at hr
    cases hr
    exact ⟨row', by simp, h⟩
  · exact ⟨r, by simp [hother, hr], .refl r⟩

/-- A success of `t` on `row`. -/
theorem FencedRequest.Takes.success {request : FencedRequest} {t : Transition} {row row' : Ownership}
    (h : request.Takes t row row') (directiveId : String) :
    (⟨directiveId, row, request⟩ : Success).IsReclaim ∨ row.state.rank < row'.state.rank := by
  by_cases hreclaim : t.IsReclaim
  · exact Or.inl ⟨h.granted.source.symm.trans hreclaim.1, h.granted.target.symm.trans hreclaim.2⟩
  · exact Or.inr (h.rank_lt hreclaim)

theorem LeaseInv.read {s : LeaseState ι} (h : LeaseInv s) {directiveId : String} {row : Ownership}
    (hrow : s.directives directiveId = some row) (worker : ι) :
    LeaseInv {s with reads := Function.update s.reads worker (some (directiveId, row))} where
  reads other id seen hread := by
    by_cases hother : other = worker
    · subst hother
      simp only [Function.update_self, Option.some.injEq, Prod.mk.injEq] at hread
      obtain ⟨rfl, rfl⟩ := hread
      exact ⟨row, hrow, .refl row⟩
    · exact h.reads other id seen (by simpa [hother] using hread)
  successes := h.successes
  apart := h.apart

omit [DecidableEq ι] in
theorem LeaseInv.commit {s : LeaseState ι} (h : LeaseInv s) {directiveId : String} {row row' : Ownership}
    {request : FencedRequest} {t : Transition} (hrow : s.directives directiveId = some row)
    (htakes : request.Takes t row row') :
    LeaseInv {s with
      directives := Function.update s.directives directiveId (some row')
      successes := s.successes ++ [⟨directiveId, row, request⟩]} where
  reads worker id seen hread := by
    obtain ⟨r, hr, hseen⟩ := h.reads worker id seen hread
    obtain ⟨r', hr', hadvances⟩ := rowsAdvance_update hrow htakes.advances id r hr
    exact ⟨r', hr', hseen.trans hadvances⟩
  successes e he := by
    rcases List.mem_append.mp he with hold | hnew
    · obtain ⟨htaken, r, hr, hseen, hleft⟩ := h.successes e hold
      obtain ⟨r', hr', hadvances⟩ := rowsAdvance_update hrow htakes.advances e.directiveId r hr
      exact ⟨htaken, r', hr', hseen.trans hadvances, hleft.imp id (lt_of_lt_of_le · hadvances.rank_le)⟩
    · rw [List.mem_singleton] at hnew
      subst hnew
      exact ⟨⟨t, row', htakes⟩, row', by simp, htakes.advances, htakes.success directiveId⟩
  apart := by
    refine List.pairwise_append.mpr ⟨h.apart, List.pairwise_singleton _ _, fun e he f hf hid hstate => ?_⟩
    rw [List.mem_singleton] at hf
    subst hf
    obtain ⟨_, r, hr, hseen, hleft⟩ := h.successes e he
    -- the row the new success saw is the one the old success left behind
    rw [hid, hrow] at hr
    cases hr
    obtain rfl := hseen.eq_of_state hstate.symm
    exact ⟨hleft.resolve_right (lt_irrefl _), rfl⟩

theorem leaseInv_reachable {s : LeaseState ι} (h : (leaseProtocol ι).Reachable s) : LeaseInv s := by
  refine h.invariant (fun s hs => ?_) fun s a s' _ hinv hnext => ?_
  · obtain ⟨hreads, hsuccesses⟩ := hs
    exact ⟨by simp [hreads], by simp [hsuccesses], by simp [hsuccesses]⟩
  · obtain rfl | ⟨worker, directiveId, row, hrow, rfl⟩ |
      ⟨worker, request, directiveId, row, row', t, _, hrow, htakes, rfl⟩ := LeaseState.next_cases hinv hnext
    · exact hinv
    · exact hinv.read hrow worker
    · exact hinv.commit hrow htakes

theorem rowsAdvance_next {s s' : LeaseState ι} {a : LeaseAction ι} (hinv : LeaseInv s)
    (h : s.next a = some s') : RowsAdvance s.directives s'.directives := by
  obtain rfl | ⟨worker, directiveId, row, hrow, rfl⟩ |
    ⟨worker, request, directiveId, row, row', t, _, hrow, htakes, rfl⟩ := LeaseState.next_cases hinv h
  · exact fun _ row hrow => ⟨row, hrow, .refl row⟩
  · exact fun _ row hrow => ⟨row, hrow, .refl row⟩
  · exact rowsAdvance_update hrow htakes.advances

theorem rowsAdvance_run {s s' : LeaseState ι} {actions : List (LeaseAction ι)}
    (h : (leaseProtocol ι).Reachable s) (hrun : (leaseProtocol ι).run s actions = some s') :
    RowsAdvance s.directives s'.directives := by
  suffices hboth : (leaseProtocol ι).Reachable s' ∧ RowsAdvance s.directives s'.directives from hboth.2
  refine System.run_keeps (I := fun t => (leaseProtocol ι).Reachable t ∧ RowsAdvance s.directives t.directives)
    (fun t a t' ⟨hreach, hkept⟩ hnext => ⟨hreach.step hnext, ?_⟩) hrun ⟨h, fun _ row hrow => ⟨row, hrow, .refl row⟩⟩
  intro directiveId row hrow
  obtain ⟨r, hr, hfirst⟩ := hkept directiveId row hrow
  obtain ⟨row', hrow', hlater⟩ := rowsAdvance_next (leaseInv_reachable hreach) hnext directiveId r hr
  exact ⟨row', hrow', hfirst.trans hlater⟩

/-- A row becomes succeeded or failed by the report of the executor it is claimed by, on
the lease it has and with its permit accepted, or of the system actor. -/
def BecomesByHolder (s s' : LeaseState ι) (a : LeaseAction ι) : Prop :=
  ∀ directiveId row row', s.directives directiveId = some row → s'.directives directiveId = some row' →
    row'.state = .succeeded ∨ row'.state = .failed → row' ≠ row →
    ∃ worker request, a = .commit worker request ∧ request.requested = row'.state ∧
      (request.actor = systemActor ∨
        (row.claimedExecutor = some request.actor ∧
          (request.actorLease = some row.leaseGeneration ∨
            (request.actorLease = none ∧ request.requireLeaseEcho = false)) ∧ request.permitOk))

theorem becomesByHolder_next {s s' : LeaseState ι} {a : LeaseAction ι} (hinv : LeaseInv s)
    (h : s.next a = some s') : BecomesByHolder s s' a := by
  intro id r r' hr hr' hstate hne
  obtain rfl | ⟨worker, directiveId, row, hrow, rfl⟩ |
    ⟨worker, request, directiveId, row, row', t, rfl, hrow, htakes, rfl⟩ := LeaseState.next_cases hinv h
  · rw [hr] at hr'
    exact absurd (Option.some.inj hr').symm hne
  · rw [hr] at hr'
    exact absurd (Option.some.inj hr').symm hne
  · by_cases hid : id = directiveId
    · subst hid
      rw [hrow] at hr
      cases hr
      simp only [Function.update_self, Option.some.injEq] at hr'
      subst hr'
      obtain ⟨hpermit, hactor⟩ := htakes.outcome hstate
      refine ⟨worker, request, rfl, by rw [htakes.eq]; rfl, hactor.imp_right fun hholder => ?_⟩
      exact ⟨hholder.claimed, hholder.lease, hpermit⟩
    · simp only [ne_eq, hid, not_false_eq_true, Function.update_of_ne] at hr'
      rw [hr] at hr'
      exact absurd (Option.some.inj hr').symm hne

/-- In any interleaving of fenced claims, reports and cancellations: a terminal row never
changes and no lease goes back; of two commits that succeed on one state and lease of a
row, the first is a re-claim that left the row as it was, and they are not of two
claimants; and only the holder of the current lease with its permit, or the system
actor, takes a row to succeeded or failed. -/
theorem lease_protocol {s : LeaseState ι} (h : (leaseProtocol ι).Reachable s) :
    (∀ actions s', (leaseProtocol ι).run s actions = some s' →
      ∀ directiveId row, s.directives directiveId = some row →
        ∃ row', s'.directives directiveId = some row' ∧ row.leaseGeneration ≤ row'.leaseGeneration ∧
          (row.state.isTerminal → row' = row)) ∧
      s.successes.Pairwise (fun e f => e.directiveId = f.directiveId → e.seen.state = f.seen.state →
        e.seen.leaseGeneration = f.seen.leaseGeneration → e.IsReclaim ∧
          (e.request.actor = f.request.actor ∨ e.request.actor = systemActor ∨
            f.request.actor = systemActor)) ∧
      ∀ a s', (leaseProtocol ι).next s a = some s' → BecomesByHolder s s' a := by
  have hinv := leaseInv_reachable h
  refine ⟨fun actions s' hrun directiveId row hrow => ?_, ?_, fun a s' => becomesByHolder_next hinv⟩
  · obtain ⟨row', hrow', hadvances⟩ := rowsAdvance_run h hrun directiveId row hrow
    exact ⟨row', hrow', hadvances.lease_le, hadvances.eq_of_terminal⟩
  · refine hinv.apart.imp_of_mem fun {e f} he hf happart hid hstate _ => ?_
    obtain ⟨hreclaim, hseen⟩ := happart hid hstate
    obtain ⟨_, _, hetakes⟩ := (hinv.successes e he).1
    obtain ⟨_, _, hftakes⟩ := (hinv.successes f hf).1
    refine ⟨hreclaim, ?_⟩
    obtain hsystem | he' := hetakes.owned hreclaim.1
    · exact Or.inr (Or.inl hsystem)
    obtain hsystem | hf' := hftakes.owned (hseen ▸ hreclaim.1)
    · exact Or.inr (Or.inr hsystem)
    rw [hseen, hf'] at he'
    exact Or.inl (Option.some.inj he').symm

/-- Two workers read the pending row; the one that claims first reports on its lease, and
the other's claim and late report find no row. -/
def leaseRace : Option (LeaseState Bool) :=
  (leaseProtocol Bool).run
    ⟨fun id => if id = "d" then some ⟨.pending, none, 0⟩ else none, fun _ => none, []⟩
    [.read true "d", .read false "d",
      .commit true ⟨.inProgress, "worker-a", none, true, false⟩,
      .commit false ⟨.inProgress, "worker-b", none, true, false⟩,
      .read true "d", .read false "d",
      .commit false ⟨.succeeded, "worker-b", some 1, true, false⟩,
      .commit true ⟨.succeeded, "worker-a", some 1, true, false⟩]

theorem lease_protocol_race : ∃ s, leaseRace = some s ∧
    s.directives "d" = some ⟨.succeeded, some "worker-a", 1⟩ ∧
    s.successes.map (·.request.actor) = ["worker-a", "worker-a"] ∧
    ∀ actions s', (leaseProtocol Bool).run s actions = some s' →
      s'.directives "d" = some ⟨.succeeded, some "worker-a", 1⟩ := by
  obtain ⟨s, hs⟩ := Option.isSome_iff_exists.mp (show leaseRace.isSome by decide)
  have hreachable : (leaseProtocol Bool).Reachable s := System.Reachable.run (.init ⟨rfl, rfl⟩) hs
  have hrow : leaseRace.bind (fun s => s.directives "d") = some ⟨.succeeded, some "worker-a", 1⟩ := by decide
  have hactors : leaseRace.map (fun s => s.successes.map (·.request.actor)) =
      some ["worker-a", "worker-a"] := by decide
  rw [hs] at hrow hactors
  refine ⟨s, hs, hrow, Option.some.inj hactors, fun actions s' hrun => ?_⟩
  obtain ⟨row', hrow', _, hterminal⟩ := (lease_protocol hreachable).1 actions s' hrun "d" _ hrow
  rw [hrow', hterminal rfl]

end Protocol

end OpenTimeline.Directive
