import OpenTimeline.Host

/-! The directive life cycle and the rule that decides who may move it.

`validateTransition` is a pure rule over a row the caller has read and the attempt it
makes on it: a table of the transitions there are, and four guards. An attempt is
allowed exactly when some row of the table grants it (`validateTransition_allowed_iff`),
and all that the rest of the development needs of the table is that its rows leave the
open states, in one direction but for the re-claim (`mem_allowedTransitions`).

States are decoded: the two readings of a state as text (`_coerce_state`, `_label`)
are the identity on the values the column holds. -/
namespace OpenTimeline.Directive

inductive DirectiveState
  | pending | inProgress | succeeded | failed | blocked | abandoned | cancelled | rejected
deriving DecidableEq, Repr

namespace DirectiveState

def value : DirectiveState → String
  | pending => "pending"
  | inProgress => "in_progress"
  | succeeded => "succeeded"
  | failed => "failed"
  | blocked => "blocked"
  | abandoned => "abandoned"
  | cancelled => "cancelled"
  | rejected => "rejected"

/-- `TERMINAL_STATES` -/
def terminalStates : List DirectiveState := [succeeded, failed, blocked, abandoned, cancelled, rejected]

def isTerminal (state : DirectiveState) : Bool := state ∈ terminalStates

/-- How far along the life cycle a state is. -/
def rank : DirectiveState → Nat
  | pending => 0
  | inProgress => 1
  | _ => 2

theorem isTerminal_iff (state : DirectiveState) : state.isTerminal ↔ state.rank = 2 := by
  cases state <;> decide

theorem rank_le (state : DirectiveState) : state.rank ≤ 2 := by
  cases state <;> decide

theorem rank_eq_zero {state : DirectiveState} : state.rank = 0 ↔ state = pending := by
  cases state <;> decide

end DirectiveState

/-- `SYSTEM_ACTOR`: reapers and stand-down. -/
def systemActor : String := "system:reaper"

inductive TransitionReason
  | ok | invalidTransition | notClaimed | claimedByOther | staleLease | leaseRequired | permitInvalid
  | terminal | systemOnly | concurrentUpdate
deriving DecidableEq, Repr

def TransitionReason.value : TransitionReason → String
  | ok => "ok"
  | invalidTransition => "invalid_transition"
  | notClaimed => "not_claimed"
  | claimedByOther => "claimed_by_other"
  | staleLease => "stale_lease"
  | leaseRequired => "lease_required"
  | permitInvalid => "permit_invalid"
  | terminal => "terminal"
  | systemOnly => "system_only"
  | concurrentUpdate => "concurrent_update"

/-! ### The table -/

structure Transition where
  source : DirectiveState
  target : DirectiveState
  requiresClaim : Bool
  requiresPermit : Bool
  systemOnly : Bool
  bumpsLease : Bool
  auditedAs : String
deriving DecidableEq, Repr

/-- `ALLOWED_TRANSITIONS` -/
def allowedTransitions : List Transition := [
  ⟨.pending, .inProgress, false, true, false, true, "directive_claimed"⟩,
  ⟨.inProgress, .inProgress, true, false, false, false, "directive_reclaim_noop"⟩,
  ⟨.inProgress, .succeeded, true, true, false, false, "directive_succeeded"⟩,
  ⟨.inProgress, .failed, true, true, false, false, "directive_failed"⟩,
  ⟨.inProgress, .blocked, true, false, false, false, "directive_blocked"⟩,
  ⟨.inProgress, .cancelled, true, false, false, false, "directive_cancelled"⟩,
  ⟨.pending, .cancelled, false, false, false, false, "directive_cancelled"⟩,
  ⟨.pending, .rejected, false, false, false, false, "directive_rejected"⟩,
  ⟨.pending, .abandoned, false, false, true, false, "directive_reaped"⟩,
  ⟨.inProgress, .abandoned, false, false, true, true, "directive_reaped"⟩]

/-- `_REPORT_ONLY_TARGETS` -/
def reportOnlyTargets : List DirectiveState := [.succeeded, .failed, .blocked]

def findTransition (current requested : DirectiveState) : Option Transition :=
  allowedTransitions.find? fun t => t.source = current && t.target = requested

/-- The re-claim, which leaves the row as it is. -/
def Transition.IsReclaim (t : Transition) : Prop := t.source = .inProgress ∧ t.target = .inProgress

instance (t : Transition) : Decidable t.IsReclaim := inferInstanceAs (Decidable (_ ∧ _))

/-- What a row of the table can be. -/
structure Transition.Lawful (t : Transition) : Prop where
  forward : t.IsReclaim ∨ t.source.rank < t.target.rank
  bumps : t.bumpsLease ↔
    (t.source = .pending ∧ t.target = .inProgress) ∨ (t.source = .inProgress ∧ t.target = .abandoned)
  permit : t.requiresPermit ↔
    (t.source = .pending ∧ t.target = .inProgress) ∨ t.target = .succeeded ∨ t.target = .failed
  owned : t.source = .inProgress → t.requiresClaim ∨ t.systemOnly
  report : t.target = .succeeded ∨ t.target = .failed → t.source = .inProgress ∧ t.requiresClaim
  reap : t.target = .abandoned → t.requiresClaim = false

theorem mem_allowedTransitions {t : Transition} (h : t ∈ allowedTransitions) : t.Lawful := by
  have hall : ∀ t ∈ allowedTransitions, (t.IsReclaim ∨ t.source.rank < t.target.rank) ∧
      (t.bumpsLease ↔ (t.source = .pending ∧ t.target = .inProgress) ∨
        (t.source = .inProgress ∧ t.target = .abandoned)) ∧
      (t.requiresPermit ↔
        (t.source = .pending ∧ t.target = .inProgress) ∨ t.target = .succeeded ∨ t.target = .failed) ∧
      (t.source = .inProgress → t.requiresClaim ∨ t.systemOnly) ∧
      (t.target = .succeeded ∨ t.target = .failed → t.source = .inProgress ∧ t.requiresClaim) ∧
      (t.target = .abandoned → t.requiresClaim = false) := by decide
  obtain ⟨hforward, hbumps, hpermit, howned, hreport, hreap⟩ := hall t h
  exact ⟨hforward, hbumps, hpermit, howned, hreport, hreap⟩

theorem findTransition_iff {current requested : DirectiveState} {t : Transition} :
    findTransition current requested = some t ↔
      t ∈ allowedTransitions ∧ t.source = current ∧ t.target = requested := by
  constructor
  · intro h
    have hmatch := List.find?_some h
    simp only [Bool.and_eq_true, decide_eq_true_eq] at hmatch
    exact ⟨List.mem_of_find?_eq_some h, hmatch⟩
  · rintro ⟨hmem, rfl, rfl⟩
    have hall : ∀ t ∈ allowedTransitions, findTransition t.source t.target = some t := by decide
    exact hall t hmem

/-! ### The rule -/

structure TransitionDecision where
  allowed : Bool
  reason : TransitionReason
  nextState : Option DirectiveState
  nextLease : Nat
  httpStatus : Nat
  auditedAs : String
  message : String
deriving DecidableEq, Repr

/-- The arguments of `validate_transition`. -/
structure Attempt where
  currentState : DirectiveState
  claimedBy : Option String
  leaseGeneration : Option Nat
  requested : DirectiveState
  actor : String
  actorLease : Option Nat
  permitOk : Bool := true
  requireLeaseEcho : Bool := false
deriving DecidableEq, Repr

def nextLease (current : Option Nat) : Nat := current.getD 0 + 1

def TransitionDecision.reject (reason : TransitionReason) (message : String) (lease : Nat) :
    TransitionDecision where
  allowed := false
  reason := reason
  nextState := none
  nextLease := lease
  httpStatus := 409
  auditedAs := ""
  message := message

namespace Attempt

def currentLease (a : Attempt) : Nat := a.leaseGeneration.getD 0

/-- The row is bound to nobody, or to the actor. -/
def unboundOrOwn (a : Attempt) : Bool :=
  a.claimedBy = none || a.claimedBy = some "" || a.claimedBy = some a.actor

/-- What the claim and lease binding refuses. -/
def bindingRefusal (a : Attempt) : Option (TransitionReason × String) :=
  if a.claimedBy = none ∨ a.claimedBy = some "" then
    some (.notClaimed, "directive is not claimed by any executor; claim it before reporting")
  else if a.claimedBy ≠ some a.actor then
    some (.claimedByOther, "directive is claimed by another executor")
  else if a.actorLease = none ∧ a.requireLeaseEcho then
    some (.leaseRequired, "lease_generation must be echoed by the reporting executor")
  else if a.actorLease ≠ none ∧ a.actorLease ≠ some a.currentLease then
    some (.staleLease, "stale lease " ++ toString (a.actorLease.getD 0) ++ "; current lease is " ++
      toString a.currentLease)
  else none

/-- What the guards refuse of a transition in the table, first match first. -/
def refusal (a : Attempt) (t : Transition) : Option (TransitionReason × String) :=
  if t.systemOnly ∧ a.actor ≠ systemActor then
    some (.systemOnly, "transition is reserved for the system reaper")
  else if t.source = .pending ∧ t.target = .inProgress ∧ ¬ a.unboundOrOwn then
    some (.claimedByOther, "directive is already bound to another executor")
  else if t.requiresClaim ∧ a.actor ≠ systemActor ∧ a.bindingRefusal ≠ none then a.bindingRefusal
  else if t.requiresPermit ∧ ¬ a.permitOk then
    some (.permitInvalid, "execution permit is missing, expired or out of scope")
  else none

end Attempt

/-- `validate_transition`: terminal, table, system-only, ownership of a pending row,
claim and lease binding, permit, in this order. -/
def validateTransition (a : Attempt) : TransitionDecision :=
  if a.currentState.isTerminal then .reject .terminal "directive already terminal" a.currentLease
  else match findTransition a.currentState a.requested with
    | none =>
      if a.currentState = .pending ∧ a.requested ∈ reportOnlyTargets then
        .reject .notClaimed "directive must be claimed before it can be reported" a.currentLease
      else .reject .invalidTransition
        ("transition " ++ a.currentState.value ++ "->" ++ a.requested.value ++ " is not allowed")
        a.currentLease
    | some t => match a.refusal t with
      | some (reason, message) => .reject reason message a.currentLease
      | none => {
        allowed := true
        reason := .ok
        nextState := some t.target
        nextLease := if t.bumpsLease then nextLease (some a.currentLease) else a.currentLease
        httpStatus := 0
        auditedAs := t.auditedAs
        message := "ok" }

namespace Attempt

/-- The actor is the executor the row is claimed by, on the lease the row has. -/
structure ByHolder (a : Attempt) : Prop where
  claimed : a.claimedBy = some a.actor
  named : a.actor ≠ ""
  lease : a.actorLease = some a.currentLease ∨ (a.actorLease = none ∧ a.requireLeaseEcho = false)

/-- The row `t` of the table grants the attempt. -/
structure GrantedBy (a : Attempt) (t : Transition) : Prop where
  mem : t ∈ allowedTransitions
  source : t.source = a.currentState
  target : t.target = a.requested
  system : t.systemOnly → a.actor = systemActor
  unbound : t.source = .pending → t.target = .inProgress → a.unboundOrOwn
  holder : t.requiresClaim → a.actor = systemActor ∨ a.ByHolder
  permit : t.requiresPermit → a.permitOk

theorem bindingRefusal_eq_none (a : Attempt) : a.bindingRefusal = none ↔ a.ByHolder := by
  unfold bindingRefusal
  constructor
  · intro h
    split_ifs at h with hunclaimed hother hecho hstale
    rw [not_or] at hunclaimed
    rw [not_not] at hother
    refine ⟨hother, fun hempty => hunclaimed.2 (hempty ▸ hother), ?_⟩
    cases hlease : a.actorLease with
    | none => exact Or.inr ⟨rfl, by simpa [hlease] using hecho⟩
    | some lease => exact Or.inl (by simpa [hlease] using hstale)
  · rintro ⟨hclaimed, hnamed, hlease⟩
    rw [if_neg (by simp [hclaimed, hnamed]), if_neg (by simp [hclaimed])]
    obtain hecho | ⟨hecho, hstrict⟩ := hlease
    · simp [hecho]
    · simp [hecho, hstrict]

/-- Once the table has the transition, the guards grant it or refuse it. -/
theorem refusal_eq_none {a : Attempt} {t : Transition}
    (hfind : findTransition a.currentState a.requested = some t) : a.refusal t = none ↔ a.GrantedBy t := by
  obtain ⟨hmem, hsource, htarget⟩ := findTransition_iff.mp hfind
  unfold refusal
  constructor
  · intro h
    split_ifs at h with hsystem hbound hclaim hpermit
    · exact absurd h hclaim.2.2
    · refine ⟨hmem, hsource, htarget, fun ht => ?_, fun hs ht => ?_, fun ht => ?_, fun ht => ?_⟩
      · exact not_not.mp fun hactor => hsystem ⟨ht, hactor⟩
      · exact not_not.mp fun hother => hbound ⟨hs, ht, hother⟩
      · rw [or_iff_not_imp_left, ← bindingRefusal_eq_none]
        exact fun hactor => not_not.mp fun hrefused => hclaim ⟨ht, hactor, hrefused⟩
      · exact not_not.mp fun hdenied => hpermit ⟨ht, hdenied⟩
  · intro h
    have hbinding : ¬ (t.requiresClaim ∧ a.actor ≠ systemActor ∧ a.bindingRefusal ≠ none) := by
      rintro ⟨hclaim, hactor, hrefused⟩
      have hholder := (h.holder hclaim).resolve_left hactor
      exact hrefused (a.bindingRefusal_eq_none.mpr hholder)
    rw [if_neg (fun hsystem => hsystem.2 (h.system hsystem.1)),
      if_neg (fun hbound => hbound.2.2 (h.unbound hbound.1 hbound.2.1)), if_neg hbinding,
      if_neg (fun hpermit => hpermit.2 (h.permit hpermit.1))]

/-- A terminal row is left by no transition. -/
theorem GrantedBy.not_terminal {a : Attempt} {t : Transition} (h : a.GrantedBy t) :
    ¬ a.currentState.isTerminal := by
  rw [DirectiveState.isTerminal_iff, ← h.source]
  obtain ⟨hsource, -⟩ | hlt := (mem_allowedTransitions h.mem).forward
  · simp [hsource, DirectiveState.rank]
  · have := t.target.rank_le
    omega

end Attempt

/-- The decision on an attempt that `t` grants. -/
def Transition.decision (t : Transition) (lease : Nat) : TransitionDecision where
  allowed := true
  reason := .ok
  nextState := some t.target
  nextLease := if t.bumpsLease then lease + 1 else lease
  httpStatus := 0
  auditedAs := t.auditedAs
  message := "ok"

theorem validateTransition_of_grantedBy {a : Attempt} {t : Transition} (h : a.GrantedBy t) :
    validateTransition a = t.decision a.currentLease := by
  have hfind : findTransition a.currentState a.requested = some t :=
    findTransition_iff.mpr ⟨h.mem, h.source, h.target⟩
  have hrefusal : a.refusal t = none := (Attempt.refusal_eq_none hfind).mpr h
  rw [validateTransition, if_neg h.not_terminal]
  simp only [hfind, hrefusal]
  rfl

theorem grantedBy_of_allowed {a : Attempt} (h : (validateTransition a).allowed) : ∃ t, a.GrantedBy t := by
  rw [validateTransition] at h
  by_cases hopen : a.currentState.isTerminal
  · rw [if_pos hopen] at h
    cases h
  · rw [if_neg hopen] at h
    cases hfind : findTransition a.currentState a.requested with
    | none =>
      simp only [hfind] at h
      split_ifs at h <;> cases h
    | some t =>
      cases hrefusal : a.refusal t with
      | some refused =>
        simp only [hfind, hrefusal] at h
        cases h
      | none => exact ⟨t, (Attempt.refusal_eq_none hfind).mp hrefusal⟩

/-- An attempt is allowed exactly when some row of the table grants it. -/
theorem validateTransition_allowed_iff (a : Attempt) :
    (validateTransition a).allowed ↔ ∃ t, a.GrantedBy t := by
  constructor
  · exact grantedBy_of_allowed
  · rintro ⟨t, h⟩
    rw [validateTransition_of_grantedBy h]
    rfl

end OpenTimeline.Directive
