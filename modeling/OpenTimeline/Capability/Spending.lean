import OpenTimeline.Capability.Grants
import OpenTimeline.Library.Transition

/-! Grants are spent once.

Any number of consumptions go on at once, each by its own clock and in four steps: the clock,
the read, the UPDATE that consumes and the UPDATE that expires. Whatever the order, no two
of them are authorized on one grant (`Sound.once`). The UPDATE that expires goes by the row
that was read, and turns a grant expired that has been consumed since; where none does, a
grant stays as it was consumed (`spent_once`). -/
namespace OpenTimeline.Capability
open Library

variable (host : Host) {ι : Type} [DecidableEq ι]

/-! ### Steps -/

/-- How far a consumption has got. -/
inductive Phase
  | clocked
  | read (seen : Option GrantRow)
  | attempted (seen : Option GrantRow) (authorized : Bool)
  | settled (authorized : Bool)

structure Consumption where
  call : ConsumeCall
  now : Instant
  phase : Phase := .clocked

def Consumption.authorized (c : Consumption) : Bool :=
  match c.phase with
  | .attempted _ authorized => authorized
  | .settled authorized => authorized
  | _ => false

/-- The row it has read, as long as it goes by it. -/
def Consumption.seen (c : Consumption) : Option GrantRow :=
  match c.phase with
  | .read seen => seen
  | .attempted seen _ => seen
  | _ => none

structure SpendingState (ι : Type) where
  grants : Table GrantRow.id
  consumptions : ι → Option Consumption

inductive SpendingStep (ι : Type)
  | clock (i : ι) (call : ConsumeCall) (now : Instant)
  | read (i : ι)
  | attempt (i : ι)
  | settle (i : ι)

namespace SpendingState

def set (s : SpendingState ι) (i : ι) (c : Consumption) : SpendingState ι :=
  {s with consumptions := Function.update s.consumptions i (some c)}

end SpendingState

/-- Consumptions of any grants, their steps in any order. -/
def spendingSystem (ι : Type) [DecidableEq ι] : System (SpendingState ι) (SpendingStep ι) where
  init s := ∀ i, s.consumptions i = none
  next s
    | .clock i call now =>
      match s.consumptions i with
      | none => some (s.set i {call, now})
      | some _ => none
    | .read i =>
      match s.consumptions i with
      | some ⟨call, now, .clocked⟩ => some (s.set i ⟨call, now, .read (call.read s.grants)⟩)
      | _ => none
    | .attempt i =>
      match s.consumptions i with
      | some ⟨call, now, .read seen⟩ =>
        let (grants, authorized, _) := call.attempt host now seen s.grants
        some ({s with grants}.set i ⟨call, now, .attempted seen authorized⟩)
      | _ => none
    | .settle i =>
      match s.consumptions i with
      | some ⟨call, now, .attempted seen authorized⟩ =>
        some ({s with grants := call.settle now seen s.grants}.set i ⟨call, now, .settled authorized⟩)
      | _ => none

/-- The step expires a grant that has been consumed since it was read. -/
def SpendingStep.expiresSpent (s : SpendingState ι) : SpendingStep ι → Bool
  | .settle i => (s.consumptions i).any fun c => c.seen.any (ConsumeCall.findsExpired c.now) &&
    (s.grants.find c.call.grantId).any fun grant => grant.status = .consumed
  | _ => false

/-! ### What the two UPDATEs do -/

/-- What a consumption can make of a row. -/
structure GrantRow.Follows (grant grant' : GrantRow) : Prop where
  eq : grant' = {grant with status := grant'.status, consumedAt := grant'.consumedAt}
  status : grant'.status = .authorized → grant.status = .authorized

theorem GrantRow.Follows.refl (grant : GrantRow) : grant.Follows grant := ⟨rfl, fun h => h⟩

theorem GrantRow.Follows.trans {a b c : GrantRow} (hab : a.Follows b) (hbc : b.Follows c) : a.Follows c where
  eq := by
    rw [hbc.eq, hab.eq]
  status h := hab.status (hbc.status h)

namespace ConsumeCall
variable {host} {call : ConsumeCall} {now : Instant} {grants : Table GrantRow.id}

theorem read_eq_some {row : GrantRow} (h : call.read grants = some row) :
    grants.find call.grantId = some row ∧ row.workspaceId = call.workspaceId ∧ row.ownerId = call.ownerId := by
  obtain ⟨hfind, hscope⟩ := Option.filter_eq_some_iff.mp h
  simp only [Bool.and_eq_true, decide_eq_true_eq] at hscope
  exact ⟨hfind, hscope⟩

theorem refusal_eq_none {seen : GrantRow} (h : call.refusal host now seen = none) :
    seen.status = .authorized ∧ now ≤ seen.expiresAt ∧ seen.actionDigest = call.digest host ∧
      seen.tokenHash = hashCapabilityToken host call.token := by
  unfold refusal at h
  split_ifs at h with hstatus hexpired hdigest htoken
  have htoken : constantTimeTokenMatch host call.token seen.tokenHash = true := by simpa using htoken
  exact ⟨not_not.mp hstatus, not_lt.mp hexpired, not_not.mp hdigest, (of_decide_eq_true htoken).symm⟩

/-- The UPDATE that consumes hits one row, or none. -/
theorem spend_cases (call : ConsumeCall) (now : Instant) (grants : Table GrantRow.id) :
    call.spend now grants = (grants, false) ∨
    ∃ grant, grants.find call.grantId = some grant ∧ grant.status = .authorized ∧ (call.spend now grants).2 = true ∧
      ∀ id, (call.spend now grants).1.find id =
        if id = call.grantId then some {grant with status := .consumed, consumedAt := some now} else grants.find id := by
  by_cases hhit : grants.rows.any (call.spendable now) = true
  · right
    obtain ⟨grant, hgrant, hspendable⟩ := List.any_eq_true.mp hhit
    have hwhere := hspendable
    simp only [spendable, Bool.and_eq_true, decide_eq_true_eq] at hwhere
    obtain ⟨⟨⟨⟨⟨hid, _⟩, _⟩, hstatus⟩, _⟩, _⟩ := hwhere
    have hfind : grants.find call.grantId = some grant := Table.find_eq_some_iff.mpr ⟨hgrant, hid⟩
    refine ⟨grant, hfind, hstatus, hhit, fun id => ?_⟩
    rw [spend, Table.find_updateWhere]
    split_ifs with heq
    · rw [heq, hfind, Option.map_some, if_pos hspendable]
    · cases hother : grants.find id with
      | none => rfl
      | some other =>
        have hne : call.spendable now other = false := by
          simp [spendable, (Table.find_eq_some_iff.mp hother).2, heq]
        rw [Option.map_some, hne]
        rfl
  · left
    have hnone : ∀ grant ∈ grants.rows, call.spendable now grant = false := by simpa using hhit
    rw [spend, Table.updateWhere_eq_self hnone]
    simpa using hhit

/-- What the first half of a consumption does. -/
theorem attempt_cases (call : ConsumeCall) (now : Instant) (seen : Option GrantRow) (grants : Table GrantRow.id) :
    ((call.attempt host now seen grants).1 = grants ∧ (call.attempt host now seen grants).2.1 = false) ∨
    ∃ row grant, seen = some row ∧ call.refusal host now row = none ∧ grants.find call.grantId = some grant ∧
      grant.status = .authorized ∧ (call.attempt host now seen grants).2.1 = true ∧
      ∀ id, (call.attempt host now seen grants).1.find id =
        if id = call.grantId then some {grant with status := .consumed, consumedAt := some now} else grants.find id := by
  cases seen with
  | none => exact Or.inl ⟨rfl, rfl⟩
  | some row =>
    cases hrefusal : call.refusal host now row with
    | some reason => exact Or.inl (by simp [attempt, hrefusal])
    | none =>
      obtain hmiss | ⟨grant, hfind, hstatus, hhit, hrows⟩ := spend_cases call now grants
      · exact Or.inl (by simp [attempt, hrefusal, hmiss])
      · refine Or.inr ⟨row, grant, rfl, hrefusal, hfind, hstatus, ?_, fun id => ?_⟩
        · simpa [attempt, hrefusal] using hhit
        · rw [← hrows id]
          simp [attempt, hrefusal]

theorem find_settle (call : ConsumeCall) (now : Instant) (seen : Option GrantRow) (grants : Table GrantRow.id) (id : String) :
    (call.settle now seen grants).find id =
      if seen.any (findsExpired now) ∧ id = call.grantId then
        (grants.find id).map fun grant => {grant with status := .expired}
      else grants.find id := by
  unfold settle
  by_cases hexpired : seen.any (findsExpired now) = true
  · rw [if_pos hexpired, expire, Table.find_updateWhere_key]
    simp only [hexpired, true_and]
  · simp [hexpired]

end ConsumeCall

/-! ### Moves -/

section Moves
variable {host} {s s' : SpendingState ι} {step : SpendingStep ι}

/-- The four steps of one consumption, with nothing in between, are the call. -/
theorem run_consume {i : ι} (h : s.consumptions i = none) (call : ConsumeCall) (now : Instant) :
    ∃ s', (spendingSystem host ι).run s [.clock i call now, .read i, .attempt i, .settle i] = some s' ∧
      s'.grants = (consumeCapabilityGrant host call now s.grants).1 := by
  simp [System.run, spendingSystem, h, SpendingState.set, consumeCapabilityGrant]

/-- What a step can do. -/
inductive Move (host : Host) (s : SpendingState ι) : SpendingStep ι → SpendingState ι → Prop
  | begins (i : ι) (call : ConsumeCall) (now : Instant) (h : s.consumptions i = none) :
      Move host s (.clock i call now) (s.set i {call, now})
  | reads (i : ι) (call : ConsumeCall) (now : Instant) (h : s.consumptions i = some ⟨call, now, .clocked⟩) :
      Move host s (.read i) (s.set i ⟨call, now, .read (call.read s.grants)⟩)
  | misses (i : ι) (call : ConsumeCall) (now : Instant) (seen : Option GrantRow)
      (h : s.consumptions i = some ⟨call, now, .read seen⟩) :
      Move host s (.attempt i) (s.set i ⟨call, now, .attempted seen false⟩)
  | spends (i : ι) (call : ConsumeCall) (now : Instant) (row grant : GrantRow) (grants : Table GrantRow.id)
      (h : s.consumptions i = some ⟨call, now, .read (some row)⟩) (hrefusal : call.refusal host now row = none)
      (hfind : s.grants.find call.grantId = some grant) (hstatus : grant.status = .authorized)
      (hrows : ∀ id, grants.find id = if id = call.grantId then
        some {grant with status := .consumed, consumedAt := some now} else s.grants.find id) :
      Move host s (.attempt i) ({s with grants}.set i ⟨call, now, .attempted (some row) true⟩)
  | ends (i : ι) (call : ConsumeCall) (now : Instant) (seen : Option GrantRow) (authorized : Bool)
      (h : s.consumptions i = some ⟨call, now, .attempted seen authorized⟩) :
      Move host s (.settle i) (s.set i ⟨call, now, .settled authorized⟩)
  | expires (i : ι) (call : ConsumeCall) (now : Instant) (row : GrantRow) (authorized : Bool)
      (grants : Table GrantRow.id) (h : s.consumptions i = some ⟨call, now, .attempted (some row) authorized⟩)
      (hexpired : ConsumeCall.findsExpired now row = true)
      (hrows : ∀ id, grants.find id = if id = call.grantId then
        (s.grants.find id).map fun grant => {grant with status := .expired} else s.grants.find id) :
      Move host s (.settle i) ({s with grants}.set i ⟨call, now, .settled authorized⟩)

theorem spending_next (h : (spendingSystem host ι).next s step = some s') : Move host s step s' := by
  cases step with
  | clock i call now =>
    simp only [spendingSystem] at h
    split at h
    · rename_i hnone
      cases h
      exact .begins i call now hnone
    · cases h
  | read i =>
    simp only [spendingSystem] at h
    split at h
    · rename_i call now hc
      cases h
      exact .reads i call now hc
    · cases h
  | attempt i =>
    simp only [spendingSystem] at h
    split at h
    · rename_i call now seen hc
      cases h
      obtain ⟨hgrants, hauthorized⟩ | ⟨row, grant, rfl, hrefusal, hfind, hstatus, hauthorized, hrows⟩ :=
        call.attempt_cases now seen s.grants
      · rw [hgrants, hauthorized]
        exact .misses i call now seen hc
      · rw [hauthorized]
        exact .spends i call now row grant _ hc hrefusal hfind hstatus hrows
    · cases h
  | settle i =>
    simp only [spendingSystem] at h
    split at h
    · rename_i call now seen authorized hc
      cases h
      by_cases hexpired : seen.any (ConsumeCall.findsExpired now) = true
      · obtain ⟨row, rfl, hrow⟩ := (Option.any_eq_true _ _).mp hexpired
        refine .expires i call now row authorized _ hc hrow fun id => ?_
        rw [call.find_settle]
        simp only [hexpired, true_and]
      · rw [ConsumeCall.settle, if_neg hexpired]
        exact .ends i call now seen authorized hc
    · cases h

namespace Move

/-- A row that is there stays, and follows from what it was. -/
theorem follows (h : Move host s step s') {id : String} {grant : GrantRow} (hgrant : s.grants.find id = some grant) :
    ∃ grant', s'.grants.find id = some grant' ∧ grant.Follows grant' := by
  cases h with
  | begins | reads | misses | ends => exact ⟨grant, hgrant, .refl _⟩
  | spends i call now row spent grants _ _ hfind hstatus hrows =>
    by_cases hid : id = call.grantId
    · obtain rfl : spent = grant := by
        rw [← hid, hgrant] at hfind
        exact (Option.some.inj hfind).symm
      exact ⟨_, (hrows id).trans (if_pos hid), rfl, fun _ => hstatus⟩
    · exact ⟨grant, ((hrows id).trans (if_neg hid)).trans hgrant, .refl _⟩
  | expires i call now row authorized grants _ _ hrows =>
    by_cases hid : id = call.grantId
    · refine ⟨{grant with status := .expired}, ?_, rfl, fun hstatus => ?_⟩
      · exact (hrows id).trans (by rw [if_pos hid, hgrant, Option.map_some])
      · cases hstatus
    · exact ⟨grant, ((hrows id).trans (if_neg hid)).trans hgrant, .refl _⟩

/-- A step that expires no spent grant leaves spent grants alone. -/
theorem keeps (h : Move host s step s') (htimely : step.expiresSpent s = false) {id : String} {grant : GrantRow}
    (hgrant : s.grants.find id = some grant) (hspent : grant.status = .consumed) : s'.grants.find id = some grant := by
  cases h with
  | begins | reads | misses | ends => exact hgrant
  | spends i call now row spent grants _ _ hfind hstatus hrows =>
    have hid : id ≠ call.grantId := by
      rintro rfl
      rw [hgrant] at hfind
      obtain rfl := Option.some.inj hfind
      rw [hspent] at hstatus
      cases hstatus
    exact ((hrows id).trans (if_neg hid)).trans hgrant
  | expires i call now row authorized grants hc hexpired hrows =>
    have hid : id ≠ call.grantId := by
      rintro rfl
      simp [SpendingStep.expiresSpent, hc, Consumption.seen, hexpired, hgrant, hspent] at htimely
    exact ((hrows id).trans (if_neg hid)).trans hgrant

end Move

/-! ### What a consumption knows -/

/-- A row that was read has come to be the row there is; an authorized consumption has shown the
token and the operation of a grant, in time, and the grant is not active any more. -/
structure SpendingState.Sound (host : Host) (s : SpendingState ι) : Prop where
  read : ∀ i c row, s.consumptions i = some c → c.seen = some row →
    ∃ grant, s.grants.find c.call.grantId = some grant ∧ row.Follows grant
  spent : ∀ i c, s.consumptions i = some c → c.authorized →
    ∃ grant, s.grants.find c.call.grantId = some grant ∧ grant.status ≠ .authorized ∧
      grant.tokenHash = hashCapabilityToken host c.call.token ∧ grant.actionDigest = c.call.digest host ∧
      c.now ≤ grant.expiresAt
  once : ∀ i j c d, s.consumptions i = some c → s.consumptions j = some d → c.authorized → d.authorized →
    c.call.grantId = d.call.grantId → i = j

theorem consumptions_set {i j : ι} {c d : Consumption} (h : (s.set i c).consumptions j = some d) :
    (j = i ∧ d = c) ∨ s.consumptions j = some d := by
  change Function.update s.consumptions i (some c) j = some d at h
  by_cases hj : j = i
  · subst hj
    rw [Function.update_self] at h
    exact Or.inl ⟨rfl, (Option.some.inj h).symm⟩
  · rw [Function.update_of_ne hj] at h
    exact Or.inr h

namespace Move
variable {j : ι} {d : Consumption}

/-- A row that a consumption goes by is one it went by, or the row there is. -/
theorem seen (h : Move host s step s') {row : GrantRow} (hd : s'.consumptions j = some d) (hseen : d.seen = some row) :
    (∃ c, s.consumptions j = some c ∧ c.call = d.call ∧ c.seen = some row) ∨ s.grants.find d.call.grantId = some row := by
  cases h with
  | reads i call now hc =>
    obtain ⟨rfl, rfl⟩ | hold := consumptions_set hd
    · exact Or.inr (ConsumeCall.read_eq_some hseen).1
    · exact Or.inl ⟨d, hold, rfl, hseen⟩
  | begins | ends | expires =>
    obtain ⟨rfl, rfl⟩ | hold := consumptions_set hd
    · cases hseen
    · exact Or.inl ⟨d, hold, rfl, hseen⟩
  | misses i call now seen hc | spends i call now _ _ _ hc =>
    obtain ⟨rfl, rfl⟩ | hold := consumptions_set hd
    · exact Or.inl ⟨_, hc, rfl, hseen⟩
    · exact Or.inl ⟨d, hold, rfl, hseen⟩

/-- A consumption that is authorized was so, or has just spent its grant. -/
theorem authorized (h : Move host s step s') (hd : s'.consumptions j = some d) (hauthorized : d.authorized) :
    (∃ c, s.consumptions j = some c ∧ c.call = d.call ∧ c.now = d.now ∧ c.authorized) ∨
    ∃ c row grant, step = .attempt j ∧ s.consumptions j = some c ∧ c.call = d.call ∧ c.seen = some row ∧
      d.call.refusal host d.now row = none ∧ s.grants.find d.call.grantId = some grant ∧ grant.status = .authorized ∧
      s'.grants.find d.call.grantId = some {grant with status := .consumed, consumedAt := some d.now} := by
  cases h with
  | begins | reads | misses =>
    obtain ⟨rfl, rfl⟩ | hold := consumptions_set hd
    · cases hauthorized
    · exact Or.inl ⟨d, hold, rfl, rfl, hauthorized⟩
  | ends i call now seen authorized hc | expires i call now _ authorized _ hc =>
    obtain ⟨rfl, rfl⟩ | hold := consumptions_set hd
    · exact Or.inl ⟨_, hc, rfl, rfl, hauthorized⟩
    · exact Or.inl ⟨d, hold, rfl, rfl, hauthorized⟩
  | spends i call now row grant grants hc hrefusal hfind hstatus hrows =>
    obtain ⟨rfl, rfl⟩ | hold := consumptions_set hd
    · exact Or.inr ⟨_, row, grant, rfl, hc, rfl, rfl, hrefusal, hfind, hstatus, (hrows _).trans (if_pos rfl)⟩
    · exact Or.inl ⟨d, hold, rfl, rfl, hauthorized⟩

end Move

theorem sound_step (h : Move host s step s') (hs : s.Sound host) : s'.Sound host where
  read j d row hd hseen := by
    obtain ⟨c, hc, hcall, hrow⟩ | hfind := h.seen hd hseen
    · obtain ⟨grant, hgrant, hrow⟩ := hs.read j c row hc hrow
      rw [hcall] at hgrant
      obtain ⟨grant', hgrant', hfollows⟩ := h.follows hgrant
      exact ⟨grant', hgrant', hrow.trans hfollows⟩
    · exact h.follows hfind
  spent j d hd hauthorized := by
    obtain ⟨c, hc, hcall, hnow, hc'⟩ | ⟨c, row, grant, _, hc, hcall, hseen, hrefusal, hfind, hstatus, hspent⟩ :=
      h.authorized hd hauthorized
    · obtain ⟨grant, hgrant, hstatus, htoken, hdigest, hexpires⟩ := hs.spent j c hc hc'
      rw [hcall] at hgrant htoken hdigest
      rw [hnow] at hexpires
      obtain ⟨grant', hgrant', hfollows⟩ := h.follows hgrant
      refine ⟨grant', hgrant', fun h => hstatus (hfollows.status h), ?_, ?_, ?_⟩ <;> rw [hfollows.eq] <;> assumption
    · obtain ⟨_, hexpires, hdigest, htoken⟩ := ConsumeCall.refusal_eq_none hrefusal
      obtain ⟨grant', hgrant', hfollows⟩ := hs.read j c row hc hseen
      rw [hcall, hfind] at hgrant'
      obtain rfl := Option.some.inj hgrant'
      refine ⟨_, hspent, by simp, ?_, ?_, ?_⟩ <;> rw [hfollows.eq] <;> assumption
  once i j c d hc hd hcauthorized hdauthorized hsame := by
    obtain ⟨c', hc', hcall, _, hold⟩ | ⟨_, _, grant, hstep, _, _, _, _, hfind, hstatus, _⟩ := h.authorized hc hcauthorized <;>
      obtain ⟨d', hd', hcall', _, hold'⟩ | ⟨_, _, grant', hstep', _, _, _, _, hfind', hstatus', _⟩ :=
        h.authorized hd hdauthorized
    · exact hs.once i j c' d' hc' hd' hold hold' (by rw [hcall, hcall', hsame])
    · obtain ⟨spent, hspent, hne, _⟩ := hs.spent i c' hc' hold
      rw [hcall, hsame, hfind'] at hspent
      obtain rfl := Option.some.inj hspent
      exact absurd hstatus' hne
    · obtain ⟨spent, hspent, hne, _⟩ := hs.spent j d' hd' hold'
      rw [hcall', ← hsame, hfind] at hspent
      obtain rfl := Option.some.inj hspent
      exact absurd hstatus hne
    · rw [hstep] at hstep'
      exact SpendingStep.attempt.inj hstep'

end Moves

/-! ### Runs -/

/-- A grant is spent by one consumption at most, which has shown its token and its operation in
time, and whatever is done next stays as it was spent. -/
def SpentOnce (host : Host) (M : System (SpendingState ι) (SpendingStep ι)) (s : SpendingState ι) : Prop :=
  (∀ i j c d, s.consumptions i = some c → s.consumptions j = some d → c.authorized → d.authorized →
    c.call.grantId = d.call.grantId → i = j) ∧
  (∀ i c, s.consumptions i = some c → c.authorized → ∃ grant, s.grants.find c.call.grantId = some grant ∧
    grant.status = .consumed ∧ grant.tokenHash = hashCapabilityToken host c.call.token ∧
    grant.actionDigest = c.call.digest host ∧ c.now ≤ grant.expiresAt) ∧
  ∀ id grant, s.grants.find id = some grant → grant.status = .consumed →
    ∀ steps s', M.run s steps = some s' → s'.grants.find id = some grant

/-- Consumptions none of which expires a grant that is spent. -/
def timelySystem (ι : Type) [DecidableEq ι] : System (SpendingState ι) (SpendingStep ι) :=
  (spendingSystem host ι).restrict fun s step => step.expiresSpent s = false

section Runs
variable {host} {s s' : SpendingState ι}

theorem timely_next {step : SpendingStep ι} (h : (timelySystem host ι).next s step = some s') :
    step.expiresSpent s = false ∧ Move host s step s' := by
  obtain ⟨htimely, hnext⟩ := System.restrict_next h
  exact ⟨htimely, spending_next hnext⟩

/-- The grant of an authorized consumption is spent, as well. -/
structure SpendingState.Spent (host : Host) (s : SpendingState ι) : Prop extends s.Sound host where
  consumed : ∀ i c grant, s.consumptions i = some c → c.authorized → s.grants.find c.call.grantId = some grant →
    grant.status = .consumed

theorem spent_step {step : SpendingStep ι} (htimely : step.expiresSpent s = false) (h : Move host s step s')
    (hs : s.Spent host) : s'.Spent host where
  toSound := sound_step h hs.toSound
  consumed i d grant' hd hauthorized hgrant' := by
    obtain ⟨c, hc, hcall, _, hold⟩ | ⟨_, _, grant, _, _, _, _, _, _, _, hnow⟩ := h.authorized hd hauthorized
    · obtain ⟨grant, hgrant, _⟩ := hs.spent i c hc hold
      have hstatus := hs.consumed i c grant hc hold hgrant
      rw [hcall] at hgrant
      rw [h.keeps htimely hgrant hstatus] at hgrant'
      rw [← Option.some.inj hgrant']
      exact hstatus
    · rw [hnow] at hgrant'
      rw [← Option.some.inj hgrant']

theorem spent_reachable (h : (timelySystem host ι).Reachable s) : s.Spent host := by
  refine h.invariant (fun s hinit => ?_) fun s step s' _ hs hnext => ?_
  · have hnone : ∀ i c, s.consumptions i ≠ some c := fun i c hc => by
      rw [hinit i] at hc
      cases hc
    exact ⟨⟨fun i c _ hc => absurd hc (hnone i c), fun i c hc => absurd hc (hnone i c),
      fun i _ c _ hc => absurd hc (hnone i c)⟩, fun i c _ hc => absurd hc (hnone i c)⟩
  · obtain ⟨htimely, hmove⟩ := timely_next hnext
    exact spent_step htimely hmove hs

theorem spent_run {steps : List (SpendingStep ι)} (hrun : (timelySystem host ι).run s steps = some s')
    {id : String} {grant : GrantRow} (hgrant : s.grants.find id = some grant) (hspent : grant.status = .consumed) :
    s'.grants.find id = some grant := by
  refine System.run_keeps (I := fun t => t.grants.find id = some grant) (fun t step t' hkept hnext => ?_) hrun hgrant
  obtain ⟨htimely, hmove⟩ := timely_next hnext
  exact hmove.keeps htimely hkept hspent

variable (host) in
/-- Where no consumption expires a grant that has been spent since it was read, a grant is spent
once and stays spent. -/
theorem spent_once (h : (timelySystem host ι).Reachable s) : SpentOnce host (timelySystem host ι) s := by
  have hs := spent_reachable h
  refine ⟨hs.once, fun i c hc hauthorized => ?_, fun id grant hgrant hstatus steps s' hrun => ?_⟩
  · obtain ⟨grant, hgrant, _, hrest⟩ := hs.spent i c hc hauthorized
    exact ⟨grant, hgrant, hs.consumed i c grant hc hauthorized hgrant, hrest⟩
  · exact spent_run hrun hgrant hstatus

end Runs

/-! ### A grant expired that was spent -/

/-- A grant of the operation of `exampleConsume`, good until `epoch + 1`. -/
def exampleGrant : GrantRow where
  id := "g"
  workspaceId := "w"
  ownerId := "o"
  sessionId := "s"
  directiveId := some "d"
  permitId := some "p"
  capability := "git.write"
  action := "push"
  resource := "r"
  actionDigest := digestPayload "git.write" "push" "r" []
  tokenHash := "t"
  status := .authorized
  decision := .allow
  reason := "registered capability"
  riskTier := .high
  mutating := true
  redactionApplied := false
  createdAt := epoch
  expiresAt := epoch + 1
  consumedAt := none
  completionRequired := true
  charterId := none
  completionOutboxId := none
  completionRecordedAt := none

def exampleConsume : ConsumeCall := ⟨"w", "o", "g", "t", ⟨"git.write", "push", "r", []⟩⟩

def exampleSpending : SpendingState Nat := ⟨⟨[exampleGrant], List.nodup_singleton _⟩, fun _ => none⟩

/-- The second consumption, too late by its clock, reads before the first one spends. -/
def overtaken : List (SpendingStep Nat) :=
  [.clock 1 exampleConsume epoch, .clock 2 exampleConsume (epoch + 2), .read 1, .read 2, .attempt 1, .attempt 2]

/-- A grant that is spent and then expired: it asks for no completion any more. -/
theorem spent_then_expired : ¬ ∀ s, (spendingSystem (asciiHost [] []) Nat).Reachable s →
    SpentOnce (asciiHost [] []) (spendingSystem (asciiHost [] []) Nat) s := by
  intro hall
  have hspent : ((spendingSystem (asciiHost [] []) Nat).run exampleSpending overtaken).any fun s =>
      ((s.grants.find "g").any fun grant => grant.status = .consumed && grant.obligated) &&
      ((spendingSystem (asciiHost [] []) Nat).run s [.settle 2]).any fun s' =>
        (s'.grants.find "g").any fun grant => grant.status = .expired && !grant.obligated := by
    decide +kernel
  obtain ⟨s, hrun, hs⟩ := (Option.any_eq_true _ _).mp hspent
  obtain ⟨hgrant, hlater⟩ := (Bool.and_eq_true _ _).mp hs
  obtain ⟨grant, hgrant, hconsumed⟩ := (Option.any_eq_true _ _).mp hgrant
  obtain ⟨s', hrun', hgrant'⟩ := (Option.any_eq_true _ _).mp hlater
  simp only [Bool.and_eq_true, decide_eq_true_eq] at hconsumed
  have hreach := System.Reachable.run (.init (fun _ => rfl)) hrun
  have hkept := (hall s hreach).2.2 "g" grant hgrant hconsumed.1 _ s' hrun'
  rw [hkept] at hgrant'
  simp [hconsumed.1] at hgrant'

/-- The second consumption reads after the first one has spent the grant. -/
theorem spent_once_example : ((timelySystem (asciiHost [] []) Nat).run exampleSpending
      [.clock 1 exampleConsume epoch, .read 1, .attempt 1, .settle 1, .clock 2 exampleConsume (epoch + 2),
        .read 2, .attempt 2, .settle 2]).isSome ∧
    ∀ s, (timelySystem (asciiHost [] []) Nat).run exampleSpending
      [.clock 1 exampleConsume epoch, .read 1, .attempt 1, .settle 1, .clock 2 exampleConsume (epoch + 2),
        .read 2, .attempt 2, .settle 2] = some s →
      SpentOnce (asciiHost [] []) (timelySystem (asciiHost [] []) Nat) s :=
  ⟨by decide +kernel, fun _ hrun =>
    spent_once (asciiHost [] []) (System.Reachable.run (.init (fun _ => rfl)) hrun)⟩

end OpenTimeline.Capability
