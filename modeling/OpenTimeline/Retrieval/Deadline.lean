import Mathlib
import OpenTimeline.Library.Transition

/-! The budget of a turn.

A turn starts one deadline, and every other deadline of the turn is a child of one that there is. A call made under
a deadline is given a slice of what is left at that moment. What is left of a child is never more than what is left
of its parent (`remainingMs_le`), so a call that keeps to its slice has ended when its deadline ends, and when each
deadline above it does (`end_of_slice`).

In a run of a turn the calls follow one another. The time spent in the calls under a deadline, and under all the
deadlines derived from it, is then within its budget (`spent_le`): no child gives time again that is already gone.
Elapsed time is cut to whole milliseconds, so a budget is kept to the millisecond. Times are exact here. -/
namespace OpenTimeline.Retrieval
open Library

/-! ### Deadlines -/

/-- What a deadline has of its own. -/
structure Frame where
  startedAt : ℚ
  budgetMs : Nat
  backendBudgetMs : Nat
  floorMs : Nat
  label : String
deriving DecidableEq

inductive Deadline
  | top (own : Frame)
  | within (parent : Deadline) (own : Frame)
deriving DecidableEq

def Frame.elapsedMs (own : Frame) (now : ℚ) : Nat := ⌊(now - own.startedAt) * 1000⌋₊

/-- The millisecond in which a budget runs out. -/
def Frame.endsBy (own : Frame) : ℚ := own.startedAt + (own.budgetMs + 1) / 1000

namespace Deadline

def own : Deadline → Frame
  | .top own => own
  | .within _ own => own

/-- A deadline and those above it. -/
def lineage : Deadline → List Frame
  | .top own => [own]
  | .within parent own => own :: parent.lineage

def start (now : ℚ) (budgetMs backendBudgetMs floorMs : Int) (label : String) : Deadline :=
  .top ⟨now, budgetMs.toNat, (max 1 backendBudgetMs).toNat, floorMs.toNat, label⟩

def unbounded (now : ℚ) (label : String) : Deadline := .top ⟨now, 10 ^ 9, 10 ^ 9, 0, label⟩

def remainingMs : Deadline → ℚ → Nat
  | .top own, now => own.budgetMs - own.elapsedMs now
  | .within parent own, now => min (own.budgetMs - own.elapsedMs now) (parent.remainingMs now)

def expired (d : Deadline) (now : ℚ) : Bool := d.remainingMs now = 0

def allows (d : Deadline) (minimumMs : Int) (now : ℚ) : Bool := max minimumMs d.own.floorMs ≤ d.remainingMs now

def sliceMs (d : Deadline) (requestedMs : Int) (now : ℚ) : Nat :=
  (min (min requestedMs d.own.backendBudgetMs) (d.remainingMs now)).toNat

/-- `child`; what is not given is taken from the parent. -/
def child (d : Deadline) (now : ℚ) (label : String) (budgetMs backendBudgetMs floorMs : Option Int) : Deadline :=
  let remaining := d.remainingMs now
  let requested := budgetMs.elim remaining Int.toNat
  let backend := backendBudgetMs.elim d.own.backendBudgetMs fun ms => (max 1 ms).toNat
  .within d ⟨now, min requested remaining, min backend d.own.backendBudgetMs,
    floorMs.elim d.own.floorMs Int.toNat, label⟩

end Deadline

def retrievalChild (turn : Deadline) (enabled : Bool) (budgetMs : Int) (now : ℚ) : Deadline :=
  if enabled then turn.child now "retrieval" (some (max 0 budgetMs)) none none else turn

def advisorTimeoutBucketMs (remainingMs : Nat) : Nat := max 250 (remainingMs / 250 * 250)

/-- The advisor's gate and the timeout that `_advisor_gateway_settings` leaves it, `none` where it is not called. -/
def advisorTimeoutMs (d : Deadline) (advisorMinMs : Int) (configuredMs : Nat) (now : ℚ) : Option Nat :=
  if d.allows advisorMinMs now then some (min configuredMs (advisorTimeoutBucketMs (d.remainingMs now))) else none

/-! ### A deadline and those above it -/

namespace Deadline
variable {d : Deadline} {now : ℚ}

@[simp] theorem own_mem_lineage (d : Deadline) : d.own ∈ d.lineage := by
  cases d <;> simp [own, lineage]

@[simp] theorem own_child (d : Deadline) (label : String) (budget backend floor : Option Int) :
    (d.child now label budget backend floor).lineage =
      (d.child now label budget backend floor).own :: d.lineage := rfl

theorem remainingMs_le {above : Frame} (h : above ∈ d.lineage) :
    d.remainingMs now ≤ above.budgetMs - above.elapsedMs now := by
  induction d with
  | top own =>
    obtain rfl := List.mem_singleton.mp h
    exact le_rfl
  | within parent own ih =>
    rcases List.mem_cons.mp h with rfl | h
    · exact min_le_left _ _
    · exact (min_le_right _ _).trans (ih h)

theorem sliceMs_le_remainingMs (requested : Int) : d.sliceMs requested now ≤ d.remainingMs now := by
  rw [sliceMs]
  omega

/-- What is left, counted from now, runs out in the millisecond in which the budget does. -/
theorem lt_endsBy {above : Frame} {ms : ℚ} (h : above ∈ d.lineage) (hms : ms ≤ d.remainingMs now) (hpos : 0 < ms) :
    now + ms / 1000 < above.endsBy := by
  have hle : d.remainingMs now ≤ above.budgetMs - above.elapsedMs now := remainingMs_le h
  have hlt := Nat.lt_floor_add_one ((now - above.startedAt) * 1000)
  have hleft : (0 : ℚ) < d.remainingMs now := hpos.trans_le hms
  have hsub : above.elapsedMs now + d.remainingMs now ≤ above.budgetMs := by
    have : 0 < d.remainingMs now := by exact_mod_cast hleft
    omega
  have hcast : (above.elapsedMs now : ℚ) + d.remainingMs now ≤ above.budgetMs := by exact_mod_cast hsub
  rw [Frame.elapsedMs] at hcast
  rw [Frame.endsBy]
  linarith

/-- A call that keeps to its slice ends before its deadline does, and before each one above. -/
theorem end_of_slice {above : Frame} {requested : Int} {took : ℚ} (h : above ∈ d.lineage) (hpos : 0 < took)
    (hslice : took * 1000 ≤ d.sliceMs requested now) : now + took < above.endsBy := by
  have hle : took * 1000 ≤ d.remainingMs now :=
    hslice.trans (by exact_mod_cast sliceMs_le_remainingMs requested)
  have hend := lt_endsBy h hle (by linarith)
  rwa [mul_div_cancel_right₀ _ (by norm_num)] at hend

end Deadline

/-- The advisor's timeout is within what is left, where the gate asks for at least one bucket. -/
theorem advisorTimeoutMs_le {d : Deadline} {advisorMin : Int} {configured timeout : Nat} {now : ℚ}
    (hmin : 250 ≤ advisorMin) (h : advisorTimeoutMs d advisorMin configured now = some timeout) :
    timeout ≤ d.remainingMs now := by
  rw [advisorTimeoutMs] at h
  split_ifs at h with hallows
  cases h
  simp only [Deadline.allows, decide_eq_true_eq, sup_le_iff] at hallows
  rw [advisorTimeoutBucketMs]
  have hdiv := Nat.div_mul_le_self (d.remainingMs now) 250
  omega

/-! ### A turn -/

structure Call where
  under : Deadline
  start : ℚ
  seconds : ℚ

structure Turn where
  now : ℚ
  deadlines : List Deadline
  /-- what was called so far -/
  calls : List Call

inductive Move
  | wait (seconds : ℚ)
  | child (of : Nat) (label : String) (budgetMs backendBudgetMs floorMs : Option Int)
  | retrieval (of : Nat) (enabled : Bool) (budgetMs : Int)
  | read (under : Nat) (requestedMs : Int) (seconds : ℚ)
  | advisor (under : Nat) (configuredMs : Nat) (seconds : ℚ)

section Run
variable (advisorMinMs : Int)

/-- A call is given its time when it is made, and keeps to it. -/
def Turn.called (t : Turn) (under : Nat) (seconds : ℚ) (timeoutMs : Deadline → Option Nat) : Option Turn := do
  let d ← t.deadlines[under]?
  let timeout ← timeoutMs d
  if 0 ≤ seconds ∧ seconds * 1000 ≤ timeout then
    some { t with now := t.now + seconds, calls := ⟨d, t.now, seconds⟩ :: t.calls }
  else none

def Turn.next (t : Turn) : Move → Option Turn
  | .wait seconds => if 0 ≤ seconds then some { t with now := t.now + seconds } else none
  | .child of label budget backend floor =>
    t.deadlines[of]?.map fun d =>
      { t with deadlines := t.deadlines ++ [d.child t.now label budget backend floor] }
  | .retrieval of enabled budget =>
    t.deadlines[of]?.map fun d => { t with deadlines := t.deadlines ++ [retrievalChild d enabled budget t.now] }
  | .read under requested seconds => t.called under seconds fun d => some (d.sliceMs requested t.now)
  | .advisor under configured seconds =>
    t.called under seconds fun d => advisorTimeoutMs d advisorMinMs configured t.now

/-- A turn starts one deadline. -/
def turns : System Turn Move where
  init t := ∃ budget backend floor label,
    t = ⟨t.now, [Deadline.start t.now budget backend floor label], []⟩ ∨ t = ⟨t.now, [Deadline.unbounded t.now label], []⟩
  next := Turn.next advisorMinMs

end Run

/-- The time spent under a deadline, and under those derived from it. -/
def Turn.spent (t : Turn) (own : Frame) : ℚ :=
  ((t.calls.filter fun call => own ∈ call.under.lineage).map (·.seconds)).sum

structure Turn.Kept (t : Turn) : Prop where
  started : ∀ d ∈ t.deadlines, ∀ own ∈ d.lineage, own.startedAt ≤ t.now
  spent : ∀ own : Frame, t.spent own ≤ max 0 (min t.now own.endsBy - own.startedAt)
  ended : ∀ call ∈ t.calls, 0 < call.seconds → ∀ own ∈ call.under.lineage, call.start + call.seconds < own.endsBy

namespace Turn
variable {advisorMinMs : Int} {t t' : Turn} {own : Frame}

theorem spent_cons (t : Turn) (now : ℚ) (call : Call) :
    ({ t with now := now, calls := call :: t.calls } : Turn).spent own =
      (if own ∈ call.under.lineage then call.seconds else 0) + t.spent own := by
  simp only [spent, List.filter_cons]
  split_ifs with h <;> simp_all

theorem spent_le_later {now : ℚ} (h : t.Kept) (hnow : t.now ≤ now) (own : Frame) :
    t.spent own ≤ max 0 (min now own.endsBy - own.startedAt) :=
  (h.spent own).trans (max_le_max le_rfl (sub_le_sub_right (min_le_min hnow le_rfl) _))

theorem Kept.wait {seconds : ℚ} (h : t.Kept) (hseconds : 0 ≤ seconds) :
    ({ t with now := t.now + seconds } : Turn).Kept where
  started d hd own hown := (h.started d hd own hown).trans (by simpa using hseconds)
  spent own := spent_le_later h (by simpa using hseconds) own
  ended := h.ended

theorem Kept.add {d : Deadline} (h : t.Kept) (hd : ∀ own ∈ d.lineage, own.startedAt ≤ t.now) :
    ({ t with deadlines := t.deadlines ++ [d] } : Turn).Kept where
  started e he own hown := by
    rcases List.mem_append.mp he with he | he
    · exact h.started e he own hown
    · obtain rfl := List.mem_singleton.mp he
      exact hd own hown
  spent := h.spent
  ended := h.ended

theorem Kept.child {d : Deadline} (h : t.Kept) (hd : d ∈ t.deadlines) (label : String)
    (budget backend floor : Option Int) :
    ∀ own ∈ (d.child t.now label budget backend floor).lineage, own.startedAt ≤ t.now := by
  intro own hown
  rw [Deadline.own_child] at hown
  rcases List.mem_cons.mp hown with rfl | hown
  · exact le_rfl
  · exact h.started d hd own hown

/-- What a call takes is time that was left to every deadline above it. -/
theorem Kept.call {d : Deadline} {seconds : ℚ} (h : t.Kept) (hd : d ∈ t.deadlines) (hseconds : 0 ≤ seconds)
    (hleft : seconds * 1000 ≤ d.remainingMs t.now) :
    ({ t with now := t.now + seconds, calls := ⟨d, t.now, seconds⟩ :: t.calls } : Turn).Kept where
  started e he own hown := (h.started e he own hown).trans (by simpa using hseconds)
  spent own := by
    rw [spent_cons]
    have hnow : t.now ≤ t.now + seconds := by simpa using hseconds
    have hlater := spent_le_later h hnow own
    split_ifs with hown
    · rcases hseconds.eq_or_lt with rfl | hpos
      · simpa using hlater
      have hend := Deadline.lt_endsBy hown hleft (by linarith)
      rw [mul_div_cancel_right₀ _ (by norm_num)] at hend
      have hstart := h.started d hd own hown
      have hspent := h.spent own
      rw [min_eq_left (by linarith), max_eq_right (by linarith)] at hspent
      rw [min_eq_left hend.le, max_eq_right (by linarith)]
      linarith
    · simpa using hlater
  ended call hcall hpos own hown := by
    rcases List.mem_cons.mp hcall with rfl | hcall
    · have hend := Deadline.lt_endsBy hown hleft (by linarith)
      rwa [mul_div_cancel_right₀ _ (by norm_num)] at hend
    · exact h.ended call hcall hpos own hown

/-- One call, whatever its time is bounded by. -/
theorem called_eq_some {under : Nat} {seconds : ℚ} {timeoutMs : Deadline → Option Nat}
    (h : t.called under seconds timeoutMs = some t') :
    ∃ d ∈ t.deadlines, ∃ timeout, timeoutMs d = some timeout ∧ 0 ≤ seconds ∧ seconds * 1000 ≤ timeout ∧
      t' = { t with now := t.now + seconds, calls := ⟨d, t.now, seconds⟩ :: t.calls } := by
  simp only [called, Option.bind_eq_bind, Option.bind_eq_some_iff] at h
  obtain ⟨d, hd, timeout, htimeout, hif⟩ := h
  split_ifs at hif with hle
  cases hif
  exact ⟨d, List.mem_of_getElem? hd, timeout, htimeout, hle.1, hle.2, rfl⟩

theorem Kept.next (hmin : 250 ≤ advisorMinMs) (h : t.Kept) {move : Move} (hnext : t.next advisorMinMs move = some t') :
    t'.Kept := by
  cases move with
  | wait seconds =>
    simp only [Turn.next] at hnext
    split_ifs at hnext with hseconds
    cases hnext
    exact h.wait hseconds
  | child of label budget backend floor =>
    obtain ⟨d, hd, rfl⟩ := Option.map_eq_some_iff.mp hnext
    exact h.add (h.child (List.mem_of_getElem? hd) _ _ _ _)
  | retrieval of enabled budget =>
    obtain ⟨d, hd, rfl⟩ := Option.map_eq_some_iff.mp hnext
    have hmem := List.mem_of_getElem? hd
    refine h.add ?_
    rw [retrievalChild]
    split_ifs
    · exact h.child hmem _ _ _ _
    · exact h.started d hmem
  | read under requested seconds =>
    obtain ⟨d, hd, timeout, htimeout, hpos, hle, rfl⟩ := called_eq_some hnext
    cases htimeout
    exact h.call hd hpos (hle.trans (by exact_mod_cast Deadline.sliceMs_le_remainingMs requested))
  | advisor under configured seconds =>
    obtain ⟨d, hd, timeout, htimeout, hpos, hle, rfl⟩ := called_eq_some hnext
    exact h.call hd hpos (hle.trans (by exact_mod_cast advisorTimeoutMs_le hmin htimeout))

theorem kept_of_reachable (hmin : 250 ≤ advisorMinMs) (h : (turns advisorMinMs).Reachable t) : t.Kept := by
  refine h.invariant ?_ (fun _ _ _ _ hkept hnext => hkept.next hmin hnext)
  rintro s ⟨budget, backend, floor, label, hs⟩
  have hnone : ∀ d : Deadline, (∀ own ∈ d.lineage, own.startedAt ≤ s.now) → s = ⟨s.now, [d], []⟩ → s.Kept := by
    intro d hd hs
    rw [hs]
    exact ⟨fun e he => (List.mem_singleton.mp he) ▸ hd, fun own => by simp [spent], fun call hcall => by simp at hcall⟩
  rcases hs with hs | hs
  · exact hnone _ (by simp [Deadline.start, Deadline.lineage]) hs
  · exact hnone _ (by simp [Deadline.unbounded, Deadline.lineage]) hs

/-- Whatever deadlines are derived, and whatever is called under them: the time under one is within its budget, and
each call that takes any time has ended when the deadline does. -/
theorem within_budget (hmin : 250 ≤ advisorMinMs) (h : (turns advisorMinMs).Reachable t) (own : Frame) :
    t.spent own * 1000 ≤ own.budgetMs + 1 ∧
    ∀ call ∈ t.calls, own ∈ call.under.lineage → 0 < call.seconds → call.start + call.seconds < own.endsBy := by
  have hkept := kept_of_reachable hmin h
  refine ⟨?_, fun call hcall hown hpos => hkept.ended call hcall hpos own hown⟩
  have hle : max 0 (min t.now own.endsBy - own.startedAt) ≤ ((own.budgetMs : ℚ) + 1) / 1000 := by
    refine max_le (by positivity) ?_
    have := min_le_right t.now own.endsBy
    rw [Frame.endsBy] at this ⊢
    linarith
  linarith [hkept.spent own]

def exampleTurn : Turn := ⟨0, [Deadline.start 0 3500 60 5 "turn"], []⟩

def exampleMoves : List Move :=
  [.retrieval 0 true 120, .read 1 60 (1 / 20), .wait (1 / 40), .read 1 60 (9 / 200), .advisor 0 2200 2]

/-- A turn of three and a half seconds with a retrieval of 120 ms: the second read is cut to the 45 ms that are left
of it. -/
theorem within_budget_example : ∃ t, (turns 250).run exampleTurn exampleMoves = some t ∧
    t.spent ⟨0, 120, 60, 5, "retrieval"⟩ * 1000 = 95 ∧ t.spent ⟨0, 120, 60, 5, "retrieval"⟩ * 1000 ≤ 121 := by
  have hrun : (turns 250).run exampleTurn exampleMoves ≠ none := by decide +kernel
  obtain ⟨t, ht⟩ := Option.ne_none_iff_exists'.mp hrun
  have hspent : (((turns 250).run exampleTurn exampleMoves).map fun t =>
      t.spent ⟨0, 120, 60, 5, "retrieval"⟩ * 1000) = some 95 := by decide +kernel
  rw [ht] at hspent
  have hinit : (turns 250).init exampleTurn := ⟨3500, 60, 5, "turn", .inl rfl⟩
  have hreach : (turns 250).Reachable t := (System.Reachable.init hinit).run ht
  have hle := (within_budget le_rfl hreach ⟨0, 120, 60, 5, "retrieval"⟩).1
  exact ⟨t, ht, Option.some.inj hspent, hle.trans (by norm_num)⟩

end Turn
end OpenTimeline.Retrieval
