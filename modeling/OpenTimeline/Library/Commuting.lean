import Mathlib

/-! Steps whose order and number do not matter.

A step that may fail, commutes with every other and does nothing the second time takes a list of
calls to a result that depends on which calls are in the list, and on nothing else
(`OrderFree.foldlM_congr`, and `OrderFree.foldlM_ok_congr` for steps that raise). -/
namespace OpenTimeline.Library

variable {σ α : Type} {step : σ → α → Option σ}

variable (step) in
/-- Any two steps commute, and each does nothing the second time. -/
structure OrderFree : Prop where
  comm : ∀ s a b, (step s a).bind (step · b) = (step s b).bind (step · a)
  idem : ∀ s a, (step s a).bind (step · a) = step s a

namespace OrderFree

theorem foldlM_cons_cons (s : σ) (a b : α) (rest : List α) :
    (a :: b :: rest).foldlM step s = ((step s a).bind (step · b)).bind (rest.foldlM step) := by
  simp only [List.foldlM_cons, Option.bind_eq_bind, Option.bind_assoc]

theorem foldlM_perm (h : OrderFree step) {calls calls' : List α} (hperm : calls.Perm calls') (s : σ) :
    calls.foldlM step s = calls'.foldlM step s := by
  induction hperm generalizing s with
  | nil => rfl
  | cons a _ ih =>
    rw [List.foldlM_cons, List.foldlM_cons]
    exact congrArg (step s a).bind (funext ih)
  | swap a b rest => rw [foldlM_cons_cons, foldlM_cons_cons, h.comm]
  | trans _ _ ih ih' => rw [ih, ih']

/-- A call that comes again later may be left out. -/
theorem foldlM_cons_of_mem [DecidableEq α] (h : OrderFree step) {a : α} {rest : List α} (hmem : a ∈ rest) (s : σ) :
    (a :: rest).foldlM step s = rest.foldlM step s := by
  have hfront := List.perm_cons_erase hmem
  calc (a :: rest).foldlM step s
      = (a :: a :: rest.erase a).foldlM step s := h.foldlM_perm (hfront.cons a) s
    _ = (a :: rest.erase a).foldlM step s := by rw [foldlM_cons_cons, h.idem, List.foldlM_cons]; rfl
    _ = rest.foldlM step s := h.foldlM_perm hfront.symm s

theorem foldlM_dedup [DecidableEq α] (h : OrderFree step) (calls : List α) (s : σ) :
    calls.dedup.foldlM step s = calls.foldlM step s := by
  induction calls generalizing s with
  | nil => rfl
  | cons a rest ih =>
    by_cases hmem : a ∈ rest
    · rw [List.dedup_cons_of_mem hmem, ih, h.foldlM_cons_of_mem hmem]
    · rw [List.dedup_cons_of_notMem hmem, List.foldlM_cons, List.foldlM_cons]
      exact congrArg (step s a).bind (funext ih)

/-- Two lists of the same calls lead to the same. -/
theorem foldlM_congr (h : OrderFree step) {calls calls' : List α} (hsame : ∀ a, a ∈ calls ↔ a ∈ calls') (s : σ) :
    calls.foldlM step s = calls'.foldlM step s := by
  classical
  rw [← h.foldlM_dedup calls, ← h.foldlM_dedup calls']
  refine h.foldlM_perm ((List.perm_ext_iff_of_nodup calls.nodup_dedup calls'.nodup_dedup).mpr fun a => ?_) s
  rw [List.mem_dedup, List.mem_dedup, hsame]

end OrderFree

/-! ### Steps that raise -/

variable {ε : Type} {raising : σ → α → Except ε σ}

theorem toOption_foldlM (calls : List α) (s : σ) :
    (calls.foldlM raising s).toOption = calls.foldlM (fun s a => (raising s a).toOption) s := by
  induction calls generalizing s with
  | nil => rfl
  | cons a rest ih =>
    rw [List.foldlM_cons, List.foldlM_cons]
    cases h : raising s a with
    | error e => rfl
    | ok after => exact ih after

/-- What is left of a fold that raised nothing depends on which calls it made only. -/
theorem OrderFree.foldlM_ok_congr (h : OrderFree fun s a => (raising s a).toOption) {calls calls' : List α}
    (hsame : ∀ a, a ∈ calls ↔ a ∈ calls') {s after : σ} (hfold : calls.foldlM raising s = .ok after) :
    calls'.foldlM raising s = .ok after := by
  have hagree : (calls'.foldlM raising s).toOption = some after := by
    rw [toOption_foldlM, ← h.foldlM_congr hsame, ← toOption_foldlM, hfold]
    rfl
  cases hfold' : calls'.foldlM raising s with
  | error e =>
    rw [hfold'] at hagree
    cases hagree
  | ok after' =>
    rw [hfold'] at hagree
    rw [Option.some.inj hagree]

end OpenTimeline.Library
