import Mathlib

/-! Transition systems.

A system starts in some state and moves by actions, each of which is either not
possible or has one outcome; whatever else is undetermined is part of the action.
What holds at the start and is kept by every step holds in every reachable state
(`Reachable.invariant`). A restricted system takes only the steps that meet a
condition on the state before them and the action. -/
namespace OpenTimeline.Library

structure System (σ α : Type) where
  init : σ → Prop
  next : σ → α → Option σ

namespace System
variable {σ α : Type} (M : System σ α)

inductive Reachable : σ → Prop
  | init {s : σ} : M.init s → Reachable s
  | step {s s' : σ} {a : α} : Reachable s → M.next s a = some s' → Reachable s'

/-- The steps that meet `C`. -/
def restrict (C : σ → α → Prop) [∀ s a, Decidable (C s a)] : System σ α where
  init := M.init
  next s a := if C s a then M.next s a else none

/-- The states a list of actions leads to. -/
def run (s : σ) (actions : List α) : Option σ := actions.foldlM M.next s

variable {M}

/-- An invariant that may use what is already known of reachable states. -/
theorem Reachable.invariant {I : σ → Prop} (hinit : ∀ s, M.init s → I s)
    (hstep : ∀ s a s', M.Reachable s → I s → M.next s a = some s' → I s') {s : σ}
    (h : M.Reachable s) : I s := by
  induction h with
  | init hs => exact hinit _ hs
  | step hs hnext ih => exact hstep _ _ _ hs ih hnext

theorem Reachable.run {s s' : σ} (h : M.Reachable s) {actions : List α} (hrun : M.run s actions = some s') :
    M.Reachable s' := by
  induction actions generalizing s with
  | nil =>
    cases hrun
    exact h
  | cons a rest ih =>
    rw [System.run, List.foldlM_cons] at hrun
    obtain ⟨next, hnext, hrest⟩ := Option.bind_eq_some_iff.mp hrun
    exact ih (h.step hnext) hrest

/-- What every step keeps, a run keeps. -/
theorem run_keeps {I : σ → Prop} (hstep : ∀ s a s', I s → M.next s a = some s' → I s') {s s' : σ} {actions : List α}
    (hrun : M.run s actions = some s') (hs : I s) : I s' := by
  induction actions generalizing s with
  | nil =>
    cases hrun
    exact hs
  | cons a rest ih =>
    rw [System.run, List.foldlM_cons] at hrun
    obtain ⟨next, hnext, hrest⟩ := Option.bind_eq_some_iff.mp hrun
    exact ih hrest (hstep _ _ _ hs hnext)

/-- Where each step keeps `I` exactly under a condition, a run is in `I` throughout exactly where each of
its steps meets the condition. -/
theorem run_always_iff {I : σ → Prop} {C : σ → α → Prop}
    (hstep : ∀ s a s', M.Reachable s → I s → M.next s a = some s' → (I s' ↔ C s a)) {s s' : σ} {actions : List α}
    (hs : M.Reachable s) (hI : I s) (hrun : M.run s actions = some s') :
    (∀ before after mid, actions = before ++ after → M.run s before = some mid → I mid) ↔
      ∀ before a after mid, actions = before ++ a :: after → M.run s before = some mid → C mid a := by
  induction actions generalizing s with
  | nil =>
    refine ⟨fun _ before a after _ hsplit => absurd hsplit (by simp), fun _ before after mid hsplit hbefore => ?_⟩
    obtain ⟨rfl, -⟩ := List.append_eq_nil_iff.mp hsplit.symm
    cases hbefore
    exact hI
  | cons first rest ih =>
    rw [System.run, List.foldlM_cons] at hrun
    obtain ⟨next, hnext, hrest⟩ := Option.bind_eq_some_iff.mp hrun
    have hfirst : ∀ before, M.run s (first :: before) = M.run next before := by
      intro before
      rw [System.run, List.foldlM_cons, hnext]
      rfl
    have hkept := hstep s first next hs hI hnext
    constructor
    · intro h before a after mid hsplit hbefore
      have hnextI := h [first] rest next rfl (hfirst [])
      cases before with
      | nil =>
        obtain ⟨rfl, -⟩ := List.cons.inj hsplit
        cases hbefore
        exact hkept.mp hnextI
      | cons b before =>
        obtain ⟨rfl, htail⟩ := List.cons.inj hsplit
        refine (ih (hs.step hnext) hnextI hrest).mp ?_ before a after mid htail (hfirst before ▸ hbefore)
        intro before' after' mid' hsplit' hbefore'
        exact h (first :: before') after' mid' (by rw [hsplit']; rfl) (hfirst before' ▸ hbefore')
    · intro h before after mid hsplit hbefore
      have hnextI := hkept.mpr (h [] first rest s rfl rfl)
      cases before with
      | nil =>
        cases hbefore
        exact hI
      | cons b before =>
        obtain ⟨rfl, htail⟩ := List.cons.inj hsplit
        refine (ih (hs.step hnext) hnextI hrest).mpr ?_ before after mid htail (hfirst before ▸ hbefore)
        intro before' a' after' mid' hsplit' hbefore'
        exact h (first :: before') a' after' mid' (by rw [hsplit']; rfl) (hfirst before' ▸ hbefore')

theorem run_concat {s s' s'' : σ} {actions : List α} {a : α} (hrun : M.run s actions = some s')
    (hnext : M.next s' a = some s'') : M.run s (actions ++ [a]) = some s'' := by
  rw [System.run] at hrun ⊢
  simp [List.foldlM_append, hrun, hnext]

theorem restrict_next {C : σ → α → Prop} [∀ s a, Decidable (C s a)] {s s' : σ} {a : α}
    (h : (M.restrict C).next s a = some s') : C s a ∧ M.next s a = some s' := by
  simp only [restrict] at h
  split_ifs at h with hC
  exact ⟨hC, h⟩

theorem Reachable.of_restrict {C : σ → α → Prop} [∀ s a, Decidable (C s a)] {s : σ}
    (h : (M.restrict C).Reachable s) : M.Reachable s := by
  induction h with
  | init hs => exact .init hs
  | step _ hnext ih => exact ih.step (restrict_next hnext).2

theorem restrict_run {C : σ → α → Prop} [∀ s a, Decidable (C s a)] {s s' : σ} {actions : List α}
    (h : (M.restrict C).run s actions = some s') : M.run s actions = some s' := by
  induction actions generalizing s with
  | nil => exact h
  | cons a rest ih =>
    rw [System.run, List.foldlM_cons] at h ⊢
    obtain ⟨next, hnext, hrest⟩ := Option.bind_eq_some_iff.mp h
    rw [(restrict_next hnext).2]
    exact ih hrest

end System
end OpenTimeline.Library
