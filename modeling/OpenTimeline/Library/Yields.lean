import Mathlib

/-! A computation that may fail, and the value it has where it does not.

`Yields x P a`: `x` returns `a` where `P` holds, and fails where it does not. A computation put together of
such parts is one too, and so is a loop over them. -/
namespace OpenTimeline.Library

variable {ε α β σ : Type}

/-- `x` returns `a` if `P` holds, and fails otherwise. -/
def Yields (x : Except ε α) (P : Prop) (a : α) : Prop := ∀ b, x = .ok b ↔ P ∧ b = a

namespace Yields
variable {x : Except ε α} {P Q : Prop} {a : α}

theorem returns_iff (h : Yields x P a) : (∃ b, x = .ok b) ↔ P :=
  ⟨fun ⟨b, hb⟩ => ((h b).mp hb).1, fun hP => ⟨a, (h a).mpr ⟨hP, rfl⟩⟩⟩

theorem eq_ok (h : Yields x P a) (hP : P) : x = .ok a := (h a).mpr ⟨hP, rfl⟩

/-- Two computations that come to the same, and fail alike. -/
theorem eq_of_error {y : Except ε α} {e : ε} (hx : Yields x P a) (hy : Yields y P a) (hex : ∀ e', x = .error e' → e' = e)
    (hey : ∀ e', y = .error e' → e' = e) : x = y := by
  cases x with
  | ok b =>
    obtain ⟨hP, rfl⟩ := (hx b).mp rfl
    exact (hy.eq_ok hP).symm
  | error e' =>
    cases y with
    | ok b => cases hx.eq_ok ((hy b).mp rfl).1
    | error e'' => rw [hex e' rfl, hey e'' rfl]

theorem congr (h : Yields x P a) (hPQ : P ↔ Q) : Yields x Q a := fun b => by rw [h b, hPQ]

theorem ok (a : α) : Yields (.ok a : Except ε α) True a := by
  intro b
  rw [Except.ok.injEq, true_and]
  exact eq_comm

theorem pure (a : α) : Yields (Pure.pure a : Except ε α) True a := ok a

theorem error {e : ε} (hP : ¬P) : Yields (.error e : Except ε α) P a := by
  intro b
  constructor
  · intro h
    cases h
  · intro h
    exact absurd h.1 hP

theorem bind (h : Yields x P a) {f : α → Except ε β} {b : β} (hf : Yields (f a) Q b) : Yields (x >>= f) (P ∧ Q) b := by
  intro c
  cases x with
  | error e =>
    have hP : ¬P := fun hP => by cases h.eq_ok hP
    exact error (fun hboth => hP hboth.1) c
  | ok a' =>
    obtain ⟨hP, rfl⟩ := (h a').mp rfl
    rw [show (Except.ok a' >>= f) = f a' from rfl, hf c]
    simp only [hP, true_and]

/-- What follows does not fail. -/
theorem bind_ok (h : Yields x P a) {f : α → Except ε β} {b : β} (hf : f a = .ok b) : Yields (x >>= f) P b :=
  (h.bind (hf ▸ ok b)).congr (by rw [and_true])

theorem map (h : Yields x P a) (f : α → β) : Yields (x >>= fun b => Pure.pure (f b)) P (f a) := h.bind_ok rfl

theorem mapM {f : α → Except ε β} {P : α → Prop} {g : α → β} (h : ∀ a, Yields (f a) (P a) (g a)) (l : List α) :
    Yields (l.mapM f) (∀ a ∈ l, P a) (l.map g) := by
  induction l with
  | nil => exact (pure []).congr (by simp)
  | cons a rest ih =>
    rw [List.mapM_cons]
    refine ((h a).bind (ih.map (g a :: ·))).congr ?_
    rw [List.forall_mem_cons]

/-- A loop that fails at the first element that does. -/
theorem forM {f : α → Except ε PUnit} {P : α → Prop} (h : ∀ a, Yields (f a) (P a) PUnit.unit) (l : List α) :
    Yields (forM l f) (∀ a ∈ l, P a) PUnit.unit := by
  induction l with
  | nil => exact (pure PUnit.unit).congr (by simp)
  | cons a rest ih =>
    rw [List.forM_cons]
    refine ((h a).bind ih).congr ?_
    rw [List.forall_mem_cons]

/-- A fold, whose steps are asked in the states the steps before leave. -/
theorem foldlM {f : σ → α → Except ε σ} {P : σ → α → Prop} {g : σ → α → σ} (h : ∀ s a, Yields (f s a) (P s a) (g s a))
    (l : List α) (s : σ) :
    Yields (l.foldlM f s) (∀ before a after, l = before ++ a :: after → P (before.foldl g s) a) (l.foldl g s) := by
  induction l generalizing s with
  | nil => exact (pure s).congr (by simp)
  | cons a rest ih =>
    rw [List.foldlM_cons]
    refine ((h s a).bind (ih (g s a))).congr ⟨?_, ?_⟩
    · rintro ⟨hfirst, hrest⟩ before b after heq
      cases before with
      | nil =>
        obtain ⟨rfl, -⟩ := List.cons.inj heq
        exact hfirst
      | cons c before =>
        obtain ⟨rfl, htail⟩ := List.cons.inj heq
        exact hrest before b after htail
    · intro hall
      exact ⟨hall [] a rest rfl, fun before b after heq => hall (a :: before) b after (congrArg (a :: ·) heq)⟩

end Yields
end OpenTimeline.Library
