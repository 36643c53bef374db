import Mathlib

/-! Machines that answer their calls.

Each call moves the state and has an answer. A change of the state that commutes with every
call of a run is seen in none of its answers, whenever it is made (`answers_commute`). -/
namespace OpenTimeline.Library

variable {σ α β : Type} (step : σ → α → σ × β)

/-- Where a list of calls leads, and what each of them answers. -/
def answers : σ → List α → σ × List β
  | s, [] => (s, [])
  | s, a :: rest =>
    let later := answers (step s a).1 rest
    (later.1, (step s a).2 :: later.2)

variable {step}

/-- A change that commutes with every call of a run is seen in none of its answers. -/
theorem answers_commute {change : σ → σ} {C : σ → α → Prop}
    (hstep : ∀ s a, C s a → step (change s) a = (change (step s a).1, (step s a).2)) {s : σ} {calls : List α}
    (h : ∀ before a after, calls = before ++ a :: after → C (answers step s before).1 a) :
    answers step (change s) calls = (change (answers step s calls).1, (answers step s calls).2) := by
  induction calls generalizing s with
  | nil => rfl
  | cons a rest ih =>
    have hfirst := hstep s a (h [] a rest rfl)
    have hrest := @ih (step s a).1 fun before b after hsplit => h (a :: before) b after (by rw [hsplit]; rfl)
    simp only [answers, hfirst, hrest]

end OpenTimeline.Library
