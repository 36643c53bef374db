import Mathlib

/-! Accounts of what is handed over.

A payload is handed over under a key and waits there until it is delivered, or lost with a
note that names the key. Whatever the order of the steps, each payload handed over waits,
was delivered or is noted (`Accounted`). Of the three only one holds where the steps are
careful: no noted key is handed over again, and only what waits is noted (`Exclusive`). -/
namespace OpenTimeline.Library

@[ext] structure Ledger (K P : Type) where
  /-- what was last handed over -/
  given : K → Option P
  waiting : K → Option P
  /-- the keys whose payload has left by a delivery -/
  delivered : Set K
  /-- the keys that a note names -/
  lost : Set K

namespace Ledger
variable {K P : Type} [DecidableEq K] (l : Ledger K P)

def put (k : K) (p : P) : Ledger K P where
  given := Function.update l.given k (some p)
  waiting := Function.update l.waiting k (some p)
  delivered := l.delivered \ {k}
  lost := l.lost

/-- A delivery of what waits under a key, if anything does. -/
def deliver (k : K) : Ledger K P where
  given := l.given
  waiting := Function.update l.waiting k none
  delivered := {k' | k' ∈ l.delivered ∨ k' = k ∧ (l.waiting k).isSome}
  lost := l.lost

def lose (k : K) : Ledger K P where
  given := l.given
  waiting := Function.update l.waiting k none
  delivered := l.delivered
  lost := insert k l.lost

inductive Step (careful : Prop) : Ledger K P → Ledger K P → Prop
  | put {l : Ledger K P} (k : K) (p : P) : (careful → k ∉ l.lost) → Step careful l (l.put k p)
  | deliver (l : Ledger K P) (k : K) : Step careful l (l.deliver k)
  | lose {l : Ledger K P} (k : K) : (careful → (l.waiting k).isSome) → Step careful l (l.lose k)

/-- The steps of one operation. -/
def Steps (careful : Prop) : Ledger K P → Ledger K P → Prop := Relation.ReflTransGen (Step careful)

structure Accounted : Prop where
  account : ∀ k p, l.given k = some p → l.waiting k = some p ∨ k ∈ l.delivered ∨ k ∈ l.lost
  gone : ∀ k ∈ l.delivered, l.waiting k = none

def Exclusive : Prop := ∀ k ∈ l.lost, (l.given k).isSome → l.waiting k = none ∧ k ∉ l.delivered

variable {l} {l' : Ledger K P} {k : K} {p : P}

theorem Accounted.put (h : l.Accounted) : (l.put k p).Accounted := by
  refine ⟨fun k' p' hgiven => ?_, fun k' hdelivered => ?_⟩
  · by_cases hk : k' = k
    · subst hk
      exact Or.inl (by simpa [Ledger.put] using hgiven)
    · have hold : l.given k' = some p' := by simpa [Ledger.put, hk] using hgiven
      simpa [Ledger.put, hk] using h.account k' p' hold
  · have hk : k' ≠ k := hdelivered.2
    simpa [Ledger.put, hk] using h.gone k' hdelivered.1

theorem Accounted.deliver (h : l.Accounted) : (l.deliver k).Accounted := by
  refine ⟨fun k' p' hgiven => ?_, fun k' hdelivered => ?_⟩
  · obtain hwaiting | hdelivered | hlost := h.account k' p' hgiven
    · by_cases hk : k' = k
      · subst hk
        exact Or.inr (Or.inl (Or.inr ⟨rfl, by simp [hwaiting]⟩))
      · exact Or.inl (by simpa [Ledger.deliver, hk] using hwaiting)
    · exact Or.inr (Or.inl (Or.inl hdelivered))
    · exact Or.inr (Or.inr hlost)
  · by_cases hk : k' = k
    · simp [Ledger.deliver, hk]
    · obtain hold | ⟨heq, _⟩ := hdelivered
      · simpa [Ledger.deliver, hk] using h.gone k' hold
      · exact absurd heq hk

theorem Accounted.lose (h : l.Accounted) : (l.lose k).Accounted := by
  refine ⟨fun k' p' hgiven => ?_, fun k' hdelivered => ?_⟩
  · by_cases hk : k' = k
    · exact Or.inr (Or.inr (Or.inl hk))
    · obtain hwaiting | hdelivered | hlost := h.account k' p' hgiven
      · exact Or.inl (by simpa [Ledger.lose, hk] using hwaiting)
      · exact Or.inr (Or.inl hdelivered)
      · exact Or.inr (Or.inr (Or.inr hlost))
  · by_cases hk : k' = k
    · simp [Ledger.lose, hk]
    · simpa [Ledger.lose, hk] using h.gone k' hdelivered

theorem Accounted.step {careful : Prop} (h : l.Accounted) (hstep : Step careful l l') : l'.Accounted := by
  cases hstep with
  | put => exact h.put
  | deliver => exact h.deliver
  | lose => exact h.lose

theorem Accounted.steps {careful : Prop} (h : l.Accounted) (hsteps : Steps careful l l') : l'.Accounted := by
  induction hsteps with
  | refl => exact h
  | tail _ hstep ih => exact ih.step hstep

theorem Exclusive.put (h : l.Exclusive) (hk : k ∉ l.lost) : (l.put k p).Exclusive := by
  intro k' hlost hgiven
  have hne : k' ≠ k := by
    rintro rfl
    exact hk hlost
  obtain ⟨hwaiting, hdelivered⟩ := h k' hlost (by simpa [Ledger.put, hne] using hgiven)
  refine ⟨by simpa [Ledger.put, hne] using hwaiting, ?_⟩
  exact fun hput => hdelivered hput.1

theorem Exclusive.deliver (h : l.Exclusive) : (l.deliver k).Exclusive := by
  intro k' hlost hgiven
  obtain ⟨hwaiting, hdelivered⟩ := h k' hlost hgiven
  refine ⟨?_, ?_⟩
  · by_cases hk : k' = k
    · simp [Ledger.deliver, hk]
    · simpa [Ledger.deliver, hk] using hwaiting
  · rintro (hold | ⟨rfl, hsome⟩)
    · exact hdelivered hold
    · rw [hwaiting] at hsome
      cases hsome

theorem Exclusive.lose (h : l.Exclusive) (haccounted : l.Accounted) (hk : (l.waiting k).isSome) :
    (l.lose k).Exclusive := by
  intro k' hlost hgiven
  by_cases heq : k' = k
  · subst heq
    refine ⟨by simp [Ledger.lose], fun hdelivered => ?_⟩
    rw [haccounted.gone k' hdelivered] at hk
    cases hk
  · obtain hsame | hold := hlost
    · exact absurd hsame heq
    · obtain ⟨hwaiting, hdelivered⟩ := h k' hold hgiven
      exact ⟨by simpa [Ledger.lose, heq] using hwaiting, hdelivered⟩

theorem Exclusive.step {careful : Prop} (h : l.Exclusive) (haccounted : l.Accounted) (hcareful : careful)
    (hstep : Step careful l l') : l'.Exclusive := by
  cases hstep with
  | put _ _ hfresh => exact h.put (hfresh hcareful)
  | deliver => exact h.deliver
  | lose _ hwaiting => exact h.lose haccounted (hwaiting hcareful)

theorem Exclusive.steps {careful : Prop} (h : l.Exclusive) (haccounted : l.Accounted) (hcareful : careful)
    (hsteps : Steps careful l l') : l'.Exclusive := by
  induction hsteps with
  | refl => exact h
  | tail hbefore hstep ih => exact ih.step (haccounted.steps hbefore) hcareful hstep

end Ledger
end OpenTimeline.Library
