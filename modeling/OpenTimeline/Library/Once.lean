import Mathlib

/-! Entering each of a list once.

Each turn of a fold enters its element under a key, unless the key is taken; a row that is
there stays (`EntersOnce`). So after the fold every element finds a row that fits it if and
only if those that were there fit, as long as no two elements have one key
(`EntersOnce.foldl_fits_iff`). -/
namespace OpenTimeline.Library
variable {σ α κ ρ : Type}

structure EntersOnce (turn : σ → α → σ) (look : σ → κ → Option ρ) (key : α → κ) (Fits : α → ρ → Prop) : Prop where
  keeps : ∀ s a k r, look s k = some r → look (turn s a) k = some r
  others : ∀ s a k, k ≠ key a → look (turn s a) k = look s k
  enters : ∀ s a, look s (key a) = none → ∃ r, look (turn s a) (key a) = some r ∧ Fits a r

namespace EntersOnce
variable {turn : σ → α → σ} {look : σ → κ → Option ρ} {key : α → κ} {Fits : α → ρ → Prop}
  (h : EntersOnce turn look key Fits)
include h

theorem foldl_keeps {k : κ} {r : ρ} (l : List α) {s : σ} (hr : look s k = some r) :
    look (l.foldl turn s) k = some r := by
  induction l generalizing s with
  | nil => exact hr
  | cons a rest ih => exact ih (h.keeps s a k r hr)

theorem foldl_others {k : κ} {l : List α} (s : σ) (hk : k ∉ l.map key) : look (l.foldl turn s) k = look s k := by
  induction l generalizing s with
  | nil => rfl
  | cons a rest ih =>
    rw [List.map_cons, List.mem_cons, not_or] at hk
    rw [List.foldl_cons, ih _ hk.2, h.others s a k hk.1]

/-- An element whose key was free. -/
theorem foldl_enters {l : List α} {a : α} (hnodup : (l.map key).Nodup) (ha : a ∈ l) {s : σ}
    (hfree : look s (key a) = none) : ∃ r, look (l.foldl turn s) (key a) = some r ∧ Fits a r := by
  induction l generalizing s with
  | nil => cases ha
  | cons b rest ih =>
    rw [List.map_cons, List.nodup_cons] at hnodup
    rw [List.foldl_cons]
    rcases List.mem_cons.mp ha with rfl | hrest
    · obtain ⟨r, hr, hfits⟩ := h.enters s a hfree
      exact ⟨r, h.foldl_keeps rest hr, hfits⟩
    · have hne : key a ≠ key b := fun heq => hnodup.1 (heq ▸ List.mem_map_of_mem hrest)
      exact ih hnodup.2 hrest ((h.others s b _ hne).trans hfree)

theorem foldl_fits_iff {l : List α} (hnodup : (l.map key).Nodup) (s : σ) :
    (∀ a ∈ l, ∃ r, look (l.foldl turn s) (key a) = some r ∧ Fits a r) ↔
      ∀ a ∈ l, ∀ r, look s (key a) = some r → Fits a r := by
  constructor
  · intro hall a ha r hr
    obtain ⟨r', hr', hfits⟩ := hall a ha
    rw [h.foldl_keeps l hr] at hr'
    cases hr'
    exact hfits
  · intro hthere a ha
    cases hfind : look s (key a) with
    | none => exact h.foldl_enters hnodup ha hfind
    | some r => exact ⟨r, h.foldl_keeps l hfind, hthere a ha r hfind⟩

/-- After the fold no key is free. -/
theorem foldl_taken {l : List α} {a : α} (ha : a ∈ l) (s : σ) : look (l.foldl turn s) (key a) ≠ none := by
  induction l generalizing s with
  | nil => cases ha
  | cons b rest ih =>
    rcases List.mem_cons.mp ha with rfl | hrest
    · have htaken : ∃ r, look (turn s a) (key a) = some r := by
        cases hfind : look s (key a) with
        | none =>
          obtain ⟨r, hr, _⟩ := h.enters s a hfind
          exact ⟨r, hr⟩
        | some r => exact ⟨r, h.keeps s a _ r hfind⟩
      obtain ⟨r, hr⟩ := htaken
      rw [List.foldl_cons, h.foldl_keeps rest hr]
      exact Option.some_ne_none r
    · exact ih hrest _

end EntersOnce
end OpenTimeline.Library
