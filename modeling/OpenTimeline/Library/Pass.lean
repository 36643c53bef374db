import Mathlib

/-! Passes of independent turns.

A pass takes a turn for each of a list of keys, and a turn touches only what the state
holds under its own key. Over distinct keys the pass then does to every key what its own
turn would do alone, whatever the order (`Independent.foldl_of_mem`). -/
namespace OpenTimeline.Library

/-- Each turn touches its own key's part of the state, and does `own` to it. -/
def Independent {σ ρ κ ν : Type} [DecidableEq κ] (turn : σ → ρ → σ) (key : ρ → κ) (part : σ → κ → ν)
    (own : ρ → ν → ν) : Prop :=
  ∀ s r k, part (turn s r) k = if k = key r then own r (part s k) else part s k

section
variable {σ ρ κ ν : Type} [DecidableEq κ] {turn : σ → ρ → σ} {key : ρ → κ} {part : σ → κ → ν}
  {own : ρ → ν → ν}

/-- A key no turn is for. -/
theorem Independent.foldl_of_notMem (h : Independent turn key part own) {k : κ} (rs : List ρ) (s : σ)
    (hk : k ∉ rs.map key) : part (rs.foldl turn s) k = part s k := by
  induction rs generalizing s with
  | nil => rfl
  | cons r rest ih =>
    rw [List.map_cons, List.mem_cons, not_or] at hk
    rw [List.foldl_cons, ih _ hk.2, h, if_neg hk.1]

/-- A key with a turn. -/
theorem Independent.foldl_of_mem (h : Independent turn key part own) {r : ρ} {rs : List ρ}
    (hnodup : (rs.map key).Nodup) (hr : r ∈ rs) (s : σ) :
    part (rs.foldl turn s) (key r) = own r (part s (key r)) := by
  induction rs generalizing s with
  | nil => cases hr
  | cons first rest ih =>
    rw [List.map_cons, List.nodup_cons] at hnodup
    rw [List.foldl_cons]
    rcases List.mem_cons.mp hr with rfl | hrest
    · rw [h.foldl_of_notMem rest _ hnodup.1, h, if_pos rfl]
    · have hne : key r ≠ key first := fun heq => hnodup.1 (heq ▸ List.mem_map_of_mem hrest)
      rw [ih hnodup.2 hrest, h, if_neg hne]

end
end OpenTimeline.Library
