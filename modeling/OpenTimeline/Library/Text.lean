import Mathlib

/-! Strings joined by a separator. -/
namespace OpenTimeline.Library

theorem length_intercalate (sep : String) {parts : List String} (hne : parts ≠ []) :
    (sep.intercalate parts).length + sep.length = (parts.map fun s => s.length + sep.length).sum := by
  induction parts with
  | nil => exact absurd rfl hne
  | cons s rest ih =>
    rcases rest with _ | ⟨t, rest⟩
    · simp
    · have htail := ih (by simp)
      rw [String.intercalate_cons_cons, String.length_append, String.length_append, List.map_cons,
        List.sum_cons, ← htail]
      omega

/-- Leaving parts out of a joined text shortens it. -/
theorem length_intercalate_lt (sep : String) (hsep : sep ≠ "") {parts parts' : List String}
    (hsub : parts.Sublist parts') (hne : parts ≠ []) (hlt : parts.length < parts'.length) :
    (sep.intercalate parts).length < (sep.intercalate parts').length := by
  have hne' : parts' ≠ [] := by
    rintro rfl
    simp at hlt
  obtain ⟨left, hperm⟩ := hsub.exists_perm_append
  have hsum := (hperm.map fun s : String => s.length + sep.length).sum_eq
  rw [List.map_append, List.sum_append, ← length_intercalate sep hne, ← length_intercalate sep hne'] at hsum
  have hlength := hperm.length_eq
  rw [List.length_append] at hlength
  have hpos : 0 < sep.length := Nat.pos_of_ne_zero fun h => hsep (String.length_eq_zero_iff.mp h)
  cases left with
  | nil => simp at hlength; omega
  | cons s left =>
    rw [List.map_cons, List.sum_cons] at hsum
    omega

end OpenTimeline.Library
