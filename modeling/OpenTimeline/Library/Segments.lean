import Mathlib

/-! Texts in segments.

A text over any alphabet is split at a separator into segments. One text lies
`Under` another when it is that text or goes on from it with a separator, which is
to say that the other's segments are the first of its own (`under_iff`). Separators
at either end only make empty segments. -/
namespace OpenTimeline.Library

variable {α : Type} [DecidableEq α] {sep : α}

variable (sep) in
def Under (base text : List α) : Prop := text = base ∨ base ++ [sep] <+: text

instance (base text : List α) : Decidable (Under sep base text) := inferInstanceAs (Decidable (_ ∨ _))

theorem splitOn_injective {a b : List α} (h : a.splitOn sep = b.splitOn sep) : a = b := by
  have hjoin := congrArg (List.intercalate [sep]) h
  rwa [List.intercalate_splitOn, List.intercalate_splitOn] at hjoin

theorem not_mem_of_mem_splitOn {text segment : List α} (h : segment ∈ text.splitOn sep) :
    sep ∉ segment := by
  induction text generalizing segment with
  | nil => simp_all
  | cons a rest ih =>
    rw [List.splitOn_cons_eq_if_modifyHead] at h
    split_ifs at h with ha
    · rcases List.mem_cons.mp h with rfl | h
      · simp
      · exact ih h
    · obtain ⟨head, tail, hsplit⟩ := List.exists_cons_of_ne_nil (List.splitOn_ne_nil sep rest)
      rw [hsplit, List.modifyHead_cons] at h
      rcases List.mem_cons.mp h with rfl | h
      · have hhead := ih (hsplit ▸ List.mem_cons_self)
        simp only [beq_iff_eq] at ha
        exact fun hm => (List.mem_cons.mp hm).elim (fun he => ha he.symm) hhead
      · exact ih (hsplit ▸ List.mem_cons_of_mem _ h)

theorem under_iff {base text : List α} :
    Under sep base text ↔ base.splitOn sep <+: text.splitOn sep := by
  constructor
  · rintro (rfl | ⟨rest, rfl⟩)
    · exact List.prefix_rfl
    · rw [List.append_assoc, List.singleton_append, List.splitOn_append_cons_self]
      exact List.prefix_append _ _
  · rintro ⟨rest, hrest⟩
    cases rest with
    | nil => exact Or.inl (splitOn_injective (by rw [← hrest, List.append_nil]))
    | cons segment rest =>
      -- what follows the base's segments is the text after a separator
      refine Or.inr ⟨[sep].intercalate (segment :: rest), splitOn_injective (?_ : _ = List.splitOn sep _)⟩
      have hfree : ∀ s ∈ segment :: rest, sep ∉ s := fun s hs =>
        not_mem_of_mem_splitOn (hrest ▸ List.mem_append_right _ hs)
      rw [List.append_assoc, List.singleton_append, List.splitOn_append_cons_self,
        List.splitOn_intercalate sep hfree (by simp), hrest]

/-! ### Separators at the ends -/

section Ends
variable {keep : List α → Bool} (hkeep : keep [] = false)
include hkeep

theorem filter_splitOn_dropWhile (text : List α) :
    ((text.dropWhile (· = sep)).splitOn sep).filter keep = (text.splitOn sep).filter keep := by
  induction text with
  | nil => rfl
  | cons a rest ih =>
    by_cases ha : a = sep
    · rw [List.dropWhile_cons_of_pos (by simpa using ha), ih, List.splitOn_cons_eq_if_modifyHead,
        if_pos (by simpa using ha), List.filter_cons_of_neg (by simp [hkeep])]
    · rw [List.dropWhile_cons_of_neg (by simpa using ha)]

theorem filter_splitOn_rdropWhile (text : List α) :
    ((text.rdropWhile (· = sep)).splitOn sep).filter keep = (text.splitOn sep).filter keep := by
  induction text using List.reverseRecOn with
  | nil => rfl
  | append_singleton rest a ih =>
    by_cases ha : a = sep
    · subst ha
      rw [List.rdropWhile_concat_pos _ _ _ (by simp), ih, List.splitOn_append_cons_self, List.filter_append]
      simp [hkeep]
    · rw [List.rdropWhile_concat_neg _ _ _ (by simpa using ha)]

end Ends

/-! ### Trimmed texts -/

variable {p : α → Bool}

omit [DecidableEq α] in
theorem dropWhile_trim (text : List α) :
    ((text.dropWhile p).rdropWhile p).dropWhile p = (text.dropWhile p).rdropWhile p := by
  rw [List.dropWhile_eq_self_iff]
  intro hlen
  have hstart : (text.dropWhile p).rdropWhile p <+: text.dropWhile p := List.rdropWhile_prefix _ _
  rw [hstart.getElem hlen]
  exact List.dropWhile_get_zero_not _ _ _

omit [DecidableEq α] in
/-- Trimming both ends twice trims once. -/
theorem trim_trim (text : List α) :
    (((text.dropWhile p).rdropWhile p).dropWhile p).rdropWhile p = (text.dropWhile p).rdropWhile p := by
  rw [dropWhile_trim, List.rdropWhile_idempotent]

end OpenTimeline.Library
