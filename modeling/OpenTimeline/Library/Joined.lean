import Mathlib

/-! Texts joined by a separator.

A list of texts is joined with a separator between one and the next. What is joined can be cut again where none of the
texts has the separator in it; and where one has, another list of as many texts is joined to the same
(`joined_own_iff`). -/
namespace OpenTimeline.Library
variable {α : Type} [DecidableEq α] {sep : α}

theorem count_intercalate (sep : α) {parts : List (List α)} (hne : parts ≠ []) :
    ([sep].intercalate parts).count sep + 1 = parts.length + (parts.map (·.count sep)).sum := by
  induction parts with
  | nil => exact absurd rfl hne
  | cons part rest ih =>
    cases rest with
    | nil => simp [Nat.add_comm]
    | cons next rest =>
      have htail := ih (List.cons_ne_nil _ _)
      rw [List.intercalate_cons_cons, List.count_append, List.count_append, List.count_singleton_self,
        List.map_cons, List.sum_cons, List.length_cons]
      omega

/-- Texts without the separator are the only ones of their number that are joined as they are. -/
theorem eq_of_joined_eq {parts parts' : List (List α)} (hlength : parts'.length = parts.length)
    (hfree : ∀ part ∈ parts, sep ∉ part) (h : [sep].intercalate parts' = [sep].intercalate parts) : parts' = parts := by
  rcases eq_or_ne parts [] with rfl | hne
  · exact List.eq_nil_of_length_eq_zero hlength
  have hne' : parts' ≠ [] := by
    rintro rfl
    exact hne (List.eq_nil_of_length_eq_zero hlength.symm)
  have hnone : (parts.map (·.count sep)).sum = 0 := by
    rw [List.sum_eq_zero_iff]
    intro n hn
    obtain ⟨part, hpart, rfl⟩ := List.mem_map.mp hn
    exact List.count_eq_zero.mpr (hfree part hpart)
  have hcount := count_intercalate sep hne
  have hcount' := count_intercalate sep hne'
  rw [h, hlength] at hcount'
  have hfree' : ∀ part ∈ parts', sep ∉ part := by
    intro part hpart
    refine List.count_eq_zero.mp ?_
    have hzero : (parts'.map (·.count sep)).sum = 0 := by omega
    exact List.sum_eq_zero_iff.mp hzero _ (List.mem_map_of_mem hpart)
  rw [← List.splitOn_intercalate sep hfree' hne', h, List.splitOn_intercalate sep hfree hne]

omit [DecidableEq α] in
/-- Two neighbours of which one has the separator are joined as two others are. -/
theorem exists_joined_pair {p q : List α} (h : sep ∈ p ∨ sep ∈ q) :
    ∃ p' q', p' ≠ p ∧ p' ++ sep :: q' = p ++ sep :: q := by
  rcases h with hp | hq
  · obtain ⟨before, after, rfl⟩ := List.append_of_mem hp
    refine ⟨before, after ++ sep :: q, ?_, by simp⟩
    intro heq
    have := congrArg List.length heq
    simp at this
  · obtain ⟨before, after, rfl⟩ := List.append_of_mem hq
    refine ⟨p ++ sep :: before, after, ?_, by simp⟩
    intro heq
    have := congrArg List.length heq
    simp at this

theorem exists_joined {parts : List (List α)} (htwo : 2 ≤ parts.length) (h : ∃ part ∈ parts, sep ∈ part) :
    ∃ parts', parts'.length = parts.length ∧ parts' ≠ parts ∧ [sep].intercalate parts' = [sep].intercalate parts := by
  induction parts with
  | nil => simp at htwo
  | cons p rest ih =>
    cases rest with
    | nil => simp at htwo
    | cons q rest =>
      by_cases hpair : sep ∈ p ∨ sep ∈ q
      · obtain ⟨p', q', hne, hjoined⟩ := exists_joined_pair hpair
        refine ⟨p' :: q' :: rest, by simp, fun heq => hne (List.cons.inj heq).1, ?_⟩
        cases rest with
        | nil => simpa [List.intercalate_cons_cons] using hjoined
        | cons r rest =>
          rw [List.intercalate_cons_cons, List.intercalate_cons_cons, List.intercalate_cons_cons,
            List.intercalate_cons_cons]
          have hjoined' := congrArg (· ++ ([sep] ++ [sep].intercalate (r :: rest))) hjoined
          simpa using hjoined'
      · obtain ⟨hp, hq⟩ := not_or.mp hpair
        cases rest with
        | nil =>
          obtain ⟨part, hpart, hsep⟩ := h
          rw [List.mem_pair] at hpart
          rcases hpart with rfl | rfl
          · exact absurd hsep hp
          · exact absurd hsep hq
        | cons r rest =>
          have hrest : ∃ part ∈ q :: r :: rest, sep ∈ part := by
            obtain ⟨part, hpart, hsep⟩ := h
            rcases List.mem_cons.mp hpart with rfl | htail
            · exact absurd hsep hp
            · exact ⟨part, htail, hsep⟩
          obtain ⟨parts', hlength, hne, hjoined⟩ := ih (by simp) hrest
          cases parts' with
          | nil => simp at hlength
          | cons first others =>
            refine ⟨p :: first :: others, by simpa using hlength, fun heq => hne (List.cons.inj heq).2, ?_⟩
            rw [List.intercalate_cons_cons, List.intercalate_cons_cons, hjoined]

/-- Two texts or more are joined as no others of their number are exactly where none has the separator. -/
theorem joined_own_iff {parts : List (List α)} (htwo : 2 ≤ parts.length) :
    (∀ parts' : List (List α), parts'.length = parts.length → [sep].intercalate parts' = [sep].intercalate parts →
      parts' = parts) ↔ ∀ part ∈ parts, sep ∉ part := by
  constructor
  · intro hown part hpart hsep
    obtain ⟨parts', hlength, hne, hjoined⟩ := exists_joined htwo ⟨part, hpart, hsep⟩
    exact hne (hown parts' hlength hjoined)
  · intro hfree parts' hlength hjoined
    exact eq_of_joined_eq hlength hfree hjoined

end OpenTimeline.Library
