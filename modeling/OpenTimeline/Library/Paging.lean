import OpenTimeline.Library.Ranking

/-! Pages of a table.

A reader that keeps the place it has read to takes what comes after it in order, so many at a time. Up to its last
element a page leaves nothing out (`mem_page_of_le`), and what comes after that element is fewer by a page
(`countP_after_page`). -/
namespace OpenTimeline.Library
variable {α ο : Type} [LinearOrder ο] (key : α → ο)

/-- `WHERE key > place ORDER BY key LIMIT n` -/
def page (rows : List α) (place : ο) (n : Nat) : List α := (sortOn key (rows.filter fun a => place < key a)).take n

variable {key} {rows : List α} {place : ο} {n : Nat} {a last : α}

theorem mem_sortOn_filter : a ∈ sortOn key (rows.filter fun a => place < key a) ↔ a ∈ rows ∧ place < key a := by
  rw [(sortOn_perm key _).mem_iff, List.mem_filter, decide_eq_true_eq]

theorem mem_of_mem_page (h : a ∈ page key rows place n) : a ∈ rows ∧ place < key a :=
  mem_sortOn_filter.mp (List.mem_of_mem_take h)

/-- What a page leaves out is not before what it has. -/
theorem le_of_mem_drop (hlast : last ∈ page key rows place n)
    (ha : a ∈ (sortOn key (rows.filter fun a => place < key a)).drop n) : key last ≤ key a := by
  have hsorted := sortOn_sorted key (rows.filter fun a => place < key a)
  rw [← List.take_append_drop n (sortOn key _)] at hsorted
  exact (List.pairwise_append.mp hsorted).2.2 last hlast a ha

/-- A page leaves out nothing up to its last element. -/
theorem mem_page_of_le (hkey : ∀ a ∈ rows, ∀ b ∈ rows, key a = key b → a = b) (hlast : last ∈ page key rows place n)
    (ha : a ∈ rows) (hplace : place < key a) (hle : key a ≤ key last) : a ∈ page key rows place n := by
  have hmem := mem_sortOn_filter.mpr ⟨ha, hplace⟩
  rw [← List.take_append_drop n (sortOn key _)] at hmem
  obtain htake | hdrop := List.mem_append.mp hmem
  · exact htake
  · have heq : a = last :=
      hkey a ha last (mem_of_mem_page hlast).1 (le_antisymm hle (le_of_mem_drop hlast hdrop))
    exact heq ▸ hlast

/-- An empty page is one after everything. -/
theorem le_of_page_eq_nil (hn : 0 < n) (h : page key rows place n = []) : ∀ a ∈ rows, key a ≤ place := by
  intro a ha
  by_contra hlt
  have hmem := mem_sortOn_filter.mpr ⟨ha, not_le.mp hlt⟩
  obtain hzero | hnil := List.take_eq_nil_iff.mp h
  · omega
  · rw [hnil] at hmem
    cases hmem

theorem le_getLast (h : (page key rows place n).getLast? = some last) : ∀ a ∈ page key rows place n, key a ≤ key last := by
  intro a ha
  have hsorted : (page key rows place n).Pairwise fun a b => key a ≤ key b :=
    (sortOn_sorted key _).sublist (List.take_sublist _ _)
  obtain ⟨front, hfront⟩ := List.getLast?_eq_some_iff.mp h
  rw [hfront] at ha hsorted
  obtain hin | hin := List.mem_append.mp ha
  · exact (List.pairwise_append.mp hsorted).2.2 a hin last (List.mem_singleton_self last)
  · rw [List.mem_singleton.mp hin]

/-- After a page there are fewer left. -/
theorem countP_after_page (h : (page key rows place n).getLast? = some last) :
    rows.countP (fun a => key last < key a) ≤ rows.countP (fun a => place < key a) - n := by
  have hlast : place < key last := (mem_of_mem_page (List.mem_of_getLast? h)).2
  have hfilter : rows.countP (fun a => key last < key a) =
      (sortOn key (rows.filter fun a => place < key a)).countP fun a => key last < key a := by
    rw [(sortOn_perm key _).countP_eq, List.countP_filter]
    refine List.countP_congr fun a _ => ?_
    simp only [decide_eq_true_eq, Bool.and_eq_true]
    exact ⟨fun hlt => ⟨hlt, hlast.trans hlt⟩, fun hboth => hboth.1⟩
  have hnone : (page key rows place n).countP (fun a => key last < key a) = 0 := by
    rw [List.countP_eq_zero]
    intro a ha
    simpa using le_getLast h a ha
  calc rows.countP (fun a => key last < key a)
      = (page key rows place n).countP (fun a => key last < key a) +
          ((sortOn key (rows.filter fun a => place < key a)).drop n).countP fun a => key last < key a := by
        rw [hfilter, ← List.countP_append, page, List.take_append_drop]
    _ ≤ ((sortOn key (rows.filter fun a => place < key a)).drop n).length := by
        rw [hnone, Nat.zero_add]
        exact List.countP_le_length
    _ = rows.countP (fun a => place < key a) - n := by
        rw [List.length_drop, (sortOn_perm key _).length_eq, List.countP_eq_length_filter]

end OpenTimeline.Library
