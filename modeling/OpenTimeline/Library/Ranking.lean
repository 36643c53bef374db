import Mathlib

/-! Places in a stable sort.

A stable sort puts before an element what is less than it, and what is level with it and
came before it (`idxOf_insertionSort`). So which elements are among the first `n` of a
sorted list can be told from the list as it was (`mem_take_insertionSort_iff`). -/
namespace OpenTimeline.Library
variable {α ο : Type} [LinearOrder ο] (key : α → ο)

/-- `ORDER BY key` -/
def sortOn (l : List α) : List α := l.insertionSort fun a b => key a ≤ key b

theorem sortOn_perm (l : List α) : (sortOn key l).Perm l := List.perm_insertionSort _ l

theorem sortOn_sorted (l : List α) : (sortOn key l).Pairwise fun a b => key a ≤ key b :=
  List.pairwise_insertionSort _ l

variable [DecidableEq α]

/-- How many elements come before `a`. -/
def rank (l : List α) (a : α) : Nat :=
  l.countP (fun b => key b < key a) + (l.takeWhile (· ≠ a)).countP fun b => key b = key a

variable {key}

/-- An element is put before what is level with it. -/
theorem idxOf_orderedInsert_self {a : α} {l : List α} (hsorted : l.Pairwise fun a b => key a ≤ key b) (ha : a ∉ l) :
    (l.orderedInsert (fun a b => key a ≤ key b) a).idxOf a = l.countP fun b => key b < key a := by
  induction l with
  | nil => simp
  | cons b rest ih =>
    rw [List.pairwise_cons] at hsorted
    rw [List.mem_cons, not_or] at ha
    rw [List.orderedInsert_cons]
    split_ifs with hle
    · have hrest : rest.countP (fun c => key c < key a) = 0 := by
        rw [List.countP_eq_zero]
        exact fun c hc => by simpa using hle.trans (hsorted.1 c hc)
      simp [hrest, not_lt.mpr hle]
    · rw [List.idxOf_cons_ne _ (Ne.symm ha.1), ih hsorted.2 ha.2]
      simp [not_le.mp hle]

theorem idxOf_orderedInsert {a b : α} {l : List α} (hsorted : l.Pairwise fun a b => key a ≤ key b) (ha : a ∈ l)
    (hne : b ≠ a) :
    (l.orderedInsert (fun a b => key a ≤ key b) b).idxOf a = l.idxOf a + if key b ≤ key a then 1 else 0 := by
  induction l with
  | nil => cases ha
  | cons c rest ih =>
    rw [List.pairwise_cons] at hsorted
    rw [List.orderedInsert_cons]
    split_ifs with hle hba hba
    · rw [List.idxOf_cons_ne _ hne]
    · refine absurd (hle.trans ?_) hba
      rcases List.mem_cons.mp ha with rfl | hrest
      · exact le_rfl
      · exact hsorted.1 a hrest
    · have hca : c ≠ a := fun heq => hle (heq ▸ hba)
      have hrest : a ∈ rest := List.mem_of_ne_of_mem hca.symm ha
      rw [List.idxOf_cons_ne _ hca, List.idxOf_cons_ne _ hca, ih hsorted.2 hrest, if_pos hba]
    · by_cases hca : c = a
      · rw [hca, List.idxOf_cons_self, List.idxOf_cons_self]
      · have hrest : a ∈ rest := List.mem_of_ne_of_mem (Ne.symm hca) ha
        rw [List.idxOf_cons_ne _ hca, List.idxOf_cons_ne _ hca, ih hsorted.2 hrest, if_neg hba]

theorem idxOf_sortOn {l : List α} (hnodup : l.Nodup) {a : α} (ha : a ∈ l) : (sortOn key l).idxOf a = rank key l a := by
  induction l with
  | nil => cases ha
  | cons b rest ih =>
    rw [List.nodup_cons] at hnodup
    have hsorted := sortOn_sorted key rest
    show ((sortOn key rest).orderedInsert _ b).idxOf a = _
    by_cases hab : b = a
    · subst hab
      rw [idxOf_orderedInsert_self hsorted (mt (sortOn_perm key rest).mem_iff.mp hnodup.1), rank,
        (sortOn_perm key rest).countP_eq]
      simp
    · have hrest : a ∈ rest := List.mem_of_ne_of_mem (Ne.symm hab) ha
      rw [idxOf_orderedInsert hsorted ((sortOn_perm key rest).mem_iff.mpr hrest) hab, ih hnodup.2 hrest, rank, rank,
        List.takeWhile_cons_of_pos (by simpa using hab), List.countP_cons, List.countP_cons]
      rcases lt_trichotomy (key b) (key a) with hlt | heq | hgt
      · simp [hlt, hlt.le, hlt.ne]
        omega
      · simp [heq]
        omega
      · simp [hgt.not_ge, hgt.not_gt, hgt.ne']

/-- Which elements are among the first `n`. -/
theorem mem_take_sortOn_iff {l : List α} (hnodup : l.Nodup) {a : α} (ha : a ∈ l) {n : Nat} :
    a ∈ (sortOn key l).take n ↔ rank key l a < n := by
  rw [List.mem_take_iff_idxOf_lt ((sortOn_perm key l).mem_iff.mpr ha), idxOf_sortOn hnodup ha]

end OpenTimeline.Library
