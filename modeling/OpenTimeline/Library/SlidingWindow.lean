import Mathlib

/-! A window that slides over the times of what was admitted.

One more is admitted while fewer than `limit` times lie in the window of some width up to now. Only the times that may
still be in a window are kept, oldest first: at each call those at the front that have left it are dropped. Where the
clock does not go back, what is kept is the history cut at some time (`Keeps`), and so the decision is the one that
the whole history gives (`admitted_eq`). In no window are there more than `limit` then (`Keeps.admitted`). -/
namespace OpenTimeline.Library.SlidingWindow
variable {T : Type} [AddCommGroup T] [LinearOrder T]

/-- The times in the window up to `now`. -/
def inside (width now : T) (times : List T) : List T := times.filter fun t => now - width < t ∧ t ≤ now

/-- The decision, and what is kept. -/
def admitted (limit : Nat) (width now : T) (kept : List T) : Bool × List T :=
  let left := kept.dropWhile (· ≤ now - width)
  if limit ≤ left.length then (false, left) else (true, left ++ [now])

/-- What is kept of a history whose last call was at `last`. -/
structure Keeps (limit : Nat) (width last : T) (history kept : List T) : Prop where
  sorted : history.Pairwise (· ≤ ·)
  past : ∀ t ∈ history, t ≤ last
  cut : ∃ cutoff ≤ last - width, kept = history.filter (cutoff < ·)
  sparse : ∀ now, (inside width now history).length ≤ limit

variable {limit : Nat} {width last now : T} {history kept : List T}

omit [AddCommGroup T] in
theorem dropWhile_eq_filter (h : history.Pairwise (· ≤ ·)) (cutoff : T) :
    history.dropWhile (· ≤ cutoff) = history.filter (cutoff < ·) := by
  induction history with
  | nil => rfl
  | cons t rest ih =>
    obtain ⟨hle, hrest⟩ := List.pairwise_cons.mp h
    by_cases ht : t ≤ cutoff
    · rw [List.dropWhile_cons_of_pos (by simpa using ht), ih hrest, List.filter_cons_of_neg (by simpa using ht)]
    · rw [List.dropWhile_cons_of_neg (by simpa using ht), List.filter_eq_self.mpr]
      intro u hu
      simp only [decide_eq_true_eq]
      rcases List.mem_cons.mp hu with rfl | hu
      · exact lt_of_not_ge ht
      · exact (lt_of_not_ge ht).trans_le (hle u hu)

theorem inside_eq_filter (hpast : ∀ t ∈ history, t ≤ now) : inside width now history = history.filter (now - width < ·) := by
  refine List.filter_congr fun t ht => ?_
  simp [hpast t ht]

theorem Keeps.empty (limit : Nat) (width last : T) : Keeps limit width last [] [] where
  sorted := .nil
  past := by simp
  cut := ⟨last - width, le_rfl, rfl⟩
  sparse := by simp [inside]

theorem Keeps.refused (h : Keeps limit width last history kept) (hnow : last ≤ now) :
    Keeps limit width now history (inside width now history) where
  sorted := h.sorted
  past t ht := (h.past t ht).trans hnow
  cut := ⟨now - width, le_rfl, inside_eq_filter fun t ht => (h.past t ht).trans hnow⟩
  sparse := h.sparse

section Ordered
variable [IsOrderedAddMonoid T]

/-- What has left the window is what the cut leaves out. -/
theorem Keeps.dropWhile_kept (h : Keeps limit width last history kept) (hnow : last ≤ now) :
    kept.dropWhile (· ≤ now - width) = inside width now history := by
  obtain ⟨cutoff, hcutoff, rfl⟩ := h.cut
  have hle : cutoff ≤ now - width := hcutoff.trans (sub_le_sub_right hnow width)
  rw [dropWhile_eq_filter (h.sorted.filter _), inside_eq_filter fun t ht => (h.past t ht).trans hnow, List.filter_filter]
  refine List.filter_congr fun t _ => ?_
  simp only [decide_eq_decide, ← Bool.decide_and]
  exact and_iff_left_of_imp hle.trans_lt

/-- The decision is made on the whole history. -/
theorem admitted_eq (h : Keeps limit width last history kept) (hnow : last ≤ now) : admitted limit width now kept =
    if limit ≤ (inside width now history).length then (false, inside width now history)
    else (true, inside width now history ++ [now]) := by
  rw [admitted, h.dropWhile_kept hnow]

theorem Keeps.later (h : Keeps limit width last history kept) (hnow : last ≤ now) :
    Keeps limit width now history kept where
  sorted := h.sorted
  past t ht := (h.past t ht).trans hnow
  cut := by
    obtain ⟨cutoff, hcutoff, hkept⟩ := h.cut
    exact ⟨cutoff, hcutoff.trans (sub_le_sub_right hnow width), hkept⟩
  sparse := h.sparse

theorem Keeps.admitted (h : Keeps limit width last history kept) (hnow : last ≤ now) (hwidth : 0 < width)
    (hless : (inside width now history).length < limit) :
    Keeps limit width now (history ++ [now]) (inside width now history ++ [now]) where
  sorted := by
    refine List.pairwise_append.mpr ⟨h.sorted, List.pairwise_singleton _ _, fun t ht u hu => ?_⟩
    obtain rfl := List.mem_singleton.mp hu
    exact (h.past t ht).trans hnow
  past t ht := by
    rcases List.mem_append.mp ht with ht | ht
    · exact (h.past t ht).trans hnow
    · exact (List.mem_singleton.mp ht).le
  cut := by
    refine ⟨now - width, le_rfl, ?_⟩
    rw [List.filter_append, inside_eq_filter fun t ht => (h.past t ht).trans hnow]
    simp [hwidth]
  sparse later := by
    rw [inside, List.filter_append, List.length_append]
    by_cases hlater : now ≤ later
    · have hsub : (history.filter fun t => later - width < t ∧ t ≤ later).length ≤ (inside width now history).length := by
        rw [inside, ← List.countP_eq_length_filter, ← List.countP_eq_length_filter]
        refine List.countP_mono_left fun t ht hinside => ?_
        simp only [decide_eq_true_eq] at hinside ⊢
        exact ⟨(sub_le_sub_right hlater width).trans_lt hinside.1, (h.past t ht).trans hnow⟩
      have hlast : ([now].filter fun t => later - width < t ∧ t ≤ later).length ≤ 1 := List.length_filter_le _ _
      omega
    · rw [List.filter_cons_of_neg (by simp [hlater])]
      exact h.sparse later

/-- Once the oldest has left the window there is room, if nothing was added. -/
theorem Keeps.room_later (h : Keeps limit width last history kept) (hnow : last ≤ now) {later oldest : T}
    (hlater : now ≤ later) {rest : List T} (hinside : inside width now history = oldest :: rest)
    (hgone : oldest ≤ later - width) : (inside width later history).length < (inside width now history).length := by
  have hpast : ∀ t ∈ history, t ≤ now := fun t ht => (h.past t ht).trans hnow
  have hsub : inside width later history = (inside width now history).filter (later - width < ·) := by
    rw [inside_eq_filter hpast, inside_eq_filter fun t ht => (hpast t ht).trans hlater, List.filter_filter]
    refine List.filter_congr fun t _ => ?_
    simp only [← Bool.decide_and, decide_eq_decide]
    exact (and_iff_left_of_imp (sub_le_sub_right hlater width).trans_lt).symm
  rw [hsub, hinside, List.filter_cons_of_neg (by simpa using hgone), List.length_cons, Nat.lt_succ_iff]
  exact List.length_filter_le _ _

end Ordered
end OpenTimeline.Library.SlidingWindow
