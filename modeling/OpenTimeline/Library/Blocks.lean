import Mathlib

/-! Permuted blocks.

A sequence in blocks, each of them the items of one list in some order, is balanced at every
point: an item is met once in each block that is over and at most once in the one that is
not (`Blocked.count_bounds`). A list is shuffled by exchanging items, two at a time
(`swapAt_perm`). -/
namespace OpenTimeline.Library
variable {α : Type}

/-! ### Exchanges -/

/-- `pool[i], pool[j] = pool[j], pool[i]` -/
def swapAt (pool : List α) (i j : Nat) : List α :=
  match pool[i]?, pool[j]? with
  | some a, some b => (pool.set i b).set j a
  | _, _ => pool

theorem swapAt_perm (pool : List α) (i j : Nat) : (swapAt pool i j).Perm pool := by
  unfold swapAt
  split
  · rename_i a b hi hj
    obtain ⟨hfirst, rfl⟩ := List.getElem?_eq_some_iff.mp hi
    obtain ⟨hsecond, rfl⟩ := List.getElem?_eq_some_iff.mp hj
    exact List.set_set_perm hfirst hsecond
  · exact .refl _

/-! ### Blocks -/

/-- The block of a sequence that starts at a multiple of the width. -/
def block (width : Nat) (a : Nat → α) (ordinal : Nat) : List α :=
  (List.range width).map fun position => a (ordinal * width + position)

/-- Every block is the items in some order. -/
def Blocked (items : List α) (a : Nat → α) : Prop := ∀ ordinal, (block items.length a ordinal).Perm items

/-- The first items of a sequence. -/
def initial (a : Nat → α) (n : Nat) : List α := (List.range n).map a

theorem initial_add (a : Nat → α) (n m : Nat) :
    initial a (n + m) = initial a n ++ (List.range m).map fun i => a (n + i) := by
  rw [initial, List.range_add, List.map_append, List.map_map]
  rfl

/-- The positions of a complete block. -/
theorem filter_range_div {width n : Nat} (hwidth : 0 < width) {ordinal : Nat} (h : (ordinal + 1) * width ≤ n) :
    (List.range n).filter (fun i => i / width = ordinal) = (List.range width).map (ordinal * width + ·) := by
  obtain ⟨rest, rfl⟩ := Nat.exists_eq_add_of_le h
  rw [List.range_add, Nat.succ_mul, List.range_add, List.filter_append, List.filter_append]
  have hbefore : (List.range (ordinal * width)).filter (fun i => i / width = ordinal) = [] := by
    refine List.filter_eq_nil_iff.mpr fun i hi => ?_
    have hlt : i / width < ordinal := Nat.div_lt_of_lt_mul (by simpa [Nat.mul_comm] using hi)
    simp [hlt.ne]
  have hwithin : ((List.range width).map (ordinal * width + ·)).filter (fun i => i / width = ordinal) =
      (List.range width).map (ordinal * width + ·) := by
    refine List.filter_eq_self.mpr fun i hi => ?_
    obtain ⟨position, hposition, rfl⟩ := List.mem_map.mp hi
    rw [Nat.mul_comm, Nat.mul_add_div hwidth, Nat.div_eq_of_lt (List.mem_range.mp hposition)]
    simp
  have hafter : ((List.range rest).map (ordinal * width + width + ·)).filter (fun i => i / width = ordinal) = [] := by
    refine List.filter_eq_nil_iff.mpr fun i hi => ?_
    obtain ⟨position, _, rfl⟩ := List.mem_map.mp hi
    have hdiv : (ordinal * width + width + position) / width = ordinal + 1 + position / width := by
      rw [← Nat.succ_mul, Nat.mul_comm, Nat.mul_add_div hwidth]
    rw [decide_eq_true_eq, hdiv]
    exact (Nat.lt_of_lt_of_le ordinal.lt_succ_self (Nat.le_add_right _ _)).ne'
  rw [hbefore, hwithin, hafter, List.nil_append, List.append_nil]

/-- No item is met twice in a block. -/
theorem Blocked.eq_of_div_eq {items : List α} {a : Nat → α} (h : Blocked items a) (hnodup : items.Nodup) (hwidth : 0 < items.length) {n m : Nat}
    (hdiv : n / items.length = m / items.length) (hitem : a n = a m) : n = m := by
  have hblock := (h (n / items.length)).nodup_iff.mpr hnodup
  have hn : n / items.length * items.length + n % items.length = n := Nat.div_add_mod' n items.length
  have hm : n / items.length * items.length + m % items.length = m := hdiv ▸ Nat.div_add_mod' m items.length
  have hmod := List.inj_on_of_nodup_map hblock (List.mem_range.mpr (Nat.mod_lt n hwidth))
    (List.mem_range.mpr (Nat.mod_lt m hwidth)) (by rw [hn, hm, hitem])
  rw [← hn, ← hm, hmod]

namespace Blocked
variable [DecidableEq α] {items : List α} {a : Nat → α}

theorem count_block (h : Blocked items a) (hnodup : items.Nodup) {item : α} (hitem : item ∈ items) (ordinal : Nat) :
    (block items.length a ordinal).count item = 1 := by
  rw [(h ordinal).count_eq]
  exact List.count_eq_one_of_mem hnodup hitem

/-- An item is met once in each complete block. -/
theorem count_blocks (h : Blocked items a) (hnodup : items.Nodup) {item : α} (hitem : item ∈ items) (blocks : Nat) :
    (initial a (blocks * items.length)).count item = blocks := by
  induction blocks with
  | zero => simp [initial]
  | succ blocks ih =>
    rw [Nat.succ_mul, initial_add, List.count_append, ih]
    exact congrArg (blocks + ·) (h.count_block hnodup hitem blocks)

/-- An item is met once in each block that is over and at most once in the next. -/
theorem count_bounds (h : Blocked items a) (hnodup : items.Nodup) {item : α} (hitem : item ∈ items) (n : Nat) :
    n / items.length ≤ (initial a n).count item ∧ (initial a n).count item ≤ n / items.length + 1 := by
  have hwidth : 0 < items.length := List.length_pos_of_mem hitem
  have hsplit : n / items.length * items.length + n % items.length = n := Nat.div_add_mod' n items.length
  have hpartial : ((List.range (n % items.length)).map fun i => a (n / items.length * items.length + i)).count item ≤
      (block items.length a (n / items.length)).count item := by
    refine List.Sublist.count_le item (List.Sublist.map _ ?_)
    exact List.range_sublist.mpr (Nat.mod_lt n hwidth).le
  rw [h.count_block hnodup hitem] at hpartial
  have hcount : (initial a n).count item = n / items.length +
      ((List.range (n % items.length)).map fun i => a (n / items.length * items.length + i)).count item := by
    conv_lhs => rw [← hsplit, initial_add, List.count_append, h.count_blocks hnodup hitem]
  omega

/-- Any two items are met equally often, but for one. -/
theorem balanced (h : Blocked items a) (hnodup : items.Nodup) {item item' : α} (hitem : item ∈ items)
    (hitem' : item' ∈ items) (n : Nat) : (initial a n).count item ≤ (initial a n).count item' + 1 := by
  have hupper := (h.count_bounds hnodup hitem n).2
  have hlower := (h.count_bounds hnodup hitem' n).1
  omega

end Blocked
end OpenTimeline.Library
