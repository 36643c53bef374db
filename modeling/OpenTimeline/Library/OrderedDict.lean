import Mathlib

/-! Dictionaries in insertion order.

A dictionary is the list of its entries. Updating a key that is there changes its value in
place; one that is not goes to the end. A property of entries that the updates keep holds
of every entry (`forall_upsert`). Elements are grouped under a key in the order they come in
(`mem_groupBy_iff`). -/
namespace OpenTimeline.Library
variable {K V : Type} [DecidableEq K]

/-- Changes the value at `k`, or adds `fresh` there. -/
def upsert (k : K) (fresh : V) (change : V → V) : List (K × V) → List (K × V)
  | [] => [(k, fresh)]
  | (k', v) :: rest => if k' = k then (k', change v) :: rest else (k', v) :: upsert k fresh change rest

/-- `d[k] = v` -/
def assign (k : K) (v : V) (d : List (K × V)) : List (K × V) := upsert k v (fun _ => v) d

/-- An entry of an updated dictionary was there, or is the one updated. -/
theorem mem_upsert {k : K} {fresh : V} {change : V → V} {d : List (K × V)} {entry : K × V}
    (h : entry ∈ upsert k fresh change d) :
    entry ∈ d ∨ entry = (k, fresh) ∨ ∃ v, (k, v) ∈ d ∧ entry = (k, change v) := by
  induction d with
  | nil => exact Or.inr (Or.inl (List.mem_singleton.mp h))
  | cons first rest ih =>
    obtain ⟨k', v⟩ := first
    unfold upsert at h
    split_ifs at h with hk
    · subst hk
      rcases List.mem_cons.mp h with hchanged | hrest
      · exact Or.inr (Or.inr ⟨v, List.mem_cons_self, hchanged⟩)
      · exact Or.inl (List.mem_cons_of_mem _ hrest)
    · rcases List.mem_cons.mp h with hsame | hrest
      · exact Or.inl (hsame ▸ List.mem_cons_self)
      · rcases ih hrest with hold | hfresh | ⟨w, hw, hchanged⟩
        · exact Or.inl (List.mem_cons_of_mem _ hold)
        · exact Or.inr (Or.inl hfresh)
        · exact Or.inr (Or.inr ⟨w, List.mem_cons_of_mem _ hw, hchanged⟩)

/-- What holds of the entries, and of the one updated, holds of the entries after. -/
theorem forall_upsert {P : K → V → Prop} {k : K} {fresh : V} {change : V → V} {d : List (K × V)}
    (h : ∀ entry ∈ d, P entry.1 entry.2) (hfresh : P k fresh) (hchange : ∀ v, P k v → P k (change v)) :
    ∀ entry ∈ upsert k fresh change d, P entry.1 entry.2 := by
  intro entry hentry
  rcases mem_upsert hentry with hold | rfl | ⟨v, hv, rfl⟩
  · exact h entry hold
  · exact hfresh
  · exact hchange v (h (k, v) hv)

theorem lookup_upsert (k k' : K) (fresh : V) (change : V → V) (d : List (K × V)) :
    (upsert k fresh change d).lookup k' = if k' = k then some ((d.lookup k).elim fresh change) else d.lookup k' := by
  induction d with
  | nil => by_cases hk : k' = k <;> simp [upsert, List.lookup_cons, hk, beq_eq_false_iff_ne.mpr]
  | cons first rest ih =>
    obtain ⟨key, v⟩ := first
    unfold upsert
    by_cases hkey : key = k
    · subst hkey
      by_cases hk : k' = key <;> simp [List.lookup_cons, hk, beq_eq_false_iff_ne.mpr]
    · rw [if_neg hkey, List.lookup_cons, ih]
      by_cases hk : k' = k
      · subst hk
        simp [List.lookup_cons, beq_eq_false_iff_ne.mpr (Ne.symm hkey)]
      · simp [List.lookup_cons, hk]

theorem lookup_assign (k k' : K) (v : V) (d : List (K × V)) :
    (assign k v d).lookup k' = if k' = k then some v else d.lookup k' := by
  rw [assign, lookup_upsert]
  cases d.lookup k <;> rfl

theorem map_fst_upsert (k : K) (fresh : V) (change : V → V) (d : List (K × V)) :
    (upsert k fresh change d).map Prod.fst = if k ∈ d.map Prod.fst then d.map Prod.fst else d.map Prod.fst ++ [k] := by
  induction d with
  | nil => rfl
  | cons first rest ih =>
    obtain ⟨key, v⟩ := first
    unfold upsert
    by_cases hkey : key = k
    · simp [hkey]
    · rw [if_neg hkey, List.map_cons, ih]
      by_cases hk : k ∈ rest.map Prod.fst
      · have hold : k ∈ ((key, v) :: rest).map Prod.fst := List.mem_cons_of_mem _ hk
        rw [if_pos hk, if_pos hold, List.map_cons]
      · have hnew : k ∉ ((key, v) :: rest).map Prod.fst := by
          rw [List.map_cons, List.mem_cons, not_or]
          exact ⟨Ne.symm hkey, hk⟩
        rw [if_neg hk, if_neg hnew, List.map_cons, List.cons_append]

theorem nodup_upsert {k : K} {fresh : V} {change : V → V} {d : List (K × V)} (h : (d.map Prod.fst).Nodup) :
    ((upsert k fresh change d).map Prod.fst).Nodup := by
  rw [map_fst_upsert]
  split_ifs with hk
  · exact h
  · rw [← List.concat_eq_append]
    exact h.concat hk

/-- What a dictionary has at a key is its only entry there. -/
theorem mem_iff_lookup {d : List (K × V)} (h : (d.map Prod.fst).Nodup) {k : K} {v : V} :
    (k, v) ∈ d ↔ d.lookup k = some v := by
  induction d with
  | nil => simp
  | cons first rest ih =>
    obtain ⟨key, w⟩ := first
    rw [List.map_cons, List.nodup_cons] at h
    rw [List.mem_cons, List.lookup_cons, ih h.2, Prod.mk.injEq]
    by_cases hk : k = key
    · subst hk
      have hnone : rest.lookup k ≠ some v := fun hrest =>
        h.1 (List.mem_map.mpr ⟨(k, v), (ih h.2).mpr hrest, rfl⟩)
      simp [hnone, eq_comm]
    · simp [hk, beq_eq_false_iff_ne.mpr hk]

/-! ### Groups -/

variable {α : Type}

/-- `for a in l: d.setdefault(key(a), []).append(a)` -/
def groupBy (key : α → K) (l : List α) : List (K × List α) :=
  l.foldl (fun d a => upsert (key a) [a] (· ++ [a]) d) []

theorem groupBy_append_singleton (key : α → K) (l : List α) (a : α) :
    groupBy key (l ++ [a]) = upsert (key a) [a] (· ++ [a]) (groupBy key l) := by
  rw [groupBy, List.foldl_append]
  rfl

/-- Every element is in one group. -/
theorem sum_length_groupBy (key : α → K) (l : List α) : ((groupBy key l).map (·.2.length)).sum = l.length := by
  have hupsert : ∀ (d : List (K × List α)) (a : α), ((upsert (key a) [a] (· ++ [a]) d).map (·.2.length)).sum =
      (d.map (·.2.length)).sum + 1 := by
    intro d a
    induction d with
    | nil => rfl
    | cons group rest ih =>
      obtain ⟨k, group⟩ := group
      unfold upsert
      split_ifs
      · simp only [List.map_cons, List.sum_cons, List.length_append, List.length_singleton]
        omega
      · rw [List.map_cons, List.map_cons, List.sum_cons, List.sum_cons, ih]
        omega
  induction l using List.reverseRecOn with
  | nil => rfl
  | append_singleton l a ih => rw [groupBy_append_singleton, hupsert, ih, List.length_append, List.length_singleton]

theorem nodup_groupBy (key : α → K) (l : List α) : ((groupBy key l).map Prod.fst).Nodup := by
  induction l using List.reverseRecOn with
  | nil => exact List.nodup_nil
  | append_singleton l a ih =>
    rw [groupBy_append_singleton]
    exact nodup_upsert ih

theorem lookup_groupBy (key : α → K) (l : List α) (k : K) :
    (groupBy key l).lookup k = if (l.filter fun a => key a = k) = [] then none else some (l.filter fun a => key a = k) := by
  induction l using List.reverseRecOn with
  | nil => rfl
  | append_singleton l a ih =>
    rw [groupBy_append_singleton, lookup_upsert, List.filter_append]
    by_cases hk : k = key a
    · subst hk
      rw [ih]
      by_cases hnone : (l.filter fun b => key b = key a) = [] <;> simp [hnone]
    · rw [if_neg hk, ih]
      simp [Ne.symm hk]

/-- A group is what has its key, in the order it came in. -/
theorem mem_groupBy_iff {key : α → K} {l : List α} {k : K} {group : List α} :
    (k, group) ∈ groupBy key l ↔ group = (l.filter fun a => key a = k) ∧ group ≠ [] := by
  rw [mem_iff_lookup (nodup_groupBy key l), lookup_groupBy]
  split_ifs with hnone
  · rw [hnone]
    constructor
    · intro h
      cases h
    · rintro ⟨rfl, hne⟩
      exact absurd rfl hne
  · rw [Option.some.injEq, eq_comm]
    exact ⟨fun h => ⟨h, h ▸ hnone⟩, And.left⟩

theorem mem_keys_groupBy {key : α → K} {l : List α} {k : K} :
    k ∈ (groupBy key l).map Prod.fst ↔ ∃ a ∈ l, key a = k := by
  constructor
  · intro hk
    obtain ⟨⟨k', group⟩, hgroup, rfl⟩ := List.mem_map.mp hk
    obtain ⟨rfl, hne⟩ := mem_groupBy_iff.mp hgroup
    obtain ⟨a, ha⟩ := List.exists_mem_of_ne_nil _ hne
    exact ⟨a, List.mem_of_mem_filter ha, by simpa using List.of_mem_filter ha⟩
  · rintro ⟨a, ha, rfl⟩
    refine List.mem_map.mpr ⟨(key a, l.filter fun b => key b = key a), mem_groupBy_iff.mpr ⟨rfl, ?_⟩, rfl⟩
    exact List.ne_nil_of_mem (List.mem_filter.mpr ⟨ha, by simp⟩)

end OpenTimeline.Library
