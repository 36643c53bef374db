import Mathlib

/-! Finite maps read in key order.

A dictionary is Mathlib's `AList` with one value type; what is read out of it is
the list of its values sorted by key. -/
namespace OpenTimeline.Library

/-- A finite map from `K` to `V`. -/
abbrev Dict (K V : Type) := AList fun _ : K => V

namespace Dict
variable {K V : Type}

/-- `{key(v): v for v in values}`: a later value replaces an earlier one. -/
def ofList [DecidableEq K] (key : V → K) (values : List V) : Dict K V :=
  values.foldl (fun d v => d.insert (key v) v) ∅

/-- `[d[k] for k in sorted(d)]` -/
def sortedValues [LinearOrder K] (d : Dict K V) : List V :=
  (d.entries.insertionSort (fun a b => a.1 ≤ b.1)).map Sigma.snd

theorem lookup_eq_some_iff [DecidableEq K] (d : Dict K V) (k : K) (v : V) :
    d.lookup k = some v ↔ (⟨k, v⟩ : Sigma fun _ : K => V) ∈ d.entries := by
  rw [← Option.mem_def]
  exact AList.mem_lookup_iff

theorem mem_sortedValues [LinearOrder K] (d : Dict K V) (v : V) :
    v ∈ d.sortedValues ↔ ∃ k, d.lookup k = some v := by
  simp only [sortedValues, List.mem_map, List.mem_insertionSort, lookup_eq_some_iff]
  constructor
  · rintro ⟨⟨k, w⟩, hm, rfl⟩
    exact ⟨k, hm⟩
  · rintro ⟨k, hm⟩
    exact ⟨_, hm, rfl⟩

@[simp] theorem sortedValues_empty [LinearOrder K] : (∅ : Dict K V).sortedValues = [] := rfl

/-- Every value of the map has a property. -/
def Holds [DecidableEq K] (P : V → Prop) (d : Dict K V) : Prop := ∀ k v, d.lookup k = some v → P v

theorem Holds.insert [DecidableEq K] {P : V → Prop} {d : Dict K V} (h : Holds P d) (k : K) {v : V} (hv : P v) :
    Holds P (d.insert k v) := by
  intro k' w hw
  by_cases hk : k' = k
  · subst hk
    rw [AList.lookup_insert, Option.some.injEq] at hw
    exact hw ▸ hv
  · rw [AList.lookup_insert_ne hk] at hw
    exact h k' w hw

theorem Holds.erase [DecidableEq K] {P : V → Prop} {d : Dict K V} (h : Holds P d) (k : K) : Holds P (d.erase k) := by
  intro k' w hw
  by_cases hk : k' = k
  · subst hk
    rw [AList.lookup_erase] at hw
    cases hw
  · rw [AList.lookup_erase_ne hk] at hw
    exact h k' w hw

theorem Holds.sortedValues [LinearOrder K] {P : V → Prop} {d : Dict K V} (h : Holds P d) : ∀ v ∈ d.sortedValues, P v := by
  intro v hm
  obtain ⟨k, hk⟩ := (mem_sortedValues d v).mp hm
  exact h k v hk

/-- Every value sits under the key `key` gives it. -/
def Keyed [DecidableEq K] (key : V → K) (d : Dict K V) : Prop := ∀ k v, d.lookup k = some v → key v = k

variable {key : V → K}

theorem keyed_empty [DecidableEq K] : Keyed key (∅ : Dict K V) := by
  intro k v h
  simp at h

theorem Keyed.insert [DecidableEq K] {d : Dict K V} (h : Keyed key d) (v : V) :
    Keyed key (d.insert (key v) v) := by
  intro k w hw
  by_cases hk : k = key v
  · subst hk
    rw [AList.lookup_insert, Option.some.injEq] at hw
    rw [hw]
  · rw [AList.lookup_insert_ne hk] at hw
    exact h k w hw

theorem keyed_foldl [DecidableEq K] (values : List V) {d : Dict K V} (h : Keyed key d) :
    Keyed key (values.foldl (fun d v => d.insert (key v) v) d) := by
  induction values generalizing d with
  | nil => exact h
  | cons v rest ih => exact ih (h.insert v)

theorem keyed_ofList [DecidableEq K] (values : List V) : Keyed key (ofList key values) :=
  keyed_foldl values keyed_empty

/-- A map of values has no other. -/
theorem mem_of_lookup_ofList [DecidableEq K] {values : List V} {k : K} {v : V}
    (h : (ofList key values).lookup k = some v) : v ∈ values := by
  have hfrom : ∀ d : Dict K V, (values.foldl (fun d v => d.insert (key v) v) d).lookup k = some v →
      v ∈ values ∨ d.lookup k = some v := by
    clear h
    induction values with
    | nil => exact fun d h => Or.inr h
    | cons w rest ih =>
      intro d h
      rcases ih _ h with hrest | hinserted
      · exact Or.inl (List.mem_cons_of_mem w hrest)
      · by_cases hk : k = key w
        · subst hk
          rw [AList.lookup_insert, Option.some.injEq] at hinserted
          exact Or.inl (hinserted ▸ List.mem_cons_self)
        · rw [AList.lookup_insert_ne hk] at hinserted
          exact Or.inr hinserted
  exact (hfrom ∅ h).resolve_right (by simp)

/-- A map of values has one under each of their keys. -/
theorem isSome_lookup_ofList [DecidableEq K] {values : List V} {k : K} (h : k ∈ values.map key) :
    ((ofList key values).lookup k).isSome := by
  have hfrom : ∀ d : Dict K V, k ∈ values.map key ∨ (d.lookup k).isSome →
      ((values.foldl (fun d v => d.insert (key v) v) d).lookup k).isSome := by
    clear h
    induction values with
    | nil => exact fun d h => h.resolve_left List.not_mem_nil
    | cons w rest ih =>
      intro d h
      refine ih _ ?_
      by_cases hk : k = key w
      · exact Or.inr (by rw [hk, AList.lookup_insert]; rfl)
      · rw [List.map_cons, List.mem_cons, or_iff_right hk] at h
        rwa [AList.lookup_insert_ne hk]
  exact hfrom ∅ (Or.inl h)

theorem Keyed.mem_sortedValues_iff [LinearOrder K] {d : Dict K V} (h : Keyed key d) {k : K} {v : V} :
    v ∈ d.sortedValues ∧ key v = k ↔ d.lookup k = some v := by
  rw [mem_sortedValues]
  constructor
  · rintro ⟨⟨k', hlookup⟩, rfl⟩
    rwa [h k' v hlookup]
  · exact fun hlookup => ⟨⟨k, hlookup⟩, h k v hlookup⟩

/-- A keyed map is made again of its values. -/
theorem Keyed.lookup_ofList_sortedValues [LinearOrder K] {d : Dict K V} (h : Keyed key d) (k : K) :
    (ofList key d.sortedValues).lookup k = d.lookup k := by
  refine Option.ext fun v => ?_
  constructor
  · intro hv
    exact h.mem_sortedValues_iff.mp ⟨mem_of_lookup_ofList hv, keyed_ofList d.sortedValues k v hv⟩
  · intro hv
    obtain ⟨hm, hkey⟩ := h.mem_sortedValues_iff.mpr hv
    obtain ⟨w, hw⟩ := Option.isSome_iff_exists.mp
      (isSome_lookup_ofList (hkey ▸ List.mem_map_of_mem hm : k ∈ d.sortedValues.map key))
    have hsame := h.mem_sortedValues_iff.mp ⟨mem_of_lookup_ofList hw, keyed_ofList d.sortedValues k w hw⟩
    rw [hw, ← hsame]
    exact hv

theorem Keyed.find?_sortedValues [LinearOrder K] {d : Dict K V} (h : Keyed key d) (k : K) :
    d.sortedValues.find? (fun v => key v = k) = d.lookup k := by
  refine Option.ext fun v => ?_
  constructor
  · intro hv
    exact h.mem_sortedValues_iff.mp ⟨List.mem_of_find?_eq_some hv, by simpa using List.find?_some hv⟩
  · intro hv
    obtain ⟨hm, hkey⟩ := h.mem_sortedValues_iff.mpr hv
    have hfound : (d.sortedValues.find? fun v => key v = k).isSome :=
      List.find?_isSome.mpr ⟨v, hm, decide_eq_true hkey⟩
    obtain ⟨w, hw⟩ := Option.isSome_iff_exists.mp hfound
    have hsame := h.mem_sortedValues_iff.mp ⟨List.mem_of_find?_eq_some hw, by simpa using List.find?_some hw⟩
    rw [hw, ← hsame]
    exact hv

/-- Read in key order, the values of a keyed map have distinct keys. -/
theorem Keyed.nodup_sortedValues [LinearOrder K] {d : Dict K V} (h : Keyed key d) :
    (d.sortedValues.map key).Nodup := by
  have hperm := d.entries.perm_insertionSort (fun a b => a.1 ≤ b.1)
  have hkeys : d.sortedValues.map key =
      (d.entries.insertionSort (fun a b => a.1 ≤ b.1)).map Sigma.fst := by
    simp only [sortedValues, List.map_map]
    refine List.map_congr_left fun e he => ?_
    obtain ⟨k, v⟩ := e
    exact h k v ((lookup_eq_some_iff d k v).mpr (hperm.mem_iff.mp he))
  rw [hkeys]
  exact ((hperm.map Sigma.fst).nodup_iff).mpr d.nodupKeys

end Dict
end OpenTimeline.Library
