import OpenTimeline.Library.Selection

/-! Folds that the last statement decides.

An accumulator that each element of a log either overwrites or leaves alone is, after the
log, what the last element to overwrite it stated (`foldl_lastStated`). Where the kinds of
an element decide whether it states anything, a filter that keeps the latest element of
each stating kind keeps the last statement (`lastStated_filter`); a running maximum is
kept by elements that bound the rest (`foldl_max_sublist_iff`). -/
namespace OpenTimeline.Library
variable {α β σ ι : Type}

/-- What the last element that states something states. -/
def lastStated (states : α → Option β) (l : List α) : Option β := (l.filterMap states).getLast?

theorem lastStated_append (states : α → Option β) (l l' : List α) :
    lastStated states (l ++ l') = (lastStated states l').or (lastStated states l) := by
  simp [lastStated, List.getLast?_append]

theorem lastStated_eq_none_iff {states : α → Option β} {l : List α} :
    lastStated states l = none ↔ ∀ a ∈ l, states a = none := by
  simp [lastStated]

theorem lastStated_split {states : α → Option β} {p q : List α} {a : α} {b : β} (ha : states a = some b)
    (hq : ∀ c ∈ q, states c = none) : lastStated states (p ++ a :: q) = some b := by
  have hq' : q.filterMap states = [] := by simpa using hq
  simp [lastStated, ha, hq']

theorem lastStated_map {γ : Type} (g : β → γ) (states : α → Option β) (l : List α) :
    lastStated (fun a => (states a).map g) l = (lastStated states l).map g := by
  simp only [lastStated, ← List.getLast?_map, List.map_filterMap]

/-- The last statement splits a log at the element that makes it. -/
theorem exists_split_of_lastStated {states : α → Option β} {l : List α} {b : β}
    (h : lastStated states l = some b) :
    ∃ p a q, l = p ++ a :: q ∧ states a = some b ∧ ∀ c ∈ q, states c = none := by
  induction l using List.reverseRecOn with
  | nil => cases h
  | append_singleton l a ih =>
    cases ha : states a with
    | some b' =>
      have hlast : lastStated states (l ++ [a]) = some b' := lastStated_split ha (by simp)
      rw [hlast, Option.some.injEq] at h
      exact ⟨l, a, [], rfl, h ▸ ha, by simp⟩
    | none =>
      have hnone : lastStated states [a] = none := by simp [lastStated_eq_none_iff, ha]
      rw [lastStated_append, hnone, Option.none_or] at h
      obtain ⟨p, a', q, rfl, ha', hq⟩ := ih h
      refine ⟨p, a', q ++ [a], by simp, ha', fun c hc => ?_⟩
      rcases List.mem_append.mp hc with hc | hc
      · exact hq c hc
      · rw [List.mem_singleton.mp hc, ha]

/-- An accumulator that each element overwrites or leaves alone. -/
theorem foldl_lastStated {step : σ → α → σ} {get : σ → β} {states : α → Option β} {l : List α}
    (h : ∀ s, ∀ a ∈ l, get (step s a) = (states a).getD (get s)) (s : σ) :
    get (l.foldl step s) = (lastStated states l).getD (get s) := by
  induction l generalizing s with
  | nil => rfl
  | cons a rest ih =>
    rw [List.foldl_cons, ih (fun s c hc => h s c (List.mem_cons_of_mem a hc)), h s a List.mem_cons_self,
      ← List.singleton_append, lastStated_append]
    cases lastStated states rest with
    | some b => rfl
    | none => cases ha : states a <;> simp [lastStated, ha]

section Kinds
variable [DecidableEq ι] {kind : α → ι} {ks : List ι} {states : α → Option β} {l : List α} {P : α → Bool}

/-- A filter that keeps the latest element of each kind that states something. -/
theorem lastStated_filter (hkinds : ∀ a ∈ l, kind a ∈ ks ↔ (states a).isSome)
    (hkeeps : ∀ k ∈ ks, ∀ a, latest kind k l = some a → P a = true) :
    lastStated states (l.filter P) = lastStated states l := by
  cases hlast : lastStated states l with
  | none =>
    rw [lastStated_eq_none_iff] at hlast ⊢
    exact fun a ha => hlast a (List.mem_of_mem_filter ha)
  | some b =>
    obtain ⟨p, a, q, rfl, ha, hq⟩ := exists_split_of_lastStated hlast
    have hkind : kind a ∈ ks := (hkinds a (by simp)).mpr (by simp [ha])
    -- no element after it states anything, so none is of its kind
    have hlatest : latest kind (kind a) (p ++ a :: q) = some a := by
      refine latest_split rfl fun c hc hsame => ?_
      have hstates := (hkinds c (by simp [hc])).mp (hsame ▸ hkind)
      rw [hq c hc] at hstates
      cases hstates
    rw [List.filter_append, List.filter_cons_of_pos (hkeeps _ hkind a hlatest)]
    exact lastStated_split ha fun c hc => hq c (List.mem_of_mem_filter hc)

/-- An accumulator that the elements of some kinds overwrite, whatever it was, and all
others leave alone, is the same after a filter that keeps the latest of each of those kinds. -/
theorem get_foldl_filter {step : σ → α → σ} {get : σ → β}
    (hoverwrites : ∀ a ∈ l, kind a ∈ ks → ∀ s s', get (step s a) = get (step s' a))
    (hleaves : ∀ a ∈ l, kind a ∉ ks → ∀ s, get (step s a) = get s)
    (hkeeps : ∀ k ∈ ks, ∀ a, latest kind k l = some a → P a = true) (s : σ) :
    get ((l.filter P).foldl step s) = get (l.foldl step s) := by
  let states : α → Option β := fun a => if kind a ∈ ks then some (get (step s a)) else none
  have hstep : ∀ s', ∀ a ∈ l, get (step s' a) = (states a).getD (get s') := by
    intro s' a ha
    by_cases hk : kind a ∈ ks
    · simp only [states, if_pos hk, Option.getD_some]
      exact hoverwrites a ha hk s' s
    · simp only [states, if_neg hk, Option.getD_none]
      exact hleaves a ha hk s'
  rw [foldl_lastStated hstep, foldl_lastStated fun s' a ha => hstep s' a (List.mem_of_mem_filter ha),
    lastStated_filter (fun a _ => ?_) hkeeps]
  by_cases hk : kind a ∈ ks <;> simp [states, hk]

end Kinds

/-! ### Running maxima -/

section Maximum
variable [LinearOrder β]

theorem le_foldl_max (l : List β) (m : β) : m ≤ l.foldl max m := by
  induction l generalizing m with
  | nil => exact le_rfl
  | cons b rest ih => exact (le_max_left m b).trans (ih _)

theorem le_foldl_max_of_mem {l : List β} {b : β} (hb : b ∈ l) (m : β) : b ≤ l.foldl max m := by
  induction l generalizing m with
  | nil => cases hb
  | cons b' rest ih =>
    rcases List.mem_cons.mp hb with rfl | hb
    · exact (le_max_right m b).trans (le_foldl_max rest _)
    · exact ih hb _

theorem foldl_max_le {l : List β} {m u : β} (hm : m ≤ u) (h : ∀ b ∈ l, b ≤ u) : l.foldl max m ≤ u := by
  induction l generalizing m with
  | nil => exact hm
  | cons b rest ih =>
    exact ih (max_le hm (h b List.mem_cons_self)) fun b' hb' => h b' (List.mem_cons_of_mem b hb')

/-- The maximum is where it started, or some element. -/
theorem foldl_max_cases (l : List β) (m : β) : l.foldl max m = m ∨ l.foldl max m ∈ l := by
  induction l generalizing m with
  | nil => exact Or.inl rfl
  | cons b rest ih =>
    rcases ih (max m b) with h | h
    · rcases max_choice m b with hm | hb
      · exact Or.inl (h.trans hm)
      · exact Or.inr (List.mem_cons.mpr (Or.inl (h.trans hb)))
    · exact Or.inr (List.mem_cons_of_mem b h)

/-- Some of the elements have the maximum of all exactly when they bound them. -/
theorem foldl_max_sublist_iff {l l' : List β} (hsub : l'.Sublist l) (m : β) :
    l'.foldl max m = l.foldl max m ↔ ∀ b ∈ l, b ≤ m ∨ ∃ b' ∈ l', b ≤ b' := by
  constructor
  · intro h b hb
    have hle : b ≤ l'.foldl max m := h ▸ le_foldl_max_of_mem hb m
    rcases foldl_max_cases l' m with hm | hmem
    · exact Or.inl (hm ▸ hle)
    · exact Or.inr ⟨_, hmem, hle⟩
  · intro h
    refine le_antisymm (foldl_max_le (le_foldl_max l m) fun b hb => le_foldl_max_of_mem (hsub.subset hb) m) ?_
    refine foldl_max_le (le_foldl_max l' m) fun b hb => ?_
    rcases h b hb with hm | ⟨b', hb', hle⟩
    · exact hm.trans (le_foldl_max l' m)
    · exact hle.trans (le_foldl_max_of_mem hb' m)

end Maximum
end OpenTimeline.Library
