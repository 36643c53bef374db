import Mathlib

/-! Tables with a primary key.

A table is its rows in insertion order, no two under one key. An UPDATE keeps the key
of every row it touches, so a lookup after it is the lookup before it, updated
(`find_update`); an INSERT of a key that is there is refused. -/
namespace OpenTimeline.Library

structure Table {ρ κ : Type} (key : ρ → κ) where
  rows : List ρ
  nodup : (rows.map key).Nodup

namespace Table
variable {ρ κ : Type} {key : ρ → κ}

@[ext] theorem ext {t t' : Table key} (h : t.rows = t'.rows) : t = t' := by
  cases t
  cases t'
  cases h
  rfl

/-- `UPDATE … SET …`, on every row. -/
def update (t : Table key) (f : ρ → ρ) (hf : ∀ r, key (f r) = key r) : Table key where
  rows := t.rows.map f
  nodup := by
    rw [List.map_map, show key ∘ f = key from funext hf]
    exact t.nodup

/-- An UPDATE changes nothing where it changes no row. -/
theorem update_eq_self_iff {t : Table key} {f : ρ → ρ} {hf : ∀ r, key (f r) = key r} :
    t.update f hf = t ↔ ∀ r ∈ t.rows, f r = r := by
  constructor
  · intro h r hr
    have hrows : t.rows.map f = t.rows.map id := (congrArg rows h).trans (List.map_id _).symm
    exact List.map_inj_left.mp hrows r hr
  · intro h
    exact ext ((List.map_congr_left h).trans (List.map_id _))

theorem forall_update {P : ρ → Prop} {t : Table key} {f : ρ → ρ} {hf : ∀ r, key (f r) = key r}
    (h : ∀ r ∈ t.rows, P (f r)) : ∀ r ∈ (t.update f hf).rows, P r :=
  List.forall_mem_map.mpr h

/-- `UPDATE … SET … WHERE …` -/
def updateWhere (t : Table key) (p : ρ → Bool) (f : ρ → ρ) (hf : ∀ r, key (f r) = key r) : Table key :=
  t.update (fun r => if p r then f r else r) fun r => by split_ifs <;> simp [hf]

/-- What an UPDATE does not set stays. -/
theorem map_updateWhere {β : Type} (t : Table key) {p : ρ → Bool} {f : ρ → ρ} {hf : ∀ r, key (f r) = key r} {g : ρ → β}
    (hg : ∀ r, g (f r) = g r) : (t.updateWhere p f hf).rows.map g = t.rows.map g := by
  rw [updateWhere, update, List.map_map]
  refine List.map_congr_left fun r _ => ?_
  rw [Function.comp_apply]
  split_ifs
  · exact hg r
  · rfl

/-- Two UPDATEs that do the same to every row there is. -/
theorem updateWhere_congr {t : Table key} {p p' : ρ → Bool} {f f' : ρ → ρ} {hf : ∀ r, key (f r) = key r}
    {hf' : ∀ r, key (f' r) = key r}
    (h : ∀ r ∈ t.rows, (if p r then f r else r) = if p' r then f' r else r) :
    t.updateWhere p f hf = t.updateWhere p' f' hf' :=
  ext (List.map_congr_left h)

/-- An UPDATE whose WHERE clause has no row. -/
theorem updateWhere_eq_self {t : Table key} {p : ρ → Bool} {f : ρ → ρ} {hf : ∀ r, key (f r) = key r}
    (h : ∀ r ∈ t.rows, p r = false) : t.updateWhere p f hf = t := by
  refine ext ?_
  show t.rows.map (fun r => if p r then f r else r) = t.rows
  conv_rhs => rw [← List.map_id t.rows]
  exact List.map_congr_left fun r hr => by simp [h r hr]

/-- What holds of every row, and of those an UPDATE touches after it. -/
theorem forall_updateWhere {P : ρ → Prop} {t : Table key} {p : ρ → Bool} {f : ρ → ρ} {hf : ∀ r, key (f r) = key r}
    (hP : ∀ r ∈ t.rows, P r) (hset : ∀ r ∈ t.rows, P r → p r → P (f r)) : ∀ r ∈ (t.updateWhere p f hf).rows, P r := by
  intro r' hr'
  obtain ⟨r, hr, rfl⟩ := List.mem_map.mp hr'
  split_ifs with hp
  · exact hset r hr (hP r hr) hp
  · exact hP r hr

/-- `INSERT` under a key that is new. -/
def add (t : Table key) (r : ρ) (h : key r ∉ t.rows.map key) : Table key where
  rows := t.rows ++ [r]
  nodup := by
    rw [List.map_append, List.nodup_append]
    exact ⟨t.nodup, by simp, by simpa using fun r' hr' heq => h (List.mem_map.mpr ⟨r', hr', heq⟩)⟩

theorem forall_add {P : ρ → Prop} {t : Table key} {r : ρ} {h : key r ∉ t.rows.map key} (hP : ∀ x ∈ t.rows, P x)
    (hr : P r) : ∀ x ∈ (t.add r h).rows, P x := by
  rw [add, List.forall_mem_append]
  exact ⟨hP, by simpa using hr⟩

section Keys
variable [DecidableEq κ]

/-- `SELECT … WHERE key = k` -/
def find (t : Table key) (k : κ) : Option ρ := t.rows.find? fun r => key r = k

theorem find_eq_some_iff {t : Table key} {k : κ} {r : ρ} : t.find k = some r ↔ r ∈ t.rows ∧ key r = k := by
  constructor
  · intro h
    exact ⟨List.mem_of_find?_eq_some h, by simpa using List.find?_some h⟩
  · rintro ⟨hr, rfl⟩
    obtain ⟨r', hfind⟩ : ∃ r', t.find (key r) = some r' :=
      Option.isSome_iff_exists.mp (List.find?_isSome.mpr ⟨r, hr, by simp⟩)
    have hr' : r' ∈ t.rows := List.mem_of_find?_eq_some hfind
    have hkey : key r' = key r := by simpa using List.find?_some hfind
    rw [hfind, List.inj_on_of_nodup_map t.nodup hr' hr hkey]

theorem find_update (t : Table key) (f : ρ → ρ) (hf : ∀ r, key (f r) = key r) (k : κ) :
    (t.update f hf).find k = (t.find k).map f := by
  rw [find, update, List.find?_map, find]
  congr 2
  funext r
  simp [hf]

theorem find_updateWhere (t : Table key) (p : ρ → Bool) (f : ρ → ρ) (hf : ∀ r, key (f r) = key r) (k : κ) :
    (t.updateWhere p f hf).find k = (t.find k).map fun r => if p r then f r else r :=
  t.find_update _ _ k

/-- `INSERT`, refused where the key is taken. -/
def insert (t : Table key) (r : ρ) : Option (Table key) :=
  if h : key r ∈ t.rows.map key then none
  else some ⟨t.rows ++ [r], by
    rw [List.map_append, List.nodup_append]
    exact ⟨t.nodup, by simp, by simpa using fun r' hr' heq => h (List.mem_map.mpr ⟨r', hr', heq⟩)⟩⟩

theorem insert_eq_some {t t' : Table key} {r : ρ} (h : t.insert r = some t') : t'.rows = t.rows ++ [r] := by
  unfold insert at h
  split_ifs at h
  rw [← Option.some.inj h]

theorem forall_insert {P : ρ → Prop} {t t' : Table key} {r : ρ} (h : t.insert r = some t') (hP : ∀ x ∈ t.rows, P x)
    (hr : P r) : ∀ x ∈ t'.rows, P x := by
  rw [insert_eq_some h, List.forall_mem_append]
  exact ⟨hP, by simpa using hr⟩

theorem find_insert {t t' : Table key} {r : ρ} (h : t.insert r = some t') :
    t.find (key r) = none ∧ ∀ k, t'.find k = if k = key r then some r else t.find k := by
  have hrows := insert_eq_some h
  have hnodup := t'.nodup
  rw [hrows, List.map_append, List.nodup_append] at hnodup
  have hfresh : t.find (key r) = none := by
    refine List.find?_eq_none.mpr fun r' hr' hsame => ?_
    exact hnodup.2.2 (key r') (List.mem_map_of_mem hr') (key r) (by simp) (by simpa using hsame)
  refine ⟨hfresh, fun k => ?_⟩
  rw [find, hrows, List.find?_append, ← find]
  split_ifs with hk
  · subst hk
    simp [hfresh]
  · have hne : ¬ key r = k := fun heq => hk heq.symm
    simp [hne]

/-- An INSERT is refused where there is a row. -/
theorem find_of_insert_eq_none {t : Table key} {r : ρ} (h : t.insert r = none) : ∃ x, t.find (key r) = some x := by
  unfold insert at h
  split_ifs at h with hkey
  obtain ⟨x, hx, hsame⟩ := List.mem_map.mp hkey
  exact ⟨x, find_eq_some_iff.mpr ⟨hx, hsame⟩⟩

/-- An INSERT leaves the rows there are. -/
theorem find_insert_of_find {t t' : Table key} {r x : ρ} (h : t.insert r = some t') {k : κ} (hk : t.find k = some x) :
    t'.find k = some x := by
  obtain ⟨hfresh, hrows⟩ := find_insert h
  have hne : k ≠ key r := by
    rintro rfl
    rw [hfresh] at hk
    cases hk
  rw [hrows, if_neg hne, hk]

/-- `UPDATE … WHERE key = k` -/
theorem find_updateWhere_key (t : Table key) (k : κ) (f : ρ → ρ) (hf : ∀ r, key (f r) = key r) (k' : κ) :
    (t.updateWhere (fun r => key r = k) f hf).find k' = if k' = k then (t.find k').map f else t.find k' := by
  rw [find_updateWhere]
  cases hfind : t.find k' with
  | none => simp
  | some r =>
    have hkey : key r = k' := (find_eq_some_iff.mp hfind).2
    simp only [Option.map_some, decide_eq_true_eq, hkey]
    split_ifs <;> rfl

end Keys
end Table
end OpenTimeline.Library
