import Mathlib.Data.List.Basic

/-! Rows of several tenants.

Each row of a table is of a tenant, and hangs on something that may be another tenant's. A step
of one tenant leaves the others alone where their rows are as they were and where no row of its
own newly hangs on what is theirs (`Columns.Apart`). Of an INSERT under a new key that is asked of
the one row (`Columns.apart_append_iff`), and of an UPDATE of the rows it changes
(`Columns.apart_map_iff`). -/
namespace OpenTimeline.Library

variable {ρ κ τ ι : Type}

theorem map_eq_self_iff {f : ρ → ρ} {rows : List ρ} : rows.map f = rows ↔ ∀ r ∈ rows, f r = r := by
  conv_lhs => rhs; rw [← List.map_id rows]
  exact List.map_inj_left

/-- The key of a row, its tenant, and what it hangs on. -/
structure Columns (ρ κ τ ι : Type) where
  key : ρ → κ
  tenant : ρ → τ
  link : ρ → ι

namespace Columns
variable (columns : Columns ρ κ τ ι)

/-- The rows of the tenants other than `tenant`. -/
def others [DecidableEq τ] (tenant : τ) (rows : List ρ) : List ρ := rows.filter fun r => columns.tenant r ≠ tenant

/-- A step of `tenant`, to whom `foreign` is another's. -/
structure Apart [DecidableEq τ] (tenant : τ) (foreign : ι → Prop) (before after : List ρ) : Prop where
  others : columns.others tenant after = columns.others tenant before
  links : ∀ r ∈ after, columns.tenant r = tenant → foreign (columns.link r) →
    ∃ r' ∈ before, columns.key r' = columns.key r ∧ columns.link r' = columns.link r

variable {columns} [DecidableEq τ] {tenant : τ} {foreign : ι → Prop} {rows : List ρ}

theorem Apart.refl : columns.Apart tenant foreign rows rows :=
  ⟨rfl, fun r hr _ _ => ⟨r, hr, rfl, rfl⟩⟩

theorem mem_others {r : ρ} : r ∈ columns.others tenant rows ↔ r ∈ rows ∧ columns.tenant r ≠ tenant := by
  simp [others]

theorem apart_append_iff {r : ρ} (htenant : columns.tenant r = tenant) (hkey : ∀ r' ∈ rows, columns.key r' ≠ columns.key r) :
    columns.Apart tenant foreign rows (rows ++ [r]) ↔ ¬ foreign (columns.link r) := by
  constructor
  · intro h hforeign
    obtain ⟨r', hr', hsame, -⟩ := h.links r (List.mem_append_right _ (List.mem_singleton_self r)) htenant hforeign
    exact hkey r' hr' hsame
  · intro h
    refine ⟨?_, fun r' hr' _ hforeign => ?_⟩
    · simp [others, htenant]
    · rcases List.mem_append.mp hr' with hr' | hr'
      · exact ⟨r', hr', rfl, rfl⟩
      · obtain rfl := List.mem_singleton.mp hr'
        exact absurd hforeign h

/-- An UPDATE that does not set the tenant. -/
theorem others_map_iff {f : ρ → ρ} (htenant : ∀ r, columns.tenant (f r) = columns.tenant r) :
    columns.others tenant (rows.map f) = columns.others tenant rows ↔ ∀ r ∈ rows, columns.tenant r ≠ tenant → f r = r := by
  have hothers : columns.others tenant (rows.map f) = (columns.others tenant rows).map f := by
    rw [others, List.filter_map]
    congr 1
    refine List.filter_congr fun r _ => ?_
    rw [Function.comp_apply, htenant]
  rw [hothers, map_eq_self_iff]
  simp only [mem_others, and_imp]

/-- An UPDATE that sets neither the tenant nor what the row hangs on. -/
theorem apart_map_iff {f : ρ → ρ} (hkey : ∀ r, columns.key (f r) = columns.key r)
    (htenant : ∀ r, columns.tenant (f r) = columns.tenant r) (hlink : ∀ r, columns.link (f r) = columns.link r) :
    columns.Apart tenant foreign rows (rows.map f) ↔ ∀ r ∈ rows, columns.tenant r ≠ tenant → f r = r := by
  refine ⟨fun h => (others_map_iff htenant).mp h.others, fun h => ⟨(others_map_iff htenant).mpr h, fun r' hr' _ _ => ?_⟩⟩
  obtain ⟨r, hr, rfl⟩ := List.mem_map.mp hr'
  exact ⟨r, hr, (hkey r).symm, (hlink r).symm⟩

/-- `UPDATE … SET … WHERE …` -/
theorem apart_update_iff {p : ρ → Bool} {f : ρ → ρ} (hkey : ∀ r, columns.key (f r) = columns.key r)
    (htenant : ∀ r, columns.tenant (f r) = columns.tenant r) (hlink : ∀ r, columns.link (f r) = columns.link r) :
    columns.Apart tenant foreign rows (rows.map fun r => if p r then f r else r) ↔
      ∀ r ∈ rows, columns.tenant r ≠ tenant → p r → f r = r := by
  have hkeeps {β : Type} {g : ρ → β} (hg : ∀ r, g (f r) = g r) (r : ρ) : g (if p r then f r else r) = g r := by
    split_ifs
    · exact hg r
    · rfl
  rw [apart_map_iff (hkeeps hkey) (hkeeps htenant) (hkeeps hlink)]
  simp only [ite_eq_right_iff]

end Columns
end OpenTimeline.Library
