import Mathlib

/-! Writes that are not committed.

Transactions write at once. What one has written it sees itself, and the others after its
commit; a rollback takes its writes back. What each write keeps of the database and of the
writes still to come, a commit keeps (`Keeps.commit`). -/
namespace OpenTimeline.Library

/-- A database, and what has been written to it since by transactions that are still open. -/
structure Transactions (δ ι ω : Type) where
  db : δ
  pending : List (ι × ω) := []

namespace Transactions
variable {δ ι ω : Type} [DecidableEq ι] (apply : ω → δ → δ) (t : Transactions δ ι ω) (i : ι)

def writes : List ω := t.pending.map (·.2)

/-- What a transaction has written itself. -/
def own : List ω := (t.pending.filter (·.1 = i)).map (·.2)

def applyAll (db : δ) (writes : List ω) : δ := writes.foldl (fun db w => apply w db) db

/-- The database as a transaction sees it. -/
def view : δ := applyAll apply t.db (t.own i)

def write (w : ω) : Transactions δ ι ω := {t with pending := t.pending ++ [(i, w)]}

def rollback : Transactions δ ι ω := {t with pending := t.pending.filter (·.1 ≠ i)}

def commit : Transactions δ ι ω := {t.rollback i with db := t.view apply i}

/-- Each write meets the database that the writes before it have left. -/
def meets (fits : ω → δ → Bool) : List ω → δ → Bool
  | [], _ => true
  | w :: ws, db => fits w db && meets fits ws (apply w db)

theorem writes_perm : (t.writes).Perm (t.own i ++ (t.rollback i).writes) := by
  have hsplit : (t.pending.filter (·.1 = i) ++ t.pending.filter fun p => !decide (p.1 = i)).Perm t.pending :=
    List.filter_append_perm _ _
  simpa [writes, own, rollback] using (hsplit.map (·.2)).symm

omit [DecidableEq ι] in
@[simp] theorem writes_write (w : ω) : (t.write i w).writes = t.writes ++ [w] := by simp [writes, write]

theorem own_subset : t.own i ⊆ t.writes := by
  intro w hw
  exact ((t.writes_perm i).mem_iff).mpr (List.mem_append_left _ hw)

@[simp] theorem own_write_self (w : ω) : (t.write i w).own i = t.own i ++ [w] := by simp [own, write]

@[simp] theorem own_rollback_self : (t.rollback i).own i = [] := by simp [own, rollback]

theorem own_write_of_ne {j : ι} (hj : j ≠ i) (w : ω) : (t.write i w).own j = t.own j := by
  simp [own, write, Ne.symm hj]

theorem own_rollback_of_ne {j : ι} (hj : j ≠ i) : (t.rollback i).own j = t.own j := by
  rw [own, rollback, List.filter_filter, own]
  congr 1
  refine List.filter_congr fun p _ => ?_
  by_cases hp : p.1 = j
  · simp [hp, hj]
  · simp [hp]

/-- The rule of commits: an invariant of the database and of the writes to come. -/
structure Keeps (fits : ω → δ → Bool) (I : δ → List ω → Prop) : Prop where
  perm : ∀ db ws ws', ws.Perm ws' → I db ws → I db ws'
  applied : ∀ db w ws, I db (w :: ws) → fits w db → I (apply w db) ws
  dropped : ∀ db w ws, I db (w :: ws) → I db ws

theorem view_write_self (w : ω) : (t.write i w).view apply i = apply w (t.view apply i) := by
  simp [view, applyAll, write, own]

@[simp] theorem view_of_committed {db : δ} : ({t.rollback i with db} : Transactions δ ι ω).view apply i = db := by
  simp [view, applyAll, rollback, own]

variable {apply t i} {fits : ω → δ → Bool} {I : δ → List ω → Prop}

theorem Keeps.applyAll (hI : Keeps apply fits I) {ws rest : List ω} {db : δ} (h : I db (ws ++ rest))
    (hmeets : meets apply fits ws db) : I (applyAll apply db ws) rest := by
  induction ws generalizing db with
  | nil => exact h
  | cons w ws ih =>
    rw [meets, Bool.and_eq_true] at hmeets
    exact ih (hI.applied db w (ws ++ rest) h hmeets.1) hmeets.2

theorem Keeps.commit (hI : Keeps apply fits I) (h : I t.db t.writes) (hmeets : meets apply fits (t.own i) t.db) :
    I (t.commit apply i).db (t.commit apply i).writes :=
  hI.applyAll (hI.perm _ _ _ (t.writes_perm i) h) hmeets

theorem Keeps.rollback (hI : Keeps apply fits I) (h : I t.db t.writes) :
    I (t.rollback i).db (t.rollback i).writes := by
  have hdrop : ∀ ws rest, I t.db (ws ++ rest) → I t.db rest := by
    intro ws rest h
    induction ws with
    | nil => exact h
    | cons w ws ih => exact ih (hI.dropped _ _ _ h)
  exact hdrop _ _ (hI.perm _ _ _ (t.writes_perm i) h)

end Transactions
end OpenTimeline.Library
