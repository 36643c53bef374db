import Mathlib

/-! A connection's transactions, statement by statement.

A connection sees what is committed and what it has written itself since. Statements run in
order until one raises (`execute`); whichever that is, nothing of them is committed, and if
none does, the connection sees what all have written (`execute_cases`). -/
namespace OpenTimeline.Library

structure Connection (δ : Type) where
  committed : δ
  view : δ

namespace Connection
variable {δ ι ε : Type}

/-- A connection with no transaction open. -/
def opened (db : δ) : Connection δ := ⟨db, db⟩

def commit (c : Connection δ) : Connection δ := opened c.view

def rollback (c : Connection δ) : Connection δ := opened c.committed

@[simp] theorem committed_opened (db : δ) : (opened db).committed = db := rfl

@[simp] theorem view_opened (db : δ) : (opened db).view = db := rfl

/-- Statements, each with what it writes, until one raises. -/
def execute (raises : ι → Option ε) : List (ι × (δ → δ)) → Connection δ → Connection δ × Option ε
  | [], c => (c, none)
  | (name, write) :: rest, c =>
    match raises name with
    | some error => (c, some error)
    | none => execute raises rest ⟨c.committed, write c.view⟩

/-- What the statements write together. -/
def written (statements : List (ι × (δ → δ))) (db : δ) : δ := statements.foldl (fun db s => s.2 db) db

variable (raises : ι → Option ε) (statements : List (ι × (δ → δ)))

theorem execute_committed (c : Connection δ) : (execute raises statements c).1.committed = c.committed := by
  induction statements generalizing c with
  | nil => rfl
  | cons s rest ih =>
    unfold execute
    cases raises s.1 with
    | some error => rfl
    | none => exact ih _

theorem execute_eq_none_iff (c : Connection δ) :
    (execute raises statements c).2 = none ↔ ∀ s ∈ statements, raises s.1 = none := by
  induction statements generalizing c with
  | nil => simp [execute]
  | cons s rest ih =>
    unfold execute
    cases hraises : raises s.1 with
    | some error => simp [hraises]
    | none => simp [hraises, ih]

variable {raises statements}

theorem execute_view {c : Connection δ} (h : (execute raises statements c).2 = none) :
    (execute raises statements c).1.view = written statements c.view := by
  induction statements generalizing c with
  | nil => rfl
  | cons s rest ih =>
    unfold execute at h ⊢
    cases hraises : raises s.1 with
    | some error => simp [hraises] at h
    | none =>
      rw [hraises] at h
      exact ih h

variable (raises statements) in
/-- Statements on a connection with no transaction open: a rollback leaves nothing of them, or a
commit leaves all. -/
theorem execute_cases (db : δ) :
    (∃ error, (execute raises statements (opened db)).2 = some error ∧
      (execute raises statements (opened db)).1.rollback = opened db) ∨
    ((execute raises statements (opened db)).2 = none ∧ (∀ s ∈ statements, raises s.1 = none) ∧
      (execute raises statements (opened db)).1.commit = opened (written statements db)) := by
  cases h : (execute raises statements (opened db)).2 with
  | some error => exact Or.inl ⟨error, rfl, congrArg opened (execute_committed _ _ _)⟩
  | none => exact Or.inr ⟨rfl, (execute_eq_none_iff _ _ _).mp h, congrArg opened (execute_view h)⟩

end Connection
end OpenTimeline.Library
