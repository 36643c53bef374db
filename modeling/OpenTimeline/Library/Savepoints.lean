import Mathlib

/-! A setting that is local to a transaction.

A transaction may set it, and loses what it has set when it ends. A savepoint keeps the value of the moment: going
back to the savepoint brings it again, releasing the savepoint does not. A statement that is refused makes the
transaction refuse every other one, until it goes back to a savepoint or is rolled back. -/
namespace OpenTimeline.Library

structure LocalSetting (α : Type) where
  /-- the value outside transactions -/
  session : α
  current : α
  /-- the values at the savepoints, the last one first -/
  saved : List α := []
  failed : Bool := false
deriving DecidableEq

namespace LocalSetting
variable {α : Type} (s : LocalSetting α)

def set (value : α) : Option (LocalSetting α) := if s.failed then none else some { s with current := value }

def savepoint : Option (LocalSetting α) :=
  if s.failed then none else some { s with saved := s.current :: s.saved }

def release : Option (LocalSetting α) :=
  if s.failed then none
  else match s.saved with
    | [] => none
    | _ :: saved => some { s with saved := saved }

def rollbackTo : Option (LocalSetting α) :=
  match s.saved with
  | [] => none
  | value :: saved => some { s with current := value, saved := saved, failed := false }

def refuse : LocalSetting α := { s with failed := true }

def rollback : LocalSetting α := { s with current := s.session, saved := [], failed := false }

/-- Nothing is left of what was set, no savepoint is open, and statements are not refused. -/
def Clean : Prop := s.current = s.session ∧ s.saved = [] ∧ s.failed = false

variable {s}

theorem clean_iff : s.Clean ↔ s = ⟨s.session, s.session, [], false⟩ := by
  rcases s with ⟨session, current, saved, failed⟩
  simp [Clean]

theorem rollback_clean : s.rollback.Clean := ⟨rfl, rfl, rfl⟩

theorem not_clean_refuse : ¬ s.refuse.Clean := fun h => by cases h.2.2

end LocalSetting
end OpenTimeline.Library
