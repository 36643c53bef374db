import Mathlib

/-! Number formats.

The finite numbers of a floating-point format, with the operations as the format rounds
them. No law is asked of them but the order: what is proved over `Floats` holds of binary64
and of any other format. -/
namespace OpenTimeline.Library

class Floats (R : Type) extends LinearOrder R, Add R, Sub R, Mul R, Div R, Neg R where
  /-- the number nearest to a rational, as a literal or a quotient of integers is read -/
  near : ℚ → R
  exp : R → R
  log : R → R
  /-- to six decimals -/
  round6 : R → R
  sum : List R → R

namespace Floats
variable {R : Type} [Floats R]

/-- Between zero and one. -/
def clamp (x : R) : R := max (near 0) (min (near 1) x)

/-- `a / max(1, b)`, of integers. -/
def ratio (a b : Nat) : R := near ((a : ℚ) / max 1 b)

end Floats
end OpenTimeline.Library
