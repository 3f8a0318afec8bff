/-!
Numbers to measure screens with. Programs run on floats; exact laws are laws about the rationals
in the same formulas.
-/
namespace GraphCompare

class Scalar (α : Type) extends Zero α, One α, Add α, Sub α, Mul α, Div α where
  less : α → α → Bool
  same : α → α → Bool
  finite : α → Bool

instance : Scalar Float where
  zero := 0
  one := 1
  less x y := x < y
  same x y := x == y
  finite := Float.isFinite

namespace Scalar
variable {α : Type} [Scalar α]

def two : α := 1 + 1

/-- The larger of two numbers; one that is no number gives way to the other. -/
def larger (x y : α) : α := if less x y || !same x x then y else x

/-- The smaller of two numbers; one that is no number gives way to the other. -/
def smaller (x y : α) : α := if less y x || !same x x then y else x

end Scalar

end GraphCompare
