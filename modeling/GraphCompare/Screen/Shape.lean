import GraphCompare.Screen.Scalar

/-! Points, distances, sizes and rectangles. -/
namespace GraphCompare

structure Point (α : Type) where
  x : α
  y : α
deriving DecidableEq, Repr

structure Vec (α : Type) where
  x : α
  y : α
deriving DecidableEq, Repr

structure Size (α : Type) where
  width : α
  height : α
deriving DecidableEq, Repr

structure Rect (α : Type) where
  origin : Point α
  size : Size α
deriving DecidableEq, Repr

variable {α : Type} [Scalar α]

namespace Vec

def isZero (v : Vec α) : Bool := Scalar.same v.x 0 && Scalar.same v.y 0

def div (v : Vec α) (k : α) : Vec α := ⟨v.x / k, v.y / k⟩

end Vec

namespace Point

def zero : Point α := ⟨0, 0⟩

def add (p : Point α) (v : Vec α) : Point α := ⟨p.x + v.x, p.y + v.y⟩

def sub (p : Point α) (v : Vec α) : Point α := ⟨p.x - v.x, p.y - v.y⟩

/-- The way from `q` to `p`. -/
def minus (p q : Point α) : Vec α := ⟨p.x - q.x, p.y - q.y⟩

end Point

namespace Size

def zero : Size α := ⟨0, 0⟩

def div (s : Size α) (k : α) : Size α := ⟨s.width / k, s.height / k⟩

/-- Half of a size, as a distance. -/
def half (s : Size α) : Vec α := ⟨s.width / Scalar.two, s.height / Scalar.two⟩

/-- A size is empty unless both parts are positive. -/
def isEmpty (s : Size α) : Bool := !(Scalar.less 0 s.width && Scalar.less 0 s.height)

end Size

namespace Rect

def zero : Rect α := ⟨.zero, .zero⟩

def center (r : Rect α) : Point α := r.origin.add r.size.half

end Rect

end GraphCompare
