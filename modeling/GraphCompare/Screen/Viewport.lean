import GraphCompare.Screen.Shape

/-! Cameras: which part of the world a canvas shows. -/
namespace GraphCompare

/-- `origin` is the world point in the canvas's corner, `size` the canvas in pixels. -/
structure Viewport (α : Type) where
  world : Rect α
  zoom : α
  origin : Point α
  size : Size α
deriving DecidableEq, Repr

namespace Viewport
variable {α : Type} [Scalar α]

def initial : Viewport α := ⟨.zero, 1, .zero, .zero⟩

variable (v : Viewport α)

/-- The extent of the world that is visible. -/
def visibleSize : Size α := v.size.div v.zoom

def center : Point α := v.origin.add v.visibleSize.half

/-- The origin that puts a point into the middle of the canvas. -/
def originForCenter (c : Point α) : Point α := c.sub v.visibleSize.half

def visibleRect : Rect α := ⟨v.origin, v.visibleSize⟩

/-- A distance on the canvas as a distance in the world. -/
def worldDelta (d : Vec α) : Vec α := d.div v.zoom

end Viewport

end GraphCompare
