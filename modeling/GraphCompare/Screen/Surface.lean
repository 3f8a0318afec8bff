import GraphCompare.Pointer.Mode
import GraphCompare.Screen.Viewport

/-! Surfaces: what draws a view, with its camera and the content it shows. -/
namespace GraphCompare

/-- A surface keeps the camera it is given, on a canvas of fixed size. Bounds and node counts are
those of the contents it can show, and `hit` finds what lies at a point of its canvas. It is drawn
over the width of its canvas unless it has a width of its own. -/
structure Surface (α : Type) where
  viewport : Viewport α
  content : View
  bounds : View → Rect α
  nodes : View → Nat
  hit : Viewport α → Point α → Hit
  width : Viewport α → α := fun v => v.size.width

abbrev Surfaces (α : Type) := PerView (Surface α)

namespace Surface
variable {α : Type} (s : Surface α)

def withCamera (world : Rect α) (zoom : α) (origin : Point α) : Surface α :=
  { s with viewport := ⟨world, zoom, origin, s.viewport.size⟩ }

def withContent (v : View) : Surface α := { s with content := v }

def renderedWidth : α := s.width s.viewport

def contentBounds : Rect α := s.bounds s.content

def nodeCount : Nat := s.nodes s.content

def hitTest (p : Point α) : Hit := s.hit s.viewport p

variable [Scalar α]

/-- Puts a point into the middle of the canvas at the present zoom. -/
def withCenter (c : Point α) : Surface α :=
  s.withCamera s.viewport.world s.viewport.zoom (s.viewport.originForCenter c)

/-- Zooms about the middle of the canvas; the same zoom leaves the camera alone. -/
def zoomedTo (zoom : α) : Surface α :=
  if Scalar.same s.viewport.zoom zoom then s
  else
    let v := s.viewport
    s.withCamera v.world zoom ({ v with zoom := zoom }.originForCenter v.center)

def shifted (d : Vec α) : Surface α :=
  s.withCamera s.viewport.world s.viewport.zoom (s.viewport.origin.add d)

@[simp] theorem size_withCamera {α : Type} (s : Surface α) (world : Rect α) (zoom : α)
    (origin : Point α) : (s.withCamera world zoom origin).viewport.size = s.viewport.size := rfl

@[simp] theorem content_withCamera {α : Type} (s : Surface α) (world : Rect α) (zoom : α)
    (origin : Point α) : (s.withCamera world zoom origin).content = s.content := rfl

@[simp] theorem size_withCenter (c : Point α) :
    (s.withCenter c).viewport.size = s.viewport.size := rfl

@[simp] theorem size_zoomedTo (zoom : α) : (s.zoomedTo zoom).viewport.size = s.viewport.size := by
  simp only [zoomedTo]
  split <;> rfl

@[simp] theorem world_zoomedTo (zoom : α) :
    (s.zoomedTo zoom).viewport.world = s.viewport.world := by
  simp only [zoomedTo]
  split <;> rfl

@[simp] theorem size_shifted (d : Vec α) : (s.shifted d).viewport.size = s.viewport.size := rfl

end Surface

end GraphCompare
