import GraphCompare.Layer

/-! Markers: a visible node with hidden neighbours carries one, which counts them. -/
namespace GraphCompare

structure Marker where
  attached : NodeId
  hiddenNeighbors : Nat
deriving DecidableEq, Repr

abbrev Markers := PerView (List Marker)

namespace Layer
variable {N E : Type}

def hiddenNeighbors (l : Layer) (g : Graph N E) (v : NodeId) : List NodeId :=
  (g.neighbors v).filter fun w => !l.get (.node w)

/-- The marker of a visible node, if it has anything to count. -/
def marker? (l : Layer) (g : Graph N E) (v : NodeId) : Option Marker :=
  match (l.hiddenNeighbors g v).length with
  | 0 => none
  | n + 1 => some ⟨v, n + 1⟩

/-- The markers of a view, in the order of its nodes. -/
def markers (l : Layer) (g : Graph N E) : List Marker := l.visibleNodes.filterMap (l.marker? g)

end Layer

namespace Markers

def none : Markers := ⟨[], [], [], []⟩

def isNone (ms : Markers) : Bool := ms.toList.all List.isEmpty

end Markers

/-- The markers of all four views. -/
def Layers.markers (o : Overlay) (ls : Layers) : Markers where
  primary := ls.primary.markers (o.side .primary).graph
  secondary := ls.secondary.markers (o.side .secondary).graph
  combined := ls.combined.markers o.merged
  super := ls.super.markers o.merged

end GraphCompare
