import GraphCompare.Overlay.Basic

/-! Selected identities, oldest first. A matched pair is selected as one. -/
namespace GraphCompare

structure Selection where
  ids : List NodeId
deriving DecidableEq, Repr

namespace Selection

def empty : Selection := ⟨[]⟩

def contains (s : Selection) (id : NodeId) : Bool := id ∈ s.ids

def size (s : Selection) : Nat := s.ids.length

def isEmpty (s : Selection) : Bool := s.ids.isEmpty

/-- Selects an identity, alone or besides the others; says also whether anything changed. -/
def select (s : Selection) (id : NodeId) (additive : Bool) : Bool × Selection :=
  if additive then
    if s.contains id then (false, s) else (true, ⟨s.ids ++ [id]⟩)
  else if s.size = 1 && s.contains id then (false, s)
  else (true, ⟨[id]⟩)

/-- Selects an identity that is not selected, and the other way round. -/
def toggle (s : Selection) (id : NodeId) : Bool × Selection :=
  if s.contains id then (true, ⟨s.ids.erase id⟩) else (true, ⟨s.ids ++ [id]⟩)

def clear (s : Selection) : Bool × Selection := (!s.isEmpty, empty)

/-- The selected nodes that a side has. -/
def onSide (s : Selection) (o : Overlay) (side : Side) : List NodeId :=
  s.ids.filterMap fun id => (o.merged.node? id).bind (·.holders.get side)

end Selection

end GraphCompare
