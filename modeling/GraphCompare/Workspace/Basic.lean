import GraphCompare.Event.Basic
import GraphCompare.Marker
import GraphCompare.Overlay.Build
import GraphCompare.Selection
import GraphCompare.Settings.Json

/-! The four coupled views of a comparison, and the operations that change one thing at a time. -/
namespace GraphCompare

structure Workspace where
  overlay : Overlay
  layers : Layers
  markers : Markers
  selection : Selection
  settings : Settings

namespace Workspace

/-- Everything visible and nothing selected. -/
def new (o : Overlay) (settings : Settings) : Workspace where
  overlay := o
  layers := .allVisible o
  markers := .none
  selection := .empty
  settings := settings

/-- The settings are checked before the comparison. -/
def ofComparison (c : Comparison) (settings : Settings) : Except Failure Workspace := do
  settings.validate
  let o ← Overlay.ofComparison c
  return new o settings

variable (w : Workspace)

/-- Whether a node of a side is hidden. -/
def hasHiddenNodes : Bool := Side.both.any fun s => (w.layers.get s.view).hiddenCount .node != 0

/-- Markers, once there are any, follow the flags. -/
def setVisible (s : Side) (e : Element) (visible : Bool) :
    Except Failure (Outcome Workspace Bool) := do
  let (changed, layers) ← w.layers.setVisible w.overlay s e visible
  if !changed then return .still { w with layers := layers } false
  else if w.markers.isNone then
    return ⟨{ w with layers := layers }, Notice.events Event.visibility, true⟩
  else
    return ⟨{ w with layers := layers, markers := layers.markers w.overlay },
      Notice.events (Event.visibility ++ [.markersChanged]), true⟩

def setNodeVisibleAt (s : Side) (a : Address) (visible : Bool) :
    Except Failure (Outcome Workspace Bool) := do
  let v ← (w.overlay.side s).nodeId a
  w.setVisible s (.node v) visible

/-- Takes over a selection, with an event if it changed. -/
def withSelection (change : Bool × Selection) : Outcome Workspace Bool :=
  ⟨{ w with selection := change.2 }, if change.1 then [.event .selectionChanged] else [], change.1⟩

def select (id : NodeId) (additive : Bool) : Outcome Workspace Bool :=
  w.withSelection (w.selection.select id additive)

def toggleSelected (id : NodeId) : Outcome Workspace Bool :=
  w.withSelection (w.selection.toggle id)

def clearSelection : Outcome Workspace Bool := w.withSelection w.selection.clear

/-- Overrides settings, with an event for each key that changed. -/
def updateSettings (overrides : Json) : Except Failure (Outcome Workspace (List SettingKey)) := do
  let (changed, settings) ← w.settings.override overrides
  return ⟨{ w with settings := settings }, Notice.events (changed.map .settingsChanged), changed⟩

/-- Sets only the flag for live browsing; says whether it changed. -/
def setBrowsing (enabled : Bool) : Outcome Workspace Bool :=
  if w.settings.browsing.enabled = enabled then .still w false
  else
    ⟨{ w with settings.browsing.enabled := enabled },
      [.event (.settingsChanged .proximityBrowsing)], true⟩

end Workspace

/-- A node as a side's view draws it. -/
inductive DrawnNode
  | raw (index : NodeId) (node : RawNode)
  | marker (m : Marker)

namespace Workspace
variable (w : Workspace)

/-- A side's nodes with their flags. -/
def sideNodes (s : Side) : List (NodeId × RawNode × Bool) :=
  (w.overlay.side s).graph.nodes.mapIdx fun v n => (v, n, (w.layers.get s.view).get (.node v))

/-- The visible nodes of a side, then its markers. -/
def drawn (s : Side) : List DrawnNode :=
  ((w.sideNodes s).filter (·.2.2)).map (fun n => .raw n.1 n.2.1) ++
    (w.markers.get s.view).map .marker

end Workspace

end GraphCompare
