import GraphCompare.Graph.Depth
import GraphCompare.Workspace.Basic

/-!
Browsing by neighbourhood: collapsing the views around some identities, and expanding them again
at one of them.
-/
namespace GraphCompare

namespace Layers

/-- Whether an identity stays: a node if it is among those to keep, an edge if both its ends are. -/
def keeps (o : Overlay) (keep : Array Bool) : Element → Bool
  | .node i => (keep[i]?).getD false
  | .edge i =>
    match o.merged.endpoints? i with
    | some (v, w) => (keep[v]?).getD false && (keep[w]?).getD false
    | none => false

/-- Sets the flag of an identity on a side, if the side holds it. -/
def showHeld (o : Overlay) (m : Merged) (e : Element) (visible : Bool) (ls : Layers) (s : Side) :
    Except Failure Layers :=
  match m.holders.get s with
  | none => .ok ls
  | some i => (ls.setVisible o s (e.withIndex i) visible).map (·.2)

/-- Shows or hides one identity on both sides. -/
def showIdentity (o : Overlay) (keep : Array Bool) (ls : Layers) (e : Element) :
    Except Failure Layers :=
  match o.merged? e with
  | none => .ok ls
  | some m => Side.both.foldlM (showHeld o m e (keeps o keep e)) ls

/-- Goes through all identities and shows those to keep in the views that have them. -/
def showing (o : Overlay) (keep : Array Bool) (ls : Layers) : Except Failure Layers :=
  o.identities.foldlM (showIdentity o keep) ls

end Layers

/-- Nodes of the combined view, and its markers. -/
structure Counts where
  visible : Nat
  hidden : Nat
  markers : Nat
deriving DecidableEq, Repr

namespace Workspace
variable (w : Workspace)

def counts : Counts :=
  let hidden := w.layers.combined.hiddenCount .node
  ⟨w.overlay.nodeCount .combined - hidden, hidden, w.markers.combined.length⟩

/-- Shows exactly the identities to keep, with the markers that belong to that. -/
def showOnly (keep : Array Bool) : Except Failure (Outcome Workspace Counts) := do
  let layers ← w.layers.showing w.overlay keep
  let next := { w with layers := layers, markers := layers.markers w.overlay }
  return ⟨next, Notice.events (Event.visibility ++ [.markersChanged]), next.counts⟩

/-- The identities within the child depth along edges from the focus, or within the parent depth
against them. -/
def nearby (focus : List NodeId) : Array Bool :=
  let g := w.overlay.merged
  let down := g.depths focus .outgoing w.settings.browsing.childDepth.toNat
  let up := g.depths focus .incoming w.settings.browsing.parentDepth.toNat
  Array.zipWith (fun d u => d.isSome || u.isSome) down up

/-- Hides everything that is not near the focus. Without a focus nothing happens. -/
def collapse (focus : List NodeId) : Except Failure (Outcome Workspace Counts) :=
  if focus.isEmpty then .ok (.still w w.counts)
  else
    match focus.find? fun id => !decide (id < w.overlay.merged.nodeCount) with
    | some id => .error (.unknownElement .combined .node id)
    | none => w.showOnly (w.nearby focus)

def collapseToSelection : Except Failure (Outcome Workspace Counts) := w.collapse w.selection.ids

/-- The visible identities with one more and its neighbours. -/
def expanded (id : NodeId) : Array Bool :=
  let near := w.overlay.merged.neighbors id
  w.layers.combined.nodes.mapIdx fun i visible => visible || i = id || near.contains i

/-- Shows an identity and its neighbours besides what is visible. -/
def reveal (id : NodeId) : Except Failure (Outcome Workspace Counts) :=
  if id < w.overlay.merged.nodeCount then w.showOnly (w.expanded id)
  else .error (.unknownElement .combined .node id)

end Workspace

end GraphCompare
