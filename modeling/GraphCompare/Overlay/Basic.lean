import GraphCompare.Comparison.Basic
import GraphCompare.Failure

/-!
Two graphs laid over each other. An element of the merged graph stands for a matched pair or for
one unmatched element; its index is the identity of the elements it stands for.
-/
namespace GraphCompare

structure RawNode where
  address : Address
  label : String
  kind : MatchKind
  counterpart : Option NodeId
  identity : NodeId
deriving DecidableEq, Repr

structure RawEdge where
  source : Address
  target : Address
  kind : MatchKind
  counterpart : Option EdgeId
  identity : EdgeId
deriving DecidableEq, Repr

/-- A node or an edge of the merged graph, by its index on each side that holds it. -/
structure Merged where
  holders : PerSide (Option Nat)
  kind : MatchKind
deriving DecidableEq, Repr

/-- A side's graph, and where each address is in it. -/
structure SideGraph where
  side : Side
  name : Option String
  imageName : Option String
  address : Option Address
  graph : Graph RawNode RawEdge
  byAddress : Directory Address
deriving DecidableEq, Repr

structure Overlay where
  flavor : Flavor
  sides : PerSide SideGraph
  merged : Graph Merged Merged
deriving DecidableEq, Repr

namespace Merged

/-- An element held by no side does not occur; it would count as secondary. -/
def presence (m : Merged) : Presence :=
  match m.holders.primary, m.holders.secondary with
  | some _, some _ => .matched
  | some _, none => .primaryUnmatched
  | none, _ => .secondaryUnmatched

end Merged

namespace SideGraph
variable (g : SideGraph)

def nodeAt? (a : Address) : Option NodeId := g.byAddress.get? a

def nodeId (a : Address) : Except Failure NodeId :=
  match g.nodeAt? a with
  | some v => .ok v
  | none => .error (.unknownAddress g.side a)

/-- The source is looked up before the target, and both before the edge. -/
def edgeId (source target : Address) : Except Failure EdgeId := do
  let v ← g.nodeId source
  let w ← g.nodeId target
  match g.graph.findEdge? v w with
  | some e => .ok e
  | none => .error (.unknownEdge g.side source target)

def rawNode (a : Address) : Except Failure RawNode := do
  let v ← g.nodeId a
  match g.graph.node? v with
  | some n => .ok n
  | none => .error (.unknownAddress g.side a)

def rawEdge (source target : Address) : Except Failure RawEdge := do
  let e ← g.edgeId source target
  match g.graph.edge? e with
  | some r => .ok r
  | none => .error (.unknownEdge g.side source target)

/-- The identity of a node or an edge. -/
def identity? : Element → Option Nat
  | .node v => (g.graph.node? v).map (·.identity)
  | .edge e => (g.graph.edge? e).map (·.identity)

end SideGraph

namespace Overlay
variable (o : Overlay)

def side (s : Side) : SideGraph := o.sides.get s

/-- The element of the merged graph with that identity. -/
def merged? : Element → Option Merged
  | .node i => o.merged.node? i
  | .edge i => o.merged.edge? i

/-- All identities, nodes before edges. -/
def identities : List Element :=
  o.merged.nodeIds.map .node ++ o.merged.edgeIds.map .edge

def nodeCount (v : View) : Nat :=
  match v.side? with
  | some s => (o.side s).graph.nodeCount
  | none => o.merged.nodeCount

def edgeCount (v : View) : Nat :=
  match v.side? with
  | some s => (o.side s).graph.edgeCount
  | none => o.merged.edgeCount

/-- The address of the matched node on the other side, if there is one. -/
def counterpart (s : Side) (a : Address) : Except Failure (Option Address) := do
  let n ← (o.side s).rawNode a
  return (n.counterpart.bind (o.side s.other).graph.node?).map (·.address)

def matchKind (s : Side) (a : Address) : Except Failure MatchKind := do
  let n ← (o.side s).rawNode a
  return n.kind

def isMatched (s : Side) (a : Address) : Except Failure Bool := do
  let k ← o.matchKind s a
  return k ≠ .unmatched

def isIdentical (s : Side) (a : Address) : Except Failure Bool := do
  let k ← o.matchKind s a
  return k = .identical

def isStructurallyChanged (s : Side) (a : Address) : Except Failure Bool := do
  let k ← o.matchKind s a
  return k = .structurallyChanged

def isInstructionsOnlyChanged (s : Side) (a : Address) : Except Failure Bool := do
  let k ← o.matchKind s a
  return k = .instructionsOnlyChanged

def presence? (id : NodeId) : Option Presence := (o.merged.node? id).map (·.presence)

/-- The identity of the node that a view shows at an index. -/
def identityIn? (v : View) (i : NodeId) : Option NodeId :=
  match v.side? with
  | some s => (o.side s).identity? (.node i)
  | none => if i < o.merged.nodeCount then some i else none

/-- The empty side of a comparison of one function with nothing. -/
def lacksFunction (s : Side) : Bool := o.flavor = .flowGraph && (o.side s).address.isNone

end Overlay

end GraphCompare
