import GraphCompare.Directory

/-! Simple directed graphs that only grow, so that an index once given stays valid. -/
namespace GraphCompare

abbrev NodeId := Nat

abbrev EdgeId := Nat

/-- Which way an edge is followed. -/
inductive Direction
  | outgoing
  | incoming
deriving DecidableEq, Repr

/-- A node with the edges that leave it and those that reach it, oldest first. -/
structure Vertex (N : Type) where
  label : N
  outgoing : List EdgeId
  incoming : List EdgeId
deriving DecidableEq, Repr

structure Arc (E : Type) where
  source : NodeId
  target : NodeId
  label : E
deriving DecidableEq, Repr

/-- The nodes, the edges, and for the two ends of an edge its index. -/
structure Graph (N E : Type) where
  vertices : Array (Vertex N)
  arcs : Array (Arc E)
  index : Directory (NodeId × NodeId)
deriving DecidableEq, Repr

namespace Graph
variable {N E N' E' : Type} (g : Graph N E)

def empty : Graph N E := ⟨#[], #[], .empty⟩

def nodeCount : Nat := g.vertices.size

def edgeCount : Nat := g.arcs.size

def nodeIds : List NodeId := List.range g.nodeCount

def edgeIds : List EdgeId := List.range g.edgeCount

def node? (v : NodeId) : Option N := g.vertices[v]?.map (·.label)

def edge? (e : EdgeId) : Option E := g.arcs[e]?.map (·.label)

def endpoints? (e : EdgeId) : Option (NodeId × NodeId) :=
  g.arcs[e]?.map fun a => (a.source, a.target)

/-- The node labels in the order of their indices. -/
def nodes : List N := g.vertices.toList.map (·.label)

/-- The edge labels in the order of their indices. -/
def edges : List E := g.arcs.toList.map (·.label)

def outEdges (v : NodeId) : List EdgeId := (g.vertices[v]?.map (·.outgoing)).getD []

def inEdges (v : NodeId) : List EdgeId := (g.vertices[v]?.map (·.incoming)).getD []

def edgesAlong (v : NodeId) : Direction → List EdgeId
  | .outgoing => g.outEdges v
  | .incoming => g.inEdges v

/-- The node an edge leads to when it is followed in a direction. -/
def far? (e : EdgeId) : Direction → Option NodeId
  | .outgoing => g.arcs[e]?.map (·.target)
  | .incoming => g.arcs[e]?.map (·.source)

/-- The nodes one edge away, in the order of the edges. -/
def nextAlong (v : NodeId) (dir : Direction) : List NodeId :=
  (g.edgesAlong v dir).filterMap (g.far? · dir)

def successors (v : NodeId) : List NodeId := g.nextAlong v .outgoing

def predecessors (v : NodeId) : List NodeId := g.nextAlong v .incoming

/-- Successors, then predecessors, each once and without the node itself. -/
def neighbors (v : NodeId) : List NodeId :=
  ((g.successors v ++ g.predecessors v).filter (· ≠ v)).eraseDups

/-- The edge from `v` to `w`. -/
def findEdge? (v w : NodeId) : Option EdgeId := g.index.get? (v, w)

/-- The new node's index and the graph with it. -/
def addNode (a : N) : NodeId × Graph N E :=
  (g.nodeCount, { g with vertices := g.vertices.push ⟨a, [], []⟩ })

def setNode (v : NodeId) (a : N) : Graph N E :=
  { g with vertices := g.vertices.modify v fun x => { x with label := a } }

def setEdge (e : EdgeId) (b : E) : Graph N E :=
  { g with arcs := g.arcs.modify e fun x => { x with label := b } }

/-- Appends an edge, to the lists of its two ends as well, and enters it in the index. -/
def pushEdge (v w : NodeId) (b : E) : Graph N E where
  vertices :=
    (g.vertices.modify v fun x => { x with outgoing := x.outgoing ++ [g.edgeCount] }).modify w
      fun x => { x with incoming := x.incoming ++ [g.edgeCount] }
  arcs := g.arcs.push ⟨v, w, b⟩
  index := g.index.insert (v, w) g.edgeCount

/-- An edge between two nodes of the graph. Where there is one already it only gets a new label;
`none` if an end is missing. -/
def addEdge? (v w : NodeId) (b : E) : Option (EdgeId × Graph N E) :=
  if v < g.nodeCount ∧ w < g.nodeCount then
    match g.findEdge? v w with
    | some e => some (e, g.setEdge e b)
    | none => some (g.edgeCount, g.pushEdge v w b)
  else none

/-- New labels on the same nodes and edges. -/
def relabel (f : NodeId → N → N') (h : EdgeId → E → E') : Graph N' E' where
  vertices := g.vertices.mapIdx fun v x => ⟨f v x.label, x.outgoing, x.incoming⟩
  arcs := g.arcs.mapIdx fun e x => ⟨x.source, x.target, h e x.label⟩
  index := g.index

/-- The nodes in order and then the edges in order; an edge with a missing end is left out. -/
def ofLists (nodes : List N) (edges : List (Arc E)) : Graph N E :=
  let g : Graph N E := nodes.foldl (fun g a => (g.addNode a).2) empty
  edges.foldl (fun g a => ((g.addEdge? a.source a.target a.label).map (·.2)).getD g) g

@[simp] theorem nodeCount_empty : (empty : Graph N E).nodeCount = 0 := rfl

@[simp] theorem edgeCount_empty : (empty : Graph N E).edgeCount = 0 := rfl

@[simp] theorem nodeCount_addNode (a : N) : (g.addNode a).2.nodeCount = g.nodeCount + 1 := by
  simp [addNode, nodeCount]

@[simp] theorem edgeCount_addNode (a : N) : (g.addNode a).2.edgeCount = g.edgeCount := rfl

@[simp] theorem nodeCount_setNode (v : NodeId) (a : N) :
    (g.setNode v a).nodeCount = g.nodeCount := by
  simp [setNode, nodeCount]

@[simp] theorem edgeCount_setNode (v : NodeId) (a : N) :
    (g.setNode v a).edgeCount = g.edgeCount := rfl

@[simp] theorem nodeCount_setEdge (e : EdgeId) (b : E) :
    (g.setEdge e b).nodeCount = g.nodeCount := rfl

@[simp] theorem edgeCount_setEdge (e : EdgeId) (b : E) :
    (g.setEdge e b).edgeCount = g.edgeCount := by
  simp [setEdge, edgeCount]

@[simp] theorem nodeCount_pushEdge (v w : NodeId) (b : E) :
    (g.pushEdge v w b).nodeCount = g.nodeCount := by
  simp [pushEdge, nodeCount]

@[simp] theorem edgeCount_pushEdge (v w : NodeId) (b : E) :
    (g.pushEdge v w b).edgeCount = g.edgeCount + 1 := by
  simp [pushEdge, edgeCount]

@[simp] theorem nodeCount_relabel (f : NodeId → N → N') (h : EdgeId → E → E') :
    (g.relabel f h).nodeCount = g.nodeCount := by
  simp [relabel, nodeCount]

@[simp] theorem edgeCount_relabel (f : NodeId → N → N') (h : EdgeId → E → E') :
    (g.relabel f h).edgeCount = g.edgeCount := by
  simp [relabel, edgeCount]

theorem node?_addNode (a : N) (v : NodeId) :
    (g.addNode a).2.node? v = if v = g.nodeCount then some a else g.node? v := by
  simp only [node?, addNode, nodeCount, Array.getElem?_push]
  split <;> simp_all

@[simp] theorem node?_pushEdge (v w : NodeId) (b : E) (u : NodeId) :
    (g.pushEdge v w b).node? u = g.node? u := by
  simp only [node?, pushEdge, Array.getElem?_modify]
  cases g.vertices[u]? <;> grind

theorem edge?_pushEdge (v w : NodeId) (b : E) (e : EdgeId) :
    (g.pushEdge v w b).edge? e = if e = g.edgeCount then some b else g.edge? e := by
  simp only [edge?, pushEdge, edgeCount, Array.getElem?_push]
  split <;> simp_all

theorem endpoints?_pushEdge (v w : NodeId) (b : E) (e : EdgeId) :
    (g.pushEdge v w b).endpoints? e = if e = g.edgeCount then some (v, w) else g.endpoints? e := by
  simp only [endpoints?, pushEdge, edgeCount, Array.getElem?_push]
  split <;> simp_all

theorem node?_relabel (f : NodeId → N → N') (h : EdgeId → E → E') (v : NodeId) :
    (g.relabel f h).node? v = (g.node? v).map (f v) := by
  simp [node?, relabel, Function.comp_def]

theorem edge?_relabel (f : NodeId → N → N') (h : EdgeId → E → E') (e : EdgeId) :
    (g.relabel f h).edge? e = (g.edge? e).map (h e) := by
  simp [edge?, relabel, Function.comp_def]

@[simp] theorem endpoints?_relabel (f : NodeId → N → N') (h : EdgeId → E → E') (e : EdgeId) :
    (g.relabel f h).endpoints? e = g.endpoints? e := by
  simp [endpoints?, relabel, Function.comp_def]

theorem mem_neighbors {v w : NodeId} :
    w ∈ g.neighbors v ↔ w ≠ v ∧ (w ∈ g.successors v ∨ w ∈ g.predecessors v) := by
  simp [neighbors, and_comm, and_or_left]

end Graph

end GraphCompare
