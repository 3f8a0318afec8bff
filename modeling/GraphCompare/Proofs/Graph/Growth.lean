import GraphCompare.Proofs.Graph.Incidence

/-! Graphs as they grow from nothing, one node or edge after another, and the graphs that grow with
every edge turned round. -/
namespace GraphCompare

/-- A node or an edge to be added. -/
inductive Growth (N E : Type)
  | node (a : N)
  | edge (v w : NodeId) (b : E)
deriving DecidableEq, Repr

namespace Direction

def flip : Direction → Direction
  | .outgoing => .incoming
  | .incoming => .outgoing

@[simp] theorem flip_flip (dir : Direction) : dir.flip.flip = dir := by cases dir <;> rfl

end Direction

/-- The same addition with an edge turned round. -/
def Growth.reverse {N E : Type} : Growth N E → Growth N E
  | .node a => .node a
  | .edge v w b => .edge w v b

namespace Graph
variable {N E : Type} {g : Graph N E} {v w : NodeId} {e : EdgeId} {dir : Direction}

/-- Adds a node or an edge; an edge with a missing end is left out. -/
def grow (g : Graph N E) : Growth N E → Graph N E
  | .node a => (g.addNode a).2
  | .edge v w b => ((g.addEdge? v w b).map (·.2)).getD g

/-- The graph that grows from nothing. -/
def grown (l : List (Growth N E)) : Graph N E := l.foldl grow empty

theorem isSimple_grow (h : g.IsSimple) (a : Growth N E) : (g.grow a).IsSimple := by
  cases a with
  | node a => exact isSimple_addNode h a
  | edge v w b =>
    cases he : g.addEdge? v w b with
    | none => simpa [grow, he] using h
    | some p => simpa [grow, he] using isSimple_addEdge? h he

theorem isSimple_foldl_grow (h : g.IsSimple) (l : List (Growth N E)) :
    (l.foldl grow g).IsSimple := by
  induction l generalizing g with
  | nil => exact h
  | cons a l ih => exact ih (isSimple_grow h a)

theorem isSimple_grown (l : List (Growth N E)) : (grown l).IsSimple :=
  isSimple_foldl_grow isSimple_empty l

section reversal

/-- The index with the two ends of every edge exchanged. -/
def reverseIndex (d : Directory (NodeId × NodeId)) : Directory (NodeId × NodeId) :=
  ⟨d.entries.map fun x => (x.1.swap, x.2)⟩

theorem get?_reverseIndex (d : Directory (NodeId × NodeId)) (p : NodeId × NodeId) :
    (reverseIndex d).get? p = d.get? p.swap := by
  have hkey : ∀ q : NodeId × NodeId, q.swap = p ↔ q = p.swap := by
    intro q
    rw [← Prod.swap_inj, Prod.swap_swap]
  simp [Directory.get?, reverseIndex, List.find?_map, Function.comp_def, hkey]

/-- The graph with every edge turned round. -/
def reverse (g : Graph N E) : Graph N E where
  vertices := g.vertices.map fun x => ⟨x.label, x.incoming, x.outgoing⟩
  arcs := g.arcs.map fun a => ⟨a.target, a.source, a.label⟩
  index := reverseIndex g.index

@[simp] theorem nodeCount_reverse (g : Graph N E) : g.reverse.nodeCount = g.nodeCount := by
  simp [reverse, nodeCount]

@[simp] theorem edgeCount_reverse (g : Graph N E) : g.reverse.edgeCount = g.edgeCount := by
  simp [reverse, edgeCount]

theorem far?_reverse (g : Graph N E) (e : EdgeId) (dir : Direction) :
    g.reverse.far? e dir = g.far? e dir.flip := by
  cases dir <;> simp [far?, reverse, Direction.flip, Function.comp_def]

theorem edgesAlong_reverse (g : Graph N E) (v : NodeId) (dir : Direction) :
    g.reverse.edgesAlong v dir = g.edgesAlong v dir.flip := by
  cases dir <;> simp [edgesAlong, outEdges, inEdges, reverse, Direction.flip, Function.comp_def]

/-- Against the edges is along them once they are turned round. -/
theorem nextAlong_reverse (g : Graph N E) (v : NodeId) (dir : Direction) :
    g.reverse.nextAlong v dir = g.nextAlong v dir.flip := by
  simp only [nextAlong, edgesAlong_reverse, far?_reverse]

theorem findEdge?_reverse (g : Graph N E) (v w : NodeId) :
    g.reverse.findEdge? v w = g.findEdge? w v := get?_reverseIndex g.index (v, w)

@[simp] theorem reverse_empty : (empty : Graph N E).reverse = empty := by
  simp [reverse, empty, reverseIndex, Directory.empty]

theorem reverse_addNode (g : Graph N E) (a : N) :
    (g.addNode a).2.reverse = (g.reverse.addNode a).2 := by
  simp [addNode, reverse]

theorem reverse_setEdge (g : Graph N E) (e : EdgeId) (b : E) :
    (g.setEdge e b).reverse = g.reverse.setEdge e b := by
  simp only [setEdge, reverse, Graph.mk.injEq, true_and, and_true]
  apply Array.ext_getElem?
  intro i
  simp only [Array.getElem?_map, Array.getElem?_modify]
  split <;> cases g.arcs[i]? <;> rfl

theorem reverse_pushEdge (g : Graph N E) (v w : NodeId) (b : E) :
    (g.pushEdge v w b).reverse = g.reverse.pushEdge w v b := by
  simp only [pushEdge, reverse, edgeCount, Array.size_map, Graph.mk.injEq, Array.map_push]
  refine ⟨?_, trivial, rfl⟩
  apply Array.ext_getElem?
  intro i
  simp only [Array.getElem?_map, Array.getElem?_modify]
  by_cases hv : v = i <;> by_cases hw : w = i <;> cases g.vertices[i]? <;> simp [hv, hw]

theorem reverse_grow (g : Graph N E) (a : Growth N E) :
    (g.grow a).reverse = g.reverse.grow a.reverse := by
  cases a with
  | node a => exact reverse_addNode g a
  | edge v w b =>
    simp only [grow, Growth.reverse, addEdge?, nodeCount_reverse, edgeCount_reverse,
      findEdge?_reverse, and_comm]
    split
    · cases g.findEdge? v w with
      | some e => exact reverse_setEdge g e b
      | none => exact reverse_pushEdge g v w b
    · rfl

/-- What grows with every edge turned round is the graph turned round. -/
theorem reverse_grown (l : List (Growth N E)) :
    (grown l).reverse = grown (l.map Growth.reverse) := by
  have hfold : ∀ g : Graph N E,
      (l.foldl grow g).reverse = (l.map Growth.reverse).foldl grow g.reverse := by
    induction l with
    | nil => exact fun _ => rfl
    | cons a l ih =>
      intro g
      rw [List.map_cons, List.foldl_cons, List.foldl_cons, ← reverse_grow]
      exact ih (g.grow a)
  rw [grown, hfold, reverse_empty, grown]

end reversal

end Graph

end GraphCompare
