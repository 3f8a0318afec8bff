import GraphCompare.Proofs.Graph.Growth

/-! Graphs under any changes. However nodes and edges are added and labels replaced, all ways to ask
for an edge agree, and what is in a graph keeps its index and its ends. -/
namespace GraphCompare

/-- A change to a graph: something to be added, or a new label for what may be there. -/
inductive Edit (N E : Type)
  | grow (a : Growth N E)
  | setNode (v : NodeId) (a : N)
  | setEdge (e : EdgeId) (b : E)
deriving DecidableEq, Repr

namespace Graph
variable {N E : Type} {g g' g'' : Graph N E} {u v w : NodeId} {e f : EdgeId} {a : Edit N E}

/-- Makes a change. What names something missing changes nothing. -/
def edit (g : Graph N E) : Edit N E → Graph N E
  | .grow a => g.grow a
  | .setNode v a => g.setNode v a
  | .setEdge e b => g.setEdge e b

/-- The graph that any changes make of the empty one. -/
def edited (l : List (Edit N E)) : Graph N E := l.foldl edit empty

/-- The list of edges, the index and the lists at the nodes agree. -/
structure Consistent (g : Graph N E) : Prop where
  ends_lt : ∀ e < g.edgeCount, ∃ v w, g.endpoints? e = some (v, w) ∧ v < g.nodeCount ∧
    w < g.nodeCount
  /-- No two edges lead from one node to another one. -/
  unique : ∀ e f p, g.endpoints? e = some p → g.endpoints? f = some p → e = f
  /-- The index has an entry for each edge, under its ends, and no other one. -/
  index_iff : ∀ p e, g.index.get? p = some e ↔ g.endpoints? e = some p
  findEdge?_iff : ∀ v w e, g.findEdge? v w = some e ↔ g.endpoints? e = some (v, w)
  mem_outEdges : ∀ v e, e ∈ g.outEdges v ↔ ∃ w, g.endpoints? e = some (v, w)
  mem_inEdges : ∀ w e, e ∈ g.inEdges w ↔ ∃ v, g.endpoints? e = some (v, w)
  /-- Each edge is listed once, the oldest first. -/
  ascending : ∀ v, (g.outEdges v).Pairwise (· < ·) ∧ (g.inEdges v).Pairwise (· < ·)

/-- What comes of adding a node: it is the last one, and no edge has it as an end. -/
structure TakesNodes (g : Graph N E) : Prop where
  addNode_fst : ∀ a, (g.addNode a).1 = g.nodeCount
  nodes_eq : ∀ a, (g.addNode a).2.nodes = g.nodes ++ [a]
  arcs_eq : ∀ a, (g.addNode a).2.arcs = g.arcs ∧ (g.addNode a).2.index = g.index
  edgesAlong_eq : ∀ a v dir,
    (g.addNode a).2.edgesAlong v dir = if v = g.nodeCount then [] else g.edgesAlong v dir

/-- What comes of a new label: it stands in the place of the old one, and all else is as before. -/
structure TakesLabels (g : Graph N E) : Prop where
  nodes_setNode : ∀ v a, (g.setNode v a).nodes = g.nodes.set v a
  arcs_setNode : ∀ v a, (g.setNode v a).arcs = g.arcs ∧ (g.setNode v a).index = g.index
  edgesAlong_setNode : ∀ v a u dir, (g.setNode v a).edgesAlong u dir = g.edgesAlong u dir
  edges_setEdge : ∀ e b, (g.setEdge e b).edges = g.edges.set e b
  endpoints?_setEdge : ∀ e b f, (g.setEdge e b).endpoints? f = g.endpoints? f
  vertices_setEdge : ∀ e b,
    (g.setEdge e b).vertices = g.vertices ∧ (g.setEdge e b).index = g.index

/-- What comes of adding an edge. -/
structure TakesEdges (g : Graph N E) : Prop where
  /-- With an end missing, nothing. -/
  missing : ∀ v w b, ¬ (v < g.nodeCount ∧ w < g.nodeCount) →
    g.addEdge? v w b = none ∧ g.grow (.edge v w b) = g
  /-- Where there is an edge already, its label and nothing else is another one. -/
  again : ∀ e v w b, g.endpoints? e = some (v, w) → ∃ g', g.addEdge? v w b = some (e, g') ∧
    g'.vertices = g.vertices ∧ g'.index = g.index ∧
    (∀ f, g'.endpoints? f = g.endpoints? f) ∧
    ∀ f, g'.edge? f = if f = e then some b else g.edge? f
  /-- Otherwise one edge more. -/
  fresh : ∀ v w b, v < g.nodeCount → w < g.nodeCount → (∀ e, g.endpoints? e ≠ some (v, w)) →
    ∃ g', g.addEdge? v w b = some (g.edgeCount, g') ∧ g'.nodes = g.nodes ∧
      g'.edgeCount = g.edgeCount + 1 ∧
      (∀ f, g'.endpoints? f = if f = g.edgeCount then some (v, w) else g.endpoints? f) ∧
      ∀ f, g'.edge? f = if f = g.edgeCount then some b else g.edge? f

/-- All that is in one graph is in the other one, at the same index and between the same ends. -/
structure Extends (g g' : Graph N E) : Prop where
  nodeCount_le : g.nodeCount ≤ g'.nodeCount
  edgeCount_le : g.edgeCount ≤ g'.edgeCount
  endpoints?_eq : ∀ e < g.edgeCount, g'.endpoints? e = g.endpoints? e

/-- Indices stay valid, and a label is replaced only by a change that is about it. -/
structure KeepsIndices (g : Graph N E) : Prop where
  extends_later : ∀ l : List (Edit N E), g.Extends (l.foldl edit g)
  node?_edit : ∀ a v, v < g.nodeCount → (∀ x, a ≠ .setNode v x) → (g.edit a).node? v = g.node? v
  edge?_edit : ∀ a e v w, g.endpoints? e = some (v, w) → (∀ b, a ≠ .setEdge e b) →
    (∀ b, a ≠ .grow (.edge v w b)) → (g.edit a).edge? e = g.edge? e

section labels

theorem node?_setNode_of_ne (g : Graph N E) (a : N) (h : u ≠ v) :
    (g.setNode u a).node? v = g.node? v := by
  simp only [node?, setNode, Array.getElem?_modify, if_neg h]

theorem edge?_setEdge (h : f < g.edgeCount) (b : E) (e : EdgeId) :
    (g.setEdge f b).edge? e = if e = f then some b else g.edge? e := by
  by_cases hef : e = f
  · subst hef
    have harc : g.arcs[e]? = some g.arcs[e] := Array.getElem?_eq_getElem h
    simp [edge?, setEdge, Array.getElem?_modify, harc]
  · simp only [edge?, setEdge, Array.getElem?_modify, if_neg (Ne.symm hef), if_neg hef]

theorem edge?_setEdge_of_ne (g : Graph N E) (b : E) (h : f ≠ e) :
    (g.setEdge f b).edge? e = g.edge? e := by
  simp only [edge?, setEdge, Array.getElem?_modify, if_neg h]

theorem nodes_setNode (g : Graph N E) (v : NodeId) (a : N) :
    (g.setNode v a).nodes = g.nodes.set v a := by
  apply List.ext_getElem?
  intro u
  rw [nodes, setNode, nodes, List.getElem?_map, List.getElem?_set, Array.getElem?_toList,
    Array.getElem?_modify, List.getElem?_map, Array.getElem?_toList]
  by_cases h : v = u
  · subst h
    cases hx : g.vertices[v]? <;> grind
  · rw [if_neg h, if_neg h]

theorem edges_setEdge (g : Graph N E) (e : EdgeId) (b : E) :
    (g.setEdge e b).edges = g.edges.set e b := by
  apply List.ext_getElem?
  intro f
  rw [edges, setEdge, edges, List.getElem?_map, List.getElem?_set, Array.getElem?_toList,
    Array.getElem?_modify, List.getElem?_map, Array.getElem?_toList]
  by_cases h : e = f
  · subst h
    cases hx : g.arcs[e]? <;> grind
  · rw [if_neg h, if_neg h]

theorem takesLabels (g : Graph N E) : g.TakesLabels where
  nodes_setNode := nodes_setNode g
  arcs_setNode _ _ := ⟨rfl, rfl⟩
  edgesAlong_setNode v a _ _ := edgesAlong_setNode g v a
  edges_setEdge := edges_setEdge g
  endpoints?_setEdge := endpoints?_setEdge g
  vertices_setEdge _ _ := ⟨rfl, rfl⟩

end labels

section consistency

theorem isSimple_edit (h : g.IsSimple) (a : Edit N E) : (g.edit a).IsSimple := by
  cases a with
  | grow a => exact isSimple_grow h a
  | setNode v a => exact isSimple_setNode h v a
  | setEdge e b => exact isSimple_setEdge h e b

theorem isSimple_foldl_edit (h : g.IsSimple) (l : List (Edit N E)) :
    (l.foldl edit g).IsSimple := by
  induction l generalizing g with
  | nil => exact h
  | cons a l ih => exact ih (isSimple_edit h a)

theorem IsSimple.pairwise_edgesAlong (h : g.IsSimple) (v : NodeId) (dir : Direction) :
    (g.edgesAlong v dir).Pairwise (· < ·) := by
  rw [h.edgesAlong_eq]
  exact List.pairwise_lt_range.filter _

theorem consistent_of_isSimple (h : g.IsSimple) : g.Consistent where
  ends_lt e he := by
    obtain ⟨v, w, hends⟩ := exists_endpoints? he
    exact ⟨v, w, hends, h.ends_lt hends⟩
  unique _ _ _ := h.unique
  index_iff _ _ := h.index_eq_some
  findEdge?_iff _ _ _ := findEdge?_eq_some h
  mem_outEdges v e := by
    rw [show g.outEdges v = g.edgesAlong v .outgoing from rfl, mem_edgesAlong h]
    simp only [near?, endpoints?]
    cases g.arcs[e]? <;> simp
  mem_inEdges w e := by
    rw [show g.inEdges w = g.edgesAlong w .incoming from rfl, mem_edgesAlong h]
    simp only [near?, endpoints?]
    cases g.arcs[e]? <;> simp
  ascending v := ⟨h.pairwise_edgesAlong v .outgoing, h.pairwise_edgesAlong v .incoming⟩

end consistency

section additions

theorem takesNodes (g : Graph N E) : g.TakesNodes where
  addNode_fst _ := rfl
  nodes_eq := nodes_addNode g
  arcs_eq _ := ⟨rfl, rfl⟩
  edgesAlong_eq a v dir := by
    rw [edgesAlong_addNode]
    split
    · subst v
      cases dir <;> simp [edgesAlong, outEdges, inEdges, nodeCount]
    · rfl

theorem addEdge?_eq_none (b : E) (h : ¬ (v < g.nodeCount ∧ w < g.nodeCount)) :
    g.addEdge? v w b = none := by
  rw [addEdge?, if_neg h]

theorem addEdge?_of_endpoints? (hg : g.IsSimple) (b : E) (h : g.endpoints? e = some (v, w)) :
    g.addEdge? v w b = some (e, g.setEdge e b) := by
  rw [addEdge?, if_pos (hg.ends_lt h), (findEdge?_eq_some hg).mpr h]

theorem addEdge?_of_forall_ne (hg : g.IsSimple) (b : E) (hv : v < g.nodeCount)
    (hw : w < g.nodeCount) (h : ∀ e, g.endpoints? e ≠ some (v, w)) :
    g.addEdge? v w b = some (g.edgeCount, g.pushEdge v w b) := by
  rw [addEdge?, if_pos ⟨hv, hw⟩, (findEdge?_eq_none hg).mpr h]

/-- An edge that is added is refused, or there already, or new. -/
theorem grow_edge_cases (hg : g.IsSimple) (v w : NodeId) (b : E) :
    g.grow (.edge v w b) = g ∨
    (∃ e, g.endpoints? e = some (v, w) ∧ g.grow (.edge v w b) = g.setEdge e b) ∨
    g.grow (.edge v w b) = g.pushEdge v w b := by
  by_cases hin : v < g.nodeCount ∧ w < g.nodeCount
  · by_cases hold : ∃ e, g.endpoints? e = some (v, w)
    · obtain ⟨e, he⟩ := hold
      refine .inr (.inl ⟨e, he, ?_⟩)
      rw [grow, addEdge?_of_endpoints? hg b he]
      rfl
    · push Not at hold
      refine .inr (.inr ?_)
      rw [grow, addEdge?_of_forall_ne hg b hin.1 hin.2 hold]
      rfl
  · refine .inl ?_
    rw [grow, addEdge?_eq_none b hin]
    rfl

theorem takesEdges_of_isSimple (h : g.IsSimple) : g.TakesEdges where
  missing v w b hout := by
    have hnone := addEdge?_eq_none b hout
    refine ⟨hnone, ?_⟩
    rw [grow, hnone]
    rfl
  again e v w b he := by
    refine ⟨g.setEdge e b, addEdge?_of_endpoints? h b he, rfl, rfl, endpoints?_setEdge g e b, ?_⟩
    exact edge?_setEdge (lt_of_endpoints? he) b
  fresh v w b hv hw hnew :=
    ⟨g.pushEdge v w b, addEdge?_of_forall_ne h b hv hw hnew, nodes_pushEdge g v w b,
      edgeCount_pushEdge g v w b, endpoints?_pushEdge g v w b, edge?_pushEdge g v w b⟩

end additions

section persistence

theorem Extends.refl (g : Graph N E) : g.Extends g := ⟨Nat.le_refl _, Nat.le_refl _, fun _ _ => rfl⟩

theorem Extends.trans (h : g.Extends g') (h' : g'.Extends g'') : g.Extends g'' where
  nodeCount_le := Nat.le_trans h.nodeCount_le h'.nodeCount_le
  edgeCount_le := Nat.le_trans h.edgeCount_le h'.edgeCount_le
  endpoints?_eq e he := by
    rw [h'.endpoints?_eq e (Nat.lt_of_lt_of_le he h.edgeCount_le), h.endpoints?_eq e he]

theorem extends_setEdge (g : Graph N E) (e : EdgeId) (b : E) : g.Extends (g.setEdge e b) where
  nodeCount_le := Nat.le_refl _
  edgeCount_le := Nat.le_of_eq (edgeCount_setEdge g e b).symm
  endpoints?_eq f _ := endpoints?_setEdge g e b f

theorem extends_pushEdge (g : Graph N E) (v w : NodeId) (b : E) :
    g.Extends (g.pushEdge v w b) where
  nodeCount_le := Nat.le_of_eq (nodeCount_pushEdge g v w b).symm
  edgeCount_le := by
    rw [edgeCount_pushEdge]
    exact Nat.le_succ _
  endpoints?_eq e he := by rw [endpoints?_pushEdge, if_neg (Nat.ne_of_lt he)]

theorem extends_edit (hg : g.IsSimple) (a : Edit N E) : g.Extends (g.edit a) := by
  cases a with
  | grow a =>
    cases a with
    | node a =>
      refine ⟨?_, Nat.le_refl _, fun _ _ => rfl⟩
      exact Nat.le_of_lt (Nat.lt_of_lt_of_eq (Nat.lt_succ_self _) (nodeCount_addNode g a).symm)
    | edge v w b =>
      change g.Extends (g.grow (.edge v w b))
      rcases grow_edge_cases hg v w b with hsame | ⟨e, _, hold⟩ | hnew
      · rw [hsame]
        exact .refl g
      · rw [hold]
        exact extends_setEdge g e b
      · rw [hnew]
        exact extends_pushEdge g v w b
  | setNode v a =>
    exact ⟨Nat.le_of_eq (nodeCount_setNode g v a).symm, Nat.le_refl _, fun _ _ => rfl⟩
  | setEdge e b => exact extends_setEdge g e b

theorem extends_foldl_edit (hg : g.IsSimple) (l : List (Edit N E)) :
    g.Extends (l.foldl edit g) := by
  induction l generalizing g with
  | nil => exact .refl g
  | cons a l ih => exact (extends_edit hg a).trans (ih (isSimple_edit hg a))

theorem node?_edit (hg : g.IsSimple) (hv : v < g.nodeCount) (ha : ∀ x, a ≠ .setNode v x) :
    (g.edit a).node? v = g.node? v := by
  cases a with
  | grow a =>
    cases a with
    | node a => exact (node?_addNode g a v).trans (if_neg (Nat.ne_of_lt hv))
    | edge u w b =>
      change (g.grow (.edge u w b)).node? v = _
      rcases grow_edge_cases hg u w b with hsame | ⟨e, _, hold⟩ | hnew
      · rw [hsame]
      · rw [hold]
        rfl
      · rw [hnew, node?_pushEdge]
  | setNode u a =>
    apply node?_setNode_of_ne
    rintro rfl
    exact ha a rfl
  | setEdge e b => rfl

theorem edge?_edit (hg : g.IsSimple) (he : g.endpoints? e = some (v, w))
    (hset : ∀ b, a ≠ .setEdge e b) (hgrow : ∀ b, a ≠ .grow (.edge v w b)) :
    (g.edit a).edge? e = g.edge? e := by
  cases a with
  | grow a =>
    cases a with
    | node a => rfl
    | edge v' w' b =>
      change (g.grow (.edge v' w' b)).edge? e = _
      rcases grow_edge_cases hg v' w' b with hsame | ⟨f, hf, hold⟩ | hnew
      · rw [hsame]
      · -- Another edge than this one, which has other ends than those of the addition.
        rw [hold]
        apply edge?_setEdge_of_ne
        rintro rfl
        obtain ⟨rfl, rfl⟩ := Prod.mk.inj (Option.some.inj (he.symm.trans hf))
        exact hgrow b rfl
      · rw [hnew, edge?_pushEdge, if_neg (Nat.ne_of_lt (lt_of_endpoints? he))]
  | setNode v a => rfl
  | setEdge f b =>
    apply edge?_setEdge_of_ne
    rintro rfl
    exact hset b rfl

theorem keepsIndices_of_isSimple (h : g.IsSimple) : g.KeepsIndices where
  extends_later := extends_foldl_edit h
  node?_edit _ _ := node?_edit h
  edge?_edit _ _ _ _ := edge?_edit h

end persistence

/-- Whatever changes a graph has gone through, its edges can be asked for in all ways, and the next
changes leave what is there at its place. -/
theorem consistent_edited (l : List (Edit N E)) :
    (edited l).Consistent ∧ (edited l).TakesNodes ∧ (edited l).TakesEdges ∧
      (edited l).TakesLabels ∧ (edited l).KeepsIndices := by
  have hsimple : (edited l).IsSimple := isSimple_foldl_edit isSimple_empty l
  exact ⟨consistent_of_isSimple hsimple, takesNodes _, takesEdges_of_isSimple hsimple,
    takesLabels _, keepsIndices_of_isSimple hsimple⟩

/-- An edge between two nodes, a loop, the first edge once more, and one with an end missing. -/
example :
    let g := edited [.grow (.node 10), .grow (.node 11), .grow (.edge 0 1 20),
      .grow (.edge 1 1 21), .grow (.edge 0 1 22), .grow (.edge 0 2 23), .setNode 1 12]
    g.nodes = [10, 12] ∧ g.edges = [22, 21] ∧ g.findEdge? 0 1 = some 0 ∧
      g.findEdge? 1 0 = none ∧ g.outEdges 1 = [1] ∧ g.inEdges 1 = [0, 1] := by
  decide

end Graph

end GraphCompare
