import GraphCompare.Proofs.Graph.Editing

/-! Lists of neighbours, in the order in which edges have been added. A ledger of the additions,
with the number of nodes and the ends of the edges, is enough to tell them. -/
namespace GraphCompare

theorem eraseDups_of_nodup {α : Type} [DecidableEq α] {l : List α} (h : l.Nodup) :
    l.eraseDups = l := by
  induction l with
  | nil => rfl
  | cons a l ih =>
    obtain ⟨ha, hl⟩ := List.nodup_cons.mp h
    have hkeep : l.filter (fun b => !b == a) = l := by
      apply List.filter_eq_self.mpr
      intro b hb
      simpa using ne_of_mem_of_not_mem hb ha
    rw [List.eraseDups_cons, hkeep, ih hl]

/-- Going through the indices of a list is going through the list. -/
theorem filterMap_range_getElem? {α β : Type} (l : List α) (f : α → Option β) :
    (List.range l.length).filterMap (fun i => l[i]?.bind f) = l.filterMap f := by
  have hget : (List.range l.length).map (l[·]?) = l.map some := by
    apply List.ext_getElem
    · simp
    · intro i hi _
      simp
  have hbind : l.filterMap f = (l.map some).filterMap (·.bind f) := by
    rw [List.filterMap_map]
    rfl
  rw [hbind, ← hget, List.filterMap_map]
  rfl

namespace Direction

/-- The end of an edge that a node is at when it follows the edge in a direction. -/
def near : Direction → NodeId × NodeId → NodeId
  | .outgoing => Prod.fst
  | .incoming => Prod.snd

def far (dir : Direction) : NodeId × NodeId → NodeId := dir.flip.near

end Direction

/-- What additions amount to: how many nodes there are, and which ones edges join, in the order in
which the edges came. -/
structure Ledger where
  nodes : Nat
  joined : List (NodeId × NodeId)
deriving DecidableEq, Repr

namespace Ledger
variable {N E : Type}

/-- An edge is entered if its ends are there when it comes, and once only. -/
def enter (k : Ledger) : Growth N E → Ledger
  | .node _ => { k with nodes := k.nodes + 1 }
  | .edge v w _ =>
    if v < k.nodes ∧ w < k.nodes ∧ (v, w) ∉ k.joined then { k with joined := k.joined ++ [(v, w)] }
    else k

def ofGrowth (l : List (Growth N E)) : Ledger := l.foldl enter ⟨0, []⟩

/-- The nodes that a node is joined to in a direction. -/
def along (k : Ledger) (v : NodeId) (dir : Direction) : List NodeId :=
  (k.joined.filter (dir.near · = v)).map dir.far

theorem enter_edge_of_new {k : Ledger} {v w : NodeId} (hv : v < k.nodes) (hw : w < k.nodes)
    (hnew : (v, w) ∉ k.joined) (b : E) :
    k.enter (.edge v w b : Growth N E) = { k with joined := k.joined ++ [(v, w)] } :=
  if_pos ⟨hv, hw, hnew⟩

theorem enter_edge_of_known {k : Ledger} {v w : NodeId} (h : (v, w) ∈ k.joined) (b : E) :
    k.enter (.edge v w b : Growth N E) = k :=
  if_neg fun hnew => hnew.2.2 h

theorem enter_edge_of_missing {k : Ledger} {v w : NodeId} (h : ¬ (v < k.nodes ∧ w < k.nodes))
    (b : E) : k.enter (.edge v w b : Growth N E) = k :=
  if_neg fun hnew => h ⟨hnew.1, hnew.2.1⟩

end Ledger

namespace Graph
variable {N E : Type} {g : Graph N E} {v w : NodeId}

/-- A graph in terms of a ledger: its nodes, and the ends of its edges, the oldest edge first. -/
def ledger (g : Graph N E) : Ledger := ⟨g.nodeCount, g.arcs.toList.map Arc.ends⟩

section ledger

theorem endpoints?_eq_ledger (g : Graph N E) (e : EdgeId) :
    g.endpoints? e = g.ledger.joined[e]? := by
  rw [endpoints?_eq_getElem?, ledger, List.getElem?_map]

theorem mem_ledger : (v, w) ∈ g.ledger.joined ↔ ∃ e, g.endpoints? e = some (v, w) := by
  simp only [List.mem_iff_getElem?, endpoints?_eq_ledger]

theorem edgeIds_eq_range (g : Graph N E) : g.edgeIds = List.range g.ledger.joined.length := by
  simp [edgeIds, edgeCount, ledger]

theorem near?_eq_map (g : Graph N E) (e : EdgeId) (dir : Direction) :
    g.near? e dir = (g.endpoints? e).map dir.near := by
  cases dir <;> simp [near?, endpoints?, Direction.near, Function.comp_def]

theorem far?_eq_map (g : Graph N E) (e : EdgeId) (dir : Direction) :
    g.far? e dir = (g.endpoints? e).map dir.far := by
  cases dir <;>
    simp [far?, endpoints?, Direction.far, Direction.flip, Direction.near, Function.comp_def]

theorem nodup_ledger (h : g.IsSimple) : g.ledger.joined.Nodup := by
  rw [List.nodup_iff_getElem?_ne_getElem?]
  intro i j hij hj hsame
  have hends : g.endpoints? j = some g.ledger.joined[j] := by
    rw [endpoints?_eq_ledger, List.getElem?_eq_getElem hj]
  have hends' : g.endpoints? i = some g.ledger.joined[j] := by
    rw [endpoints?_eq_ledger, hsame, List.getElem?_eq_getElem hj]
  exact Nat.ne_of_lt hij (h.unique hends' hends)

/-- The edges at a node lead to what the ledger has for it, in the same order. -/
theorem nextAlong_eq_along (h : g.IsSimple) (v : NodeId) (dir : Direction) :
    g.nextAlong v dir = g.ledger.along v dir := by
  have hstep : ∀ e, (if g.near? e dir = some v then g.far? e dir else none) =
      g.ledger.joined[e]?.bind fun p => if dir.near p = v then some (dir.far p) else none := by
    intro e
    rw [near?_eq_map, far?_eq_map, endpoints?_eq_ledger]
    cases g.ledger.joined[e]? <;> simp
  rw [nextAlong, h.edgesAlong_eq, List.filterMap_filter, edgeIds_eq_range]
  simp only [decide_eq_true_eq, hstep, filterMap_range_getElem?]
  rw [Ledger.along, ← List.filterMap_eq_map', List.filterMap_filter]
  simp only [decide_eq_true_eq]

theorem nodup_nextAlong (h : g.IsSimple) (v : NodeId) (dir : Direction) :
    (g.nextAlong v dir).Nodup := by
  rw [nextAlong_eq_along h, Ledger.along]
  apply List.Nodup.map_on _ ((nodup_ledger h).filter _)
  intro p hp q hq hfar
  have hnear : dir.near p = dir.near q :=
    (of_decide_eq_true (List.mem_filter.mp hp).2).trans
      (of_decide_eq_true (List.mem_filter.mp hq).2).symm
  cases dir
  · exact Prod.ext hnear hfar
  · exact Prod.ext hfar hnear

end ledger

section growth

theorem ledger_addNode (g : Graph N E) (a : N) :
    (g.addNode a).2.ledger = { g.ledger with nodes := g.ledger.nodes + 1 } := by
  simp [ledger, addNode, nodeCount]

theorem ledger_setEdge (g : Graph N E) (e : EdgeId) (b : E) :
    (g.setEdge e b).ledger = g.ledger := by
  rw [ledger, ledger, nodeCount_setEdge, Ledger.mk.injEq]
  refine ⟨rfl, List.ext_getElem? fun i => ?_⟩
  have hends := endpoints?_setEdge g e b i
  rwa [endpoints?_eq_ledger, endpoints?_eq_ledger] at hends

theorem ledger_pushEdge (g : Graph N E) (v w : NodeId) (b : E) :
    (g.pushEdge v w b).ledger = { g.ledger with joined := g.ledger.joined ++ [(v, w)] } := by
  rw [ledger, nodeCount_pushEdge, arcs_pushEdge, List.map_append]
  rfl

/-- An addition to a graph is an entry in its ledger. -/
theorem ledger_grow (h : g.IsSimple) (a : Growth N E) : (g.grow a).ledger = g.ledger.enter a := by
  cases a with
  | node a => exact ledger_addNode g a
  | edge v w b =>
    by_cases hin : v < g.nodeCount ∧ w < g.nodeCount
    · by_cases hold : ∃ e, g.endpoints? e = some (v, w)
      · rw [Ledger.enter_edge_of_known (mem_ledger.mpr hold)]
        obtain ⟨e, he⟩ := hold
        rw [grow, addEdge?_of_endpoints? h b he]
        exact ledger_setEdge g e b
      · rw [Ledger.enter_edge_of_new hin.1 hin.2 (mt mem_ledger.mp hold), grow,
          addEdge?_of_forall_ne h b hin.1 hin.2 (not_exists.mp hold)]
        exact ledger_pushEdge g v w b
    · rw [Ledger.enter_edge_of_missing hin, grow, addEdge?_eq_none b hin]
      rfl

/-- The ledger of a graph that grows is that of the additions, whatever the graph was. -/
theorem ledger_foldl_grow (h : g.IsSimple) (l : List (Growth N E)) :
    (l.foldl grow g).ledger = l.foldl Ledger.enter g.ledger := by
  induction l generalizing g with
  | nil => rfl
  | cons a l ih =>
    rw [List.foldl_cons, List.foldl_cons, ih (isSimple_grow h a), ledger_grow h]

theorem ledger_grown (l : List (Growth N E)) : (grown l).ledger = Ledger.ofGrowth l :=
  ledger_foldl_grow isSimple_empty l

end growth

/-- Successors come first, and no node comes again as a predecessor. -/
theorem neighbors_eq_append (h : g.IsSimple) (v : NodeId) :
    g.neighbors v = (g.successors v).filter (· ≠ v) ++
      (g.predecessors v).filter fun w => w ≠ v ∧ w ∉ g.successors v := by
  have hrest : ((g.predecessors v).filter (· ≠ v)).removeAll ((g.successors v).filter (· ≠ v)) =
      (g.predecessors v).filter fun w => w ≠ v ∧ w ∉ g.successors v := by
    rw [List.removeAll, List.filter_filter]
    apply List.filter_congr
    intro w _
    by_cases hw : w = v <;> simp [hw]
  have hsuccessors : (g.successors v).Nodup := nodup_nextAlong h v .outgoing
  have hpredecessors : (g.predecessors v).Nodup := nodup_nextAlong h v .incoming
  rw [neighbors, List.filter_append, List.eraseDups_append, hrest,
    eraseDups_of_nodup (hsuccessors.filter _), eraseDups_of_nodup (hpredecessors.filter _)]

theorem neighbors_of_unknown (h : g.IsSimple) (hv : ¬ v < g.nodeCount) : g.neighbors v = [] := by
  apply List.eq_nil_iff_forall_not_mem.mpr
  intro w hw
  obtain ⟨e, he | he⟩ := ((mem_neighbors_iff h).mp hw).2
  · exact hv (h.ends_lt he).1
  · exact hv (h.ends_lt he).2

/-- What the neighbours of nodes are in a graph that additions have led to. -/
structure ListsNeighbors (g : Graph N E) (additions : List (Growth N E)) : Prop where
  mem_iff : ∀ v w, w ∈ g.neighbors v ↔
    w ≠ v ∧ ∃ e, g.endpoints? e = some (v, w) ∨ g.endpoints? e = some (w, v)
  nodup : ∀ v, (g.neighbors v).Nodup
  /-- All successors but the node itself, and then the predecessors that are none of them. -/
  neighbors_eq : ∀ v, g.neighbors v = (g.successors v).filter (· ≠ v) ++
    (g.predecessors v).filter fun w => w ≠ v ∧ w ∉ g.successors v
  /-- Both are in the order in which the edges have been added. -/
  successors_eq : ∀ v, g.successors v = (Ledger.ofGrowth additions).along v .outgoing
  predecessors_eq : ∀ v, g.predecessors v = (Ledger.ofGrowth additions).along v .incoming
  unknown : ∀ v, ¬ v < g.nodeCount → g.neighbors v = []
  symm : ∀ v w, w ∈ g.neighbors v ↔ v ∈ g.neighbors w

theorem listsNeighbors_grown (l : List (Growth N E)) : (grown l).ListsNeighbors l := by
  have hsimple : (grown l).IsSimple := isSimple_grown l
  have halong : ∀ v dir, (grown l).nextAlong v dir = (Ledger.ofGrowth l).along v dir := by
    intro v dir
    rw [nextAlong_eq_along hsimple, ledger_grown]
  exact {
    mem_iff := fun v w => mem_neighbors_iff hsimple
    nodup := nodup_neighbors (grown l)
    neighbors_eq := neighbors_eq_append hsimple
    successors_eq := fun v => halong v .outgoing
    predecessors_eq := fun v => halong v .incoming
    unknown := fun v => neighbors_of_unknown hsimple
    symm := fun v w => by
      rw [mem_neighbors_iff hsimple, mem_neighbors_iff hsimple, ne_comm]
      simp only [Adjacent, or_comm] }

/-- A loop and an edge both ways: the loop counts for nothing, and the other node counts once. -/
example :
    let additions : List (Growth Unit Unit) :=
      [.node (), .node (), .node (), .edge 0 0 (), .edge 2 0 (), .edge 0 1 (), .edge 1 0 ()]
    (grown additions).neighbors 0 = [1, 2] := by decide

end Graph

end GraphCompare
