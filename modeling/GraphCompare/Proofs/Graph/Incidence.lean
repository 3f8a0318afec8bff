import GraphCompare.Graph.Basic
import Mathlib.Data.List.Nodup
import Mathlib.Data.List.Range

/-! What growing keeps: edges join nodes of the graph, never the same two twice in one direction,
the index finds each of them by its ends, and each node lists exactly its own edges, oldest
first. -/
namespace GraphCompare

theorem nodup_eraseDups {α : Type} [DecidableEq α] (l : List α) : l.eraseDups.Nodup := by
  induction hn : l.length using Nat.strong_induction_on generalizing l with
  | _ n ih =>
    cases l with
    | nil => simp
    | cons a l =>
      rw [List.eraseDups_cons, List.nodup_cons]
      constructor
      · simp
      · apply ih _ _ _ rfl
        rw [← hn, List.length_cons]
        exact Nat.lt_succ_of_le (List.length_filter_le _ _)

/-- The ends of an edge, in its direction. -/
def Arc.ends {E : Type} (a : Arc E) : NodeId × NodeId := (a.source, a.target)

namespace Graph
variable {N E N' E' : Type} {g : Graph N E} {u v w : NodeId} {e f : EdgeId} {dir : Direction}

/-- The node an edge comes from when it is followed in a direction. -/
def near? (g : Graph N E) (e : EdgeId) : Direction → Option NodeId
  | .outgoing => g.arcs[e]?.map (·.source)
  | .incoming => g.arcs[e]?.map (·.target)

structure IsSimple (g : Graph N E) : Prop where
  ends_lt : ∀ {e v w}, g.endpoints? e = some (v, w) → v < g.nodeCount ∧ w < g.nodeCount
  index_eq_some : ∀ {p e}, g.index.get? p = some e ↔ g.endpoints? e = some p
  edgesAlong_eq : ∀ v dir, g.edgesAlong v dir = g.edgeIds.filter fun e => g.near? e dir = some v

/-- No two edges have the same ends. -/
theorem IsSimple.unique (h : g.IsSimple) {p : NodeId × NodeId} (he : g.endpoints? e = some p)
    (hf : g.endpoints? f = some p) : e = f :=
  Option.some.inj ((h.index_eq_some.mpr he).symm.trans (h.index_eq_some.mpr hf))

theorem endpoints?_eq_some :
    g.endpoints? e = some (v, w) ↔ g.near? e .outgoing = some v ∧ g.far? e .outgoing = some w := by
  simp only [endpoints?, near?, far?]
  cases g.arcs[e]? <;> simp

theorem near?_incoming_eq_far? (g : Graph N E) (e : EdgeId) :
    g.near? e .incoming = g.far? e .outgoing := rfl

theorem far?_incoming_eq_near? (g : Graph N E) (e : EdgeId) :
    g.far? e .incoming = g.near? e .outgoing := rfl

theorem lt_of_endpoints? {p : NodeId × NodeId} (h : g.endpoints? e = some p) :
    e < g.edgeCount := by
  by_contra hn
  simp [endpoints?, edgeCount] at h hn
  simp [Array.getElem?_eq_none hn] at h

theorem exists_endpoints? (h : e < g.edgeCount) : ∃ v w, g.endpoints? e = some (v, w) := by
  refine ⟨g.arcs[e].source, g.arcs[e].target, ?_⟩
  simp [endpoints?, Array.getElem?_eq_getElem h]

theorem node?_eq_getElem? (g : Graph N E) (v : NodeId) : g.node? v = g.nodes[v]? := by
  simp [node?, nodes]

theorem edge?_eq_getElem? (g : Graph N E) (e : EdgeId) : g.edge? e = g.edges[e]? := by
  simp [edge?, edges]

theorem length_nodes (g : Graph N E) : g.nodes.length = g.nodeCount := by
  simp [nodes, nodeCount]

theorem length_edges (g : Graph N E) : g.edges.length = g.edgeCount := by
  simp [edges, edgeCount]

theorem node?_isSome : (g.node? v).isSome ↔ v < g.nodeCount := by
  simp [node?, nodeCount]

theorem edge?_isSome : (g.edge? e).isSome ↔ e < g.edgeCount := by
  simp [edge?, edgeCount]

theorem exists_node? (h : v < g.nodeCount) : ∃ n, g.node? v = some n :=
  Option.isSome_iff_exists.mp (node?_isSome.mpr h)

theorem exists_edge? (h : e < g.edgeCount) : ∃ r, g.edge? e = some r :=
  Option.isSome_iff_exists.mp (edge?_isSome.mpr h)

theorem lt_of_node? {n : N} (h : g.node? v = some n) : v < g.nodeCount :=
  node?_isSome.mp (Option.isSome_iff_exists.mpr ⟨n, h⟩)

theorem lt_of_edge? {r : E} (h : g.edge? e = some r) : e < g.edgeCount :=
  edge?_isSome.mp (Option.isSome_iff_exists.mpr ⟨r, h⟩)

theorem node?_eq_none (h : ¬ v < g.nodeCount) : g.node? v = none :=
  Option.not_isSome_iff_eq_none.mp (mt node?_isSome.mp h)

theorem edge?_eq_none (h : ¬ e < g.edgeCount) : g.edge? e = none :=
  Option.not_isSome_iff_eq_none.mp (mt edge?_isSome.mp h)

section growth

theorem edgesAlong_addNode (g : Graph N E) (a : N) :
    (g.addNode a).2.edgesAlong v dir = g.edgesAlong v dir := by
  cases dir <;>
    simp only [edgesAlong, outEdges, inEdges, addNode, Array.getElem?_push] <;>
    split <;> simp_all

theorem isSimple_empty : (empty : Graph N E).IsSimple where
  ends_lt h := by simp [endpoints?, empty] at h
  index_eq_some := by simp [endpoints?, empty]
  edgesAlong_eq v dir := by
    cases dir <;> simp [edgesAlong, outEdges, inEdges, empty, edgeIds, edgeCount]

theorem isSimple_addNode (h : g.IsSimple) (a : N) : (g.addNode a).2.IsSimple where
  ends_lt he := by
    obtain ⟨hv, hw⟩ := h.ends_lt he
    rw [nodeCount_addNode]
    exact ⟨Nat.lt_succ_of_lt hv, Nat.lt_succ_of_lt hw⟩
  index_eq_some := h.index_eq_some
  edgesAlong_eq v dir := by
    rw [edgesAlong_addNode, h.edgesAlong_eq]
    rfl

/-- The end of a new edge at which it is listed for a direction. -/
private def nearEnd (v w : NodeId) : Direction → NodeId
  | .outgoing => v
  | .incoming => w

theorem near?_pushEdge (g : Graph N E) (v w : NodeId) (b : E) :
    (g.pushEdge v w b).near? e dir =
      if e = g.edgeCount then some (nearEnd v w dir) else g.near? e dir := by
  cases dir <;> simp only [near?, pushEdge, edgeCount, nearEnd, Array.getElem?_push] <;>
    split <;> simp_all

theorem edgesAlong_pushEdge (hv : v < g.nodeCount) (hw : w < g.nodeCount) (b : E) :
    (g.pushEdge v w b).edgesAlong u dir =
      g.edgesAlong u dir ++ if u = nearEnd v w dir then [g.edgeCount] else [] := by
  cases hu : g.vertices[u]? with
  | some x =>
    cases dir <;>
      simp only [edgesAlong, outEdges, inEdges, pushEdge, nearEnd, Array.getElem?_modify, hu] <;>
      by_cases hvu : v = u <;> by_cases hwu : w = u <;> simp [hvu, hwu, Ne.symm]
  | none =>
    have hle : g.nodeCount ≤ u := Array.getElem?_eq_none_iff.mp hu
    have hvu : v ≠ u := Nat.ne_of_lt (Nat.lt_of_lt_of_le hv hle)
    have hwu : w ≠ u := Nat.ne_of_lt (Nat.lt_of_lt_of_le hw hle)
    cases dir <;>
      simp [edgesAlong, outEdges, inEdges, pushEdge, nearEnd, Array.getElem?_modify, hu, hvu, hwu,
        hvu.symm, hwu.symm]

theorem isSimple_pushEdge (h : g.IsSimple) (hv : v < g.nodeCount) (hw : w < g.nodeCount)
    (hnew : ∀ e, g.endpoints? e ≠ some (v, w)) (b : E) : (g.pushEdge v w b).IsSimple where
  ends_lt he := by
    rw [endpoints?_pushEdge] at he
    rw [nodeCount_pushEdge]
    split at he
    · cases he
      exact ⟨hv, hw⟩
    · exact h.ends_lt he
  index_eq_some {p e} := by
    have hfresh : g.endpoints? g.edgeCount = none := by simp [endpoints?, edgeCount]
    rw [endpoints?_pushEdge, pushEdge, Directory.get?_insert]
    by_cases hp : p = (v, w) <;> by_cases he : e = g.edgeCount
    · simp [hp, he]
    · simp [hp, he, Ne.symm he, hnew e]
    · simp [hp, he, Ne.symm hp, h.index_eq_some, hfresh]
    · simp [hp, he, h.index_eq_some]
  edgesAlong_eq u dir := by
    have hold : (g.edgeIds.filter fun e => (g.pushEdge v w b).near? e dir = some u) =
        g.edgesAlong u dir := by
      rw [h.edgesAlong_eq]
      apply List.filter_congr
      intro e he
      have : e ≠ g.edgeCount := Nat.ne_of_lt (List.mem_range.mp he)
      simp [near?_pushEdge, this]
    rw [edgesAlong_pushEdge hv hw, edgeIds, edgeCount_pushEdge, List.range_succ,
      List.filter_append]
    change _ = (g.edgeIds.filter _) ++ _
    rw [hold]
    congr 1
    by_cases hn : u = nearEnd v w dir
    · simp [near?_pushEdge, hn]
    · simp [near?_pushEdge, hn, Ne.symm hn]

@[simp] theorem endpoints?_setEdge (g : Graph N E) (f : EdgeId) (b : E) (e : EdgeId) :
    (g.setEdge f b).endpoints? e = g.endpoints? e := by
  simp only [endpoints?, setEdge, Array.getElem?_modify]
  split <;> cases g.arcs[e]? <;> simp

theorem near?_setEdge (g : Graph N E) (f : EdgeId) (b : E) (e : EdgeId) (dir : Direction) :
    (g.setEdge f b).near? e dir = g.near? e dir := by
  cases dir <;> simp only [near?, setEdge, Array.getElem?_modify] <;> split <;>
    cases g.arcs[e]? <;> simp

theorem isSimple_setEdge (h : g.IsSimple) (e : EdgeId) (b : E) : (g.setEdge e b).IsSimple := by
  constructor
  · intro f v w hf
    rw [endpoints?_setEdge] at hf
    exact h.ends_lt hf
  · intro p f
    rw [endpoints?_setEdge]
    exact h.index_eq_some
  · intro v dir
    change g.edgesAlong v dir = _
    simp only [near?_setEdge, edgeIds, edgeCount_setEdge]
    exact h.edgesAlong_eq v dir

theorem edgesAlong_setNode (g : Graph N E) (u : NodeId) (a : N) :
    (g.setNode u a).edgesAlong v dir = g.edgesAlong v dir := by
  cases dir <;> simp only [edgesAlong, outEdges, inEdges, setNode, Array.getElem?_modify] <;>
    split <;> cases g.vertices[v]? <;> simp

theorem isSimple_setNode (h : g.IsSimple) (u : NodeId) (a : N) : (g.setNode u a).IsSimple where
  ends_lt he := by
    rw [nodeCount_setNode]
    exact h.ends_lt he
  index_eq_some := h.index_eq_some
  edgesAlong_eq v dir := by
    rw [edgesAlong_setNode, h.edgesAlong_eq]
    rfl

theorem isSimple_relabel (h : g.IsSimple) (a : NodeId → N → N') (b : EdgeId → E → E') :
    (g.relabel a b).IsSimple where
  ends_lt he := by
    rw [endpoints?_relabel] at he
    rw [nodeCount_relabel]
    exact h.ends_lt he
  index_eq_some {p e} := by
    rw [endpoints?_relabel]
    exact h.index_eq_some
  edgesAlong_eq v dir := by
    have hlist : (g.relabel a b).edgesAlong v dir = g.edgesAlong v dir := by
      cases dir <;> simp [edgesAlong, outEdges, inEdges, relabel, Function.comp_def]
    have hnear : ∀ e, (g.relabel a b).near? e dir = g.near? e dir := by
      intro e
      cases dir <;> simp [near?, relabel, Function.comp_def]
    simp only [hlist, hnear, edgeIds, edgeCount_relabel]
    exact h.edgesAlong_eq v dir

end growth

section lookup

theorem mem_edgesAlong (h : g.IsSimple) : e ∈ g.edgesAlong v dir ↔ g.near? e dir = some v := by
  rw [h.edgesAlong_eq, List.mem_filter, edgeIds, List.mem_range]
  simp only [decide_eq_true_eq, and_iff_right_iff_imp]
  intro he
  by_contra hn
  have : g.arcs[e]? = none := Array.getElem?_eq_none (Nat.le_of_not_lt hn)
  cases dir <;> simp [near?, this] at he

theorem mem_nextAlong (h : g.IsSimple) :
    w ∈ g.nextAlong v dir ↔ ∃ e, g.near? e dir = some v ∧ g.far? e dir = some w := by
  simp only [nextAlong, List.mem_filterMap, mem_edgesAlong h]

theorem mem_successors (h : g.IsSimple) :
    w ∈ g.successors v ↔ ∃ e, g.endpoints? e = some (v, w) := by
  simp only [successors, mem_nextAlong h, endpoints?_eq_some]

theorem mem_predecessors (h : g.IsSimple) :
    w ∈ g.predecessors v ↔ ∃ e, g.endpoints? e = some (w, v) := by
  simp only [predecessors, mem_nextAlong h, endpoints?_eq_some, near?_incoming_eq_far?,
    far?_incoming_eq_near?, and_comm]

/-- Two nodes that an edge joins, in either direction. -/
def Adjacent (g : Graph N E) (v w : NodeId) : Prop :=
  ∃ e, g.endpoints? e = some (v, w) ∨ g.endpoints? e = some (w, v)

instance (g : Graph N E) (v w : NodeId) : Decidable (g.Adjacent v w) :=
  decidable_of_iff
    (∃ e < g.edgeCount, g.endpoints? e = some (v, w) ∨ g.endpoints? e = some (w, v)) <| by
      refine exists_congr fun e => and_iff_right_of_imp fun he => ?_
      exact he.elim lt_of_endpoints? lt_of_endpoints?

/-- The listed neighbours are the adjacent nodes, without the node itself. -/
theorem mem_neighbors_iff (h : g.IsSimple) : w ∈ g.neighbors v ↔ w ≠ v ∧ g.Adjacent v w := by
  rw [mem_neighbors, mem_successors h, mem_predecessors h, ← exists_or]
  rfl

theorem nodup_neighbors (g : Graph N E) (v : NodeId) : (g.neighbors v).Nodup :=
  nodup_eraseDups _

theorem Adjacent.lt_right (h : g.IsSimple) (ha : g.Adjacent v w) : w < g.nodeCount := by
  obtain ⟨e, he | he⟩ := ha
  · exact (h.ends_lt he).2
  · exact (h.ends_lt he).1

theorem findEdge?_eq_some (h : g.IsSimple) :
    g.findEdge? v w = some e ↔ g.endpoints? e = some (v, w) := h.index_eq_some

theorem findEdge?_eq_none (h : g.IsSimple) :
    g.findEdge? v w = none ↔ ∀ e, g.endpoints? e ≠ some (v, w) := by
  rw [Option.eq_none_iff_forall_ne_some]
  simp only [ne_eq, findEdge?_eq_some h]

theorem isSimple_addEdge? (h : g.IsSimple) {b : E} {g' : Graph N E}
    (he : g.addEdge? v w b = some (e, g')) : g'.IsSimple := by
  unfold addEdge? at he
  split at he
  · rename_i hin
    cases hf : g.findEdge? v w with
    | some f =>
      simp only [hf, Option.some.injEq, Prod.mk.injEq] at he
      exact he.2 ▸ isSimple_setEdge h f b
    | none =>
      simp only [hf, Option.some.injEq, Prod.mk.injEq] at he
      exact he.2 ▸ isSimple_pushEdge h hin.1 hin.2 ((findEdge?_eq_none h).mp hf) b
  · cases he

end lookup

section construction

theorem endpoints?_eq_getElem? (g : Graph N E) (e : EdgeId) :
    g.endpoints? e = (g.arcs.toList[e]?).map Arc.ends := by
  simp only [endpoints?, Array.getElem?_toList]
  rfl

theorem nodes_addNode (g : Graph N E) (a : N) : (g.addNode a).2.nodes = g.nodes ++ [a] := by
  simp [nodes, addNode]

@[simp] theorem nodes_pushEdge (g : Graph N E) (v w : NodeId) (b : E) :
    (g.pushEdge v w b).nodes = g.nodes := by
  apply List.ext_getElem?
  intro i
  rw [← node?_eq_getElem?, ← node?_eq_getElem?, node?_pushEdge]

@[simp] theorem arcs_pushEdge (g : Graph N E) (v w : NodeId) (b : E) :
    (g.pushEdge v w b).arcs.toList = g.arcs.toList ++ [⟨v, w, b⟩] := by
  simp [pushEdge]

/-- Between ends that no edge joins yet, adding an edge appends it. -/
theorem addEdge?_of_new (h : g.IsSimple) {a : Arc E} (hs : a.source < g.nodeCount)
    (ht : a.target < g.nodeCount) (hnew : a.ends ∉ g.arcs.toList.map Arc.ends) :
    g.addEdge? a.source a.target a.label =
      some (g.edgeCount, g.pushEdge a.source a.target a.label) ∧
    (g.pushEdge a.source a.target a.label).IsSimple := by
  have hno : ∀ e, g.endpoints? e ≠ some (a.source, a.target) := by
    intro e he
    rw [endpoints?_eq_getElem?] at he
    obtain ⟨b, hb, hab⟩ := Option.map_eq_some_iff.mp he
    exact hnew (List.mem_map.mpr ⟨b, List.mem_of_getElem? hb, hab⟩)
  refine ⟨?_, isSimple_pushEdge h hs ht hno _⟩
  simp [addEdge?, hs, ht, (findEdge?_eq_none h).mpr hno]

theorem foldl_addNode (as : List N) (h : g.IsSimple) :
    (as.foldl (fun g a => (g.addNode a).2) g).IsSimple ∧
    (as.foldl (fun g a => (g.addNode a).2) g).nodes = g.nodes ++ as ∧
    (as.foldl (fun g a => (g.addNode a).2) g).arcs = g.arcs := by
  induction as generalizing g with
  | nil => simp [h]
  | cons a as ih =>
    obtain ⟨hs, hn, ha⟩ := ih (isSimple_addNode h a)
    refine ⟨hs, ?_, ha⟩
    simpa [nodes_addNode] using hn

theorem foldl_addEdge? {as : List (Arc E)} (h : g.IsSimple)
    (hin : ∀ a ∈ as, a.source < g.nodeCount ∧ a.target < g.nodeCount)
    (hd : ((g.arcs.toList ++ as).map Arc.ends).Nodup) :
    let g' := as.foldl (fun g a => ((g.addEdge? a.source a.target a.label).map (·.2)).getD g) g
    g'.IsSimple ∧ g'.nodes = g.nodes ∧ g'.arcs.toList = g.arcs.toList ++ as := by
  induction as generalizing g with
  | nil => simp [h]
  | cons a as ih =>
    obtain ⟨hs, ht⟩ := hin a (by simp)
    have hnew : a.ends ∉ g.arcs.toList.map Arc.ends := by
      intro hmem
      rw [List.map_append, List.nodup_append] at hd
      exact hd.2.2 _ hmem _ (by simp) rfl
    obtain ⟨hadd, hsimple⟩ := addEdge?_of_new h hs ht hnew
    have hstep : ((g.addEdge? a.source a.target a.label).map (·.2)).getD g =
        g.pushEdge a.source a.target a.label := by
      rw [hadd]
      rfl
    simp only [List.foldl_cons, hstep]
    obtain ⟨hs', hn', ha'⟩ := ih hsimple
      (fun b hb => by simpa using hin b (List.mem_cons_of_mem a hb))
      (by simpa using hd)
    refine ⟨hs', ?_, ?_⟩
    · rw [hn', nodes_pushEdge]
    · simpa using ha'

/-- A graph built from lists has exactly the listed nodes and edges, in their order, when the
edges join listed nodes and no two of them join the same. -/
theorem ofLists_spec {as : List N} {bs : List (Arc E)}
    (hin : ∀ b ∈ bs, b.source < as.length ∧ b.target < as.length)
    (hd : (bs.map Arc.ends).Nodup) :
    (ofLists as bs).IsSimple ∧ (ofLists as bs).nodes = as ∧ (ofLists as bs).arcs.toList = bs := by
  obtain ⟨hs, hn, ha⟩ := foldl_addNode as (isSimple_empty (N := N) (E := E))
  have hcount : (as.foldl (fun g a => (g.addNode a).2) (empty : Graph N E)).nodeCount =
      as.length := by
    rw [← length_nodes, hn]
    rfl
  have harcs : (as.foldl (fun g a => (g.addNode a).2) (empty : Graph N E)).arcs.toList = [] := by
    rw [ha]
    rfl
  obtain ⟨hs', hn', ha'⟩ := foldl_addEdge? hs
    (show ∀ b ∈ bs, _ by rwa [hcount]) (by simpa [harcs] using hd)
  refine ⟨hs', ?_, ?_⟩
  · exact hn'.trans hn
  · rw [harcs, List.nil_append] at ha'
    exact ha'

end construction

end Graph

end GraphCompare
