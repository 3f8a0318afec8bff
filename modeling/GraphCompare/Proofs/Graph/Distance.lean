import GraphCompare.Proofs.Graph.Growth
import GraphCompare.Proofs.Graph.Queue
import Mathlib.Order.Bounds.Basic

/-! Hop counts in a graph however it has grown: they are the least lengths of walks from the seeds,
as far as the limit. -/
namespace GraphCompare.Graph
variable {N E : Type} {g : Graph N E} {seeds : List NodeId} {dir : Direction} {limit k : Nat}
  {v : NodeId}

/-- The lengths of the walks from seeds of the graph to a node, with all edges followed in one
direction. -/
def distances (g : Graph N E) (seeds : List NodeId) (dir : Direction) (v : NodeId) : Set Nat :=
  {k | ∃ s ∈ seeds, s < g.nodeCount ∧ g.WalkAlong k s v dir}

/-- What the hop counts of a graph are. -/
structure CountsHops (g : Graph N E) (seeds : List NodeId) (dir : Direction) (limit : Nat) :
    Prop where
  size_eq : (g.depths seeds dir limit).size = g.nodeCount
  some_iff : ∀ v k, (g.depths seeds dir limit)[v]? = some (some k) ↔
    k ≤ limit ∧ IsLeast (g.distances seeds dir v) k
  none_iff : ∀ v < g.nodeCount, (g.depths seeds dir limit)[v]? = some none ↔
    ¬ ∃ k ≤ limit, IsLeast (g.distances seeds dir v) k
  /-- With a queue the search takes at most one turn for each node, whatever the limit is. -/
  queue_runs_out : ∀ n ≥ g.nodeCount,
    ((Search.start g seeds).run g dir limit n).queue = [] ∧
      ((Search.start g seeds).run g dir limit n).depths = g.depths seeds dir limit
  /-- Against the edges is along them in the graph turned round. -/
  turned_round : g.depths seeds dir limit = g.reverse.depths seeds dir.flip limit

theorem Walk.lt_iff (h : g.IsSimple) {u : NodeId} (hw : g.Walk k u v) :
    u < g.nodeCount ↔ v < g.nodeCount := by
  induction hw with
  | refl v => rfl
  | snoc _ he ih =>
    obtain ⟨hsource, htarget⟩ := h.ends_lt he
    exact ih.trans (iff_of_true hsource htarget)

theorem WalkAlong.lt_iff (h : g.IsSimple) {s : NodeId} (hw : g.WalkAlong k s v dir) :
    s < g.nodeCount ↔ v < g.nodeCount := by
  cases dir with
  | outgoing => exact Walk.lt_iff h hw
  | incoming => exact (Walk.lt_iff h hw).symm

theorem mem_distances (h : g.IsSimple) :
    k ∈ g.distances seeds dir v ↔ g.Within seeds dir k v := by
  constructor
  · rintro ⟨s, hs, hlt, hw⟩
    exact ⟨(hw.lt_iff h).mp hlt, s, hs, hw⟩
  · rintro ⟨hlt, s, hs, hw⟩
    exact ⟨s, hs, (hw.lt_iff h).mpr hlt, hw⟩

theorem isLeast_distances (h : g.IsSimple) :
    IsLeast (g.distances seeds dir v) k ↔ g.AtDistance seeds dir k v := by
  simp only [IsLeast, mem_lowerBounds, mem_distances h, AtDistance]
  refine and_congr_right fun _ => ⟨fun hle j hj hw => ?_, fun hno j hw => ?_⟩
  · exact Nat.not_le.mpr hj (hle j hw)
  · exact Nat.not_lt.mp fun hj => hno j hj hw

theorem depths_eq_none (h : g.IsSimple) (hv : v < g.nodeCount) :
    (g.depths seeds dir limit)[v]? = some none ↔
      ¬ ∃ k ≤ limit, g.AtDistance seeds dir k v := by
  have hlt : v < (g.depths seeds dir limit).size := by rwa [size_depths h]
  have hget := Array.getElem?_eq_getElem hlt
  cases hd : (g.depths seeds dir limit)[v] with
  | none =>
    rw [hd] at hget
    refine iff_of_true hget ?_
    rintro ⟨k, hk, hat⟩
    have hsome := (depths_eq_some h).mpr ⟨hk, hat⟩
    rw [hget] at hsome
    cases hsome
  | some k =>
    rw [hd] at hget
    exact iff_of_false (by simp [hget]) (not_not.mpr ⟨k, (depths_eq_some h).mp hget⟩)

theorem rounds_reverse (g : Graph N E) (dir : Direction) (limit k : Nat) (r : Round) :
    g.reverse.rounds dir.flip limit k r = g.rounds dir limit k r := by
  induction limit generalizing k r with
  | zero => rfl
  | succ limit ih =>
    unfold rounds
    simp only [ih, nextRound, nextAlong_reverse, Direction.flip_flip]

theorem depths_reverse (g : Graph N E) (seeds : List NodeId) (dir : Direction) (limit : Nat) :
    g.reverse.depths seeds dir.flip limit = g.depths seeds dir limit := by
  simp only [depths, rounds_reverse, nodeCount_reverse]

theorem countsHops_of_simple (h : g.IsSimple) (seeds : List NodeId) (dir : Direction)
    (limit : Nat) : g.CountsHops seeds dir limit where
  size_eq := size_depths h seeds dir limit
  some_iff v k := by rw [isLeast_distances h, depths_eq_some h]
  none_iff v hv := by simp only [isLeast_distances h, depths_eq_none h hv]
  queue_runs_out _ hn := Search.run_start g seeds dir limit hn
  turned_round := (depths_reverse g seeds dir limit).symm

/-- However a graph has grown, its hop counts are distances, and so are those of the graph that
grows with every edge turned round, against its edges. -/
theorem countsHops_grown (l : List (Growth N E)) (seeds : List NodeId) (dir : Direction)
    (limit : Nat) :
    (grown l).CountsHops seeds dir limit ∧
      (grown (l.map Growth.reverse)).depths seeds dir.flip limit =
        (grown l).depths seeds dir limit := by
  refine ⟨countsHops_of_simple (isSimple_grown l) seeds dir limit, ?_⟩
  rw [← reverse_grown, depths_reverse]

end GraphCompare.Graph
