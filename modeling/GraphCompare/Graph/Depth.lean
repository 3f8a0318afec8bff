import GraphCompare.Graph.Basic

/-! Hop counts from a set of nodes, found in rounds: round `k` settles the nodes `k` edges away. -/
namespace GraphCompare.Graph
variable {N E : Type} (g : Graph N E)

/-- Hop counts so far, and the nodes settled in the running round, latest first. -/
structure Round where
  depths : Array (Option Nat)
  fresh : List NodeId

/-- Settles a node at depth `k`, unless it is no node or was settled before. -/
def Round.settle (k : Nat) (r : Round) (v : NodeId) : Round :=
  if r.depths[v]? = some none then ⟨r.depths.setIfInBounds v (some k), v :: r.fresh⟩ else r

/-- The round at depth `k`: everything one edge away from the nodes of the round before. -/
def nextRound (dir : Direction) (k : Nat) (r : Round) : Round :=
  (r.fresh.reverse.flatMap (g.nextAlong · dir)).foldl (Round.settle k) ⟨r.depths, []⟩

/-- At most `limit` further rounds after the one at depth `k`, fewer when one settles nothing. -/
def rounds (dir : Direction) : Nat → Nat → Round → Round
  | 0, _, r => r
  | limit + 1, k, r =>
    if r.fresh.isEmpty then r else rounds dir limit (k + 1) (g.nextRound dir (k + 1) r)

/-- The least number of edges from a seed to each node, as far as `limit`. Seeds that are no nodes
are skipped. -/
def depths (seeds : List NodeId) (dir : Direction) (limit : Nat) : Array (Option Nat) :=
  let start := seeds.foldl (Round.settle 0) ⟨Array.replicate g.nodeCount none, []⟩
  (g.rounds dir limit 0 start).depths

end GraphCompare.Graph
