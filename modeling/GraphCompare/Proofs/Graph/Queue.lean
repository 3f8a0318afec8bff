import GraphCompare.Proofs.Graph.Walk

/-! A search that takes the nodes one by one from a queue. It ends after at most as many turns as
the graph has nodes, with the hop counts that are found in rounds. -/
namespace GraphCompare.Graph
variable {N E : Type} {g : Graph N E} {dir : Direction} {limit k d n : Nat} {v w : NodeId}

/-- Hop counts so far, and the nodes whose edges are still to be followed, first come first. -/
structure Search where
  depths : Array (Option Nat)
  queue : List NodeId

namespace Search

/-- Settles a node at depth `k`, unless it is no node or was settled before. -/
def settle (k : Nat) (s : Search) (v : NodeId) : Search :=
  if s.depths[v]? = some none then ⟨s.depths.setIfInBounds v (some k), s.queue ++ [v]⟩ else s

/-- The seeds are settled before the first turn. -/
def start (g : Graph N E) (seeds : List NodeId) : Search :=
  seeds.foldl (settle 0) ⟨Array.replicate g.nodeCount none, []⟩

/-- Takes the next node and settles what is one edge away from it; the edges of a node at the limit
are not followed. -/
def turn (g : Graph N E) (dir : Direction) (limit : Nat) (s : Search) : Option Search :=
  match s.queue with
  | [] => none
  | v :: rest =>
    match (s.depths[v]?).join with
    | none => some ⟨s.depths, rest⟩
    | some d =>
      if limit ≤ d then some ⟨s.depths, rest⟩
      else some ((g.nextAlong v dir).foldl (settle (d + 1)) ⟨s.depths, rest⟩)

/-- At most `n` turns, fewer when the queue runs out. -/
def run (g : Graph N E) (dir : Direction) (limit : Nat) : Nat → Search → Search
  | 0, s => s
  | n + 1, s =>
    match s.turn g dir limit with
    | none => s
    | some t => run g dir limit n t

/-- Nodes in the queue, and those that may still come into it. -/
def pending (s : Search) : Nat := s.queue.length + s.depths.count none

variable {s t : Search}

theorem turn_eq_none : s.turn g dir limit = none ↔ s.queue = [] := by
  unfold turn
  cases s.queue with
  | nil => simp
  | cons v rest =>
    cases hd : (s.depths[v]?).join with
    | none => simp [hd]
    | some d => by_cases hlimit : limit ≤ d <;> simp [hd, hlimit]

theorem run_of_empty (h : s.queue = []) (n : Nat) : run g dir limit n s = s := by
  cases n with
  | zero => rfl
  | succ n =>
    unfold run
    rw [turn_eq_none.mpr h]

theorem run_add (m n : Nat) (s : Search) :
    run g dir limit (m + n) s = run g dir limit n (run g dir limit m s) := by
  induction m generalizing s with
  | zero => rw [Nat.zero_add, run]
  | succ m ih =>
    rw [Nat.add_right_comm, run]
    cases ht : s.turn g dir limit with
    | none =>
      rw [run_of_empty (turn_eq_none.mp ht), run_of_empty (turn_eq_none.mp ht)]
    | some t =>
      conv => rhs; rw [run, ht]
      exact ih t

/-- A node that is settled moves from those to come into the queue. -/
theorem pending_settle (k : Nat) (s : Search) (v : NodeId) :
    (s.settle k v).pending = s.pending := by
  unfold settle
  split
  · rename_i hv
    obtain ⟨hlt, hnone⟩ := Array.getElem?_eq_some_iff.mp hv
    have hpos : 0 < s.depths.count none :=
      Array.count_pos_iff.mpr (hnone ▸ Array.getElem_mem hlt)
    have hcount : (s.depths.setIfInBounds v (some k)).count none + 1 = s.depths.count none := by
      rw [Array.setIfInBounds_def, dif_pos hlt, Array.count_set, hnone]
      simp
      omega
    simp only [pending, List.length_append, List.length_singleton]
    omega
  · rfl

theorem pending_foldl_settle (k : Nat) (vs : List NodeId) (s : Search) :
    (vs.foldl (settle k) s).pending = s.pending := by
  induction vs generalizing s with
  | nil => rfl
  | cons v vs ih => rw [List.foldl_cons, ih, pending_settle]

theorem pending_start (g : Graph N E) (seeds : List NodeId) :
    (start g seeds).pending = g.nodeCount := by
  rw [start, pending_foldl_settle]
  simp [pending]

theorem pending_turn (h : s.turn g dir limit = some t) : t.pending + 1 = s.pending := by
  unfold turn at h
  cases hq : s.queue with
  | nil => simp [hq] at h
  | cons v rest =>
    rw [hq] at h
    have hrest : (Search.mk s.depths rest).pending + 1 = s.pending := by
      simp only [pending, hq, List.length_cons]
      omega
    cases hd : (s.depths[v]?).join with
    | none =>
      simp only [hd, Option.some.injEq] at h
      rw [← h, hrest]
    | some d =>
      simp only [hd] at h
      split at h
      · rw [← Option.some.inj h, hrest]
      · rw [← Option.some.inj h, pending_foldl_settle, hrest]

/-- Whatever the limit, the queue runs out. -/
theorem queue_run (h : s.pending ≤ n) : (run g dir limit n s).queue = [] := by
  induction n generalizing s with
  | zero =>
    have hlength : s.queue.length = 0 := by
      unfold pending at h
      omega
    exact List.length_eq_zero_iff.mp hlength
  | succ n ih =>
    unfold run
    cases ht : s.turn g dir limit with
    | none => exact turn_eq_none.mp ht
    | some t =>
      have hlt := pending_turn ht
      exact ih (by omega)

section rounds
variable {r : Round} {ahead : List NodeId} {seeds : List NodeId}

/-- The search in the middle of a round: first come the nodes of the round before whose turn is
still to come, then those settled in this round. -/
def ofRound (r : Round) (ahead : List NodeId) : Search := ⟨r.depths, ahead ++ r.fresh.reverse⟩

theorem ofRound_nil (r : Round) : ofRound r [] = ofRound ⟨r.depths, []⟩ r.fresh.reverse := by
  simp [ofRound]

theorem settle_ofRound (k : Nat) (r : Round) (ahead : List NodeId) (v : NodeId) :
    (ofRound r ahead).settle k v = ofRound (r.settle k v) ahead := by
  by_cases h : r.depths[v]? = some none <;> simp [settle, Round.settle, ofRound, h]

theorem foldl_settle_ofRound (k : Nat) (vs : List NodeId) (r : Round) (ahead : List NodeId) :
    vs.foldl (settle k) (ofRound r ahead) = ofRound (vs.foldl (Round.settle k) r) ahead := by
  induction vs generalizing r with
  | nil => rfl
  | cons v vs ih => rw [List.foldl_cons, List.foldl_cons, settle_ofRound, ih]

theorem start_eq (g : Graph N E) (seeds : List NodeId) :
    start g seeds =
      ofRound (seeds.foldl (Round.settle 0) ⟨Array.replicate g.nodeCount none, []⟩) [] :=
  foldl_settle_ofRound 0 seeds ⟨Array.replicate g.nodeCount none, []⟩ []

theorem turn_ofRound (hd : r.depths[v]? = some (some d)) (hlt : d < limit) :
    (ofRound r (v :: ahead)).turn g dir limit =
      some (ofRound ((g.nextAlong v dir).foldl (Round.settle (d + 1)) r) ahead) := by
  rw [← foldl_settle_ofRound]
  simp [turn, ofRound, hd, Nat.not_le.mpr hlt]

theorem turn_ofRound_limit (hd : r.depths[v]? = some (some d)) (hle : limit ≤ d) :
    (ofRound r (v :: ahead)).turn g dir limit = some (ofRound r ahead) := by
  simp [turn, ofRound, hd, hle]

/-- Once all nodes of a depth had their turn, what is one edge away from them is settled. -/
theorem run_ofRound (hk : ∀ v ∈ ahead, r.depths[v]? = some (some k)) (hlt : k < limit) :
    run g dir limit ahead.length (ofRound r ahead) =
      ofRound ((ahead.flatMap (g.nextAlong · dir)).foldl (Round.settle (k + 1)) r) [] := by
  induction ahead generalizing r with
  | nil => rfl
  | cons v ahead ih =>
    rw [List.length_cons, run, turn_ofRound (hk v (by simp)) hlt, List.flatMap_cons,
      List.foldl_append]
    apply ih
    intro w hw
    have hwk := hk w (by simp [hw])
    rw [(foldl_settle (k + 1) _ r w).1, if_neg, hwk]
    simp [hwk]

theorem run_ofRound_limit (hk : ∀ v ∈ ahead, r.depths[v]? = some (some k)) (hle : limit ≤ k) :
    run g dir limit ahead.length (ofRound r ahead) = ofRound r [] := by
  induction ahead with
  | nil => rfl
  | cons v ahead ih =>
    rw [List.length_cons, run, turn_ofRound_limit (hk v (by simp)) hle]
    exact ih fun w hw => hk w (by simp [hw])

/-- The nodes settled in a round are those at its depth. -/
def AtDepth (k : Nat) (r : Round) : Prop := ∀ v ∈ r.fresh, r.depths[v]? = some (some k)

theorem atDepth_foldl (k : Nat) (depths : Array (Option Nat)) (vs : List NodeId) :
    AtDepth k (vs.foldl (Round.settle k) ⟨depths, []⟩) := by
  intro w hw
  obtain ⟨hdepth, hfresh⟩ := foldl_settle k vs ⟨depths, []⟩ w
  rcases hfresh.mp hw with hw | hw
  · cases hw
  · rw [hdepth, if_pos hw]

/-- Turn by turn the queue goes through the rounds. -/
theorem exists_run_eq_rounds (hr : AtDepth k r) (hn : k + n = limit) :
    ∃ turns, (run g dir limit turns (ofRound r [])).queue = [] ∧
      (run g dir limit turns (ofRound r [])).depths = (g.rounds dir n k r).depths := by
  have hahead : ∀ v ∈ r.fresh.reverse, (Round.mk r.depths []).depths[v]? = some (some k) :=
    fun v hv => hr v (List.mem_reverse.mp hv)
  induction n generalizing k r with
  | zero =>
    refine ⟨r.fresh.reverse.length, ?_⟩
    rw [ofRound_nil, run_ofRound_limit hahead (Nat.le_of_eq hn.symm)]
    exact ⟨rfl, rfl⟩
  | succ n ih =>
    unfold rounds
    by_cases hf : r.fresh.isEmpty
    · rw [if_pos hf]
      refine ⟨0, ?_, rfl⟩
      simp [run, ofRound, List.isEmpty_iff.mp hf]
    · rw [if_neg hf]
      have hnext : run g dir limit r.fresh.reverse.length (ofRound r []) =
          ofRound (g.nextRound dir (k + 1) r) [] := by
        rw [ofRound_nil, run_ofRound hahead (by omega)]
        rfl
      have hdepth : AtDepth (k + 1) (g.nextRound dir (k + 1) r) := atDepth_foldl _ _ _
      obtain ⟨turns, hturns⟩ := ih hdepth (by omega)
        fun v hv => hdepth v (List.mem_reverse.mp hv)
      refine ⟨r.fresh.reverse.length + turns, ?_⟩
      rw [run_add, hnext]
      exact hturns

/-- After as many turns as there are nodes the queue has run out, and the hop counts are those of
the rounds. -/
theorem run_start (g : Graph N E) (seeds : List NodeId) (dir : Direction) (limit : Nat)
    (hn : g.nodeCount ≤ n) :
    (run g dir limit n (start g seeds)).queue = [] ∧
      (run g dir limit n (start g seeds)).depths = g.depths seeds dir limit := by
  have hempty : (run g dir limit n (start g seeds)).queue = [] :=
    queue_run (by rwa [pending_start])
  have hrounds : ∃ turns, (run g dir limit turns (start g seeds)).queue = [] ∧
      (run g dir limit turns (start g seeds)).depths = g.depths seeds dir limit := by
    rw [start_eq]
    exact exists_run_eq_rounds (atDepth_foldl 0 _ seeds) (Nat.zero_add limit)
  obtain ⟨turns, hturns, hdepths⟩ := hrounds
  have hsame : run g dir limit n (start g seeds) = run g dir limit turns (start g seeds) := by
    rw [← run_of_empty hempty turns, ← run_add, Nat.add_comm, run_add, run_of_empty hturns]
  exact ⟨hempty, hsame ▸ hdepths⟩

end rounds

end Search

end GraphCompare.Graph
