import GraphCompare.Graph.Depth
import GraphCompare.Proofs.Graph.Incidence
import Mathlib.Data.Nat.Find

/-! Walks along the edges of a graph, and why hop counts are the lengths of shortest ones. -/
namespace GraphCompare.Graph
variable {N E : Type} {g : Graph N E} {s u v w : NodeId} {e : EdgeId} {dir : Direction}
  {k d limit : Nat} {seeds : List NodeId} {r : Round}

/-- A walk along edges, by the number of edges in it. -/
inductive Walk (g : Graph N E) : Nat → NodeId → NodeId → Prop
  | refl (v : NodeId) : Walk g 0 v v
  | snoc {k : Nat} {u v w : NodeId} {e : EdgeId} (h : Walk g k u v)
      (he : g.endpoints? e = some (v, w)) : Walk g (k + 1) u w

theorem Walk.cons (he : g.endpoints? e = some (u, v)) (h : g.Walk k v w) : g.Walk (k + 1) u w := by
  induction h with
  | refl v => exact .snoc (.refl u) he
  | snoc _ hf ih => exact .snoc (ih he) hf

theorem Walk.uncons (h : g.Walk (k + 1) u w) :
    ∃ v e, g.endpoints? e = some (u, v) ∧ g.Walk k v w := by
  induction k generalizing w with
  | zero =>
    cases h with
    | snoc h he =>
      cases h
      exact ⟨_, _, he, .refl _⟩
  | succ k ih =>
    cases h with
    | snoc h he =>
      obtain ⟨v, f, hf, hv⟩ := ih h
      exact ⟨v, f, hf, .snoc hv he⟩

/-- A walk from `s` to `v` whose edges are all followed in one direction. -/
def WalkAlong (g : Graph N E) (k : Nat) (s v : NodeId) : Direction → Prop
  | .outgoing => g.Walk k s v
  | .incoming => g.Walk k v s

theorem walkAlong_zero : g.WalkAlong 0 s v dir ↔ s = v := by
  constructor
  · intro h
    cases dir <;> cases h <;> rfl
  · rintro rfl
    cases dir <;> exact .refl _

theorem walkAlong_succ (h : g.IsSimple) :
    g.WalkAlong (k + 1) s w dir ↔ ∃ v, g.WalkAlong k s v dir ∧ w ∈ g.nextAlong v dir := by
  cases dir with
  | outgoing =>
    constructor
    · intro hw
      cases hw with
      | snoc hv he => exact ⟨_, hv, (mem_successors h).mpr ⟨_, he⟩⟩
    · rintro ⟨v, hv, hn⟩
      obtain ⟨e, he⟩ := (mem_successors h).mp hn
      exact .snoc hv he
  | incoming =>
    constructor
    · intro hw
      obtain ⟨v, e, he, hv⟩ := Walk.uncons hw
      exact ⟨v, hv, (mem_predecessors h).mpr ⟨e, he⟩⟩
    · rintro ⟨v, hv, hn⟩
      obtain ⟨e, he⟩ := (mem_predecessors h).mp hn
      exact .cons he hv

/-- A node of the graph that is `k` edges away from a seed, perhaps on a detour. -/
def Within (g : Graph N E) (seeds : List NodeId) (dir : Direction) (k : Nat) (v : NodeId) : Prop :=
  v < g.nodeCount ∧ ∃ s ∈ seeds, g.WalkAlong k s v dir

/-- A node for which no smaller number of edges is enough. -/
def AtDistance (g : Graph N E) (seeds : List NodeId) (dir : Direction) (k : Nat) (v : NodeId) :
    Prop :=
  g.Within seeds dir k v ∧ ∀ j < k, ¬ g.Within seeds dir j v

theorem within_zero : g.Within seeds dir 0 v ↔ v < g.nodeCount ∧ v ∈ seeds := by
  simp only [Within, walkAlong_zero, exists_eq_right]

theorem lt_of_mem_nextAlong (h : g.IsSimple) (hw : w ∈ g.nextAlong v dir) :
    v < g.nodeCount ∧ w < g.nodeCount := by
  obtain ⟨e, hn, hf⟩ := (mem_nextAlong h).mp hw
  cases dir with
  | outgoing => exact h.ends_lt (endpoints?_eq_some.mpr ⟨hn, hf⟩)
  | incoming => exact (h.ends_lt (endpoints?_eq_some.mpr ⟨hf, hn⟩)).symm

theorem within_succ (h : g.IsSimple) :
    g.Within seeds dir (k + 1) w ↔ ∃ v, g.Within seeds dir k v ∧ w ∈ g.nextAlong v dir := by
  constructor
  · rintro ⟨_, s, hs, hw⟩
    obtain ⟨v, hv, hn⟩ := (walkAlong_succ h).mp hw
    exact ⟨v, ⟨(lt_of_mem_nextAlong h hn).1, s, hs, hv⟩, hn⟩
  · rintro ⟨v, ⟨_, s, hs, hv⟩, hn⟩
    exact ⟨(lt_of_mem_nextAlong h hn).2, s, hs, (walkAlong_succ h).mpr ⟨v, hv, hn⟩⟩

theorem atDistance_unique {j : Nat} (hj : g.AtDistance seeds dir j v)
    (hk : g.AtDistance seeds dir k v) : j = k := by
  rcases Nat.lt_trichotomy j k with hlt | heq | hlt
  · exact (hk.2 j hlt hj.1).elim
  · exact heq
  · exact (hj.2 k hlt hk.1).elim

theorem exists_atDistance (h : g.Within seeds dir k v) : ∃ j ≤ k, g.AtDistance seeds dir j v := by
  classical
  have hex : ∃ j, g.Within seeds dir j v := ⟨k, h⟩
  exact ⟨Nat.find hex, Nat.find_min' hex h, Nat.find_spec hex, fun j hj => Nat.find_min hex hj⟩

/-- What is reached at a distance comes from the distance before. -/
theorem atDistance_succ (h : g.IsSimple) :
    g.AtDistance seeds dir (k + 1) w ↔
      (∃ v, g.AtDistance seeds dir k v ∧ w ∈ g.nextAlong v dir) ∧
        ∀ j ≤ k, ¬ g.Within seeds dir j w := by
  constructor
  · rintro ⟨hw, hmin⟩
    obtain ⟨v, hv, hn⟩ := (within_succ h).mp hw
    refine ⟨⟨v, ⟨hv, ?_⟩, hn⟩, fun j hj => hmin j (Nat.lt_succ_of_le hj)⟩
    intro j hj hjv
    exact hmin (j + 1) (Nat.succ_lt_succ hj) ((within_succ h).mpr ⟨v, hjv, hn⟩)
  · rintro ⟨⟨v, hv, hn⟩, hmin⟩
    exact ⟨(within_succ h).mpr ⟨v, hv.1, hn⟩, fun j hj => hmin j (Nat.le_of_lt_succ hj)⟩

theorem depths_settle (k : Nat) (r : Round) (v w : NodeId) :
    (r.settle k v).depths[w]? =
      if w = v ∧ r.depths[w]? = some none then some (some k) else r.depths[w]? := by
  unfold Round.settle
  split
  · rename_i hv
    obtain ⟨hlt, _⟩ := Array.getElem?_eq_some_iff.mp hv
    by_cases hw : w = v
    · subst w
      rw [if_pos ⟨rfl, hv⟩]
      simp [hlt]
    · rw [if_neg fun h => hw h.1]
      simp [Ne.symm hw]
  · rename_i hv
    exact (if_neg (fun h : w = v ∧ _ => hv (h.1 ▸ h.2))).symm

theorem fresh_settle (k : Nat) (r : Round) (v w : NodeId) :
    w ∈ (r.settle k v).fresh ↔ w ∈ r.fresh ∨ w = v ∧ r.depths[w]? = some none := by
  unfold Round.settle
  split
  · rename_i hv
    constructor
    · intro hw
      rcases List.mem_cons.mp hw with rfl | hw
      · exact Or.inr ⟨rfl, hv⟩
      · exact Or.inl hw
    · rintro (hw | ⟨rfl, _⟩)
      · exact List.mem_cons_of_mem _ hw
      · exact List.mem_cons_self
  · rename_i hv
    constructor
    · exact Or.inl
    · rintro (hw | ⟨rfl, hw⟩)
      · exact hw
      · exact (hv hw).elim

/-- Settling a list of nodes at one depth settles those of them that were not settled before. -/
theorem foldl_settle (k : Nat) (vs : List NodeId) (r : Round) (w : NodeId) :
    ((vs.foldl (Round.settle k) r).depths[w]? =
      if w ∈ vs ∧ r.depths[w]? = some none then some (some k) else r.depths[w]?) ∧
    (w ∈ (vs.foldl (Round.settle k) r).fresh ↔
      w ∈ r.fresh ∨ w ∈ vs ∧ r.depths[w]? = some none) := by
  induction vs generalizing r with
  | nil => simp
  | cons v vs ih =>
    obtain ⟨hd, hf⟩ := ih (r.settle k v)
    rw [List.foldl_cons, hd, hf, depths_settle, fresh_settle]
    by_cases hv : w = v
    · subst w
      by_cases hn : r.depths[v]? = some none <;> simp [hn]
    · by_cases hn : r.depths[w]? = some none <;> simp [hn, hv]

/-- After the round at depth `k` exactly the nodes up to that distance have a depth, their distance,
and the fresh ones are those at distance `k`. -/
structure Settled (g : Graph N E) (seeds : List NodeId) (dir : Direction) (k : Nat) (r : Round) :
    Prop where
  size_eq : r.depths.size = g.nodeCount
  depth_iff : ∀ v d, r.depths[v]? = some (some d) ↔ d ≤ k ∧ g.AtDistance seeds dir d v
  fresh_iff : ∀ v, v ∈ r.fresh ↔ g.AtDistance seeds dir k v

theorem size_foldl_settle (k : Nat) (vs : List NodeId) (r : Round) :
    (vs.foldl (Round.settle k) r).depths.size = r.depths.size := by
  induction vs generalizing r with
  | nil => rfl
  | cons v vs ih =>
    rw [List.foldl_cons, ih]
    unfold Round.settle
    split <;> simp

/-- A node has no depth yet just when no walk up to the depth of the round leads to it. -/
theorem unsettled_iff (h : g.Settled seeds dir k r) :
    r.depths[v]? = some none ↔ v < g.nodeCount ∧ ∀ j ≤ k, ¬ g.Within seeds dir j v := by
  constructor
  · intro hv
    obtain ⟨hlt, _⟩ := Array.getElem?_eq_some_iff.mp hv
    refine ⟨h.size_eq ▸ hlt, fun j hj hw => ?_⟩
    obtain ⟨d, hd, hat⟩ := exists_atDistance hw
    have hsome := (h.depth_iff v d).mpr ⟨Nat.le_trans hd hj, hat⟩
    simp [hv] at hsome
  · rintro ⟨hlt, hno⟩
    have hlt' : v < r.depths.size := h.size_eq ▸ hlt
    rw [Array.getElem?_eq_getElem hlt']
    cases hd : r.depths[v] with
    | none => rfl
    | some d =>
      have hsome : r.depths[v]? = some (some d) := by rw [Array.getElem?_eq_getElem hlt', hd]
      obtain ⟨hle, hat⟩ := (h.depth_iff v d).mp hsome
      exact (hno d hle hat.1).elim

theorem settled_start (g : Graph N E) (seeds : List NodeId) (dir : Direction) :
    g.Settled seeds dir 0
      (seeds.foldl (Round.settle 0) ⟨Array.replicate g.nodeCount none, []⟩) := by
  have hat : ∀ v, g.AtDistance seeds dir 0 v ↔ v < g.nodeCount ∧ v ∈ seeds := by
    intro v
    simp [AtDistance, within_zero]
  have hnone : ∀ v, (Array.replicate g.nodeCount (none : Option Nat))[v]? = some none ↔
      v < g.nodeCount := by
    intro v
    simp [Array.getElem?_replicate]
  constructor
  · rw [size_foldl_settle]
    simp
  · intro v d
    rw [(foldl_settle 0 seeds _ v).1]
    by_cases hv : v ∈ seeds ∧ v < g.nodeCount
    · rw [if_pos ⟨hv.1, (hnone v).mpr hv.2⟩]
      constructor
      · intro hd
        cases hd
        exact ⟨Nat.le_refl 0, (hat v).mpr hv.symm⟩
      · rintro ⟨hd, _⟩
        rw [Nat.le_zero.mp hd]
    · rw [if_neg (fun hc => hv ⟨hc.1, (hnone v).mp hc.2⟩)]
      constructor
      · intro hd
        simp [Array.getElem?_replicate] at hd
      · rintro ⟨hd, hw⟩
        rw [Nat.le_zero.mp hd] at hw
        exact (hv ((hat v).mp hw).symm).elim
  · intro v
    rw [(foldl_settle 0 seeds _ v).2, hat]
    simp [Array.getElem?_replicate, and_comm]

theorem settled_nextRound (hg : g.IsSimple) (h : g.Settled seeds dir k r) :
    g.Settled seeds dir (k + 1) (g.nextRound dir (k + 1) r) := by
  have hnew : ∀ w, (w ∈ r.fresh.reverse.flatMap (g.nextAlong · dir) ∧ r.depths[w]? = some none) ↔
      g.AtDistance seeds dir (k + 1) w := by
    intro w
    rw [unsettled_iff h, atDistance_succ hg]
    simp only [List.mem_flatMap, List.mem_reverse, h.fresh_iff]
    constructor
    · rintro ⟨⟨v, hv, hn⟩, _, hno⟩
      exact ⟨⟨v, hv, hn⟩, hno⟩
    · rintro ⟨⟨v, hv, hn⟩, hno⟩
      exact ⟨⟨v, hv, hn⟩, (lt_of_mem_nextAlong hg hn).2, hno⟩
  unfold nextRound
  constructor
  · rw [size_foldl_settle]
    exact h.size_eq
  · intro v d
    rw [(foldl_settle (k + 1) _ _ v).1]
    by_cases hv : g.AtDistance seeds dir (k + 1) v
    · rw [if_pos ((hnew v).mpr hv)]
      constructor
      · intro hd
        cases hd
        exact ⟨Nat.le_refl _, hv⟩
      · rintro ⟨_, hd⟩
        rw [atDistance_unique hd hv]
    · rw [if_neg (fun hc => hv ((hnew v).mp hc)), h.depth_iff]
      constructor
      · rintro ⟨hd, hat⟩
        exact ⟨Nat.le_succ_of_le hd, hat⟩
      · rintro ⟨hd, hat⟩
        have : d ≠ k + 1 := by
          rintro rfl
          exact hv hat
        exact ⟨by omega, hat⟩
  · intro v
    rw [(foldl_settle (k + 1) _ _ v).2]
    simp only [List.not_mem_nil, false_or]
    exact hnew v

/-- A distance that no node is at is not passed. -/
theorem no_atDistance_of_empty (hg : g.IsSimple) (hno : ∀ v, ¬ g.AtDistance seeds dir k v)
    (hk : k ≤ d) : ∀ v, ¬ g.AtDistance seeds dir d v := by
  induction d, hk using Nat.le_induction with
  | base => exact hno
  | succ d _ ih =>
    intro v hv
    obtain ⟨⟨u, hu, _⟩, _⟩ := (atDistance_succ hg).mp hv
    exact ih u hu

theorem rounds_spec (hg : g.IsSimple) (h : g.Settled seeds dir k r) :
    (g.rounds dir limit k r).depths.size = g.nodeCount ∧
    ∀ v d, (g.rounds dir limit k r).depths[v]? = some (some d) ↔
      d ≤ k + limit ∧ g.AtDistance seeds dir d v := by
  induction limit generalizing k r with
  | zero => exact ⟨h.size_eq, h.depth_iff⟩
  | succ limit ih =>
    unfold rounds
    by_cases hf : r.fresh.isEmpty
    · rw [if_pos hf]
      -- the search stops early, but no node is farther away than the last round
      have hno : ∀ v, ¬ g.AtDistance seeds dir k v := by
        intro v hv
        have := (h.fresh_iff v).mpr hv
        simp [List.isEmpty_iff.mp hf] at this
      refine ⟨h.size_eq, fun v d => ?_⟩
      rw [h.depth_iff]
      constructor
      · rintro ⟨hd, hat⟩
        exact ⟨by omega, hat⟩
      · rintro ⟨_, hat⟩
        refine ⟨?_, hat⟩
        by_contra hd
        exact no_atDistance_of_empty hg hno (by omega) v hat
    · rw [if_neg hf]
      obtain ⟨hs, hd⟩ := ih (settled_nextRound hg h)
      refine ⟨hs, fun v d => ?_⟩
      rw [hd, Nat.add_right_comm, Nat.add_assoc]

theorem size_depths (hg : g.IsSimple) (seeds : List NodeId) (dir : Direction) (limit : Nat) :
    (g.depths seeds dir limit).size = g.nodeCount :=
  (rounds_spec hg (settled_start g seeds dir)).1

/-- Hop counts are distances, as far as the limit. -/
theorem depths_eq_some (hg : g.IsSimple) :
    (g.depths seeds dir limit)[v]? = some (some d) ↔
      d ≤ limit ∧ g.AtDistance seeds dir d v := by
  unfold depths
  rw [(rounds_spec hg (settled_start g seeds dir)).2, Nat.zero_add]

/-- A node has a hop count just when some walk within the limit leads to it. -/
theorem depths_isSome (hg : g.IsSimple) :
    ((g.depths seeds dir limit)[v]?).join.isSome ↔ ∃ k ≤ limit, g.Within seeds dir k v := by
  constructor
  · intro hs
    obtain ⟨d, hd⟩ := Option.isSome_iff_exists.mp hs
    obtain ⟨hle, hat⟩ := (depths_eq_some hg).mp (Option.join_eq_some_iff.mp hd)
    exact ⟨d, hle, hat.1⟩
  · rintro ⟨k, hk, hw⟩
    obtain ⟨d, hd, hat⟩ := exists_atDistance hw
    have hsome : (g.depths seeds dir limit)[v]? = some (some d) :=
      (depths_eq_some hg).mpr ⟨Nat.le_trans hd hk, hat⟩
    simp [hsome]

theorem depths_isSome_of_lt (hg : g.IsSimple) (hv : v < g.nodeCount) :
    ((g.depths seeds dir limit)[v]?).join.isSome ↔
      ∃ s ∈ seeds, ∃ k ≤ limit, g.WalkAlong k s v dir := by
  rw [depths_isSome hg]
  constructor
  · rintro ⟨k, hk, -, s, hs, hwalk⟩
    exact ⟨s, hs, k, hk, hwalk⟩
  · rintro ⟨s, hs, k, hk, hwalk⟩
    exact ⟨k, hk, hv, s, hs, hwalk⟩

end GraphCompare.Graph
