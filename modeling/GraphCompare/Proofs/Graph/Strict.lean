import GraphCompare.Failure
import GraphCompare.Proofs.Graph.Queue

/-! Strict operations stop at a trap wherever the plain ones rely on something without a check: that
an index fits into 32 bits and lies in range, that an element is there, that a queued node has a
depth. On a simple graph that is not too large they meet no trap and do what the plain ones do. -/
namespace GraphCompare

/-- What a strict operation stops at. -/
inductive Trap
  | overflow (e : IndexOverflow)
  | outOfRange (index : Nat)
  /-- An element that should be there and that a loop would pass over if it is not. -/
  | missing
  /-- An edge between two nodes that should have none yet. -/
  | joined (source target : NodeId)
  /-- A node in the queue without a depth. -/
  | unsettled (v : NodeId)
  /-- A search with nodes left in the queue. -/
  | unfinished
  /-- A difference below zero. -/
  | underflow
deriving DecidableEq, Repr

namespace Trap
variable {α : Type}

/-- The value, or the trap if there is none. -/
def guard (t : Trap) : Option α → Except Trap α
  | some x => .ok x
  | none => .error t

/-- The trap unless something holds. -/
def check (t : Trap) (p : Prop) [Decidable p] : Except Trap Unit := if p then .ok () else .error t

@[simp] theorem guard_some (t : Trap) (x : α) : t.guard (some x) = .ok x := rfl

@[simp] theorem ok_bind {β : Type} (x : α) (f : α → Except Trap β) :
    ((.ok x : Except Trap α) >>= f) = f x := rfl

theorem bind_of {β : Type} {x : Except Trap α} {a : α} (h : x = .ok a) (f : α → Except Trap β) :
    x >>= f = f a := by
  rw [h, ok_bind]

theorem check_of {t : Trap} {p : Prop} [Decidable p] (h : p) : t.check p = .ok () := if_pos h

end Trap

namespace Strict
variable {α β σ : Type} {l : List α} {n m : Nat}

/-- An index of 32 bits. -/
def index (kind : ElementKind) (n : Nat) : Except Trap Nat := (kind.index n).mapError .overflow

/-- The indices of so many elements. -/
def indices (kind : ElementKind) (count : Nat) : Except Trap (List Nat) :=
  (List.range count).mapM (index kind)

def minus (n m : Nat) : Except Trap Nat := if m ≤ n then .ok (n - m) else .error .underflow

theorem minus_of_le (h : m ≤ n) : minus n m = .ok (n - m) := if_pos h

theorem index_of_lt (kind : ElementKind) (h : n < UInt32.size) : index kind n = .ok n := by
  rw [index, ElementKind.index, if_pos h]
  rfl

/-- Where no element meets a trap, the whole list meets none. -/
theorem mapM_eq_ok {F : α → Except Trap β} {f : α → β} (h : ∀ a ∈ l, F a = .ok (f a)) :
    l.mapM F = .ok (l.map f) := by
  induction l with
  | nil => rfl
  | cons a l ih =>
    rw [List.mapM_cons, h a (by simp), ih fun b hb => h b (List.mem_cons_of_mem a hb)]
    rfl

theorem mapM_index (kind : ElementKind) {l : List Nat} (h : ∀ i ∈ l, i < UInt32.size) :
    l.mapM (index kind) = .ok l := by
  have hmap := mapM_eq_ok (F := index kind) (f := fun i => i) fun i hi => index_of_lt kind (h i hi)
  rwa [List.map_id'] at hmap

theorem indices_of_le (kind : ElementKind) (h : n ≤ UInt32.size) :
    indices kind n = .ok (List.range n) :=
  mapM_index kind fun _ hi => Nat.lt_of_lt_of_le (List.mem_range.mp hi) h

/-- A strict loop does what the plain one does if an invariant keeps its steps off all traps. -/
theorem foldlM_eq_ok {F : σ → α → Except Trap σ} {f : σ → α → σ} {P : σ → Prop}
    (step : ∀ s, P s → ∀ a ∈ l, F s a = .ok (f s a) ∧ P (f s a)) {s : σ} (h : P s) :
    l.foldlM F s = .ok (l.foldl f s) ∧ P (l.foldl f s) := by
  induction l generalizing s with
  | nil => exact ⟨rfl, h⟩
  | cons a l ih =>
    obtain ⟨ha, hP⟩ := step s h a (by simp)
    rw [List.foldlM_cons, ha]
    exact ih (fun s hs b hb => step s hs b (List.mem_cons_of_mem a hb)) hP

/-- A strict loop over indices follows its stages. -/
theorem foldlM_range {F : σ → Nat → Except Trap σ} (stage : Nat → σ)
    (step : ∀ i, i < n → F (stage i) i = .ok (stage (i + 1))) :
    (List.range n).foldlM F (stage 0) = .ok (stage n) := by
  induction n with
  | zero => rfl
  | succ n ih =>
    rw [List.range_succ, List.foldlM_append, ih fun i hi => step i (Nat.lt_succ_of_lt hi),
      Trap.ok_bind, List.foldlM_cons, step n (Nat.lt_succ_self n)]
    rfl

end Strict

namespace Graph
variable {N E : Type} {g : Graph N E} {v w : NodeId} {dir : Direction} {limit k n : Nat}

def strictAddNode (g : Graph N E) (a : N) : Except Trap (NodeId × Graph N E) := do
  let v ← Strict.index .node g.nodeCount
  return (v, (g.addNode a).2)

/-- An edge that is there already is looked up by its index, a new one is entered at both ends. -/
def strictAddEdge (g : Graph N E) (v w : NodeId) (b : E) :
    Except Trap (Option (EdgeId × Graph N E)) :=
  if v < g.nodeCount ∧ w < g.nodeCount then
    match g.findEdge? v w with
    | some e => do
      let _ ← (Trap.outOfRange e).guard g.arcs[e]?
      return some (e, g.setEdge e b)
    | none => do
      let e ← Strict.index .edge g.edgeCount
      let _ ← (Trap.outOfRange v).guard g.vertices[v]?
      let _ ← (Trap.outOfRange w).guard g.vertices[w]?
      return some (e, g.pushEdge v w b)
  else return none

def strictNextAlong (g : Graph N E) (v : NodeId) (dir : Direction) : Except Trap (List NodeId) :=
  (g.edgesAlong v dir).mapM fun e => (Trap.outOfRange e).guard (g.far? e dir)

def strictNeighbors (g : Graph N E) (v : NodeId) : Except Trap (List NodeId) := do
  let successors ← g.strictNextAlong v .outgoing
  let predecessors ← g.strictNextAlong v .incoming
  return ((successors ++ predecessors).filter (· ≠ v)).eraseDups

theorem strictAddNode_eq (h : g.nodeCount < UInt32.size) (a : N) :
    g.strictAddNode a = .ok (g.addNode a) := by
  rw [strictAddNode, Strict.index_of_lt .node h]
  rfl

theorem strictAddEdge_eq (hg : g.IsSimple) (h : g.edgeCount < UInt32.size) (v w : NodeId) (b : E) :
    g.strictAddEdge v w b = .ok (g.addEdge? v w b) := by
  unfold strictAddEdge addEdge?
  split
  · rename_i hin
    obtain ⟨hv, hw⟩ := hin
    cases hf : g.findEdge? v w with
    | some e =>
      have he : e < g.arcs.size := lt_of_endpoints? ((findEdge?_eq_some hg).mp hf)
      dsimp only
      rw [Array.getElem?_eq_getElem he]
      rfl
    | none =>
      dsimp only
      rw [Strict.index_of_lt .edge h, Array.getElem?_eq_getElem hv, Array.getElem?_eq_getElem hw]
      rfl
  · rfl

theorem strictNextAlong_eq (hg : g.IsSimple) (v : NodeId) (dir : Direction) :
    g.strictNextAlong v dir = .ok (g.nextAlong v dir) := by
  have hfar : ∀ e ∈ g.edgesAlong v dir, ∃ w, g.far? e dir = some w := by
    intro e he
    have hnear := (mem_edgesAlong hg).mp he
    cases dir with
    | outgoing =>
      obtain ⟨a, ha, _⟩ := Option.map_eq_some_iff.mp hnear
      exact ⟨a.target, by rw [far?, ha]; rfl⟩
    | incoming =>
      obtain ⟨a, ha, _⟩ := Option.map_eq_some_iff.mp hnear
      exact ⟨a.source, by rw [far?, ha]; rfl⟩
  rw [strictNextAlong, nextAlong]
  generalize g.edgesAlong v dir = l at hfar
  induction l with
  | nil => rfl
  | cons e l ih =>
    obtain ⟨w, hw⟩ := hfar e (by simp)
    rw [List.mapM_cons, List.filterMap_cons, ih fun f hf => hfar f (List.mem_cons_of_mem e hf), hw]
    rfl

theorem strictNeighbors_eq (hg : g.IsSimple) (v : NodeId) :
    g.strictNeighbors v = .ok (g.neighbors v) := by
  rw [strictNeighbors, strictNextAlong_eq hg, strictNextAlong_eq hg]
  rfl

namespace Search
variable {s t : Search}

def strictSettle (k : Nat) (s : Search) (v : NodeId) : Except Trap Search := do
  let slot ← (Trap.outOfRange v).guard s.depths[v]?
  match slot with
  | some _ => return s
  | none => return ⟨s.depths.setIfInBounds v (some k), s.queue ++ [v]⟩

/-- Seeds that are no nodes are passed over. -/
def strictStart (g : Graph N E) (seeds : List NodeId) : Except Trap Search :=
  seeds.foldlM (fun s v => if v < g.nodeCount then s.strictSettle 0 v else return s)
    ⟨Array.replicate g.nodeCount none, []⟩

def strictTurn (g : Graph N E) (dir : Direction) (limit : Nat) (s : Search) :
    Except Trap (Option Search) :=
  match s.queue with
  | [] => return none
  | v :: rest => do
    let slot ← (Trap.outOfRange v).guard s.depths[v]?
    let d ← (Trap.unsettled v).guard slot
    if limit ≤ d then return some ⟨s.depths, rest⟩
    else
      let next ← g.strictNextAlong v dir
      return some (← next.foldlM (strictSettle (d + 1)) ⟨s.depths, rest⟩)

/-- The search must come to its end within so many turns. -/
def strictRun (g : Graph N E) (dir : Direction) (limit : Nat) : Nat → Search → Except Trap Search
  | 0, s => do
    Trap.unfinished.check (s.queue = [])
    return s
  | n + 1, s => do
    match ← s.strictTurn g dir limit with
    | none => return s
    | some t => strictRun g dir limit n t

/-- All nodes have a slot, and those in the queue have a depth in it. -/
structure WellQueued (g : Graph N E) (s : Search) : Prop where
  size_eq : s.depths.size = g.nodeCount
  settled : ∀ v ∈ s.queue, ∃ d, s.depths[v]? = some (some d)

theorem WellQueued.settle (h : WellQueued g s) (k : Nat) (v : NodeId) :
    WellQueued g (s.settle k v) := by
  unfold Search.settle
  split
  · rename_i hnone
    have hlt := (Array.getElem?_eq_some_iff.mp hnone).1
    refine ⟨by simpa using h.size_eq, fun u hu => ?_⟩
    by_cases huv : u = v
    · exact ⟨k, by simp [huv, hlt]⟩
    · have hold : u ∈ s.queue := by simpa [huv] using hu
      obtain ⟨d, hd⟩ := h.settled u hold
      exact ⟨d, by simpa [Ne.symm huv] using hd⟩
  · exact h

theorem strictSettle_eq (k : Nat) (hv : v < s.depths.size) :
    s.strictSettle k v = .ok (s.settle k v) := by
  unfold strictSettle Search.settle
  rw [Array.getElem?_eq_getElem hv]
  cases s.depths[v] <;> rfl

theorem strictSettle_foldlM (h : WellQueued g s) (k : Nat) (vs : List NodeId)
    (hvs : ∀ v ∈ vs, v < g.nodeCount) :
    vs.foldlM (strictSettle k) s = .ok (vs.foldl (settle k) s) ∧
      WellQueued g (vs.foldl (settle k) s) :=
  Strict.foldlM_eq_ok (P := WellQueued g)
    (fun _ hs v hv => ⟨strictSettle_eq k (hs.size_eq ▸ hvs v hv), hs.settle k v⟩) h

theorem strictStart_eq (g : Graph N E) (seeds : List NodeId) :
    strictStart g seeds = .ok (start g seeds) ∧ WellQueued g (start g seeds) := by
  apply Strict.foldlM_eq_ok (P := WellQueued g)
  · intro s hs v _
    refine ⟨?_, hs.settle 0 v⟩
    split
    · rename_i hv
      exact strictSettle_eq 0 (hs.size_eq ▸ hv)
    · rename_i hv
      have hnone : s.depths[v]? = none :=
        Array.getElem?_eq_none (hs.size_eq ▸ Nat.le_of_not_lt hv)
      simp [Search.settle, hnone, pure, Except.pure]
  · exact ⟨by simp, by simp⟩

theorem strictTurn_eq (hg : g.IsSimple) (h : WellQueued g s) (dir : Direction) (limit : Nat) :
    s.strictTurn g dir limit = .ok (s.turn g dir limit) ∧
      ∀ t, s.turn g dir limit = some t → WellQueued g t := by
  unfold strictTurn turn
  cases hq : s.queue with
  | nil => exact ⟨rfl, by simp⟩
  | cons v rest =>
    obtain ⟨d, hd⟩ := h.settled v (by simp [hq])
    have hrest : WellQueued g ⟨s.depths, rest⟩ :=
      ⟨h.size_eq, fun u hu => h.settled u (by simp [hq, hu])⟩
    obtain ⟨hloop, hkept⟩ := strictSettle_foldlM hrest (d + 1) (g.nextAlong v dir)
      fun w hw => (lt_of_mem_nextAlong hg hw).2
    simp only [hd, Option.join_some, Trap.guard_some, Trap.ok_bind, strictNextAlong_eq hg, hloop]
    split
    · exact ⟨rfl, fun t ht => Option.some.inj ht ▸ hrest⟩
    · exact ⟨rfl, fun t ht => Option.some.inj ht ▸ hkept⟩

theorem strictRun_eq (hg : g.IsSimple) (h : WellQueued g s) (dir : Direction) (limit : Nat)
    (hn : s.pending ≤ n) :
    strictRun g dir limit n s = .ok (run g dir limit n s) := by
  induction n generalizing s with
  | zero =>
    have hempty : (run g dir limit 0 s).queue = [] := queue_run hn
    exact Trap.bind_of (Trap.check_of hempty) _
  | succ n ih =>
    obtain ⟨hturn, hkept⟩ := strictTurn_eq hg h dir limit
    rw [strictRun, run, hturn]
    cases ht : s.turn g dir limit with
    | none => rfl
    | some t =>
      have hlt := pending_turn ht
      exact ih (hkept t ht) (by omega)

end Search

def strictDepths (g : Graph N E) (seeds : List NodeId) (dir : Direction) (limit : Nat) :
    Except Trap (Array (Option Nat)) := do
  let s ← Search.strictStart g seeds
  let s ← Search.strictRun g dir limit g.nodeCount s
  return s.depths

theorem strictDepths_eq (hg : g.IsSimple) (seeds : List NodeId) (dir : Direction) (limit : Nat) :
    g.strictDepths seeds dir limit = .ok (g.depths seeds dir limit) := by
  obtain ⟨hstart, hwell⟩ := Search.strictStart_eq g seeds
  have hrun := Search.strictRun_eq hg hwell dir limit
    (Nat.le_of_eq (Search.pending_start g seeds))
  have hdepths := (Search.run_start g seeds dir limit (Nat.le_refl g.nodeCount)).2
  rw [strictDepths, hstart, Trap.ok_bind, hrun, ← hdepths]
  rfl

end Graph

end GraphCompare
