import GraphCompare.Proofs.Graph.Strict
import GraphCompare.Proofs.Overlay.Matching

/-! Strict operations that may also fail, and a matching made by such operations: they meet no trap
and give what the plain ones give, the same failure included. -/
namespace GraphCompare

/-- A strict operation that may fail. -/
abbrev Strict (ε α : Type) := ExceptT ε (Except Trap) α

namespace Strict
variable {α β σ ε ε' : Type}

/-- An operation that meets no trap and gives what a plain one gives. -/
def Gives (x : Strict ε α) (y : Except ε α) : Prop := x.run = .ok y

/-- A strict operation that cannot fail otherwise. -/
def lift (x : Except Trap α) : Strict ε α := ExceptT.lift x

/-- A plain operation. -/
def ofExcept (y : Except ε α) : Strict ε α := ExceptT.mk (.ok y)

theorem gives_ofExcept (y : Except ε α) : (ofExcept y).Gives y := rfl

theorem gives_pure (x : α) : (pure x : Strict ε α).Gives (.ok x) := rfl

theorem gives_throw (e : ε) : (throw e : Strict ε α).Gives (.error e) := rfl

theorem gives_lift {x : Except Trap α} {a : α} (h : x = .ok a) :
    (lift x : Strict ε α).Gives (.ok a) := by
  rw [h]
  rfl

theorem Gives.bind {x : Strict ε α} {y : Except ε α} {f : α → Strict ε β} {g : α → Except ε β}
    (h : x.Gives y) (hf : ∀ a, y = .ok a → (f a).Gives (g a)) : Gives (x >>= f) (y >>= g) := by
  obtain rfl : x = .ok y := h
  cases y with
  | error e => rfl
  | ok a => exact hf a rfl

theorem Gives.bind_ok {x : Strict ε α} {a : α} {f : α → Strict ε β} {y : Except ε β}
    (h : x.Gives (.ok a)) (hf : (f a).Gives y) : Gives (x >>= f) y :=
  h.bind (g := fun _ => y) fun _ ha => Except.ok.inj ha ▸ hf

theorem Gives.bind_error {x : Strict ε α} {e : ε} (h : x.Gives (.error e)) (f : α → Strict ε β) :
    Gives (x >>= f) (.error e) :=
  h.bind (g := fun _ => .error e) fun _ ha => by cases ha

theorem Gives.lift_bind {x : Except Trap α} {a : α} {f : α → Strict ε β} {y : Except ε β}
    (h : x = .ok a) (hf : (f a).Gives y) : Gives (lift x >>= f) y :=
  (gives_lift h).bind_ok hf

theorem Gives.adapt {x : Strict ε α} {y : Except ε α} (h : x.Gives y) (f : ε → ε') :
    Gives (x.adapt f) (y.mapError f) := by
  obtain rfl : x = .ok y := h
  rfl

/-- A strict loop gives what the plain one gives if an invariant keeps its steps off all traps. -/
theorem gives_foldlM {F : σ → α → Strict ε σ} {f : σ → α → Except ε σ} {P : List α → σ → Prop}
    {l : List α} (done : List α)
    (step : ∀ {before a after s}, before ++ a :: after = done ++ l → P before s →
      (F s a).Gives (f s a) ∧ ∀ s', f s a = .ok s' → P (before ++ [a]) s')
    {s : σ} (h : P done s) : Gives (l.foldlM F s) (l.foldlM f s) := by
  induction l generalizing done s with
  | nil => exact gives_pure s
  | cons a l ih =>
    obtain ⟨hgives, hkept⟩ := step rfl h
    rw [List.foldlM_cons, List.foldlM_cons]
    refine hgives.bind fun s' hs' => ih (done ++ [a]) ?_ (hkept s' hs')
    intro before b after s heq
    exact step (by simpa using heq)

end Strict

namespace Draft
variable {g : Draft} {l : Listing} {side : Side} {n : ListedNode} {r : ListedEdge}

def strictPlaceNode (side : Side) (g : Draft) (n : ListedNode) : Strict Defect Draft :=
  match g.nodeAt? n.address with
  | some _ => throw (.repeatedNode side n.address)
  | none => do
    let (v, graph) ← Strict.lift (g.strictAddNode n)
    return ⟨graph, g.byAddress.insert n.address v⟩

/-- Between two nodes without an edge a new one is added, which must succeed. -/
def strictPlaceEdge (side : Side) (g : Draft) (r : ListedEdge) : Strict Defect Draft :=
  match g.nodeAt? r.source, g.nodeAt? r.target with
  | none, _ => throw (.unknownEnd side r.source r.target r.source)
  | some _, none => throw (.unknownEnd side r.source r.target r.target)
  | some v, some w =>
    match g.findEdge? v w with
    | some _ => throw (.repeatedEdge side r.source r.target)
    | none => do
      let added ← Strict.lift (g.strictAddEdge v w r)
      let (_, graph) ← Strict.lift (Trap.missing.guard added)
      return { g with toGraph := graph }

def strictOfListing (side : Side) (l : Listing) : Strict Defect Draft := do
  let g ← l.nodes.foldlM (strictPlaceNode side) empty
  l.edges.foldlM (strictPlaceEdge side) g

theorem strictPlaceNode_gives (h : g.nodeCount < UInt32.size) (n : ListedNode) :
    (strictPlaceNode side g n).Gives (placeNode side g n) := by
  unfold strictPlaceNode placeNode
  cases g.nodeAt? n.address with
  | some v => exact Strict.gives_throw _
  | none => exact .lift_bind (Graph.strictAddNode_eq h n) (Strict.gives_pure _)

theorem strictPlaceEdge_gives (hg : g.IsSimple) (hl : g.Located) (h : g.edgeCount < UInt32.size)
    (r : ListedEdge) : (strictPlaceEdge side g r).Gives (placeEdge side g r) := by
  unfold strictPlaceEdge placeEdge
  cases hv : g.nodeAt? r.source with
  | none => exact Strict.gives_throw _
  | some v =>
    cases hw : g.nodeAt? r.target with
    | none => exact Strict.gives_throw _
    | some w =>
      dsimp only
      cases hf : g.findEdge? v w with
      | some e => exact Strict.gives_throw _
      | none =>
        have hadd : g.addEdge? v w r = some (g.edgeCount, g.pushEdge v w r) := by
          rw [Graph.addEdge?, if_pos ⟨hl.lt hv, hl.lt hw⟩, hf]
        refine .lift_bind (Graph.strictAddEdge_eq hg h v w r) ?_
        rw [hadd]
        exact .lift_bind rfl (Strict.gives_pure _)

theorem strictOfListing_gives (hn : l.nodes.length ≤ UInt32.size)
    (he : l.edges.length ≤ UInt32.size) :
    (strictOfListing side l).Gives (ofListing side l) := by
  apply Strict.Gives.bind
  · apply Strict.gives_foldlM (P := fun before g => ListsNodes g before) []
    · intro before n after g heq hlists
      have hlength := congrArg List.length heq
      refine ⟨strictPlaceNode_gives ?_ n, fun g' hg' => listsNodes_step hlists hg'⟩
      rw [← Graph.length_nodes, hlists.nodes_eq]
      simp at hlength
      omega
    · exact listsNodes_empty
  · intro g hg
    apply Strict.gives_foldlM (P := fun before g => Lists g { l with edges := before }) []
    · intro before r after g heq hlists
      have hlength := congrArg List.length heq
      refine ⟨strictPlaceEdge_gives hlists.simple hlists.located ?_ r,
        fun g' hg' => lists_step hlists hg'⟩
      rw [← Graph.length_edges, hlists.edges_eq]
      simp at hlength ⊢
      omega
    · exact (listsNodes_foldlM hg).lists

end Draft

namespace Matching
variable {m : Matching} {c : Comparison} {r : Pairing}

/-- Takes down a partner of a node, which must be there. -/
def strictPairNode (m : Matching) (s : Side) (a : Address) (v : NodeId) (p : Partner) :
    Strict Defect Matching := do
  let _ ← Strict.lift (Trap.missing.guard ((m.drafts.get s).node? v))
  if (m.partner? s v).isSome then throw (.matchedTwice s a) else return m.pairNode s v p

def strictPair (m : Matching) (r : Pairing) : Strict Defect Matching :=
  if r.kind = .unmatched then throw (.unmatchedPair r.ends)
  else
    match m.drafts.primary.nodeAt? r.ends.primary, m.drafts.secondary.nodeAt? r.ends.secondary with
    | none, _ => throw (.unknownPartner r.ends .primary)
    | some _, none => throw (.unknownPartner r.ends .secondary)
    | some v, some w => do
      let m ← m.strictPairNode .primary r.ends.primary v ⟨w, r.kind⟩
      m.strictPairNode .secondary r.ends.secondary w ⟨v, r.kind⟩

theorem strictPairNode_gives {s : Side} {v : NodeId} (hv : v < (m.drafts.get s).nodeCount)
    (a : Address) (p : Partner) :
    (m.strictPairNode s a v p).Gives
      (if (m.partner? s v).isSome then .error (.matchedTwice s a) else .ok (m.pairNode s v p)) := by
  obtain ⟨n, hn⟩ := Graph.exists_node? hv
  refine .lift_bind (congrArg Trap.missing.guard hn) ?_
  split
  · exact Strict.gives_throw _
  · exact Strict.gives_pure _

theorem strictPair_gives (hl : ∀ s, (m.drafts.get s).Located) (r : Pairing) :
    (m.strictPair r).Gives (m.pair r) := by
  unfold strictPair pair
  split
  · exact Strict.gives_throw _
  · cases hv : m.drafts.primary.nodeAt? r.ends.primary with
    | none => exact Strict.gives_throw _
    | some v =>
      cases hw : m.drafts.secondary.nodeAt? r.ends.secondary with
      | none => exact Strict.gives_throw _
      | some w =>
        have hprimary := strictPairNode_gives (m := m) (s := .primary) ((hl .primary).lt hv)
          r.ends.primary ⟨w, r.kind⟩
        have hsecondary := strictPairNode_gives (m := m.pairNode .primary v ⟨w, r.kind⟩)
          (s := .secondary) ((hl .secondary).lt hw) r.ends.secondary ⟨v, r.kind⟩
        dsimp only
        by_cases hp : (m.partner? .primary v).isSome
        · rw [if_pos hp] at hprimary ⊢
          exact hprimary.bind_error _
        · rw [if_neg hp] at hprimary ⊢
          -- the primary pair leaves the partners of the other side as they are
          exact hprimary.bind_ok hsecondary

end Matching

/-- The records of both sides and then the pairings. -/
def Comparison.strictMatching (c : Comparison) : Strict Defect Matching := do
  let primary ← Draft.strictOfListing .primary c.sides.primary
  let secondary ← Draft.strictOfListing .secondary c.sides.secondary
  c.pairings.foldlM Matching.strictPair (Matching.empty ⟨primary, secondary⟩)

/-- No more records of a kind than indices of 32 bits. -/
structure Comparison.Fits (c : Comparison) : Prop where
  nodes : c.sides.primary.nodes.length + c.sides.secondary.nodes.length < UInt32.size
  edges : c.sides.primary.edges.length + c.sides.secondary.edges.length < UInt32.size

theorem Comparison.strictMatching_gives {c : Comparison} (h : c.Fits) :
    c.strictMatching.Gives c.matching := by
  have hnodes := h.nodes
  have hedges := h.edges
  refine (Draft.strictOfListing_gives (by omega) (by omega)).bind fun primary hp => ?_
  refine (Draft.strictOfListing_gives (by omega) (by omega)).bind fun secondary hs => ?_
  have hlocated : ∀ s, ((PerSide.mk primary secondary).get s).Located := by
    intro s
    cases s with
    | primary => exact (Draft.lists_ofListing hp).located
    | secondary => exact (Draft.lists_ofListing hs).located
  apply Strict.gives_foldlM (P := fun before m => Matching.Paired ⟨primary, secondary⟩ before m) []
  · intro before r after m _ hpaired
    refine ⟨Matching.strictPair_gives ?_ r, fun m' hm' => Matching.paired_step hlocated hpaired hm'⟩
    rw [hpaired.drafts_eq]
    exact hlocated
  · exact Matching.paired_empty _

end GraphCompare
