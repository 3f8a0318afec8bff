import GraphCompare.Proofs.Overlay.Merge

/-! Every overlay built from a comparison is coherent: identities lead from an element of a side to
the merged element that holds it and back, and the ends of an edge go with it. -/
namespace GraphCompare
variable {c : Comparison} {m : Matching} {o : Overlay} {s : Side} {e : Element} {v w i n : Nat}
  {x : Merged}

namespace Matching
open Overlay

/-- The partners of the elements of one kind. -/
def partnersOf (m : Matching) : ElementKind → PerSide (Array (Option Partner))
  | .node => m.partners
  | .edge => m.edgePartners

theorem partnersOf_mutual (h : c.Matched m) (k : ElementKind) : Mutual (m.partnersOf k) := by
  cases k with
  | node => exact h.paired.naming
  | edge => exact edgePartners_mutual h

theorem size_partnersOf (h : c.Matched m) (k : ElementKind) (s : Side) :
    ((m.partnersOf k).get s).size =
      match k with
      | .node => (m.drafts.get s).nodeCount
      | .edge => (m.drafts.get s).edgeCount := by
  cases k with
  | node => exact h.paired.size_eq s
  | edge => exact size_edgePartners m s

theorem side_overlay (m : Matching) (c : Comparison) (s : Side) :
    (m.overlay c).side s = m.sideGraph s (c.sides.get s) (m.edgePartners.get s)
      ((identityTable m.partners).get s) ((identityTable m.edgePartners).get s) := by
  simp [overlay, side]

theorem rawNode_overlay (m : Matching) (c : Comparison) (s : Side) (v : NodeId) :
    ((m.overlay c).side s).graph.node? v = ((m.drafts.get s).node? v).map fun n =>
      ⟨n.address, n.label, ((partnerAt m.partners s v).map (·.kind)).getD .unmatched,
        (partnerAt m.partners s v).map (·.index),
        (((identityTable m.partners).get s)[v]?).getD 0⟩ := by
  rw [side_overlay, sideGraph, Graph.node?_relabel]
  rfl

theorem rawEdge_overlay (m : Matching) (c : Comparison) (s : Side) (e : EdgeId) :
    ((m.overlay c).side s).graph.edge? e = ((m.drafts.get s).edge? e).map fun r =>
      ⟨r.source, r.target, ((partnerAt m.edgePartners s e).map (·.kind)).getD .unmatched,
        (partnerAt m.edgePartners s e).map (·.index),
        (((identityTable m.edgePartners).get s)[e]?).getD 0⟩ := by
  rw [side_overlay, sideGraph, Graph.edge?_relabel]
  rfl

theorem endpoints?_overlay (m : Matching) (c : Comparison) (s : Side) (e : EdgeId) :
    ((m.overlay c).side s).graph.endpoints? e = (m.drafts.get s).endpoints? e := by
  rw [side_overlay, sideGraph, Graph.endpoints?_relabel]

/-- The identity of an element is what its table says. -/
theorem identity?_overlay (h : c.Matched m) (s : Side) (e : Element) :
    ((m.overlay c).side s).identity? e =
      ((identityTable (m.partnersOf e.kind)).get s)[e.index]? := by
  have hsize := size_partnersOf h e.kind s
  rw [← size_identityTable] at hsize
  cases e with
  | node v =>
    change _ = (m.drafts.get s).nodeCount at hsize
    simp only [SideGraph.identity?, rawNode_overlay, Option.map_map, Element.kind, Element.index,
      partnersOf] at hsize ⊢
    by_cases hv : v < (m.drafts.get s).nodeCount
    · obtain ⟨n, hn⟩ := Graph.exists_node? hv
      simp [hn, Array.getElem?_eq_getElem (hsize ▸ hv)]
    · have hn := Graph.node?_eq_none hv
      rw [hn, Array.getElem?_eq_none (hsize ▸ Nat.le_of_not_lt hv)]
      rfl
  | edge e =>
    change _ = (m.drafts.get s).edgeCount at hsize
    simp only [SideGraph.identity?, rawEdge_overlay, Option.map_map, Element.kind, Element.index,
      partnersOf] at hsize ⊢
    by_cases he : e < (m.drafts.get s).edgeCount
    · obtain ⟨r, hr⟩ := Graph.exists_edge? he
      simp [hr, Array.getElem?_eq_getElem (hsize ▸ he)]
    · have hr := Graph.edge?_eq_none he
      rw [hr, Array.getElem?_eq_none (hsize ▸ Nat.le_of_not_lt he)]
      rfl

theorem edges_merged (h : c.Matched m) :
    (m.overlay c).merged.edges = mergedNodes m.edgePartners := by
  rw [Graph.edges, (merged_overlay h).2.2, labels_mergedArcs]

theorem merged?_overlay (h : c.Matched m) (e : Element) :
    (m.overlay c).merged? e = (mergedNodes (m.partnersOf e.kind))[e.index]? := by
  cases e with
  | node i => exact (Graph.node?_eq_getElem? _ _).trans (by rw [(merged_overlay h).2.1]; rfl)
  | edge i => exact (Graph.edge?_eq_getElem? _ _).trans (by rw [edges_merged h]; rfl)

end Matching

namespace Element

@[simp] theorem kind_withIndex (e : Element) (i : Nat) : (e.withIndex i).kind = e.kind := by
  cases e <;> rfl

@[simp] theorem index_withIndex (e : Element) (i : Nat) : (e.withIndex i).index = i := by
  cases e <;> rfl

@[simp] theorem withIndex_withIndex (e : Element) (i j : Nat) :
    (e.withIndex i).withIndex j = e.withIndex j := by
  cases e <;> rfl

@[simp] theorem withIndex_index (e : Element) : e.withIndex e.index = e := by
  cases e <;> rfl

theorem eq_of_kind_index {e f : Element} (hk : e.kind = f.kind) (hi : e.index = f.index) :
    e = f := by
  cases e <;> cases f <;> simp_all [kind, index]

end Element

/-- The identities of an overlay and what its merged elements hold fit together. -/
structure Overlay.Coherent (o : Overlay) : Prop where
  merged_simple : o.merged.IsSimple
  side_simple : ∀ s, (o.side s).graph.IsSimple
  identified : ∀ {s e i}, (o.side s).identity? e = some i →
    ∃ x, o.merged? (e.withIndex i) = some x ∧ x.holders.get s = some e.index
  holds : ∀ {s e x i}, o.merged? e = some x → x.holders.get s = some i →
    (o.side s).identity? (e.withIndex i) = some e.index
  inhabited : ∀ {e x}, o.merged? e = some x → ∃ s i, x.holders.get s = some i
  ends_eq : ∀ {s e i v w}, (o.side s).identity? (.edge e) = some i →
    (o.side s).graph.endpoints? e = some (v, w) →
    ∃ v' w', (o.side s).identity? (.node v) = some v' ∧ (o.side s).identity? (.node w) = some w' ∧
      o.merged.endpoints? i = some (v', w')

namespace Overlay
open Matching

theorem exists_matching (h : ofComparison c = .ok o) : ∃ m, c.Matched m ∧ o = m.overlay c := by
  unfold ofComparison at h
  cases hm : c.matching with
  | error d => simp [hm] at h
  | ok m =>
    simp only [hm, Except.ok.injEq] at h
    exact ⟨m, Comparison.matched_of_matching hm, h.symm⟩

theorem coherent_overlay (h : c.Matched m) : (m.overlay c).Coherent where
  merged_simple := (merged_overlay h).1
  side_simple s := by
    rw [side_overlay]
    dsimp only [sideGraph]
    exact Graph.isSimple_relabel (h.lists s).simple _ _
  identified := by
    intro s e i hi
    rw [identity?_overlay h] at hi
    have hsize := (Array.getElem?_eq_some_iff.mp hi).1
    rw [size_identityTable] at hsize
    obtain ⟨n, x, hn, hx, hh⟩ := merged_identity (partnersOf_mutual h e.kind) hsize
    cases Option.some.inj (hi.symm.trans hn)
    refine ⟨x, ?_, hh⟩
    simpa [merged?_overlay h] using hx
  holds := by
    intro s e x i hx hi
    rw [merged?_overlay h] at hx
    have := (identity_merged (partnersOf_mutual h e.kind) hx hi).1
    simpa [identity?_overlay h] using this
  inhabited := by
    intro e x hx
    rw [merged?_overlay h] at hx
    exact exists_holder hx
  ends_eq := by
    intro s e i v w hi hvw
    rw [identity?_overlay h] at hi
    rw [endpoints?_overlay] at hvw
    have hsize := (Array.getElem?_eq_some_iff.mp hi).1
    rw [size_identityTable] at hsize
    obtain ⟨n, x, hn, hx, hh⟩ := merged_identity (partnersOf_mutual h .edge) hsize
    cases Option.some.inj (hi.symm.trans hn)
    change (mergedNodes m.edgePartners)[i]? = some x at hx
    rw [← labels_mergedArcs, List.getElem?_map] at hx
    obtain ⟨a, ha, rfl⟩ := Option.map_eq_some_iff.mp hx
    obtain ⟨v', w', hends, hs, ht⟩ := ends_mergedArcs h (List.mem_of_getElem? ha) hh
    cases Option.some.inj (hvw.symm.trans hends)
    refine ⟨a.source, a.target, ?_, ?_, ?_⟩
    · rw [identity?_overlay h]
      exact hs
    · rw [identity?_overlay h]
      exact ht
    · rw [Graph.endpoints?_eq_getElem?, (merged_overlay h).2.2, ha]
      rfl

theorem coherent_ofComparison (h : ofComparison c = .ok o) : o.Coherent := by
  obtain ⟨m, hm, rfl⟩ := exists_matching h
  exact coherent_overlay hm

end Overlay

/-- Two of three nodes are paired, not in the order of their side; one edge has a partner, and one
is a loop on a node that has none. -/
def Comparison.sample : Comparison where
  sides :=
    ⟨{ nodes := [⟨⟨1⟩, "entry"⟩, ⟨⟨2⟩, "body"⟩, ⟨⟨3⟩, "exit"⟩]
       edges := [⟨⟨1⟩, ⟨2⟩⟩, ⟨⟨2⟩, ⟨3⟩⟩, ⟨⟨3⟩, ⟨3⟩⟩] },
     { nodes := [⟨⟨2⟩, "body"⟩, ⟨⟨4⟩, "retry"⟩, ⟨⟨1⟩, "entry"⟩]
       edges := [⟨⟨1⟩, ⟨2⟩⟩, ⟨⟨2⟩, ⟨4⟩⟩] }⟩
  pairings := [⟨⟨⟨1⟩, ⟨1⟩⟩, .identical⟩, ⟨⟨⟨2⟩, ⟨2⟩⟩, .instructionsOnlyChanged⟩]

theorem Overlay.exists_sample : ∃ o, ofComparison .sample = .ok o ∧ o.merged.nodeCount = 4 := by
  obtain ⟨o, ho, hcount⟩ := exists_ok_of_any (x := ofComparison .sample)
    (p := fun o => o.merged.nodeCount = 4) (by decide +kernel)
  exact ⟨o, ho, of_decide_eq_true hcount⟩

end GraphCompare
