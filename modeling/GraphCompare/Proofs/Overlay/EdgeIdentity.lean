import GraphCompare.Proofs.Overlay.NodeIdentity

/-! Edges share an identity just when their ends are counterparts, and no two merged edges join the
same identities. -/
namespace GraphCompare
variable {c : Comparison} {m : Matching} {o : Overlay} {s : Side} {v w v' w' e f i : Nat}
  {x : Merged} {p q r : RawEdge}

namespace Overlay

/-- A primary and a secondary node name each other as counterparts. -/
def Counterparts (o : Overlay) (v w : NodeId) : Prop :=
  ((o.side .primary).graph.node? v).bind (·.counterpart) = some w ∧
    ((o.side .secondary).graph.node? w).bind (·.counterpart) = some v

/-- How the edges of an overlay are matched and identified, beside the comparison that it was built
from. -/
structure MatchesEdges (o : Overlay) (c : Comparison) : Prop where
  /-- A side has the listed edges, in their order, between the nodes at the listed addresses. -/
  listed : ∀ s, (o.side s).graph.edges.map (fun r => ListedEdge.mk r.source r.target) =
    (c.sides.get s).edges
  joins : ∀ s e r, (o.side s).graph.edge? e = some r →
    ∃ v w n k, (o.side s).graph.endpoints? e = some (v, w) ∧
      (o.side s).graph.node? v = some n ∧ n.address = r.source ∧
      (o.side s).graph.node? w = some k ∧ k.address = r.target
  shared_iff : ∀ e f p q v w v' w', (o.side .primary).graph.edge? e = some p →
    (o.side .secondary).graph.edge? f = some q →
    (o.side .primary).graph.endpoints? e = some (v, w) →
    (o.side .secondary).graph.endpoints? f = some (v', w') →
    (p.identity = q.identity ↔ o.Counterparts v v' ∧ o.Counterparts w w')
  /-- Edges with one identity are counterparts, and the kinds of their ends give theirs. -/
  shared : ∀ e f p q, (o.side .primary).graph.edge? e = some p →
    (o.side .secondary).graph.edge? f = some q → p.identity = q.identity →
    p.counterpart = some f ∧ q.counterpart = some e ∧
    ∃ v w n k x, (o.side .primary).graph.endpoints? e = some (v, w) ∧
      (o.side .primary).graph.node? v = some n ∧ (o.side .primary).graph.node? w = some k ∧
      o.merged.edge? p.identity = some x ∧ x.holders = ⟨some e, some f⟩ ∧
      x.kind = .ofEnds n.kind k.kind ∧ p.kind = .ofEnds n.kind k.kind ∧
      q.kind = .ofEnds n.kind k.kind
  /-- A pair of edges is identical where both ends are, and structurally changed where one end is.
  In all other cases only instructions have changed. -/
  kind_iff : ∀ e f p q v w n k, (o.side .primary).graph.edge? e = some p →
    (o.side .secondary).graph.edge? f = some q → p.identity = q.identity →
    (o.side .primary).graph.endpoints? e = some (v, w) →
    (o.side .primary).graph.node? v = some n → (o.side .primary).graph.node? w = some k →
    (p.kind = .identical ↔ n.kind = .identical ∧ k.kind = .identical) ∧
    (p.kind = .structurallyChanged ↔
      n.kind = .structurallyChanged ∨ k.kind = .structurallyChanged) ∧
    (p.kind = .instructionsOnlyChanged ↔ ¬ (n.kind = .identical ∧ k.kind = .identical) ∧
      ¬ (n.kind = .structurallyChanged ∨ k.kind = .structurallyChanged))
  /-- Every other edge has a merged edge of its own. -/
  single : ∀ s e r, (o.side s).graph.edge? e = some r →
    (∀ f q, (o.side s.other).graph.edge? f = some q → q.identity ≠ r.identity) →
    r.counterpart = none ∧ r.kind = .unmatched ∧ ∃ x, o.merged.edge? r.identity = some x ∧
      x.kind = .unmatched ∧ x.holders.get s = some e ∧ x.holders.get s.other = none
  identified : ∀ s e r, (o.side s).graph.edge? e = some r →
    ∃ x, o.merged.edge? r.identity = some x ∧ x.holders.get s = some e
  inhabited : ∀ i x, o.merged.edge? i = some x → ∃ s e, x.holders.get s = some e
  holds : ∀ i x s e, o.merged.edge? i = some x → x.holders.get s = some e →
    ∃ r, (o.side s).graph.edge? e = some r ∧ r.identity = i
  /-- A merged edge joins the identities of the ends of each edge that it holds. -/
  ends_eq : ∀ i x s e, o.merged.edge? i = some x → x.holders.get s = some e →
    ∃ v w n k, (o.side s).graph.endpoints? e = some (v, w) ∧
      (o.side s).graph.node? v = some n ∧ (o.side s).graph.node? w = some k ∧
      o.merged.endpoints? i = some (n.identity, k.identity)
  unique : ∀ i j p, o.merged.endpoints? i = some p → o.merged.endpoints? j = some p → i = j
  /-- While the merged edges are added one after another, none meets one that is there already. -/
  appended : ∀ m, c.matching = .ok m → ∀ pre a post,
    m.mergedArcs m.edgePartners = pre ++ a :: post →
    (Graph.ofLists (mergedNodes m.partners) pre).findEdge? a.source a.target = none
  /-- The merged edges are fewer than those of both sides by the number of matched pairs. -/
  count_eq : ∀ s, o.merged.edgeCount + (o.side s).graph.edges.countP (·.counterpart.isSome) =
    c.sides.primary.edges.length + c.sides.secondary.edges.length

end Overlay

namespace Matching
open Overlay

/-- An edge of a side, as the record and the partner of the draft's edge say. -/
theorem rawEdge_spec (h : c.Matched m) (hr : ((m.overlay c).side s).graph.edge? e = some r) :
    ∃ l, (m.drafts.get s).edge? e = some l ∧ r.source = l.source ∧ r.target = l.target ∧
      r.kind = ((partnerAt m.edgePartners s e).map (·.kind)).getD .unmatched ∧
      r.counterpart = (partnerAt m.edgePartners s e).map (·.index) ∧
      ((identityTable m.edgePartners).get s)[e]? = some r.identity := by
  have hid := identity?_overlay h s (.edge e)
  simp only [SideGraph.identity?, hr, Option.map_some] at hid
  rw [rawEdge_overlay] at hr
  obtain ⟨l, hl, rfl⟩ := Option.map_eq_some_iff.mp hr
  exact ⟨l, hl, rfl, rfl, rfl, rfl, hid.symm⟩

theorem exists_rawEdge (m : Matching) (c : Comparison) (he : e < (m.drafts.get s).edgeCount) :
    ∃ r, ((m.overlay c).side s).graph.edge? e = some r := by
  rw [rawEdge_overlay]
  obtain ⟨l, hl⟩ := Graph.exists_edge? he
  exact ⟨_, by rw [hl]; rfl⟩

theorem counterparts_overlay (h : c.Matched m) :
    (m.overlay c).Counterparts v w ↔ ∃ k, partnerAt m.partners .primary v = some ⟨w, k⟩ := by
  constructor
  · rintro ⟨hv, -⟩
    obtain ⟨n, hn, hw⟩ := Option.bind_eq_some_iff.mp hv
    obtain ⟨_, _, _, _, hcp, _⟩ := rawNode_spec h hn
    rw [hcp] at hw
    obtain ⟨⟨j, k⟩, hk, rfl⟩ := Option.map_eq_some_iff.mp hw
    exact ⟨k, hk⟩
  · rintro ⟨k, hk⟩
    obtain ⟨x, hx, hh, _⟩ := shared_of_partner h hk
    obtain ⟨n, n', _, hn, hn', _⟩ := paired_overlay h hx hh
    have hback : partnerAt m.partners .secondary w = some ⟨v, k⟩ := h.paired.naming.back hk
    obtain ⟨_, _, _, _, hcp, _⟩ := rawNode_spec h hn
    obtain ⟨_, _, _, _, hcp', _⟩ := rawNode_spec h hn'
    constructor
    · rw [hn, Option.bind_some, hcp, hk]
      rfl
    · rw [hn', Option.bind_some, hcp', hback]
      rfl

/-- Edges of both sides are partners just when they have one identity. -/
theorem identity_eq_iff (h : c.Matched m)
    (hp : ((m.overlay c).side .primary).graph.edge? e = some p)
    (hq : ((m.overlay c).side .secondary).graph.edge? f = some q) :
    p.identity = q.identity ↔ ∃ k, partnerAt m.edgePartners .primary e = some ⟨f, k⟩ := by
  obtain ⟨_, _, _, _, _, _, hpi⟩ := rawEdge_spec h hp
  obtain ⟨_, _, _, _, _, _, hqi⟩ := rawEdge_spec h hq
  constructor
  · intro hpq
    obtain ⟨k, hk, _⟩ := identity_shared (edgePartners_mutual h) hpi (hpq ▸ hqi)
    exact ⟨k, hk⟩
  · rintro ⟨k, hk⟩
    have hsame := identity_partner (edgePartners_mutual h) hk
    exact Option.some.inj (hpi.symm.trans (hsame.trans hqi))

theorem edgePartner_iff_counterparts (h : c.Matched m)
    (he : ((m.overlay c).side .primary).graph.endpoints? e = some (v, w))
    (hf : ((m.overlay c).side .secondary).graph.endpoints? f = some (v', w')) :
    (∃ k, partnerAt m.edgePartners .primary e = some ⟨f, k⟩) ↔
      (m.overlay c).Counterparts v v' ∧ (m.overlay c).Counterparts w w' := by
  rw [endpoints?_overlay] at he hf
  rw [counterparts_overlay h, counterparts_overlay h]
  constructor
  · rintro ⟨k, hk⟩
    obtain ⟨a, b, ⟨v₂, kv⟩, ⟨w₂, kw⟩, hab, hv, hw, hends, _⟩ := (edgePartner?_eq_some h).mp hk
    cases Option.some.inj (he.symm.trans hab)
    cases Option.some.inj (hf.symm.trans hends)
    exact ⟨⟨kv, hv⟩, kw, hw⟩
  · rintro ⟨⟨k, hk⟩, l, hl⟩
    exact ⟨.ofEnds k l, (edgePartner?_eq_some h).mpr ⟨v, w, ⟨v', k⟩, ⟨w', l⟩, he, hk, hl, hf, rfl⟩⟩

/-- An edge whose identity is not shared has no partner. -/
theorem partner_none_of_single (h : c.Matched m)
    (hr : ((m.overlay c).side s).graph.edge? e = some r)
    (hsingle : ∀ f q, ((m.overlay c).side s.other).graph.edge? f = some q →
      q.identity ≠ r.identity) : partnerAt m.edgePartners s e = none := by
  by_contra hne
  obtain ⟨p, hp⟩ := Option.ne_none_iff_exists'.mp hne
  have hback := (edgePartners_mutual h).back hp
  have hlt := partnerAt_lt hback
  rw [size_edgePartners] at hlt
  obtain ⟨q, hq⟩ := exists_rawEdge m c hlt
  obtain ⟨_, _, _, _, _, _, hri⟩ := rawEdge_spec h hr
  obtain ⟨_, _, _, _, _, _, hqi⟩ := rawEdge_spec h hq
  have hsame := identity_partner (edgePartners_mutual h) hp
  exact hsingle _ q hq (Option.some.inj (hqi.symm.trans (hsame.symm.trans hri)))

theorem records_overlay (h : c.Matched m) (s : Side) :
    ((m.overlay c).side s).graph.edges.map (fun r => ListedEdge.mk r.source r.target) =
      (c.sides.get s).edges := by
  rw [← (h.lists s).edges_eq]
  apply List.ext_getElem?
  intro e
  rw [List.getElem?_map, ← Graph.edge?_eq_getElem?, ← Graph.edge?_eq_getElem?, rawEdge_overlay,
    Option.map_map]
  exact Option.map_id'

theorem joins_overlay (h : c.Matched m) (hr : ((m.overlay c).side s).graph.edge? e = some r) :
    ∃ v w n k, ((m.overlay c).side s).graph.endpoints? e = some (v, w) ∧
      ((m.overlay c).side s).graph.node? v = some n ∧ n.address = r.source ∧
      ((m.overlay c).side s).graph.node? w = some k ∧ k.address = r.target := by
  obtain ⟨l, hl, hsource, htarget, _⟩ := rawEdge_spec h hr
  obtain ⟨v, w, hvw⟩ := Graph.exists_endpoints? (Graph.lt_of_edge? hl)
  obtain ⟨hv, hw⟩ := (h.lists s).ends_eq hvw hl
  rw [← address_overlay m c] at hv hw
  obtain ⟨n, hn, hna⟩ := Option.map_eq_some_iff.mp hv
  obtain ⟨k, hk, hka⟩ := Option.map_eq_some_iff.mp hw
  refine ⟨v, w, n, k, ?_, hn, hna.trans hsource.symm, hk, hka.trans htarget.symm⟩
  rw [endpoints?_overlay]
  exact hvw

/-- The kind of a pair of edges is that of the ends of either. -/
theorem kind_of_edgePartner (h : c.Matched m) {k : Partner}
    (hk : partnerAt m.edgePartners s e = some k) :
    ∃ v w n n', ((m.overlay c).side s).graph.endpoints? e = some (v, w) ∧
      ((m.overlay c).side s).graph.node? v = some n ∧
      ((m.overlay c).side s).graph.node? w = some n' ∧ k.kind = .ofEnds n.kind n'.kind := by
  obtain ⟨v, w, a, b, hvw, ha, hb, _, hkind⟩ := (edgePartner?_eq_some h).mp hk
  have hlt := (h.lists s).simple.ends_lt hvw
  obtain ⟨n, hn⟩ := exists_rawNode m c hlt.1
  obtain ⟨n', hn'⟩ := exists_rawNode m c hlt.2
  obtain ⟨_, _, _, hnk, _⟩ := rawNode_spec h hn
  obtain ⟨_, _, _, hnk', _⟩ := rawNode_spec h hn'
  rw [ha] at hnk
  rw [hb] at hnk'
  refine ⟨v, w, n, n', ?_, hn, hn', ?_⟩
  · rw [endpoints?_overlay]
    exact hvw
  · rw [hnk, hnk']
    exact hkind

theorem merged_edgePartner (h : c.Matched m) {k : MatchKind}
    (hk : partnerAt m.edgePartners .primary e = some ⟨f, k⟩) :
    (m.overlay c).merged.edge? e = some ⟨⟨some e, some f⟩, k⟩ := by
  have hmerged := merged_primary (partnerAt_lt hk)
  rw [hk] at hmerged
  exact (merged?_overlay h (.edge e)).trans hmerged

theorem shared_overlay (h : c.Matched m)
    (hp : ((m.overlay c).side .primary).graph.edge? e = some p)
    (hq : ((m.overlay c).side .secondary).graph.edge? f = some q)
    (hpq : p.identity = q.identity) :
    p.counterpart = some f ∧ q.counterpart = some e ∧
    ∃ v w n k x, ((m.overlay c).side .primary).graph.endpoints? e = some (v, w) ∧
      ((m.overlay c).side .primary).graph.node? v = some n ∧
      ((m.overlay c).side .primary).graph.node? w = some k ∧
      (m.overlay c).merged.edge? p.identity = some x ∧ x.holders = ⟨some e, some f⟩ ∧
      x.kind = .ofEnds n.kind k.kind ∧ p.kind = .ofEnds n.kind k.kind ∧
      q.kind = .ofEnds n.kind k.kind := by
  obtain ⟨l, hl⟩ := (identity_eq_iff h hp hq).mp hpq
  have hback : partnerAt m.edgePartners .secondary f = some ⟨e, l⟩ :=
    (edgePartners_mutual h).back hl
  obtain ⟨_, _, _, _, hpk, hpc, hpi⟩ := rawEdge_spec h hp
  obtain ⟨_, _, _, _, hqk, hqc, _⟩ := rawEdge_spec h hq
  obtain ⟨v, w, n, k, hvw, hn, hk, hkind⟩ := kind_of_edgePartner h hl
  rw [identity_primary (partnerAt_lt hl)] at hpi
  have hid : p.identity = e := (Option.some.inj hpi).symm
  rw [hl] at hpc hpk
  rw [hback] at hqc hqk
  rw [hid]
  exact ⟨hpc, hqc, v, w, n, k, _, hvw, hn, hk, merged_edgePartner h hl, rfl, hkind,
    hpk.trans hkind, hqk.trans hkind⟩

theorem countP_overlay (h : c.Matched m) (s : Side) :
    ((m.overlay c).side s).graph.edges.countP (·.counterpart.isSome) =
      (m.edgePartners.get s).countP (·.isSome) := by
  have hmap : ((m.overlay c).side s).graph.edges.map (·.counterpart.isSome) =
      (m.edgePartners.get s).toList.map (·.isSome) := by
    apply List.ext_getElem?
    intro e
    rw [List.getElem?_map, List.getElem?_map, ← Graph.edge?_eq_getElem?, Array.getElem?_toList]
    by_cases he : e < (m.drafts.get s).edgeCount
    · obtain ⟨r, hr⟩ := exists_rawEdge m c he
      obtain ⟨_, _, _, _, _, hcp, _⟩ := rawEdge_spec h hr
      rw [← size_edgePartners] at he
      rw [hr, getElem?_eq_partnerAt he, Option.map_some, Option.map_some, hcp, Option.isSome_map]
    · have hr := Graph.edge?_eq_none he
      rw [← size_edgePartners] at he
      rw [rawEdge_overlay, hr, Array.getElem?_eq_none (Nat.le_of_not_lt he)]
      rfl
  have hcount := congrArg (List.countP id) hmap
  rw [List.countP_map, List.countP_map] at hcount
  rw [← Array.countP_toList]
  exact hcount

/-- No merged edge meets one that was added before it. -/
theorem findEdge?_mergedArcs (h : c.Matched m) {pre post : List (Arc Merged)} {a : Arc Merged}
    (hsplit : m.mergedArcs m.edgePartners = pre ++ a :: post) :
    (Graph.ofLists (mergedNodes m.partners) pre).findEdge? a.source a.target = none := by
  have hin : ∀ b ∈ pre, b.source < (mergedNodes m.partners).length ∧
      b.target < (mergedNodes m.partners).length := by
    intro b hb
    exact ends_lt_mergedArcs h (by simp [hsplit, hb])
  have hnodup := nodup_mergedArcs h
  rw [hsplit, List.map_append, List.map_cons, List.nodup_append] at hnodup
  obtain ⟨hpre, _, hdisjoint⟩ := hnodup
  obtain ⟨hsimple, _, harcs⟩ := Graph.ofLists_spec hin hpre
  rw [Graph.findEdge?_eq_none hsimple]
  intro e he
  rw [Graph.endpoints?_eq_getElem?, harcs] at he
  obtain ⟨b, hb, hends⟩ := Option.map_eq_some_iff.mp he
  exact hdisjoint _ (List.mem_map_of_mem (List.mem_of_getElem? hb)) _ List.mem_cons_self hends

end Matching

namespace Overlay
open Matching

theorem matchesEdges_overlay (h : c.Matched m) : (m.overlay c).MatchesEdges c where
  listed := records_overlay h
  joins _ _ _ hr := joins_overlay h hr
  shared_iff := by
    intro e f p q v w v' w' hp hq he hf
    rw [identity_eq_iff h hp hq, edgePartner_iff_counterparts h he hf]
  shared _ _ _ _ hp hq hpq := shared_overlay h hp hq hpq
  kind_iff := by
    intro e f p q v w n k hp hq hpq hends hn hk
    obtain ⟨_, _, v', w', n', k', _, hends', hn', hk', _, _, _, hkind, _⟩ :=
      shared_overlay h hp hq hpq
    cases Option.some.inj (hends.symm.trans hends')
    cases Option.some.inj (hn.symm.trans hn')
    cases Option.some.inj (hk.symm.trans hk')
    rw [hkind]
    exact ⟨MatchKind.ofEnds_eq_identical, MatchKind.ofEnds_eq_structurallyChanged,
      MatchKind.ofEnds_eq_instructionsOnlyChanged⟩
  single := by
    intro s e r hr hsingle
    have hnone := partner_none_of_single h hr hsingle
    obtain ⟨_, _, _, _, hkind, hcp, hri⟩ := rawEdge_spec h hr
    have hid : ((m.overlay c).side s).identity? (.edge e) = some r.identity := by
      simp [SideGraph.identity?, hr]
    obtain ⟨x, hx, hhold⟩ := (coherent_overlay h).identified hid
    have hx' := (merged?_overlay h _).symm.trans hx
    obtain ⟨_, hother, hxk⟩ := identity_merged (edgePartners_mutual h) hx' hhold
    rw [hnone] at hkind hcp
    simp only [Element.index, hnone] at hother hxk
    exact ⟨hcp, hkind, x, hx, hxk, hhold, hother⟩
  identified := by
    intro s e r hr
    exact (coherent_overlay h).identified (e := .edge e) (by simp [SideGraph.identity?, hr])
  inhabited := by
    intro i x hx
    exact (coherent_overlay h).inhabited (e := .edge i) hx
  holds := by
    intro i x s e hx he
    have hid := (coherent_overlay h).holds (e := .edge i) hx he
    exact Option.map_eq_some_iff.mp hid
  ends_eq := by
    intro i x s e hx he
    have hid := (coherent_overlay h).holds (e := .edge i) hx he
    obtain ⟨r, hr, _⟩ := Option.map_eq_some_iff.mp hid
    obtain ⟨v, w, _, _, hvw, _⟩ := joins_overlay h hr
    obtain ⟨v', w', hv, hw, hends⟩ := (coherent_overlay h).ends_eq hid hvw
    obtain ⟨n, hn, rfl⟩ := Option.map_eq_some_iff.mp hv
    obtain ⟨k, hk, rfl⟩ := Option.map_eq_some_iff.mp hw
    exact ⟨v, w, n, k, hvw, hn, hk, hends⟩
  unique i j p hi hj := (coherent_overlay h).merged_simple.unique hi hj
  appended := by
    intro m' hm' pre a post hsplit
    exact findEdge?_mergedArcs (Comparison.matched_of_matching hm') hsplit
  count_eq := by
    intro s
    have hlength := length_mergedNodes m.edgePartners
    have hp := (size_edgePartners m .primary).trans
      ((Graph.length_edges _).symm.trans (congrArg List.length (h.lists .primary).edges_eq))
    have hs := (size_edgePartners m .secondary).trans
      ((Graph.length_edges _).symm.trans (congrArg List.length (h.lists .secondary).edges_eq))
    rw [countP_overlay h, countP_partners (edgePartners_mutual h), ← Graph.length_edges,
      edges_merged h, hlength]
    exact congrArg₂ (· + ·) hp hs

/-- Every accepted comparison has its edges matched by their ends and identified without loss. -/
theorem matchesEdges_ofComparison (h : ofComparison c = .ok o) : o.MatchesEdges c := by
  obtain ⟨m, hm, rfl⟩ := exists_matching h
  exact matchesEdges_overlay hm

theorem matchesEdges_sample : ∃ o, ofComparison .sample = .ok o ∧ o.MatchesEdges .sample := by
  obtain ⟨o, ho, _⟩ := exists_sample
  exact ⟨o, ho, matchesEdges_ofComparison ho⟩

end Overlay

end GraphCompare
