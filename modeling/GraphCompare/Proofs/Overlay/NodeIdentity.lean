import GraphCompare.Proofs.Overlay.Coherence

/-! Identities partition the nodes of both sides: a pair shares one, any other node has its own. -/
namespace GraphCompare
variable {c : Comparison} {m : Matching} {o : Overlay} {s : Side} {v w i : Nat} {x : Merged}

namespace Overlay

/-- How the nodes of an overlay are identified, beside the comparison that it was built from. -/
structure PartitionsNodes (o : Overlay) (c : Comparison) : Prop where
  /-- A side has the listed nodes, in their order. -/
  listed : ∀ s, (o.side s).graph.nodes.map (·.address) = (c.sides.get s).nodes.map (·.address)
  identified : ∀ s v n, (o.side s).graph.node? v = some n →
    ∃ x, o.merged.node? n.identity = some x ∧ x.holders.get s = some v
  inhabited : ∀ i x, o.merged.node? i = some x → ∃ s v, x.holders.get s = some v
  holds : ∀ i x s v, o.merged.node? i = some x → x.holders.get s = some v →
    ∃ n, (o.side s).graph.node? v = some n ∧ n.identity = i
  /-- Both sides are held exactly where the nodes are each other's counterparts. -/
  shared_iff : ∀ v w p q, (o.side .primary).graph.node? v = some p →
    (o.side .secondary).graph.node? w = some q →
    ((∃ x, o.merged.node? p.identity = some x ∧ x.holders = ⟨some v, some w⟩) ↔
      p.counterpart = some w ∧ q.counterpart = some v)
  /-- A merged node that holds both sides has the kind of their pairing, and so have both nodes. -/
  paired : ∀ i x v w, o.merged.node? i = some x → x.holders = ⟨some v, some w⟩ →
    ∃ p q r, (o.side .primary).graph.node? v = some p ∧
      (o.side .secondary).graph.node? w = some q ∧ r ∈ c.pairings ∧
      r.ends = ⟨p.address, q.address⟩ ∧ r.kind ≠ .unmatched ∧
      x.kind = r.kind ∧ p.kind = r.kind ∧ q.kind = r.kind
  /-- Every pairing is one of these. -/
  recorded : ∀ r ∈ c.pairings, ∃ i x v w p q, o.merged.node? i = some x ∧
    x.holders = ⟨some v, some w⟩ ∧ (o.side .primary).graph.node? v = some p ∧
    (o.side .secondary).graph.node? w = some q ∧ r.ends = ⟨p.address, q.address⟩ ∧ x.kind = r.kind
  single : ∀ i x s v, o.merged.node? i = some x → x.holders.get s = some v →
    x.holders.get s.other = none → x.kind = .unmatched ∧
    ∃ n, (o.side s).graph.node? v = some n ∧ n.kind = .unmatched ∧ n.counterpart = none
  primary_order : (o.side .primary).graph.nodes.map (·.identity) =
    List.range (o.side .primary).graph.nodeCount
  /-- The secondary nodes left over come next, in their order. -/
  secondary_order :
    ((o.side .secondary).graph.nodes.filter (·.counterpart.isNone)).map (·.identity) =
      List.range' (o.side .primary).graph.nodeCount
        (o.merged.nodeCount - (o.side .primary).graph.nodeCount)
  count_eq : o.merged.nodeCount + c.pairings.length =
    c.sides.primary.nodes.length + c.sides.secondary.nodes.length

end Overlay

namespace Matching
open Overlay

/-- A node of a side, as the record and the partner of the draft's node say. -/
theorem rawNode_spec (h : c.Matched m) {n : RawNode}
    (hn : ((m.overlay c).side s).graph.node? v = some n) :
    ∃ l, (m.drafts.get s).node? v = some l ∧ n.address = l.address ∧
      n.kind = ((partnerAt m.partners s v).map (·.kind)).getD .unmatched ∧
      n.counterpart = (partnerAt m.partners s v).map (·.index) ∧
      ((identityTable m.partners).get s)[v]? = some n.identity := by
  have hid := identity?_overlay h s (.node v)
  simp only [SideGraph.identity?, hn, Option.map_some] at hid
  rw [rawNode_overlay] at hn
  obtain ⟨l, hl, rfl⟩ := Option.map_eq_some_iff.mp hn
  exact ⟨l, hl, rfl, rfl, rfl, hid.symm⟩

theorem exists_rawNode (m : Matching) (c : Comparison) (hv : v < (m.drafts.get s).nodeCount) :
    ∃ n, ((m.overlay c).side s).graph.node? v = some n := by
  rw [rawNode_overlay]
  obtain ⟨l, hl⟩ := Graph.exists_node? hv
  exact ⟨_, by rw [hl]; rfl⟩

theorem address_overlay (m : Matching) (c : Comparison) (s : Side) (v : NodeId) :
    (((m.overlay c).side s).graph.node? v).map (·.address) =
      ((m.drafts.get s).node? v).map (·.address) := by
  rw [rawNode_overlay, Option.map_map]
  rfl

theorem node?_merged (h : c.Matched m) (i : NodeId) :
    (m.overlay c).merged.node? i = (mergedNodes m.partners)[i]? :=
  merged?_overlay h (.node i)

theorem addresses_overlay (h : c.Matched m) (s : Side) :
    ((m.overlay c).side s).graph.nodes.map (·.address) = (c.sides.get s).nodes.map (·.address) := by
  rw [← (h.lists s).nodes_eq]
  apply List.ext_getElem?
  intro v
  rw [List.getElem?_map, List.getElem?_map, ← Graph.node?_eq_getElem?, ← Graph.node?_eq_getElem?]
  exact address_overlay m c s v

theorem address_of_rawNode (h : c.Matched m) {a : Address} {n : RawNode}
    (hv : (m.drafts.get s).nodeAt? a = some v)
    (hn : ((m.overlay c).side s).graph.node? v = some n) : n.address = a := by
  have ha := (address_overlay m c s v).trans ((h.located s).address_eq hv)
  rw [hn] at ha
  exact Option.some.inj ha

/-- A pair of nodes comes from a pairing of their addresses. -/
theorem pairing_of_partner (h : c.Matched m) {k : MatchKind} {p q : RawNode}
    (hk : partnerAt m.partners .primary v = some ⟨w, k⟩)
    (hp : ((m.overlay c).side .primary).graph.node? v = some p)
    (hq : ((m.overlay c).side .secondary).graph.node? w = some q) :
    ∃ r ∈ c.pairings, r.ends = ⟨p.address, q.address⟩ ∧ r.kind = k := by
  obtain ⟨r, hr, hv, hw, hrk⟩ := h.paired.partner_iff.mp hk
  refine ⟨r, hr, ?_, hrk⟩
  rw [address_of_rawNode (s := .primary) h hv hp, address_of_rawNode (s := .secondary) h hw hq]

/-- A merged node that holds both sides holds a pair, with the nodes and the kind of a pairing. -/
theorem paired_overlay (h : c.Matched m) (hx : (m.overlay c).merged.node? i = some x)
    (hh : x.holders = ⟨some v, some w⟩) :
    ∃ p q k, ((m.overlay c).side .primary).graph.node? v = some p ∧
      ((m.overlay c).side .secondary).graph.node? w = some q ∧
      partnerAt m.partners .primary v = some ⟨w, k⟩ ∧
      x.kind = k ∧ p.kind = k ∧ q.kind = k := by
  rw [node?_merged h] at hx
  have hv : x.holders.get .primary = some v := by rw [hh]; rfl
  have hw : x.holders.get .secondary = some w := by rw [hh]; rfl
  obtain ⟨hidv, hother, hkind⟩ := identity_merged h.paired.naming hx hv
  obtain ⟨hidw, _, _⟩ := identity_merged h.paired.naming hx hw
  obtain ⟨k, hk, hk'⟩ := identity_shared h.paired.naming hidv hidw
  have hlt : ∀ {t u p}, partnerAt m.partners t u = some p → u < (m.drafts.get t).nodeCount := by
    intro t u p hp
    rw [← h.paired.size_eq t]
    exact partnerAt_lt hp
  obtain ⟨p, hp⟩ := exists_rawNode m c (hlt hk)
  obtain ⟨q, hq⟩ := exists_rawNode m c (hlt hk')
  obtain ⟨_, _, _, hpk, _⟩ := rawNode_spec h hp
  obtain ⟨_, _, _, hqk, _⟩ := rawNode_spec h hq
  refine ⟨p, q, k, hp, hq, hk, ?_, ?_, ?_⟩
  · rw [hkind, hk]
    rfl
  · rw [hpk, hk]
    rfl
  · rw [hqk, hk']
    rfl

/-- Partners share a merged node. -/
theorem shared_of_partner (h : c.Matched m) {k : MatchKind}
    (hk : partnerAt m.partners .primary v = some ⟨w, k⟩) :
    ∃ x, (m.overlay c).merged.node? v = some x ∧ x.holders = ⟨some v, some w⟩ ∧ x.kind = k := by
  refine ⟨ofPrimary v (some ⟨w, k⟩), ?_, rfl, rfl⟩
  rw [node?_merged h, merged_primary (partnerAt_lt hk), hk]

/-- The secondary nodes, as far as their numbering is concerned. -/
private theorem secondary_numbering (h : c.Matched m) :
    ((m.overlay c).side .secondary).graph.nodes.map (fun n => (n.counterpart.isNone, n.identity)) =
      (m.partners.secondary.toList.zip
        (numbering m.partners.primary.size m.partners.secondary.toList)).map
          fun p => (p.1.isNone, p.2) := by
  have hsize : m.partners.secondary.toList.length = (m.drafts.get .secondary).nodeCount :=
    h.paired.size_eq .secondary
  apply List.ext_getElem?
  intro v
  rw [List.getElem?_map, List.getElem?_map, ← Graph.node?_eq_getElem?]
  by_cases hv : v < (m.drafts.get .secondary).nodeCount
  · obtain ⟨n, hn⟩ := exists_rawNode m c hv
    obtain ⟨_, _, _, _, hcp, hid⟩ := rawNode_spec h hn
    have hat : m.partners.secondary.toList[v]? = some (partnerAt m.partners .secondary v) := by
      rw [Array.getElem?_toList]
      exact getElem?_eq_partnerAt (s := .secondary) ((h.paired.size_eq .secondary).symm ▸ hv)
    have hnum : (numbering m.partners.primary.size m.partners.secondary.toList)[v]? =
        some n.identity := by
      simpa [identityTable, PerSide.get] using hid
    have hzip : (m.partners.secondary.toList.zip
        (numbering m.partners.primary.size m.partners.secondary.toList))[v]? =
          some (partnerAt m.partners .secondary v, n.identity) :=
      List.getElem?_zip_eq_some.mpr ⟨hat, hnum⟩
    rw [hn, hzip, Option.map_some, Option.map_some, hcp, Option.isNone_map]
  · have hn := Graph.node?_eq_none hv
    have hlen : (m.partners.secondary.toList.zip
        (numbering m.partners.primary.size m.partners.secondary.toList)).length ≤ v := by
      rw [List.length_zip, length_numbering, Nat.min_self, hsize]
      exact Nat.le_of_not_lt hv
    rw [rawNode_overlay, hn, List.getElem?_eq_none hlen]
    rfl

/-- The identities of the secondary nodes without a counterpart are the last ones, in order. -/
theorem leftover_identities (h : c.Matched m) :
    (((m.overlay c).side .secondary).graph.nodes.filter (·.counterpart.isNone)).map (·.identity) =
      List.range' m.partners.primary.size (m.partners.secondary.toList.countP (·.isNone)) := by
  calc (((m.overlay c).side .secondary).graph.nodes.filter (·.counterpart.isNone)).map (·.identity)
      = ((((m.overlay c).side .secondary).graph.nodes.map
          fun n => (n.counterpart.isNone, n.identity)).filter (·.1)).map (·.2) := by
        simp [List.filter_map, Function.comp_def]
    _ = ((m.partners.secondary.toList.zip (numbering m.partners.primary.size
          m.partners.secondary.toList)).filter (·.1.isNone)).map (·.2) := by
        rw [secondary_numbering h]
        simp [List.filter_map, Function.comp_def]
    _ = _ := numbering_leftovers _ _

theorem primary_identities (h : c.Matched m) :
    ((m.overlay c).side .primary).graph.nodes.map (·.identity) =
      List.range ((m.overlay c).side .primary).graph.nodeCount := by
  apply List.ext_getElem?
  intro v
  rw [List.getElem?_map, ← Graph.node?_eq_getElem?]
  by_cases hv : v < ((m.overlay c).side .primary).graph.nodeCount
  · obtain ⟨n, hn⟩ := Graph.exists_node? hv
    obtain ⟨l, hl, _, _, _, hid⟩ := rawNode_spec h hn
    have hlt : v < (m.partners.get .primary).size := by
      rw [h.paired.size_eq]
      exact Graph.lt_of_node? hl
    rw [identity_primary hlt] at hid
    rw [hn, List.getElem?_range hv, Option.map_some, ← hid]
  · rw [Graph.node?_eq_none hv, List.getElem?_eq_none]
    · rfl
    · rw [List.length_range]
      exact Nat.le_of_not_lt hv

theorem nodeCount_side (h : c.Matched m) (s : Side) :
    ((m.overlay c).side s).graph.nodeCount = (m.partners.get s).size := by
  rw [h.paired.size_eq, side_overlay, sideGraph, Graph.nodeCount_relabel]

theorem nodeCount_merged (h : c.Matched m) :
    (m.overlay c).merged.nodeCount + c.pairings.length =
      m.partners.primary.size + m.partners.secondary.size := by
  rw [← Graph.length_nodes, (merged_overlay h).2.1, ← h.paired.count_eq, length_mergedNodes]

theorem nodeCount_listing (h : c.Matched m) (s : Side) :
    (m.partners.get s).size = (c.sides.get s).nodes.length := by
  rw [h.paired.size_eq, ← (h.lists s).nodes_eq, Graph.length_nodes]

end Matching

namespace Overlay
open Matching

theorem partitionsNodes_overlay (h : c.Matched m) : (m.overlay c).PartitionsNodes c where
  listed := addresses_overlay h
  identified := by
    intro s v n hn
    exact (coherent_overlay h).identified (e := .node v) (by simp [SideGraph.identity?, hn])
  inhabited := by
    intro i x hx
    exact (coherent_overlay h).inhabited (e := .node i) hx
  holds := by
    intro i x s v hx hv
    have hid := (coherent_overlay h).holds (e := .node i) hx hv
    exact Option.map_eq_some_iff.mp hid
  shared_iff := by
    intro v w p q hp hq
    obtain ⟨_, _, _, _, hpc, hpi⟩ := rawNode_spec h hp
    obtain ⟨_, _, _, _, hqc, _⟩ := rawNode_spec h hq
    constructor
    · rintro ⟨x, hx, hh⟩
      obtain ⟨_, _, k, _, _, hk, _⟩ := paired_overlay h hx hh
      have hback : partnerAt m.partners .secondary w = some ⟨v, k⟩ := h.paired.naming.back hk
      rw [hpc, hk, hqc, hback]
      exact ⟨rfl, rfl⟩
    · rintro ⟨hpw, -⟩
      rw [hpc] at hpw
      obtain ⟨⟨j, k⟩, hk, rfl⟩ := Option.map_eq_some_iff.mp hpw
      obtain ⟨x, hx, hh, _⟩ := shared_of_partner h hk
      rw [identity_primary (partnerAt_lt hk)] at hpi
      exact ⟨x, Option.some.inj hpi ▸ hx, hh⟩
  paired := by
    intro i x v w hx hh
    obtain ⟨p, q, k, hp, hq, hk, hxk, hpk, hqk⟩ := paired_overlay h hx hh
    obtain ⟨r, hr, hends, rfl⟩ := pairing_of_partner h hk hp hq
    exact ⟨p, q, r, hp, hq, hr, hends, h.paired.naming.kind_ne hk, hxk, hpk, hqk⟩
  recorded := by
    intro r hr
    obtain ⟨v, w, hv, hw⟩ := h.paired.resolved r hr
    have hk : partnerAt m.partners .primary v = some ⟨w, r.kind⟩ :=
      h.paired.partner_iff.mpr ⟨r, hr, hv, hw, rfl⟩
    obtain ⟨x, hx, hh, hxk⟩ := shared_of_partner h hk
    obtain ⟨p, q, _, hp, hq, _⟩ := paired_overlay h hx hh
    refine ⟨v, x, v, w, p, q, hx, hh, hp, hq, ?_, hxk⟩
    rw [address_of_rawNode (s := .primary) h hv hp, address_of_rawNode (s := .secondary) h hw hq]
  single := by
    intro i x s v hx hv hother
    obtain ⟨n, hn, _⟩ := Option.map_eq_some_iff.mp ((coherent_overlay h).holds (e := .node i) hx hv)
    obtain ⟨_, _, _, hkind, hcp, _⟩ := rawNode_spec h hn
    rw [node?_merged h] at hx
    obtain ⟨_, hpartner, hxk⟩ := identity_merged h.paired.naming hx hv
    have hnone : partnerAt m.partners s v = none :=
      Option.map_eq_none_iff.mp (hpartner.symm.trans hother)
    rw [hnone] at hxk hkind hcp
    exact ⟨hxk, n, hn, hkind, hcp⟩
  primary_order := primary_identities h
  secondary_order := by
    have hcount := nodeCount_merged h
    have hpairs := h.paired.count_eq
    have hnone := countP_isNone_add m.partners.secondary.toList
    rw [← Array.countP_toList] at hpairs
    rw [Array.length_toList] at hnone
    rw [leftover_identities h, nodeCount_side h]
    congr 1
    simp only [PerSide.get]
    omega
  count_eq := by
    have hcount := nodeCount_merged h
    have hp := nodeCount_listing h .primary
    have hs := nodeCount_listing h .secondary
    simp only [PerSide.get] at hp hs
    omega

/-- Every accepted comparison gives its nodes identities one to one with the merged nodes. -/
theorem partitionsNodes_ofComparison (h : ofComparison c = .ok o) : o.PartitionsNodes c := by
  obtain ⟨m, hm, rfl⟩ := exists_matching h
  exact partitionsNodes_overlay hm

theorem partitionsNodes_sample :
    ∃ o, ofComparison .sample = .ok o ∧ o.merged.nodeCount = 4 ∧ o.PartitionsNodes .sample := by
  obtain ⟨o, ho, hcount⟩ := exists_sample
  exact ⟨o, ho, hcount, partitionsNodes_ofComparison ho⟩

end Overlay

end GraphCompare
