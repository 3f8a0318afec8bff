import GraphCompare.Proofs.Overlay.Acceptance
import GraphCompare.Proofs.Overlay.EdgeIdentity

/-! Questions about addresses are answered from the records of the comparison: what a side lists is
found with what was listed, what it does not list is named in the error, and partners are what the
pairings say. -/
namespace GraphCompare
variable {c : Comparison} {m : Matching} {o : Overlay} {s : Side} {a b : Address} {v w e : Nat}
  {n : RawNode}

namespace Overlay

/-- What an overlay answers about the addresses on its sides. -/
structure AnswersQueries (o : Overlay) (c : Comparison) : Prop where
  /-- The address of a record leads to the place of the record in the list, and no other address
  leads there. -/
  byAddress_iff : ∀ s a v, (o.side s).byAddress.get? a = some v ↔
    ((c.sides.get s).nodes[v]?).map (·.address) = some a
  /-- So do the places of the ends of an edge record. -/
  index_iff : ∀ s v w e, (o.side s).graph.index.get? (v, w) = some e ↔
    ∃ l, (c.sides.get s).edges[e]? = some l ∧ (o.side s).byAddress.get? l.source = some v ∧
      (o.side s).byAddress.get? l.target = some w
  rawNode_listed : ∀ s, ∀ l ∈ (c.sides.get s).nodes, ∃ n, (o.side s).rawNode l.address = .ok n ∧
    n.address = l.address ∧ n.label = l.label
  rawNode_unlisted : ∀ s a, ¬ c.Names s a → (o.side s).rawNode a = .error (.unknownAddress s a)
  counterpart_iff : ∀ s a b, o.counterpart s a = .ok (some b) ↔
    ∃ r ∈ c.pairings, r.ends.get s = a ∧ r.ends.get s.other = b
  counterpart_unpaired : ∀ s a, c.Names s a → (∀ r ∈ c.pairings, r.ends.get s ≠ a) →
    o.counterpart s a = .ok none
  counterpart_unlisted : ∀ s a, ¬ c.Names s a →
    o.counterpart s a = .error (.unknownAddress s a)
  counterpart_other : ∀ s a b, o.counterpart s a = .ok (some b) →
    o.counterpart s.other b = .ok (some a)
  matchKind_paired : ∀ s, ∀ r ∈ c.pairings, o.matchKind s (r.ends.get s) = .ok r.kind
  matchKind_unpaired : ∀ s a, c.Names s a → (∀ r ∈ c.pairings, r.ends.get s ≠ a) →
    o.matchKind s a = .ok .unmatched
  matchKind_unlisted : ∀ s a, ¬ c.Names s a → o.matchKind s a = .error (.unknownAddress s a)
  /-- Matched is what has a counterpart. -/
  isMatched_iff : ∀ s a matched, o.isMatched s a = .ok matched ↔
    ∃ b?, o.counterpart s a = .ok b? ∧ b?.isSome = matched
  isMatched_unlisted : ∀ s a, ¬ c.Names s a → o.isMatched s a = .error (.unknownAddress s a)
  rawEdge_listed : ∀ s, ∀ l ∈ (c.sides.get s).edges,
    ∃ r, (o.side s).rawEdge l.source l.target = .ok r ∧ r.source = l.source ∧ r.target = l.target
  /-- The source is missed before the target, and both before the edge. -/
  rawEdge_unknown_source : ∀ s a b, ¬ c.Names s a →
    (o.side s).rawEdge a b = .error (.unknownAddress s a)
  rawEdge_unknown_target : ∀ s a b, c.Names s a → ¬ c.Names s b →
    (o.side s).rawEdge a b = .error (.unknownAddress s b)
  rawEdge_unlisted : ∀ s a b, c.Names s a → c.Names s b → ⟨a, b⟩ ∉ (c.sides.get s).edges →
    (o.side s).rawEdge a b = .error (.unknownEdge s a b)
  /-- The node at the index of an address is the one with that address, and back. -/
  nodeId_iff : ∀ s a v, (o.side s).nodeId a = .ok v ↔
    ∃ n, (o.side s).graph.node? v = some n ∧ n.address = a
  edgeId_iff : ∀ s a b e, (o.side s).edgeId a b = .ok e ↔
    ∃ r, (o.side s).graph.edge? e = some r ∧ r.source = a ∧ r.target = b
  rawNode_nodeId : ∀ s a v n, (o.side s).nodeId a = .ok v → (o.side s).graph.node? v = some n →
    (o.side s).rawNode a = .ok n
  rawEdge_edgeId : ∀ s a b e r, (o.side s).edgeId a b = .ok e →
    (o.side s).graph.edge? e = some r → (o.side s).rawEdge a b = .ok r

end Overlay

namespace SideGraph
variable {g : SideGraph} {r : RawEdge}

theorem nodeId_of_nodeAt? (h : g.nodeAt? a = some v) : g.nodeId a = .ok v := by
  rw [nodeId, h]

theorem nodeId_of_none (h : g.nodeAt? a = none) :
    g.nodeId a = .error (.unknownAddress g.side a) := by
  rw [nodeId, h]

theorem nodeId_eq_ok : g.nodeId a = .ok v ↔ g.nodeAt? a = some v := by
  unfold nodeId
  cases g.nodeAt? a <;> simp

theorem rawNode_of_nodeId (h : g.nodeId a = .ok v) (hn : g.graph.node? v = some n) :
    g.rawNode a = .ok n := by
  simp [rawNode, h, bind, Except.bind, hn]

theorem rawNode_of_none (h : g.nodeAt? a = none) :
    g.rawNode a = .error (.unknownAddress g.side a) := by
  rw [rawNode, nodeId_of_none h]
  rfl

theorem edgeId_of_nodeAt? (hv : g.nodeAt? a = some v) (hw : g.nodeAt? b = some w) :
    g.edgeId a b =
      match g.graph.findEdge? v w with
      | some e => .ok e
      | none => .error (.unknownEdge g.side a b) := by
  rw [edgeId, nodeId_of_nodeAt? hv, nodeId_of_nodeAt? hw]
  rfl

theorem edgeId_of_no_source (h : g.nodeAt? a = none) :
    g.edgeId a b = .error (.unknownAddress g.side a) := by
  rw [edgeId, nodeId_of_none h]
  rfl

theorem edgeId_of_no_target (hv : g.nodeAt? a = some v) (h : g.nodeAt? b = none) :
    g.edgeId a b = .error (.unknownAddress g.side b) := by
  rw [edgeId, nodeId_of_nodeAt? hv, nodeId_of_none h]
  rfl

theorem edgeId_eq_ok :
    g.edgeId a b = .ok e ↔
      ∃ v w, g.nodeAt? a = some v ∧ g.nodeAt? b = some w ∧ g.graph.findEdge? v w = some e := by
  cases hv : g.nodeAt? a with
  | none => simp [edgeId_of_no_source hv]
  | some v =>
    cases hw : g.nodeAt? b with
    | none => simp [edgeId_of_no_target hv hw]
    | some w =>
      rw [edgeId_of_nodeAt? hv hw]
      cases hf : g.graph.findEdge? v w <;> simp [hf]

theorem rawEdge_of_edgeId (h : g.edgeId a b = .ok e) (hr : g.graph.edge? e = some r) :
    g.rawEdge a b = .ok r := by
  simp [rawEdge, h, bind, Except.bind, hr]

theorem rawEdge_of_error {f : Failure} (h : g.edgeId a b = .error f) :
    g.rawEdge a b = .error f := by
  rw [rawEdge, h]
  rfl

end SideGraph

namespace Matching
open Overlay

section lookup

theorem nodeAt?_overlay (m : Matching) (c : Comparison) (s : Side) (a : Address) :
    ((m.overlay c).side s).nodeAt? a = (m.drafts.get s).nodeAt? a := by
  rw [side_overlay]
  rfl

theorem side_eq_overlay (m : Matching) (c : Comparison) (s : Side) :
    ((m.overlay c).side s).side = s := by
  rw [side_overlay]
  rfl

theorem nodeId_overlay :
    ((m.overlay c).side s).nodeId a = .ok v ↔ (m.drafts.get s).nodeAt? a = some v := by
  rw [SideGraph.nodeId_eq_ok, nodeAt?_overlay]

/-- A listed address has a node, and its record. -/
theorem exists_of_names (h : c.Matched m) (ha : c.Names s a) :
    ∃ v n, (m.drafts.get s).nodeAt? a = some v ∧
      ((m.overlay c).side s).graph.node? v = some n ∧
      ((m.overlay c).side s).rawNode a = .ok n := by
  obtain ⟨v, hv⟩ :=
    Option.isSome_iff_exists.mp (((h.located s).names_iff (h.lists s).nodes_eq).mp ha)
  obtain ⟨n, hn⟩ := exists_rawNode m c ((h.located s).lt hv)
  exact ⟨v, n, hv, hn, SideGraph.rawNode_of_nodeId (nodeId_overlay.mpr hv) hn⟩

theorem rawNode_of_listed (h : c.Matched m) {l : ListedNode} (hl : l ∈ (c.sides.get s).nodes) :
    ∃ n, ((m.overlay c).side s).rawNode l.address = .ok n ∧ n.address = l.address ∧
      n.label = l.label := by
  rw [← (h.lists s).nodes_eq] at hl
  obtain ⟨v, hv⟩ := List.mem_iff_getElem?.mp hl
  rw [← Graph.node?_eq_getElem?] at hv
  have hat : (m.drafts.get s).nodeAt? l.address = some v := by
    rw [(h.located s).nodeAt?_eq_some, hv]
    rfl
  have hn := rawNode_overlay m c s v
  rw [hv] at hn
  exact ⟨_, SideGraph.rawNode_of_nodeId (nodeId_overlay.mpr hat) hn, rfl, rfl⟩

theorem nodeAt?_eq_none_of_unlisted (h : c.Matched m) (ha : ¬ c.Names s a) :
    ((m.overlay c).side s).nodeAt? a = none := by
  rw [nodeAt?_overlay]
  exact Option.not_isSome_iff_eq_none.mp (mt ((h.located s).names_iff (h.lists s).nodes_eq).mpr ha)

theorem byAddress_overlay (h : c.Matched m) :
    ((m.overlay c).side s).byAddress.get? a = some v ↔
      ((m.drafts.get s).node? v).map (·.address) = some a := by
  rw [← (h.located s).nodeAt?_eq_some, ← nodeAt?_overlay m c]
  rfl

/-- The address map is the list of node records, read from the addresses to the places. -/
theorem byAddress_eq_some_iff (h : c.Matched m) :
    ((m.overlay c).side s).byAddress.get? a = some v ↔
      ((c.sides.get s).nodes[v]?).map (·.address) = some a := by
  rw [byAddress_overlay h, Graph.node?_eq_getElem?, (h.lists s).nodes_eq]

end lookup

section partners
variable {r : Pairing}

theorem counterpart_of_rawNode (hn : ((m.overlay c).side s).rawNode a = .ok n) :
    (m.overlay c).counterpart s a = .ok
      ((n.counterpart.bind ((m.overlay c).side s.other).graph.node?).map (·.address)) := by
  simp only [counterpart, hn]
  rfl

theorem matchKind_of_rawNode (hn : ((m.overlay c).side s).rawNode a = .ok n) :
    (m.overlay c).matchKind s a = .ok n.kind := by
  simp only [matchKind, hn]
  rfl

theorem isMatched_of_matchKind {k : MatchKind} (hk : (m.overlay c).matchKind s a = .ok k) :
    (m.overlay c).isMatched s a = .ok (decide (k ≠ .unmatched)) := by
  simp only [isMatched, hk]
  rfl

/-- The two ends of a pairing are partners. -/
theorem partner_of_pairing (h : c.Matched m) (hr : r ∈ c.pairings) (s : Side) :
    ∃ v w, (m.drafts.get s).nodeAt? (r.ends.get s) = some v ∧
      (m.drafts.get s.other).nodeAt? (r.ends.get s.other) = some w ∧
      partnerAt m.partners s v = some ⟨w, r.kind⟩ := by
  obtain ⟨v, hv⟩ := h.paired.exists_nodeAt? hr s
  obtain ⟨w, hw⟩ := h.paired.exists_nodeAt? hr s.other
  exact ⟨v, w, hv, hw, h.paired.partnerAt_iff.mpr ⟨r, hr, hv, hw, rfl⟩⟩

theorem names_of_pairing (h : c.Matched m) (hr : r ∈ c.pairings) (s : Side) :
    c.Names s (r.ends.get s) := by
  obtain ⟨v, hv⟩ := h.paired.exists_nodeAt? hr s
  rw [(h.located s).names_iff (h.lists s).nodes_eq, hv]
  rfl

theorem answers_paired (h : c.Matched m) (hr : r ∈ c.pairings) (s : Side) :
    (m.overlay c).counterpart s (r.ends.get s) = .ok (some (r.ends.get s.other)) ∧
      (m.overlay c).matchKind s (r.ends.get s) = .ok r.kind := by
  obtain ⟨v, w, hv, hw, hpartner⟩ := partner_of_pairing h hr s
  obtain ⟨v', n, hv', hn, hraw⟩ := exists_of_names h (names_of_pairing h hr s)
  cases Option.some.inj (hv.symm.trans hv')
  obtain ⟨_, _, _, hkind, hcounterpart, _⟩ := rawNode_spec h hn
  rw [counterpart_of_rawNode hraw, matchKind_of_rawNode hraw, hkind, hcounterpart, hpartner]
  have haddress := (address_overlay m c s.other w).trans ((h.located s.other).address_eq hw)
  exact ⟨congrArg Except.ok haddress, rfl⟩

theorem answers_unpaired (h : c.Matched m) (ha : c.Names s a)
    (hno : ∀ r ∈ c.pairings, r.ends.get s ≠ a) :
    (m.overlay c).counterpart s a = .ok none ∧ (m.overlay c).matchKind s a = .ok .unmatched := by
  obtain ⟨v, n, hv, hn, hraw⟩ := exists_of_names h ha
  have hpartner : partnerAt m.partners s v = none := by
    by_contra hsome
    obtain ⟨r, hr, hra⟩ :=
      (h.paired.isSome_partner? h.located hv).mp (Option.isSome_iff_ne_none.mpr hsome)
    exact hno r hr hra
  obtain ⟨_, _, _, hkind, hcounterpart, _⟩ := rawNode_spec h hn
  rw [counterpart_of_rawNode hraw, matchKind_of_rawNode hraw, hkind, hcounterpart, hpartner]
  exact ⟨rfl, rfl⟩

theorem answers_unlisted (h : c.Matched m) (ha : ¬ c.Names s a) :
    ((m.overlay c).side s).rawNode a = .error (.unknownAddress s a) ∧
      (m.overlay c).counterpart s a = .error (.unknownAddress s a) ∧
      (m.overlay c).matchKind s a = .error (.unknownAddress s a) ∧
      (m.overlay c).isMatched s a = .error (.unknownAddress s a) := by
  have hraw := SideGraph.rawNode_of_none (nodeAt?_eq_none_of_unlisted h ha)
  rw [side_eq_overlay] at hraw
  simp only [counterpart, isMatched, matchKind, hraw]
  exact ⟨trivial, rfl, rfl, rfl⟩

/-- A node that is listed is paired by one of the pairings or by none of them. -/
theorem isMatched_overlay (h : c.Matched m) (ha : c.Names s a) :
    ((∃ r ∈ c.pairings, r.ends.get s = a ∧
        (m.overlay c).counterpart s a = .ok (some (r.ends.get s.other))) ∧
        (m.overlay c).isMatched s a = .ok true) ∨
      ((m.overlay c).counterpart s a = .ok none ∧ (m.overlay c).isMatched s a = .ok false) := by
  by_cases hr : ∃ r ∈ c.pairings, r.ends.get s = a
  · obtain ⟨r, hr, rfl⟩ := hr
    obtain ⟨hcounterpart, hkind⟩ := answers_paired h hr s
    obtain ⟨v, w, _, _, hpartner⟩ := partner_of_pairing h hr s
    have hne : r.kind ≠ .unmatched := h.paired.naming.kind_ne hpartner
    refine Or.inl ⟨⟨r, hr, rfl, hcounterpart⟩, ?_⟩
    rw [isMatched_of_matchKind hkind, decide_eq_true hne]
  · have hno : ∀ r ∈ c.pairings, r.ends.get s ≠ a := fun r hr' hra => hr ⟨r, hr', hra⟩
    obtain ⟨hcounterpart, hkind⟩ := answers_unpaired h ha hno
    exact Or.inr ⟨hcounterpart, isMatched_of_matchKind hkind⟩

theorem counterpart_eq_some_iff (h : c.Matched m) :
    (m.overlay c).counterpart s a = .ok (some b) ↔
      ∃ r ∈ c.pairings, r.ends.get s = a ∧ r.ends.get s.other = b := by
  constructor
  · intro hab
    by_cases ha : c.Names s a
    · rcases isMatched_overlay h ha with ⟨⟨r, hr, hra, hcounterpart⟩, -⟩ | ⟨hcounterpart, -⟩
      · rw [hcounterpart] at hab
        exact ⟨r, hr, hra, Option.some.inj (Except.ok.inj hab)⟩
      · rw [hcounterpart] at hab
        cases hab
    · rw [(answers_unlisted h ha).2.1] at hab
      cases hab
  · rintro ⟨r, hr, rfl, rfl⟩
    exact (answers_paired h hr s).1

theorem counterpart_symm (h : c.Matched m) (hab : (m.overlay c).counterpart s a = .ok (some b)) :
    (m.overlay c).counterpart s.other b = .ok (some a) := by
  obtain ⟨r, hr, rfl, rfl⟩ := (counterpart_eq_some_iff h).mp hab
  have hback := (answers_paired h hr s.other).1
  rwa [Side.other_other] at hback

/-- A node counts as matched just when it has a counterpart. -/
theorem isMatched_eq_ok_iff (h : c.Matched m) {matched : Bool} :
    (m.overlay c).isMatched s a = .ok matched ↔
      ∃ b?, (m.overlay c).counterpart s a = .ok b? ∧ b?.isSome = matched := by
  by_cases ha : c.Names s a
  · rcases isMatched_overlay h ha with ⟨⟨r, _, _, hcounterpart⟩, hmatched⟩ |
      ⟨hcounterpart, hmatched⟩ <;>
      simp [hcounterpart, hmatched]
  · obtain ⟨_, hcounterpart, _, hmatched⟩ := answers_unlisted h ha
    simp [hcounterpart, hmatched]

end partners

section indices
variable {r : RawEdge}

theorem nodeId_iff_address (h : c.Matched m) :
    ((m.overlay c).side s).nodeId a = .ok v ↔
      ∃ n, ((m.overlay c).side s).graph.node? v = some n ∧ n.address = a := by
  rw [nodeId_overlay, (h.located s).nodeAt?_eq_some, ← address_overlay m c,
    Option.map_eq_some_iff]

theorem edgeId_iff_ends (h : c.Matched m) :
    ((m.overlay c).side s).edgeId a b = .ok e ↔
      ∃ r, ((m.overlay c).side s).graph.edge? e = some r ∧ r.source = a ∧ r.target = b := by
  have hsimple := (coherent_overlay h).side_simple s
  simp only [SideGraph.edgeId_eq_ok, ← SideGraph.nodeId_eq_ok, nodeId_iff_address h]
  constructor
  · rintro ⟨v, w, ⟨n, hn, rfl⟩, ⟨k, hk, rfl⟩, he⟩
    have hends := (Graph.findEdge?_eq_some hsimple).mp he
    obtain ⟨r, hr⟩ := Graph.exists_edge? (Graph.lt_of_endpoints? hends)
    obtain ⟨v', w', n', k', hends', hn', hsource, hk', htarget⟩ := joins_overlay h hr
    cases Option.some.inj (hends.symm.trans hends')
    cases Option.some.inj (hn.symm.trans hn')
    cases Option.some.inj (hk.symm.trans hk')
    exact ⟨r, hr, hsource.symm, htarget.symm⟩
  · rintro ⟨r, hr, rfl, rfl⟩
    obtain ⟨v, w, n, k, hends, hn, hsource, hk, htarget⟩ := joins_overlay h hr
    exact ⟨v, w, ⟨n, hn, hsource⟩, ⟨k, hk, htarget⟩, (Graph.findEdge?_eq_some hsimple).mpr hends⟩

/-- The edge index is the list of edge records, read from their ends to the places. -/
theorem index_eq_some_iff (h : c.Matched m) :
    ((m.overlay c).side s).graph.index.get? (v, w) = some e ↔
      ∃ l, (c.sides.get s).edges[e]? = some l ∧
        ((m.overlay c).side s).byAddress.get? l.source = some v ∧
        ((m.overlay c).side s).byAddress.get? l.target = some w := by
  have hsimple := (h.lists s).simple
  have hindex : ((m.overlay c).side s).graph.index = (m.drafts.get s).index := by
    rw [side_overlay]
    rfl
  rw [hindex, hsimple.index_eq_some, ← (h.lists s).edges_eq, ← Graph.edge?_eq_getElem?]
  constructor
  · intro hends
    obtain ⟨l, hl⟩ := Graph.exists_edge? (Graph.lt_of_endpoints? hends)
    obtain ⟨hsource, htarget⟩ := (h.lists s).ends_eq hends hl
    exact ⟨l, hl, (byAddress_overlay h).mpr hsource, (byAddress_overlay h).mpr htarget⟩
  · rintro ⟨l, hl, hsource, htarget⟩
    obtain ⟨v', w', hends⟩ := Graph.exists_endpoints? (Graph.lt_of_edge? hl)
    obtain ⟨hsource', htarget'⟩ := (h.lists s).ends_eq hends hl
    cases Option.some.inj (hsource.symm.trans ((byAddress_overlay h).mpr hsource'))
    cases Option.some.inj (htarget.symm.trans ((byAddress_overlay h).mpr htarget'))
    exact hends

/-- The listed edges are those of the side's graph. -/
theorem mem_edges_iff (h : c.Matched m) :
    ⟨a, b⟩ ∈ (c.sides.get s).edges ↔
      ∃ e r, ((m.overlay c).side s).graph.edge? e = some r ∧ r.source = a ∧ r.target = b := by
  rw [← records_overlay h s, List.mem_map]
  simp only [ListedEdge.mk.injEq]
  constructor
  · rintro ⟨r, hr, hends⟩
    obtain ⟨e, he⟩ := List.mem_iff_getElem?.mp hr
    exact ⟨e, r, (Graph.edge?_eq_getElem? _ e).trans he, hends⟩
  · rintro ⟨e, r, hr, hends⟩
    exact ⟨r, List.mem_of_getElem? ((Graph.edge?_eq_getElem? _ e).symm.trans hr), hends⟩

theorem rawEdge_of_listed (h : c.Matched m) (hl : ⟨a, b⟩ ∈ (c.sides.get s).edges) :
    ∃ r, ((m.overlay c).side s).rawEdge a b = .ok r ∧ r.source = a ∧ r.target = b := by
  obtain ⟨e, r, hr, hends⟩ := (mem_edges_iff h).mp hl
  have he := (edgeId_iff_ends h).mpr ⟨r, hr, hends⟩
  exact ⟨r, SideGraph.rawEdge_of_edgeId he hr, hends⟩

theorem rawEdge_of_unlisted (h : c.Matched m) (ha : c.Names s a) (hb : c.Names s b)
    (hl : ⟨a, b⟩ ∉ (c.sides.get s).edges) :
    ((m.overlay c).side s).rawEdge a b = .error (.unknownEdge s a b) := by
  obtain ⟨v, _, hv, _⟩ := exists_of_names h ha
  obtain ⟨w, _, hw, _⟩ := exists_of_names h hb
  rw [← nodeAt?_overlay m c] at hv hw
  have hid := SideGraph.edgeId_of_nodeAt? hv hw
  rw [side_eq_overlay] at hid
  cases hf : ((m.overlay c).side s).graph.findEdge? v w with
  | none =>
    rw [hf] at hid
    exact SideGraph.rawEdge_of_error hid
  | some e =>
    rw [hf] at hid
    obtain ⟨r, hr, hends⟩ := (edgeId_iff_ends h).mp hid
    exact (hl ((mem_edges_iff h).mpr ⟨e, r, hr, hends⟩)).elim

end indices

end Matching

namespace Overlay
open Matching

theorem answersQueries_overlay (h : c.Matched m) : (m.overlay c).AnswersQueries c where
  byAddress_iff _ _ _ := byAddress_eq_some_iff h
  index_iff _ _ _ _ := index_eq_some_iff h
  rawNode_listed _ _ hl := rawNode_of_listed h hl
  rawNode_unlisted _ _ ha := (answers_unlisted h ha).1
  counterpart_iff _ _ _ := counterpart_eq_some_iff h
  counterpart_unpaired _ _ ha hno := (answers_unpaired h ha hno).1
  counterpart_unlisted _ _ ha := (answers_unlisted h ha).2.1
  counterpart_other _ _ _ hab := counterpart_symm h hab
  matchKind_paired s _ hr := (answers_paired h hr s).2
  matchKind_unpaired _ _ ha hno := (answers_unpaired h ha hno).2
  matchKind_unlisted _ _ ha := (answers_unlisted h ha).2.2.1
  isMatched_iff _ _ _ := isMatched_eq_ok_iff h
  isMatched_unlisted _ _ ha := (answers_unlisted h ha).2.2.2
  rawEdge_listed _ _ hl := rawEdge_of_listed h hl
  rawEdge_unknown_source := by
    intro s a b ha
    have hid := SideGraph.edgeId_of_no_source (b := b) (nodeAt?_eq_none_of_unlisted h ha)
    rw [side_eq_overlay] at hid
    exact SideGraph.rawEdge_of_error hid
  rawEdge_unknown_target := by
    intro s a b ha hb
    obtain ⟨v, _, hv, _⟩ := exists_of_names h ha
    rw [← nodeAt?_overlay m c] at hv
    have hid := SideGraph.edgeId_of_no_target hv (nodeAt?_eq_none_of_unlisted h hb)
    rw [side_eq_overlay] at hid
    exact SideGraph.rawEdge_of_error hid
  rawEdge_unlisted _ _ _ ha hb hl := rawEdge_of_unlisted h ha hb hl
  nodeId_iff _ _ _ := nodeId_iff_address h
  edgeId_iff _ _ _ _ := edgeId_iff_ends h
  rawNode_nodeId _ _ _ _ hv hn := SideGraph.rawNode_of_nodeId hv hn
  rawEdge_edgeId _ _ _ _ _ he hr := SideGraph.rawEdge_of_edgeId he hr

/-- Every accepted comparison is read back, by address, as it was written down. -/
theorem answersQueries_ofComparison (h : ofComparison c = .ok o) : o.AnswersQueries c := by
  obtain ⟨m, hm, rfl⟩ := exists_matching h
  exact answersQueries_overlay hm

theorem answersQueries_sample :
    ∃ o, ofComparison .sample = .ok o ∧ o.merged.nodeCount = 4 ∧ o.AnswersQueries .sample := by
  obtain ⟨o, ho, hcount⟩ := exists_sample
  exact ⟨o, ho, hcount, answersQueries_ofComparison ho⟩

end Overlay

end GraphCompare
