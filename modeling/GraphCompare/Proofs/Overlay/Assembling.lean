import GraphCompare.Proofs.Overlay.Stages

/-! Every step of an assembly leads from one stage to the next and meets no trap, and the last stage
is the overlay. -/
namespace GraphCompare

namespace Graph
variable {N E : Type} {xs : List N} {x : N} {as : List (Arc E)} {a : Arc E}

theorem nodeCount_ofLists_nil (xs : List N) :
    (ofLists xs [] : Graph N E).nodeCount = xs.length := by
  rw [← length_nodes, (ofLists_spec (by simp) (by simp)).2.1]

theorem strictAddNode_ofLists (h : xs.length < UInt32.size) (x : N) :
    (ofLists xs [] : Graph N E).strictAddNode x = .ok (xs.length, ofLists (xs ++ [x]) []) := by
  have hcount := nodeCount_ofLists_nil (E := E) xs
  rw [strictAddNode_eq (hcount.symm ▸ h), addNode, hcount]
  simp [ofLists, addNode]

/-- Between two nodes that no listed edge joins, the next edge is new. -/
theorem strictAddEdge_ofLists
    (hin : ∀ b ∈ as ++ [a], b.source < xs.length ∧ b.target < xs.length)
    (hd : ((as ++ [a]).map Arc.ends).Nodup) (h : as.length < UInt32.size) :
    (ofLists xs as).findEdge? a.source a.target = none ∧
      (ofLists xs as).strictAddEdge a.source a.target a.label =
        .ok (some (as.length, ofLists xs (as ++ [a]))) := by
  rw [List.map_append, List.nodup_append] at hd
  obtain ⟨hd, _, hnew⟩ := hd
  obtain ⟨hsimple, hnodes, harcs⟩ :=
    ofLists_spec (fun b hb => hin b (List.mem_append_left [a] hb)) hd
  have hnodeCount : (ofLists xs as).nodeCount = xs.length := by rw [← length_nodes, hnodes]
  have hedgeCount : (ofLists xs as).edgeCount = as.length := by
    rw [← length_edges, edges, harcs, List.length_map]
  have hnotin : a.ends ∉ (ofLists xs as).arcs.toList.map Arc.ends := by
    rw [harcs]
    exact fun hmem => hnew _ hmem a.ends (by simp) rfl
  obtain ⟨hs, ht⟩ := hin a (by simp)
  obtain ⟨hadd, _⟩ := addEdge?_of_new hsimple (hnodeCount.symm ▸ hs) (hnodeCount.symm ▸ ht) hnotin
  constructor
  · rw [findEdge?_eq_none hsimple]
    intro e he
    rw [endpoints?_eq_getElem?] at he
    obtain ⟨b, hb, hab⟩ := Option.map_eq_some_iff.mp he
    exact hnotin (List.mem_map.mpr ⟨b, List.mem_of_getElem? hb, hab⟩)
  · have hnext : ofLists xs (as ++ [a]) =
        (ofLists xs as).pushEdge a.source a.target a.label := by
      rw [ofLists, List.foldl_append]
      change ((addEdge? (ofLists xs as) _ _ _).map (·.2)).getD (ofLists xs as) = _
      rw [hadd]
      rfl
    rw [strictAddEdge_eq hsimple (hedgeCount.symm ▸ h), hadd, hedgeCount, hnext]

end Graph

namespace Matching
open Overlay Marks
variable {m : Matching} {c : Comparison} {nodes edges : Marks} {merged : Graph Merged Merged}
  {s : Side} {v i j k l id : Nat} {e : EdgeId}

/-- The merged nodes that are open after so many nodes of each side. -/
def openNodes (m : Matching) (i j : Nat) : List Merged :=
  leading ofPrimary ofSecondary? m.partners.primary.toList m.partners.secondary.toList i j

/-- The merged edges that are open after so many edges of each side. -/
def openArcs (m : Matching) (i j : Nat) : List (Arc Merged) :=
  let nodeIds := identityTable m.partners
  leading
    (fun e a => identifiedArc nodeIds.primary a (ofPrimary e (m.edgePartners.primary[e]?).join))
    (fun e a => (ofSecondary? e (m.edgePartners.secondary[e]?).join).map
      (identifiedArc nodeIds.secondary a))
    m.drafts.primary.arcs.toList m.drafts.secondary.arcs.toList i j

/-- At first the partners of nodes are known, and those of edges are not. -/
def firstNodes (m : Matching) : Marks := fun s v => (partnerAt m.partners s v, 0)

def firstEdges : Marks := fun _ _ => (none, 0)

/-- The assembly after so many nodes and edges of each side. -/
def stage (m : Matching) (i j k l : Nat) : Assembly :=
  m.marked (staged m.partners m.firstNodes i j) (staged m.edgePartners firstEdges k l)
    (Graph.ofLists (m.openNodes i j) (m.openArcs k l))

theorem openArcs_zero (m : Matching) : m.openArcs 0 0 = [] := by
  simp [openArcs, leading]

theorem openNodes_all (m : Matching) :
    m.openNodes m.partners.primary.size m.partners.secondary.size = mergedNodes m.partners :=
  leading_all

theorem openArcs_all (m : Matching) :
    m.openArcs m.edgePartners.primary.size m.edgePartners.secondary.size =
      m.mergedArcs m.edgePartners := by
  have hprimary : m.edgePartners.primary.size = _ := size_edgePartners m .primary
  have hsecondary : m.edgePartners.secondary.size = _ := size_edgePartners m .secondary
  rw [hprimary, hsecondary]
  exact leading_all

theorem openNodes_succ_left (hi : i < m.partners.primary.size) :
    m.openNodes (i + 1) 0 =
      m.openNodes i 0 ++ [ofPrimary i (partnerAt m.partners .primary i)] := by
  apply leading_succ_left
  rw [Array.getElem?_toList]
  exact getElem?_eq_partnerAt (s := .primary) hi

theorem openNodes_succ_right (hj : j < m.partners.secondary.size) (i : Nat) :
    m.openNodes i (j + 1) =
      m.openNodes i j ++ (ofSecondary? j (partnerAt m.partners .secondary j)).toList := by
  apply leading_succ_right
  rw [Array.getElem?_toList]
  exact getElem?_eq_partnerAt (s := .secondary) hj

theorem openArcs_succ_left {b : Arc ListedEdge} (hb : m.drafts.primary.arcs[k]? = some b) :
    m.openArcs (k + 1) 0 = m.openArcs k 0 ++
      [identifiedArc ((identityTable m.partners).get .primary) b
        (ofPrimary k (partnerAt m.edgePartners .primary k))] :=
  leading_succ_left (Array.getElem?_toList.trans hb)

theorem openArcs_succ_right {b : Arc ListedEdge} (hb : m.drafts.secondary.arcs[l]? = some b)
    (k : Nat) :
    m.openArcs k (l + 1) = m.openArcs k l ++
      ((ofSecondary? l (partnerAt m.edgePartners .secondary l)).map
        (identifiedArc ((identityTable m.partners).get .secondary) b)).toList :=
  leading_succ_right (Array.getElem?_toList.trans hb) k

theorem openArcs_prefix_right (m : Matching) (l : Nat) :
    m.openArcs m.edgePartners.primary.size l <+: m.mergedArcs m.edgePartners := by
  have hprimary : m.edgePartners.primary.size = _ := size_edgePartners m .primary
  rw [hprimary]
  exact leading_prefix_right l

/-- The next merged element has its place as its identity. -/
theorem identity_opened {ps : PerSide (Array (Option Partner))} {xs : List Merged} {x : Merged}
    (h : Mutual ps) (hp : xs ++ [x] <+: mergedNodes ps) (hx : x.holders.get s = some v) :
    ((identityTable ps).get s)[v]? = some xs.length := by
  obtain ⟨rest, hrest⟩ := hp
  refine (identity_merged h ?_ hx).1
  rw [← hrest]
  simp

/-- So does the next merged edge. -/
theorem identity_joined {as : List (Arc Merged)} {a : Arc Merged} (h : c.Matched m)
    (hp : as ++ [a] <+: m.mergedArcs m.edgePartners) (ha : a.label.holders.get s = some e) :
    ((identityTable m.edgePartners).get s)[e]? = some as.length := by
  have hlabels := hp.map (·.label)
  rw [List.map_append, List.map_singleton, labels_mergedArcs] at hlabels
  have hid := identity_opened (edgePartners_mutual h) hlabels ha
  rwa [List.length_map] at hid

theorem nodeCount_marked (s : Side) :
    ((m.marked nodes edges merged).sides.get s).nodeCount = (m.drafts.get s).nodeCount := by
  rw [marked, PerSide.get_ofFn, Graph.nodeCount_relabel]

theorem edgeCount_marked (s : Side) :
    ((m.marked nodes edges merged).sides.get s).edgeCount = (m.drafts.get s).edgeCount := by
  rw [marked, PerSide.get_ofFn, Graph.edgeCount_relabel]

theorem guard_marked (hv : v < (m.drafts.get s).nodeCount) :
    ∃ n, ∀ nodes edges merged,
      Trap.missing.guard (((m.marked nodes edges merged).sides.get s).node? v) =
        .ok (markedNode (nodes s v) n) := by
  obtain ⟨n, hn⟩ := Graph.exists_node? hv
  refine ⟨n, fun nodes edges merged => ?_⟩
  rw [node?_marked, hn]
  rfl

theorem guard_marked_edge (he : e < (m.drafts.get s).edgeCount) :
    ∃ r, ∀ nodes edges merged,
      Trap.missing.guard (((m.marked nodes edges merged).sides.get s).edge? e) =
        .ok (markedEdge (edges s e) r) := by
  obtain ⟨r, hr⟩ := Graph.exists_edge? he
  refine ⟨r, fun nodes edges merged => ?_⟩
  rw [edge?_marked, hr]
  rfl

/-- The partners of nodes stay as they are written at first. -/
theorem staged_firstNodes (m : Matching) (i j : Nat) (s : Side) (v : NodeId) :
    (staged m.partners m.firstNodes i j s v).1 = partnerAt m.partners s v := by
  rw [staged]
  split <;> rfl

/-- Writing its identity at a node whose partner is written already. -/
theorem identifyNode_final (hv : v < (m.drafts.get s).nodeCount)
    (hpartner : (nodes s v).1 = partnerAt m.partners s v)
    (hid : ((identityTable m.partners).get s)[v]? = some id) :
    (m.marked nodes edges merged).identifyNode s v id =
      .ok (m.marked (nodes.write s v (final m.partners s v)) edges merged) := by
  rw [identifyNode_marked hv, hpartner, final_eq hid]

/-- A merged node is opened at its place. -/
theorem strictAddNode_opens {ps : PerSide (Array (Option Partner))} {xs : List Merged}
    {x : Merged} (hsize : (mergedNodes ps).length ≤ UInt32.size)
    (hp : xs ++ [x] <+: mergedNodes ps) :
    (Graph.ofLists xs [] : Graph Merged Merged).strictAddNode x =
      .ok (xs.length, Graph.ofLists (xs ++ [x]) []) := by
  have hle := hp.length_le
  rw [List.length_append, List.length_singleton] at hle
  exact Graph.strictAddNode_ofLists (by omega) x

section nodes
variable (h : c.Matched m) (hsize : (mergedNodes m.partners).length ≤ UInt32.size)
include h hsize

theorem takePrimaryNode_stage (hi : i < m.partners.primary.size) :
    (m.stage i 0 0 0).takePrimaryNode i = .ok (m.stage (i + 1) 0 0 0) := by
  have hnext := openNodes_succ_left hi
  have hprefix : m.openNodes (i + 1) 0 <+: mergedNodes m.partners := leading_prefix_left (i + 1)
  rw [hnext] at hprefix
  have hid : ((identityTable m.partners).get .primary)[i]? = some (m.openNodes i 0).length :=
    identity_opened h.paired.naming hprefix rfl
  have hwritten := staged_firstNodes m i 0
  have hlt : i < (m.drafts.get .primary).nodeCount := h.paired.size_eq .primary ▸ hi
  obtain ⟨n, hn⟩ := guard_marked hlt
  rw [stage, stage, hnext, openArcs_zero]
  refine (Trap.bind_of (hn _ _ _) _).trans ?_
  simp only [markedNode, hwritten]
  refine (Trap.bind_of (strictAddNode_opens hsize hprefix) _).trans ?_
  refine (Trap.bind_of (identifyNode_final hlt (hwritten _ _) hid) _).trans ?_
  cases hp : partnerAt m.partners .primary i with
  | none =>
    rw [staged_succ_left_none h.paired.naming hp]
    rfl
  | some p =>
    have hlt' : p.index < (m.drafts.get .secondary).nodeCount :=
      h.paired.size_eq .secondary ▸ partnerAt_lt (h.paired.naming.back hp)
    rw [staged_succ_left_some h.paired.naming hp]
    refine identifyNode_final hlt' ?_ (final_partner h.paired.naming hp hid).2
    rw [write, if_neg (by simp)]
    exact hwritten .secondary p.index

/-- A secondary node with a partner is passed over. -/
theorem takeSecondaryNode_stage (hj : j < m.partners.secondary.size) :
    (m.stage m.partners.primary.size j 0 0).takeSecondaryNode j =
      .ok (m.stage m.partners.primary.size (j + 1) 0 0) := by
  have hnext := openNodes_succ_right hj m.partners.primary.size
  have hprefix : m.openNodes m.partners.primary.size (j + 1) <+: mergedNodes m.partners :=
    leading_prefix_right (j + 1)
  rw [hnext] at hprefix
  have hwritten := staged_firstNodes m m.partners.primary.size j
  have hlt : j < (m.drafts.get .secondary).nodeCount := h.paired.size_eq .secondary ▸ hj
  obtain ⟨n, hn⟩ := guard_marked hlt
  rw [stage, stage, hnext, openArcs_zero]
  refine (Trap.bind_of (hn _ _ _) _).trans ?_
  simp only [markedNode, hwritten]
  cases hp : partnerAt m.partners .secondary j with
  | some p =>
    rw [staged_succ_right_some hp]
    simp only [ofSecondary?, Option.toList_none, List.append_nil]
    rfl
  | none =>
    rw [hp] at hprefix
    have hid : ((identityTable m.partners).get .secondary)[j]? =
        some (m.openNodes m.partners.primary.size j).length :=
      identity_opened h.paired.naming hprefix rfl
    refine (Trap.bind_of (strictAddNode_opens hsize hprefix) _).trans ?_
    rw [staged_succ_right_none hp]
    exact identifyNode_final hlt (hwritten _ _) hid

end nodes

/-- Everything is written at the nodes. -/
def NodesDone (m : Matching) (nodes : Marks) : Prop :=
  ∀ s v, v < (m.drafts.get s).nodeCount → nodes s v = final m.partners s v

theorem nodesDone_staged (h : c.Matched m) :
    m.NodesDone
      (staged m.partners m.firstNodes m.partners.primary.size m.partners.secondary.size) :=
  fun s _ hv => staged_all h.paired.naming _ (h.paired.size_eq s ▸ hv)

/-- The assembly after so many edges of each side, with all nodes taken. -/
def joining (m : Matching) (nodes : Marks) (k l : Nat) : Assembly :=
  m.marked nodes (staged m.edgePartners firstEdges k l)
    (Graph.ofLists (mergedNodes m.partners) (m.openArcs k l))

/-- A primary edge with its partner. -/
def entry (m : Matching) (e : EdgeId) : EdgeId × Option EdgeId × MatchKind :=
  (e, (partnerAt m.edgePartners .primary e).map (·.index),
    kindOf (partnerAt m.edgePartners .primary e))

theorem edgeMatch_joining (h : c.Matched m) (hnodes : m.NodesDone nodes) (k l : Nat)
    (he : e < m.edgePartners.primary.size) :
    (m.joining nodes k l).edgeMatch e = .ok (m.entry e) := by
  have hlt : e < (m.drafts.get .primary).edgeCount := size_edgePartners m .primary ▸ he
  obtain ⟨v, w, hvw⟩ := Graph.exists_endpoints? hlt
  obtain ⟨hv, hw⟩ := (h.lists .primary).simple.ends_lt hvw
  obtain ⟨x, hx⟩ := guard_marked hv
  obtain ⟨y, hy⟩ := guard_marked hw
  have hends : Trap.missing.guard (((m.joining nodes k l).sides.get .primary).endpoints? e) =
      .ok (v, w) := by
    rw [joining, endpoints?_marked, hvw, Trap.guard_some]
  have hfind : ∀ a b, (m.joining nodes k l).sides.secondary.findEdge? a b =
      (m.drafts.get Side.primary.other).findEdge? a b :=
    fun a b => Graph.findEdge?_relabel _ _ _ a b
  have hedge : partnerAt m.edgePartners .primary e =
      (partnerAt m.partners .primary v).bind fun p =>
        (partnerAt m.partners .primary w).bind fun q =>
          ((m.drafts.get Side.primary.other).findEdge? p.index q.index).bind fun f =>
            some ⟨f, .ofEnds p.kind q.kind⟩ := by
    rw [partnerAt_edgePartners, edgePartner?, hvw]
    rfl
  refine (Trap.bind_of hends _).trans ?_
  refine (Trap.bind_of (hx _ _ _) _).trans ((Trap.bind_of (hy _ _ _) _).trans ?_)
  simp only [hnodes _ _ hv, hnodes _ _ hw, hfind, entry, hedge, markedNode, final]
  cases partnerAt m.partners .primary v with
  | none => rfl
  | some p =>
    cases partnerAt m.partners .primary w with
    | none => rfl
    | some q =>
      have hfound : ∀ found : Option EdgeId, (e, found,
          if found.isSome then (kindOf (some p)).ofEnds (kindOf (some q)) else .unmatched) =
            (e, (found.bind fun f => some (Partner.mk f (.ofEnds p.kind q.kind))).map (·.index),
              kindOf (found.bind fun f => some ⟨f, .ofEnds p.kind q.kind⟩)) := by
        intro found
        cases found <;> rfl
      exact congrArg Except.ok (hfound _)

/-- Where everything is written at the nodes, the next merged edge is opened at its place. -/
theorem joinMerged_opens (h : c.Matched m) (hnodes : m.NodesDone nodes)
    (hsize : (m.mergedArcs m.edgePartners).length ≤ UInt32.size) {b : Arc ListedEdge}
    (hb : (m.drafts.get s).arcs[e]? = some b) {x : Merged} {as : List (Arc Merged)}
    (hp : as ++ [identifiedArc ((identityTable m.partners).get s) b x] <+:
      m.mergedArcs m.edgePartners) :
    (m.marked nodes edges (Graph.ofLists (mergedNodes m.partners) as)).joinMerged s e x =
      .ok (as.length, m.marked nodes edges (Graph.ofLists (mergedNodes m.partners)
        (as ++ [identifiedArc ((identityTable m.partners).get s) b x]))) := by
  have hle := hp.length_le
  rw [List.length_append, List.length_singleton] at hle
  have hin : ∀ a ∈ as ++ [identifiedArc ((identityTable m.partners).get s) b x],
      a.source < (mergedNodes m.partners).length ∧ a.target < (mergedNodes m.partners).length :=
    fun a ha => ends_lt_mergedArcs h (hp.subset ha)
  obtain ⟨hfree, hadd⟩ := Graph.strictAddEdge_ofLists hin
    ((nodup_mergedArcs h).sublist (hp.sublist.map Arc.ends)) (by omega)
  have hends : (m.drafts.get s).endpoints? e = some (b.source, b.target) := by
    rw [Graph.endpoints?, hb]
    rfl
  obtain ⟨hv, hw⟩ := (h.lists s).simple.ends_lt hends
  obtain ⟨source, hsource⟩ := guard_marked hv
  obtain ⟨target, htarget⟩ := guard_marked hw
  replace hsource := hsource nodes edges (Graph.ofLists (mergedNodes m.partners) as)
  replace htarget := htarget nodes edges (Graph.ofLists (mergedNodes m.partners) as)
  rw [hnodes _ _ hv] at hsource
  rw [hnodes _ _ hw] at htarget
  unfold Assembly.joinMerged
  rw [endpoints?_marked, hends]
  refine (Trap.bind_of hsource _).trans ((Trap.bind_of htarget _).trans ?_)
  refine (Trap.bind_of (Trap.check_of hfree) _).trans ?_
  refine (Trap.bind_of hadd _).trans ?_
  rfl

section edges
variable (h : c.Matched m) (hsize : (m.mergedArcs m.edgePartners).length ≤ UInt32.size)
  (hnodes : m.NodesDone nodes)
include h hsize hnodes

theorem takePrimaryEdge_joining (hk : k < m.edgePartners.primary.size) :
    (m.joining nodes k 0).takePrimaryEdge (m.entry k) = .ok (m.joining nodes (k + 1) 0) := by
  have hlt : k < (m.drafts.get .primary).edgeCount := size_edgePartners m .primary ▸ hk
  obtain ⟨b, hb⟩ : ∃ b, (m.drafts.get .primary).arcs[k]? = some b :=
    ⟨_, Array.getElem?_eq_getElem hlt⟩
  have hnext := openArcs_succ_left hb
  have hprefix : m.openArcs (k + 1) 0 <+: m.mergedArcs m.edgePartners := leading_prefix_left (k + 1)
  rw [hnext] at hprefix
  have hid : ((identityTable m.edgePartners).get .primary)[k]? = some (m.openArcs k 0).length :=
    identity_joined h hprefix rfl
  rw [joining, joining, hnext]
  refine (Trap.bind_of (joinMerged_opens h hnodes hsize hb hprefix) _).trans ?_
  refine (Trap.bind_of
    (identifyEdge_marked (x := final m.edgePartners .primary k) hlt ?_) _).trans ?_
  · intro r
    rw [final_eq hid]
    rfl
  cases hp : partnerAt m.edgePartners .primary k with
  | none =>
    rw [staged_succ_left_none (edgePartners_mutual h) hp]
    rfl
  | some p =>
    have hlt' : p.index < (m.drafts.get .secondary).edgeCount :=
      size_edgePartners m .secondary ▸ partnerAt_lt ((edgePartners_mutual h).back hp)
    rw [staged_succ_left_some (edgePartners_mutual h) hp]
    refine identifyEdge_marked hlt' ?_
    intro r
    rw [(final_partner (edgePartners_mutual h) hp hid).1]
    rfl

/-- A secondary edge with a partner is passed over. -/
theorem takeSecondaryEdge_joining (hl : l < m.edgePartners.secondary.size) :
    (m.joining nodes m.edgePartners.primary.size l).takeSecondaryEdge l =
      .ok (m.joining nodes m.edgePartners.primary.size (l + 1)) := by
  have hlt : l < (m.drafts.get .secondary).edgeCount := size_edgePartners m .secondary ▸ hl
  obtain ⟨b, hb⟩ : ∃ b, (m.drafts.get .secondary).arcs[l]? = some b :=
    ⟨_, Array.getElem?_eq_getElem hlt⟩
  have hnext := openArcs_succ_right hb m.edgePartners.primary.size
  have hprefix := openArcs_prefix_right m (l + 1)
  rw [hnext] at hprefix
  obtain ⟨r, hr⟩ := guard_marked_edge hlt
  rw [joining, joining, hnext]
  refine (Trap.bind_of (hr _ _ _) _).trans ?_
  cases hp : partnerAt m.edgePartners .secondary l with
  | some p =>
    rw [staged_partner (edgePartners_mutual h) firstEdges hp, staged_succ_right_some hp, final, hp]
    simp only [ofSecondary?, Option.map_none, Option.toList_none, List.append_nil]
    rfl
  | none =>
    have hwritten := staged_leftover hp firstEdges m.edgePartners.primary.size
    rw [hp] at hprefix
    have hid : ((identityTable m.edgePartners).get .secondary)[l]? =
        some (m.openArcs m.edgePartners.primary.size l).length :=
      identity_joined h hprefix rfl
    rw [staged_succ_right_none hp, if_neg (by simp [hwritten, markedEdge, firstEdges])]
    refine (Trap.bind_of (joinMerged_opens h hnodes hsize hb hprefix) _).trans ?_
    refine identifyEdge_marked hlt ?_
    intro r
    rw [hwritten, final_eq hid, hp]
    rfl

end edges

/-- The places of all merged elements and of all elements of a side are indices of 32 bits. -/
structure Fits (m : Matching) : Prop where
  sideNodes : ∀ s, (m.drafts.get s).nodeCount ≤ UInt32.size
  sideEdges : ∀ s, (m.drafts.get s).edgeCount ≤ UInt32.size
  nodes : (mergedNodes m.partners).length ≤ UInt32.size
  edges : (m.mergedArcs m.edgePartners).length ≤ UInt32.size

theorem fits_of_matched (h : c.Matched m) (hc : c.Fits) : m.Fits := by
  have hnodes := hc.nodes
  have hedges := hc.edges
  have hnodeCount : ∀ s, (m.drafts.get s).nodeCount = (c.sides.get s).nodes.length := by
    intro s
    rw [← Graph.length_nodes, (h.lists s).nodes_eq]
  have hedgeCount : ∀ s, (m.drafts.get s).edgeCount = (c.sides.get s).edges.length := by
    intro s
    rw [← Graph.length_edges, (h.lists s).edges_eq]
  refine ⟨?_, ?_, ?_, ?_⟩
  · intro s
    rw [hnodeCount]
    cases s <;> simp only [PerSide.get] <;> omega
  · intro s
    rw [hedgeCount]
    cases s <;> simp only [PerSide.get] <;> omega
  · have hlength := length_mergedNodes m.partners
    have hprimary : m.partners.primary.size = c.sides.primary.nodes.length :=
      (h.paired.size_eq .primary).trans (hnodeCount .primary)
    have hsecondary : m.partners.secondary.size = c.sides.secondary.nodes.length :=
      (h.paired.size_eq .secondary).trans (hnodeCount .secondary)
    omega
  · have hlength := length_mergedNodes m.edgePartners
    rw [← labels_mergedArcs, List.length_map] at hlength
    have hprimary : m.edgePartners.primary.size = c.sides.primary.edges.length :=
      (size_edgePartners m .primary).trans (hedgeCount .primary)
    have hsecondary : m.edgePartners.secondary.size = c.sides.secondary.edges.length :=
      (size_edgePartners m .secondary).trans (hedgeCount .secondary)
    omega

theorem nodeIndices_marked (h : c.Matched m) (hm : m.Fits) (s : Side) :
    Strict.indices .node ((m.marked nodes edges merged).sides.get s).nodeCount =
      .ok (List.range (m.partners.get s).size) := by
  rw [nodeCount_marked, h.paired.size_eq]
  exact Strict.indices_of_le .node (hm.sideNodes s)

theorem edgeIndices_marked (hm : m.Fits) (s : Side) :
    Strict.indices .edge ((m.marked nodes edges merged).sides.get s).edgeCount =
      .ok (List.range (m.edgePartners.get s).size) := by
  rw [edgeCount_marked, size_edgePartners]
  exact Strict.indices_of_le .edge (hm.sideEdges s)

theorem stage_first (m : Matching) :
    m.stage 0 0 0 0 = m.marked m.firstNodes firstEdges Graph.empty := by
  rw [stage, openArcs_zero, staged_zero, staged_zero]
  rfl

/-- The stage at which everything is taken. -/
def lastStage (m : Matching) : Assembly :=
  m.stage m.partners.primary.size m.partners.secondary.size m.edgePartners.primary.size
    m.edgePartners.secondary.size

/-- In the end everything is written at the elements of both sides. -/
theorem lastStage_eq (h : c.Matched m) :
    m.lastStage = ⟨(m.overlay c).sides.map (·.graph), (m.overlay c).merged⟩ := by
  have hedges : ∀ s e, e < (m.drafts.get s).edgeCount → staged m.edgePartners firstEdges
      m.edgePartners.primary.size m.edgePartners.secondary.size s e = final m.edgePartners s e := by
    intro s e he
    rw [← size_edgePartners] at he
    exact staged_all (edgePartners_mutual h) _ he
  rw [lastStage, stage, openNodes_all, openArcs_all, marked_congr (nodesDone_staged h) hedges]
  rfl

/-- The assembly runs through all stages and meets no trap on its way. -/
theorem complete_first (h : c.Matched m) (hm : m.Fits) :
    (m.stage 0 0 0 0).complete = .ok m.lastStage := by
  have hdone := nodesDone_staged h
  have hjoining : ∀ k l, m.stage m.partners.primary.size m.partners.secondary.size k l =
      m.joining (staged m.partners m.firstNodes m.partners.primary.size m.partners.secondary.size)
        k l := by
    intro k l
    rw [stage, openNodes_all, joining]
  have hprimaryNodes := Strict.foldlM_range (fun i => m.stage i 0 0 0)
    fun i hi => takePrimaryNode_stage h hm.nodes hi
  have hsecondaryNodes := Strict.foldlM_range (fun j => m.stage m.partners.primary.size j 0 0)
    fun j hj => takeSecondaryNode_stage h hm.nodes hj
  have hentries := Strict.mapM_eq_ok (l := List.range m.edgePartners.primary.size) (f := m.entry)
    fun e he => edgeMatch_joining h hdone 0 0 (List.mem_range.mp he)
  have hprimaryEdges := Strict.foldlM_range (F := fun a e => a.takePrimaryEdge (m.entry e))
    (m.joining _ · 0) fun k hk => takePrimaryEdge_joining h hm.edges hdone hk
  have hsecondaryEdges := Strict.foldlM_range (m.joining _ m.edgePartners.primary.size)
    fun l hl => takeSecondaryEdge_joining h hm.edges hdone hl
  refine (Trap.bind_of (nodeIndices_marked h hm .primary) _).trans ?_
  refine (Trap.bind_of hprimaryNodes _).trans ?_
  refine (Trap.bind_of (nodeIndices_marked h hm .secondary) _).trans ?_
  refine (Trap.bind_of hsecondaryNodes _).trans ?_
  rw [lastStage, hjoining, hjoining]
  refine (Trap.bind_of (edgeIndices_marked hm .primary) _).trans ?_
  refine (Trap.bind_of hentries _).trans ?_
  rw [List.foldlM_map]
  refine (Trap.bind_of hprimaryEdges _).trans ?_
  refine (Trap.bind_of (edgeIndices_marked hm .secondary) _).trans ?_
  exact hsecondaryEdges

/-- The overlay, completed from what is known of the nodes' partners. -/
def strictOverlay (m : Matching) (c : Comparison) : Except Trap Overlay := do
  let a ← (m.marked m.firstNodes firstEdges Graph.empty).complete
  return {
    flavor := c.flavor
    sides := .ofFn fun s =>
      let l := c.sides.get s
      ⟨s, l.name, l.imageName, l.address, a.sides.get s, (m.drafts.get s).byAddress⟩
    merged := a.merged }

theorem strictOverlay_eq (h : c.Matched m) (hm : m.Fits) :
    m.strictOverlay c = .ok (m.overlay c) := by
  rw [strictOverlay, ← stage_first, complete_first h hm, lastStage_eq h]
  rfl

end Matching

/-- The matching and then what follows from it. -/
def Overlay.strictOfComparison (c : Comparison) : Strict Failure Overlay := do
  let m ← c.strictMatching.adapt .invalidComparison
  Strict.lift (m.strictOverlay c)

theorem Overlay.strictOfComparison_gives {c : Comparison} (h : c.Fits) :
    (strictOfComparison c).Gives (ofComparison c) := by
  have hmatching := (Comparison.strictMatching_gives h).adapt Failure.invalidComparison
  unfold ofComparison
  cases hm : c.matching with
  | error d =>
    rw [hm] at hmatching
    exact hmatching.bind_error _
  | ok m =>
    rw [hm] at hmatching
    have hmatched := Comparison.matched_of_matching hm
    exact hmatching.bind_ok
      (Strict.gives_lift (Matching.strictOverlay_eq hmatched (Matching.fits_of_matched hmatched h)))

end GraphCompare
