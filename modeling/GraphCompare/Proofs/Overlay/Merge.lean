import GraphCompare.Proofs.Overlay.Matching

/-! The merged graph of a matching: which edges are partners, and why no two merged edges join the
same identities. -/
namespace GraphCompare.Matching
open Overlay
variable {m : Matching} {c : Comparison} {s : Side} {v w : NodeId} {e f : EdgeId} {i j n : Nat}
  {p : Partner} {a b : Arc Merged} {x : Merged}

theorem size_edgePartners (m : Matching) (s : Side) :
    (m.edgePartners.get s).size = (m.drafts.get s).edgeCount := by
  simp [edgePartners, Graph.edgeIds]

theorem partnerAt_edgePartners (m : Matching) (s : Side) (e : EdgeId) :
    partnerAt m.edgePartners s e = m.edgePartner? s e := by
  simp only [partnerAt, edgePartners, PerSide.get_ofFn, List.getElem?_toArray, List.getElem?_map,
    Graph.edgeIds]
  by_cases he : e < (m.drafts.get s).edgeCount
  · simp [he]
  · have hnone : (m.drafts.get s).endpoints? e = none := by
      simp only [Graph.endpoints?, Graph.edgeCount] at he ⊢
      simp [he]
    simp [he, edgePartner?, hnone]

/-- Edges are partners just when their ends are, and then the kinds of the ends give theirs. -/
theorem edgePartner?_eq_some (h : c.Matched m) :
    partnerAt m.edgePartners s e = some p ↔
      ∃ v w q r, (m.drafts.get s).endpoints? e = some (v, w) ∧
        partnerAt m.partners s v = some q ∧ partnerAt m.partners s w = some r ∧
        (m.drafts.get s.other).endpoints? p.index = some (q.index, r.index) ∧
        p.kind = .ofEnds q.kind r.kind := by
  rw [partnerAt_edgePartners]
  simp only [edgePartner?, Option.bind_eq_bind, Option.bind_eq_some_iff, Option.pure_def,
    Graph.findEdge?_eq_some (h.lists s.other).simple]
  constructor
  · rintro ⟨⟨v, w⟩, he, q, hq, r, hr, f, hf, hp⟩
    cases Option.some.inj hp
    exact ⟨v, w, q, r, he, hq, hr, hf, rfl⟩
  · rintro ⟨v, w, q, r, he, hq, hr, hf, hk⟩
    exact ⟨(v, w), he, q, hq, r, hr, p.index, hf, by rw [← hk]⟩

theorem edgePartners_mutual (h : c.Matched m) : Mutual m.edgePartners where
  back := by
    intro s e p hp
    obtain ⟨v, w, q, r, he, hq, hr, hf, hk⟩ := (edgePartner?_eq_some h).mp hp
    refine (edgePartner?_eq_some h).mpr ⟨_, _, _, _, hf, h.paired.naming.back hq,
      h.paired.naming.back hr, ?_, hk⟩
    rw [Side.other_other]
    exact he
  kind_ne := by
    intro s e p hp
    obtain ⟨v, w, q, r, _, _, _, _, hk⟩ := (edgePartner?_eq_some h).mp hp
    rw [hk]
    exact MatchKind.ofEnds_ne_unmatched _ _

private theorem mapIdx_partners {α β γ : Type} (l : List α) (ps : Array (Option Partner))
    (hl : l.length = ps.size) {F : Nat → α → β} {F' : Nat → Option Partner → γ} {t : β → γ}
    (hF : ∀ i a, t (F i a) = F' i (ps[i]?).join) : (l.mapIdx F).map t = ps.toList.mapIdx F' := by
  apply List.ext_getElem?
  intro i
  rw [List.getElem?_map, List.getElem?_mapIdx, List.getElem?_mapIdx]
  by_cases hi : i < l.length
  · have hi' : i < ps.size := hl ▸ hi
    simp [hi, hi', hF]
  · have hi' : ¬ i < ps.size := hl ▸ hi
    simp [hi, hi']

/-- The labels of the merged edges are merged from the partners of the edges. -/
theorem labels_mergedArcs (m : Matching) :
    (m.mergedArcs m.edgePartners).map (·.label) = mergedNodes m.edgePartners := by
  have hp : m.drafts.primary.arcs.toList.length = m.edgePartners.primary.size :=
    (size_edgePartners m .primary).symm
  have hs : m.drafts.secondary.arcs.toList.length = m.edgePartners.secondary.size :=
    (size_edgePartners m .secondary).symm
  have hmap : ∀ (l : List (Option (Arc Merged))),
      (l.filterMap id).map (·.label) = (l.map (Option.map (·.label))).filterMap id := by
    intro l
    rw [List.map_filterMap, List.filterMap_map]
    rfl
  rw [mergedArcs, mergedNodes, List.map_append, hmap]
  congr 1
  · exact mapIdx_partners _ _ hp fun i a => rfl
  · congr 1
    apply mapIdx_partners _ _ hs
    intro i a
    rw [Option.map_map]
    exact Option.map_id'

theorem label_mergedArcs (h : (m.mergedArcs m.edgePartners)[n]? = some a) :
    (mergedNodes m.edgePartners)[n]? = some a.label := by
  rw [← labels_mergedArcs, List.getElem?_map, h]
  rfl

theorem identity_of_lt (h : c.Matched m) (hv : v < (m.drafts.get s).nodeCount) :
    ∃ n, ((identityTable m.partners).get s)[v]? = some n := by
  rw [← h.paired.size_eq s, ← size_identityTable] at hv
  exact ⟨_, Array.getElem?_eq_getElem hv⟩

/-- An edge of a side goes into the merged graph between the identities of its ends. -/
private theorem identifiedArc_spec (h : c.Matched m) {b : Arc ListedEdge}
    (he : (m.drafts.get s).arcs[e]? = some b) (x : Merged) :
    (m.drafts.get s).endpoints? e = some (b.source, b.target) ∧
      ((identityTable m.partners).get s)[b.source]? =
        some (identifiedArc ((identityTable m.partners).get s) b x).source ∧
      ((identityTable m.partners).get s)[b.target]? =
        some (identifiedArc ((identityTable m.partners).get s) b x).target := by
  have hends : (m.drafts.get s).endpoints? e = some (b.source, b.target) := by
    simp [Graph.endpoints?, he]
  obtain ⟨hs, ht⟩ := (h.lists s).simple.ends_lt hends
  obtain ⟨v, hv⟩ := identity_of_lt h hs
  obtain ⟨w, hw⟩ := identity_of_lt h ht
  exact ⟨hends, by simp [identifiedArc, hv], by simp [identifiedArc, hw]⟩

theorem mem_mergedArcs (ha : a ∈ m.mergedArcs m.edgePartners) :
    (∃ e b, m.drafts.primary.arcs[e]? = some b ∧
      a = identifiedArc (identityTable m.partners).primary b
        (ofPrimary e (partnerAt m.edgePartners .primary e))) ∨
    (∃ e b, m.drafts.secondary.arcs[e]? = some b ∧
      a = identifiedArc (identityTable m.partners).secondary b ⟨⟨none, some e⟩, .unmatched⟩) := by
  rcases List.mem_append.mp ha with ha | ha
  · obtain ⟨e, he, rfl⟩ := List.mem_mapIdx.mp ha
    refine Or.inl ⟨e, _, ?_, rfl⟩
    rw [← Array.getElem?_toList]
    exact List.getElem?_eq_getElem he
  · obtain ⟨o, ho, hoa⟩ := List.mem_filterMap.mp ha
    obtain ⟨e, he, rfl⟩ := List.mem_mapIdx.mp ho
    obtain ⟨x, hx, rfl⟩ := Option.map_eq_some_iff.mp hoa
    have hb := List.getElem?_eq_getElem he
    rw [Array.getElem?_toList] at hb
    refine Or.inr ⟨e, _, hb, ?_⟩
    cases hp : (m.edgePartners.secondary[e]?).join with
    | some p => simp [hp, ofSecondary?] at hx
    | none =>
      simp only [hp, ofSecondary?, Option.some.injEq] at hx
      rw [← hx]

/-- A merged edge joins the identities of the ends of every edge that it holds. -/
theorem ends_mergedArcs (h : c.Matched m) (ha : a ∈ m.mergedArcs m.edgePartners)
    (he : a.label.holders.get s = some e) :
    ∃ v w, (m.drafts.get s).endpoints? e = some (v, w) ∧
      ((identityTable m.partners).get s)[v]? = some a.source ∧
      ((identityTable m.partners).get s)[w]? = some a.target := by
  rcases mem_mergedArcs ha with ⟨f, b, hb, rfl⟩ | ⟨f, b, hb, rfl⟩
  · obtain ⟨hends, hs, ht⟩ := identifiedArc_spec (s := .primary) h hb
      (ofPrimary f (partnerAt m.edgePartners .primary f))
    cases s with
    | primary =>
      cases Option.some.inj he
      exact ⟨_, _, hends, hs, ht⟩
    | secondary =>
      -- the ends of the partner are the partners of the ends, with the same identities
      obtain ⟨p, hp, hpe⟩ := Option.map_eq_some_iff.mp he
      obtain ⟨v, w, q, r, hvw, hq, hr, hf, _⟩ := (edgePartner?_eq_some h).mp hp
      cases Option.some.inj (hends.symm.trans hvw)
      have hq' : partnerAt m.partners .secondary q.index = some ⟨b.source, q.kind⟩ :=
        h.paired.naming.back hq
      have hr' : partnerAt m.partners .secondary r.index = some ⟨b.target, r.kind⟩ :=
        h.paired.naming.back hr
      refine ⟨q.index, r.index, hpe ▸ hf, ?_, ?_⟩
      · exact (identity_matched hq').trans ((identity_primary (partnerAt_lt hq)).symm.trans hs)
      · exact (identity_matched hr').trans ((identity_primary (partnerAt_lt hr)).symm.trans ht)
  · obtain ⟨hends, hs, ht⟩ := identifiedArc_spec (s := .secondary) h hb ⟨⟨none, some f⟩, .unmatched⟩
    cases s with
    | primary => cases he
    | secondary =>
      cases Option.some.inj he
      exact ⟨_, _, hends, hs, ht⟩

/-- An edge between two nodes of a side is the only one of that side whose ends have their
identities. -/
private theorem edge_unique (h : c.Matched m) {x y : NodeId}
    (he : (m.drafts.get s).endpoints? e = some (v, w))
    (hf : (m.drafts.get s).endpoints? f = some (x, y))
    (hs : ((identityTable m.partners).get s)[v]? = ((identityTable m.partners).get s)[x]?)
    (ht : ((identityTable m.partners).get s)[w]? = ((identityTable m.partners).get s)[y]?) :
    e = f := by
  obtain ⟨hv, hw⟩ := (h.lists s).simple.ends_lt he
  obtain ⟨n, hn⟩ := identity_of_lt h hv
  obtain ⟨k, hk⟩ := identity_of_lt h hw
  cases identity_injective h.paired.naming hn (hs ▸ hn)
  cases identity_injective h.paired.naming hk (ht ▸ hk)
  exact (h.lists s).simple.unique he hf

/-- Edges of both sides between the same identities are partners. -/
private theorem partner_of_ends (h : c.Matched m) {x y i j : NodeId}
    (he : m.drafts.primary.endpoints? e = some (v, w))
    (hf : m.drafts.secondary.endpoints? f = some (x, y))
    (hv : ((identityTable m.partners).get .primary)[v]? = some i)
    (hx : ((identityTable m.partners).get .secondary)[x]? = some i)
    (hw : ((identityTable m.partners).get .primary)[w]? = some j)
    (hy : ((identityTable m.partners).get .secondary)[y]? = some j) :
    ∃ k, partnerAt m.edgePartners .primary e = some ⟨f, k⟩ := by
  obtain ⟨k, hk, _⟩ := identity_shared h.paired.naming hv hx
  obtain ⟨l, hl, _⟩ := identity_shared h.paired.naming hw hy
  exact ⟨.ofEnds k l, (edgePartner?_eq_some h).mpr ⟨v, w, ⟨x, k⟩, ⟨y, l⟩, he, hk, hl, hf, rfl⟩⟩

/-- A merged edge is the only one between its ends: each of two such edges holds some edge of a
side, and these are the same edge or partners. -/
theorem mergedArcs_unique (h : c.Matched m) (ha : (m.mergedArcs m.edgePartners)[i]? = some a)
    (hb : (m.mergedArcs m.edgePartners)[j]? = some b) (hab : a.ends = b.ends) : i = j := by
  obtain ⟨hsource, htarget⟩ := Prod.mk.inj hab
  have hna := label_mergedArcs ha
  have hnb := label_mergedArcs hb
  have hmut := edgePartners_mutual h
  -- one edge of a side held by both merged edges settles the matter
  have held : ∀ {s e}, a.label.holders.get s = some e → b.label.holders.get s = some e → i = j := by
    intro s e he hf
    have hi := (identity_merged hmut hna he).1
    exact Option.some.inj (hi.symm.trans (identity_merged hmut hnb hf).1)
  obtain ⟨s, e, he⟩ := exists_holder hna
  obtain ⟨t, f, hf⟩ := exists_holder hnb
  obtain ⟨v, w, hvw, hv, hw⟩ := ends_mergedArcs h (List.mem_of_getElem? ha) he
  obtain ⟨x, y, hxy, hx, hy⟩ := ends_mergedArcs h (List.mem_of_getElem? hb) hf
  rw [hsource] at hv
  rw [htarget] at hw
  by_cases hst : s = t
  · subst t
    cases edge_unique h hvw hxy (hv.trans hx.symm) (hw.trans hy.symm)
    exact held he hf
  · cases s <;> cases t
    · exact (hst rfl).elim
    · obtain ⟨k, hk⟩ := partner_of_ends h hvw hxy hv hx hw hy
      have hother := (identity_merged hmut hna he).2.1
      rw [hk] at hother
      exact held hother hf
    · obtain ⟨k, hk⟩ := partner_of_ends h hxy hvw hx hv hy hw
      have hother := (identity_merged hmut hnb hf).2.1
      rw [hk] at hother
      exact held he hother
    · exact (hst rfl).elim

theorem ends_lt_mergedArcs (h : c.Matched m) (ha : a ∈ m.mergedArcs m.edgePartners) :
    a.source < (mergedNodes m.partners).length ∧ a.target < (mergedNodes m.partners).length := by
  have hlt : ∀ {s : Side} {u n : Nat}, ((identityTable m.partners).get s)[u]? = some n →
      n < (mergedNodes m.partners).length := by
    intro s u n hu
    have hsize := (Array.getElem?_eq_some_iff.mp hu).1
    rw [size_identityTable] at hsize
    obtain ⟨k, x, hk, hx, _⟩ := merged_identity h.paired.naming hsize
    cases Option.some.inj (hu.symm.trans hk)
    exact (List.getElem?_eq_some_iff.mp hx).1
  obtain ⟨n, hn⟩ := List.getElem?_of_mem ha
  obtain ⟨s, e, he⟩ := exists_holder (label_mergedArcs hn)
  obtain ⟨v, w, _, hv, hw⟩ := ends_mergedArcs h ha he
  exact ⟨hlt hv, hlt hw⟩

theorem nodup_mergedArcs (h : c.Matched m) :
    ((m.mergedArcs m.edgePartners).map Arc.ends).Nodup := by
  rw [List.Nodup, List.pairwise_map, List.pairwise_iff_getElem]
  intro i j hi hj hij hends
  have := mergedArcs_unique h (List.getElem?_eq_getElem hi) (List.getElem?_eq_getElem hj) hends
  omega

/-- The merged graph is built from its two lists without loss. -/
theorem merged_overlay (h : c.Matched m) :
    (m.overlay c).merged.IsSimple ∧ (m.overlay c).merged.nodes = mergedNodes m.partners ∧
      (m.overlay c).merged.arcs.toList = m.mergedArcs m.edgePartners :=
  Graph.ofLists_spec (fun _ ha => ends_lt_mergedArcs h ha) (nodup_mergedArcs h)

end GraphCompare.Matching
