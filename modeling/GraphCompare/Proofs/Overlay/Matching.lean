import GraphCompare.Proofs.Graph.Incidence
import GraphCompare.Proofs.Overlay.Table

/-! What an accepted comparison describes: drafts that list the records of their sides in order, and
partners that name each other, one pair for each pairing. -/
namespace GraphCompare

theorem exists_of_bind_ok {α β ε : Type} {x : Except ε α} {f : α → Except ε β} {b : β}
    (h : x >>= f = .ok b) : ∃ a, x = .ok a ∧ f a = .ok b := by
  cases x with
  | error e => cases h
  | ok a => exact ⟨a, rfl, h⟩

theorem exists_ok_of_any {α ε : Type} {x : Except ε α} {p : α → Bool}
    (h : x.toOption.any p = true) : ∃ a, x = .ok a ∧ p a = true := by
  cases x with
  | error e => cases h
  | ok a => exact ⟨a, rfl, h⟩

theorem eq_error_of_map {α β ε : Type} {x : Except ε α} {f : α → β} {e : ε}
    (h : x.map f = .error e) : x = .error e := by
  cases x with
  | error e' => exact congrArg Except.error (Except.error.inj h)
  | ok a => cases h

/-- What each successful step keeps holds at the end of a successful fold. -/
theorem foldlM_ok_induction {α σ ε : Type} {f : σ → α → Except ε σ} {P : List α → σ → Prop}
    (step : ∀ {done s a s'}, P done s → f s a = .ok s' → P (done ++ [a]) s')
    {l done : List α} {s s' : σ} (h : P done s) (hf : l.foldlM f s = .ok s') :
    P (done ++ l) s' := by
  induction l generalizing done s with
  | nil =>
    cases hf
    simpa using h
  | cons a l ih =>
    rw [List.foldlM_cons] at hf
    obtain ⟨t, ha, ht⟩ := exists_of_bind_ok hf
    simpa using ih (step h ha) ht

namespace Draft
variable {g g' : Draft} {l : Listing} {side : Side} {a : Address} {v w : NodeId} {e : EdgeId}
  {n : ListedNode} {r : ListedEdge}

/-- An address leads to the one node that has it. -/
structure Located (g : Draft) : Prop where
  nodeAt?_eq_some : ∀ {a v}, g.nodeAt? a = some v ↔ (g.node? v).map (·.address) = some a

theorem Located.address_eq (h : Located g) (hv : g.nodeAt? a = some v) :
    (g.node? v).map (·.address) = some a := h.nodeAt?_eq_some.mp hv

theorem Located.lt (h : Located g) (hv : g.nodeAt? a = some v) : v < g.nodeCount := by
  obtain ⟨n, hn, _⟩ := Option.map_eq_some_iff.mp (h.address_eq hv)
  exact Graph.lt_of_node? hn

theorem Located.nodeAt?_eq_none (h : Located g) :
    g.nodeAt? a = none ↔ ∀ n ∈ g.nodes, n.address ≠ a := by
  rw [Option.eq_none_iff_forall_ne_some]
  constructor
  · intro hno n hn hna
    obtain ⟨v, hv⟩ := List.mem_iff_getElem?.mp hn
    apply hno v
    rw [h.nodeAt?_eq_some, Graph.node?_eq_getElem?, hv, ← hna]
    rfl
  · intro hno v hv
    obtain ⟨n, hn, hna⟩ := Option.map_eq_some_iff.mp (h.address_eq hv)
    rw [Graph.node?_eq_getElem?] at hn
    exact hno n (List.mem_of_getElem? hn) hna

theorem located_empty : Located empty where
  nodeAt?_eq_some := by simp [nodeAt?, empty, Graph.node?, Graph.empty]

/-- A node whose address is a new one is found, and all others as before. -/
theorem Located.withNode (h : Located g) (hn : g.nodeAt? n.address = none) :
    Located (g.withNode n) where
  nodeAt?_eq_some {a v} := by
    change (g.byAddress.insert n.address g.nodeCount).get? a = some v ↔
      ((g.addNode n).2.node? v).map (·.address) = some a
    rw [Directory.get?_insert, Graph.node?_addNode, ← nodeAt?]
    by_cases ha : a = n.address <;> by_cases hv : v = g.nodeCount
    · simp [ha, hv]
    · have hno : (g.node? v).map (·.address) ≠ some n.address := by
        rw [ne_eq, ← h.nodeAt?_eq_some, hn]
        simp
      rw [if_pos ha, if_neg hv, ha]
      exact iff_of_false (fun hlast => hv (Option.some.inj hlast).symm) hno
    · have hno : g.nodeAt? a ≠ some g.nodeCount := fun hat => Nat.lt_irrefl _ (h.lt hat)
      rw [if_neg ha, if_pos hv, hv]
      exact iff_of_false hno fun hlast => ha (Option.some.inj hlast).symm
    · rw [if_neg ha, if_neg hv]
      exact h.nodeAt?_eq_some

/-- A draft that has exactly the listed records, in order, with edges where the records say. -/
structure Lists (g : Draft) (l : Listing) : Prop where
  simple : g.IsSimple
  located : Located g
  nodes_eq : g.nodes = l.nodes
  edges_eq : g.edges = l.edges
  ends_eq : ∀ {e v w r}, g.endpoints? e = some (v, w) → g.edge? e = some r →
    (g.node? v).map (·.address) = some r.source ∧ (g.node? w).map (·.address) = some r.target

/-- After the nodes a draft has no edges yet. -/
structure ListsNodes (g : Draft) (ns : List ListedNode) : Prop where
  simple : g.IsSimple
  located : Located g
  nodes_eq : g.nodes = ns
  arcs_eq : g.arcs = #[]

theorem listsNodes_step {ns : List ListedNode} (h : ListsNodes g ns)
    (hp : placeNode side g n = .ok g') : ListsNodes g' (ns ++ [n]) := by
  unfold placeNode at hp
  cases hn : g.nodeAt? n.address with
  | some v => simp [hn] at hp
  | none =>
    rw [hn] at hp
    cases hp
    refine ⟨Graph.isSimple_addNode h.simple n, h.located.withNode hn, ?_, h.arcs_eq⟩
    rw [← h.nodes_eq]
    exact Graph.nodes_addNode g.toGraph n

theorem lists_step {done : List ListedEdge} (h : Lists g { l with edges := done })
    (hp : placeEdge side g r = .ok g') : Lists g' { l with edges := done ++ [r] } := by
  unfold placeEdge at hp
  cases hv : g.nodeAt? r.source with
  | none => simp [hv] at hp
  | some v =>
    cases hw : g.nodeAt? r.target with
    | none => simp [hv, hw] at hp
    | some w =>
      cases hf : g.findEdge? v w with
      | some e => simp [hv, hw, hf] at hp
      | none =>
        simp only [hv, hw, hf, Except.ok.injEq] at hp
        subst g'
        refine ⟨Graph.isSimple_pushEdge h.simple (h.located.lt hv) (h.located.lt hw)
          ((Graph.findEdge?_eq_none h.simple).mp hf) r, ?_, ?_, ?_, ?_⟩
        · constructor
          intro a u
          rw [Graph.node?_pushEdge]
          exact h.located.nodeAt?_eq_some
        · rw [Graph.nodes_pushEdge, h.nodes_eq]
        · simp only [Graph.edges, Graph.arcs_pushEdge, List.map_append]
          rw [← Graph.edges, h.edges_eq]
          rfl
        · intro e v' w' r' he hr
          rw [Graph.endpoints?_pushEdge] at he
          rw [Graph.edge?_pushEdge] at hr
          rw [Graph.node?_pushEdge, Graph.node?_pushEdge]
          by_cases hlast : e = g.edgeCount
          · rw [if_pos hlast] at he hr
            cases he
            cases hr
            exact ⟨h.located.address_eq hv, h.located.address_eq hw⟩
          · rw [if_neg hlast] at he hr
            exact h.ends_eq he hr

theorem listsNodes_empty : ListsNodes empty [] := ⟨Graph.isSimple_empty, located_empty, rfl, rfl⟩

theorem ListsNodes.lists (h : ListsNodes g l.nodes) : Lists g { l with edges := [] } := by
  refine ⟨h.simple, h.located, h.nodes_eq, by simp [Graph.edges, h.arcs_eq], ?_⟩
  intro e v w r he
  simp [Graph.endpoints?, h.arcs_eq] at he

theorem listsNodes_foldlM (h : l.nodes.foldlM (placeNode side) empty = .ok g) :
    ListsNodes g l.nodes :=
  foldlM_ok_induction (P := fun done g => ListsNodes g done) listsNodes_step listsNodes_empty h

theorem lists_ofListing (h : ofListing side l = .ok g) : Lists g l := by
  unfold ofListing at h
  obtain ⟨g₀, hn, he⟩ := exists_of_bind_ok h
  exact foldlM_ok_induction (P := fun done g => Lists g { l with edges := done }) lists_step
    (listsNodes_foldlM hn).lists he

end Draft

namespace Matching
variable {m m' : Matching} {c : Comparison} {r : Pairing} {s t : Side} {u v w : NodeId}
  {p q : Partner} {e f : EdgeId}

theorem partnerAt_pairNode (m : Matching) (s t : Side) (u v : NodeId) (p : Partner) :
    partnerAt (m.pairNode s v p).partners t u =
      if t = s ∧ u = v ∧ v < (m.partners.get s).size then some p
      else partnerAt m.partners t u := by
  simp only [partnerAt, pairNode, PerSide.get_set]
  by_cases hs : t = s
  · subst hs
    simp only [if_true, true_and, Array.getElem?_setIfInBounds]
    by_cases hu : v = u
    · subst hu
      by_cases hv : v < (m.partners.get t).size <;> simp [hv]
    · simp [hu, Ne.symm hu]
  · simp [hs]

/-- A pairing is taken down only between two nodes that have no partner yet. -/
theorem pair_ok (h : m.pair r = .ok m') :
    ∃ v w, r.kind ≠ .unmatched ∧ m.drafts.primary.nodeAt? r.ends.primary = some v ∧
      m.drafts.secondary.nodeAt? r.ends.secondary = some w ∧
      partnerAt m.partners .primary v = none ∧ partnerAt m.partners .secondary w = none ∧
      m' = (m.pairNode .primary v ⟨w, r.kind⟩).pairNode .secondary w ⟨v, r.kind⟩ := by
  unfold pair at h
  split at h
  · cases h
  · rename_i hk
    cases hv : m.drafts.primary.nodeAt? r.ends.primary with
    | none => simp [hv] at h
    | some v =>
      cases hw : m.drafts.secondary.nodeAt? r.ends.secondary with
      | none => simp [hv, hw] at h
      | some w =>
        simp only [hv, hw] at h
        split at h
        · cases h
        · rename_i hp
          split at h
          · cases h
          · rename_i hs
            cases h
            exact ⟨v, w, hk, rfl, rfl, Option.not_isSome_iff_eq_none.mp hp,
              Option.not_isSome_iff_eq_none.mp hs, rfl⟩

/-- What holds once some pairings are taken down between drafts that stay as they are. -/
structure Paired (drafts : PerSide Draft) (done : List Pairing) (m : Matching) : Prop where
  drafts_eq : m.drafts = drafts
  size_eq : ∀ s, (m.partners.get s).size = (drafts.get s).nodeCount
  naming : Mutual m.partners
  /-- Partners are exactly what the pairings say. -/
  partner_iff : ∀ {v p}, partnerAt m.partners .primary v = some p ↔
    ∃ r ∈ done, drafts.primary.nodeAt? r.ends.primary = some v ∧
      drafts.secondary.nodeAt? r.ends.secondary = some p.index ∧ r.kind = p.kind
  resolved : ∀ r ∈ done, ∃ v w, drafts.primary.nodeAt? r.ends.primary = some v ∧
    drafts.secondary.nodeAt? r.ends.secondary = some w
  count_eq : m.partners.secondary.countP (·.isSome) = done.length

theorem paired_empty (drafts : PerSide Draft) : Paired drafts [] (empty drafts) := by
  have hnone : ∀ s i, partnerAt (empty drafts).partners s i = none := by
    intro s i
    simp only [partnerAt, empty, PerSide.get_map, Array.getElem?_replicate]
    split <;> rfl
  constructor
  · rfl
  · intro s
    simp [empty]
  · exact ⟨fun h => by simp [hnone] at h, fun h => by simp [hnone] at h⟩
  · intro v p
    simp [hnone]
  · simp
  · simp [empty, PerSide.map, Array.countP_replicate]

/-- The partners after a pairing: the new pair on both sides, and all others as before. -/
private theorem partnerAt_paired {drafts : PerSide Draft} {done : List Pairing}
    (h : Paired drafts done m) {k : MatchKind} (hv : v < drafts.primary.nodeCount)
    (hw : w < drafts.secondary.nodeCount) (s : Side) (u : NodeId) :
    partnerAt ((m.pairNode .primary v ⟨w, k⟩).pairNode .secondary w ⟨v, k⟩).partners s u =
      match s with
      | .primary => if u = v then some ⟨w, k⟩ else partnerAt m.partners .primary u
      | .secondary => if u = w then some ⟨v, k⟩ else partnerAt m.partners .secondary u := by
  have hp : v < (m.partners.get .primary).size := by
    rw [h.size_eq]
    exact hv
  have hs : w < (m.partners.get .secondary).size := by
    rw [h.size_eq]
    exact hw
  rw [partnerAt_pairNode, partnerAt_pairNode]
  cases s with
  | primary => simp [hp]
  | secondary =>
    have hs' : w < ((m.pairNode .primary v ⟨w, k⟩).partners.get .secondary).size := hs
    simp [hs']

private theorem countP_paired {k : MatchKind} (hw : w < m.partners.secondary.size)
    (hpw : partnerAt m.partners .secondary w = none) :
    ((m.pairNode .primary v ⟨w, k⟩).pairNode .secondary w ⟨v, k⟩).partners.secondary.countP
      (·.isSome) = m.partners.secondary.countP (·.isSome) + 1 := by
  have hslot : m.partners.secondary[w] = none := by
    have hget : m.partners.secondary[w]? = some (partnerAt m.partners .secondary w) :=
      getElem?_eq_partnerAt (s := .secondary) hw
    rw [hpw, Array.getElem?_eq_some_iff] at hget
    exact hget.2
  change (m.partners.secondary.setIfInBounds w (some ⟨v, k⟩)).countP _ = _
  rw [Array.setIfInBounds_def, dif_pos hw, Array.countP_set hw, hslot]
  simp

/-- One more pairing makes one more pair of partners. -/
private theorem partner_iff_paired {drafts : PerSide Draft} {done : List Pairing}
    (h : Paired drafts done m) (hv : drafts.primary.nodeAt? r.ends.primary = some v)
    (hw : drafts.secondary.nodeAt? r.ends.secondary = some w)
    (hpv : partnerAt m.partners .primary v = none) :
    (if u = v then some ⟨w, r.kind⟩ else partnerAt m.partners .primary u) = some p ↔
      ∃ r' ∈ done ++ [r], drafts.primary.nodeAt? r'.ends.primary = some u ∧
        drafts.secondary.nodeAt? r'.ends.secondary = some p.index ∧ r'.kind = p.kind := by
  constructor
  · intro hu
    split at hu
    · rename_i huv
      cases hu
      exact ⟨r, by simp, huv ▸ hv, hw, rfl⟩
    · obtain ⟨r', hr', hrest⟩ := h.partner_iff.mp hu
      exact ⟨r', List.mem_append_left _ hr', hrest⟩
  · rintro ⟨r', hr', hv', hw', hk'⟩
    rcases List.mem_append.mp hr' with hr' | hr'
    · have hold := h.partner_iff.mpr ⟨r', hr', hv', hw', hk'⟩
      rw [if_neg, hold]
      rintro rfl
      simp [hold] at hpv
    · cases List.mem_singleton.mp hr'
      cases Option.some.inj (hv.symm.trans hv')
      cases p
      cases Option.some.inj (hw.symm.trans hw')
      cases hk'
      exact if_pos rfl

theorem paired_step {drafts : PerSide Draft} {done : List Pairing}
    (hl : ∀ s, (drafts.get s).Located) (h : Paired drafts done m) (hp : m.pair r = .ok m') :
    Paired drafts (done ++ [r]) m' := by
  obtain ⟨v, w, hk, hv, hw, hpv, hpw, rfl⟩ := pair_ok hp
  rw [h.drafts_eq] at hv hw
  have hvlt : v < drafts.primary.nodeCount := (hl .primary).lt hv
  have hwlt : w < drafts.secondary.nodeCount := (hl .secondary).lt hw
  have hat := partnerAt_paired (k := r.kind) h hvlt hwlt
  constructor
  · exact h.drafts_eq
  · intro s
    rw [← h.size_eq s]
    cases s <;> simp [pairNode, PerSide.set, PerSide.get]
  · exact h.naming.insert hpv hpw hk hat
  · intro u p
    rw [hat]
    exact partner_iff_paired h hv hw hpv
  · intro r' hr'
    rcases List.mem_append.mp hr' with hr' | hr'
    · exact h.resolved r' hr'
    · cases List.mem_singleton.mp hr'
      exact ⟨v, w, hv, hw⟩
  · have hlt : w < m.partners.secondary.size := by
      have := h.size_eq .secondary
      exact this ▸ hwlt
    rw [countP_paired hlt hpw, h.count_eq, List.length_append, List.length_singleton]

theorem Paired.exists_nodeAt? {drafts : PerSide Draft} {done : List Pairing}
    (h : Paired drafts done m) (hr : r ∈ done) (s : Side) :
    ∃ v, (drafts.get s).nodeAt? (r.ends.get s) = some v := by
  obtain ⟨v, w, hv, hw⟩ := h.resolved r hr
  cases s with
  | primary => exact ⟨v, hv⟩
  | secondary => exact ⟨w, hw⟩

/-- Partners on either side are exactly what the pairings say. -/
theorem Paired.partnerAt_iff {drafts : PerSide Draft} {done : List Pairing}
    (h : Paired drafts done m) :
    partnerAt m.partners s v = some p ↔
      ∃ r ∈ done, (drafts.get s).nodeAt? (r.ends.get s) = some v ∧
        (drafts.get s.other).nodeAt? (r.ends.get s.other) = some p.index ∧
        r.kind = p.kind := by
  cases s with
  | primary => exact h.partner_iff
  | secondary =>
    constructor
    · intro hp
      obtain ⟨r, hr, hv, hw, hk⟩ := h.partner_iff.mp (h.naming.back hp)
      exact ⟨r, hr, hw, hv, hk⟩
    · rintro ⟨r, hr, hw, hv, hk⟩
      have hback : partnerAt m.partners .primary p.index = some ⟨v, p.kind⟩ :=
        h.partner_iff.mpr ⟨r, hr, hv, hw, hk⟩
      exact h.naming.back hback

end Matching

/-- What is known of the matching of an accepted comparison. -/
structure Comparison.Matched (c : Comparison) (m : Matching) : Prop where
  lists : ∀ s, (m.drafts.get s).Lists (c.sides.get s)
  paired : m.Paired m.drafts c.pairings

theorem Comparison.Matched.located {c : Comparison} {m : Matching} (h : c.Matched m) (s : Side) :
    (m.drafts.get s).Located := (h.lists s).located

theorem Comparison.matched_of_matching {c : Comparison} {m : Matching} (h : c.matching = .ok m) :
    c.Matched m := by
  unfold matching at h
  obtain ⟨p, hp, h⟩ := exists_of_bind_ok h
  obtain ⟨s, hs, h⟩ := exists_of_bind_ok h
  have hlists : ∀ t, ((PerSide.mk p s).get t).Lists (c.sides.get t) := by
    intro t
    cases t with
    | primary => exact Draft.lists_ofListing hp
    | secondary => exact Draft.lists_ofListing hs
  have hpaired : m.Paired ⟨p, s⟩ c.pairings :=
    foldlM_ok_induction (P := fun done m => Matching.Paired ⟨p, s⟩ done m)
      (Matching.paired_step fun t => (hlists t).located) (Matching.paired_empty ⟨p, s⟩) h
  constructor
  · rw [hpaired.drafts_eq]
    exact hlists
  · rw [hpaired.drafts_eq]
    exact hpaired

end GraphCompare
