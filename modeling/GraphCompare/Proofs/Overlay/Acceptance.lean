import GraphCompare.Proofs.Comparison.Reporting
import GraphCompare.Proofs.Overlay.Matching

/-! Which comparisons are accepted. Placing the records one by one stops at the first record that
has a fault, with that fault. -/
namespace GraphCompare

section refusal
variable {α β σ ε : Type} {x : Except ε α} {e : ε}

/-- The error of a computation that fails. -/
def refusal? : Except ε α → Option ε
  | .error e => some e
  | .ok _ => none

@[simp] theorem refusal?_error : refusal? (.error e : Except ε α) = some e := rfl

@[simp] theorem refusal?_ok {a : α} : refusal? (.ok a : Except ε α) = none := rfl

theorem refusal?_eq_some : refusal? x = some e ↔ x = .error e := by
  cases x <;> simp

theorem refusal?_eq_none : refusal? x = none ↔ ∃ a, x = .ok a := by
  cases x <;> simp

theorem refusal?_bind {f : α → Except ε β} {d : Option ε}
    (h : ∀ {a}, x = .ok a → refusal? (f a) = d) : refusal? (x >>= f) = (refusal? x).or d := by
  cases x with
  | error e => rfl
  | ok a => exact h rfl

/-- A fold whose steps fail with the faults of their records fails with the first of these. -/
theorem refusal?_foldlM {c : Comparison} {f : σ → α → Except Defect σ} {P : List α → σ → Prop}
    {g : α → Record} {earlier : List Record} {start : σ}
    (step : ∀ {done s a s'}, P done s → f s a = .ok s' → P (done ++ [a]) s')
    (fault : ∀ {done s a}, P done s → refusal? (f s a) = c.fault? (earlier ++ done.map g) (g a))
    (h : P [] start) (l : List α) :
    refusal? (l.foldlM f start) = c.firstFault? earlier (l.map g) := by
  -- From the end, as a record is judged by all those before it.
  induction l using List.reverseRecOn with
  | nil => rfl
  | append_singleton l a ih =>
    rw [List.foldlM_append, List.map_append, List.map_singleton, Comparison.firstFault?_concat,
      ← ih]
    apply refusal?_bind
    intro s hs
    have hP : P l s := by simpa using foldlM_ok_induction step h hs
    rw [List.foldlM_cons, refusal?_bind (d := none), fault hP, Option.or_none]
    intro s' _
    rfl

end refusal

namespace Draft
variable {c : Comparison} {g : Draft} {l : Listing} {s : Side} {earlier : List Record}
  {a b : Address} {v w : NodeId} {n : ListedNode} {e : ListedEdge}

theorem Located.nodeAt?_isSome (h : Located g) :
    (g.nodeAt? a).isSome ↔ ∃ n ∈ g.nodes, n.address = a := by
  rw [Option.isSome_iff_ne_none, ne_eq, h.nodeAt?_eq_none]
  push Not
  rfl

/-- The addresses that lead to a node are those that the side names. -/
theorem Located.names_iff (h : Located g) (hn : g.nodes = (c.sides.get s).nodes) :
    c.Names s a ↔ (g.nodeAt? a).isSome := by
  rw [h.nodeAt?_isSome, hn]
  rfl

/-- Between two listed nodes there is an edge exactly when a record of it is among the edges. -/
theorem Lists.findEdge?_isSome (h : Lists g l) (hv : g.nodeAt? a = some v)
    (hw : g.nodeAt? b = some w) :
    (g.findEdge? v w).isSome ↔ ∃ e ∈ l.edges, e.source = a ∧ e.target = b := by
  constructor
  · intro hf
    obtain ⟨i, hi⟩ := Option.isSome_iff_exists.mp hf
    have hends := (Graph.findEdge?_eq_some h.simple).mp hi
    obtain ⟨e, he⟩ := Graph.exists_edge? (Graph.lt_of_endpoints? hends)
    obtain ⟨hsource, htarget⟩ := h.ends_eq hends he
    rw [h.located.address_eq hv] at hsource
    rw [h.located.address_eq hw] at htarget
    rw [Graph.edge?_eq_getElem?, h.edges_eq] at he
    exact ⟨e, List.mem_of_getElem? he, (Option.some.inj hsource).symm,
      (Option.some.inj htarget).symm⟩
  · rintro ⟨e, he, rfl, rfl⟩
    rw [← h.edges_eq] at he
    obtain ⟨i, hi⟩ := List.mem_iff_getElem?.mp he
    rw [← Graph.edge?_eq_getElem?] at hi
    obtain ⟨v', w', hends⟩ := Graph.exists_endpoints? (Graph.lt_of_edge? hi)
    obtain ⟨hsource, htarget⟩ := h.ends_eq hends hi
    rw [← h.located.nodeAt?_eq_some, hv] at hsource
    rw [← h.located.nodeAt?_eq_some, hw] at htarget
    cases hsource
    cases htarget
    rw [(Graph.findEdge?_eq_some h.simple).mpr hends]
    rfl

theorem refusal?_placeNode (he : ∀ {a}, earlier.any (·.isNode s a) = false) (h : Located g) :
    refusal? (placeNode s g n) = c.fault? (earlier ++ g.nodes.map (.node s)) (.node s n) := by
  simp only [placeNode, Comparison.fault?, Record.any_append_map he, Record.isNode_node,
    true_and, ← h.nodeAt?_isSome]
  cases g.nodeAt? n.address <;> rfl

theorem refusal?_placeEdge {done : List ListedEdge}
    (he : ∀ {a b}, earlier.any (·.isEdge s a b) = false)
    (h : Lists g { c.sides.get s with edges := done }) :
    refusal? (placeEdge s g e) = c.fault? (earlier ++ done.map (.edge s)) (.edge s e) := by
  simp only [placeEdge, Comparison.fault?, Record.any_append_map he, Record.isEdge_edge,
    true_and, h.located.names_iff h.nodes_eq]
  cases hv : g.nodeAt? e.source with
  | none => rfl
  | some v =>
    cases hw : g.nodeAt? e.target with
    | none => rfl
    | some w =>
      simp only [← h.findEdge?_isSome hv hw]
      cases g.findEdge? v w <;> rfl

theorem refusal?_ofListing (h : Record.Lacks s earlier) :
    refusal? (ofListing s (c.sides.get s)) =
      c.firstFault? earlier ((c.sides.get s).records s) := by
  have hnodes : ∀ l : List ListedNode, refusal? (l.foldlM (placeNode s) empty) =
      c.firstFault? earlier (l.map (.node s)) := by
    apply refusal?_foldlM (P := fun done g => ListsNodes g done) listsNodes_step
    · intro done g n hg
      rw [← hg.nodes_eq]
      exact refusal?_placeNode h.node hg.located
    · exact listsNodes_empty
  rw [Listing.records, Comparison.firstFault?_append, ← hnodes, ofListing]
  apply refusal?_bind
  intro g hg
  apply refusal?_foldlM (P := fun done g => Lists g { c.sides.get s with edges := done }) lists_step
  · exact refusal?_placeEdge (Record.any_isEdge_append_nodes h.edge _)
  · exact (listsNodes_foldlM hg).lists

end Draft

namespace Matching
variable {m : Matching} {c : Comparison} {drafts : PerSide Draft} {done : List Pairing}
  {r : Pairing} {s : Side} {a : Address} {v : NodeId} {earlier : List Record}

/-- A node has a partner exactly when a pairing names it. -/
theorem Paired.isSome_partner? (h : Paired drafts done m) (hl : ∀ s, (drafts.get s).Located)
    (hv : (drafts.get s).nodeAt? a = some v) :
    (m.partner? s v).isSome ↔ ∃ r ∈ done, r.ends.get s = a := by
  change (partnerAt m.partners s v).isSome ↔ _
  constructor
  · intro hp
    obtain ⟨p, hp⟩ := Option.isSome_iff_exists.mp hp
    obtain ⟨r, hr, hrv, -⟩ := h.partnerAt_iff.mp hp
    have haddress := ((hl s).address_eq hrv).symm.trans ((hl s).address_eq hv)
    exact ⟨r, hr, Option.some.inj haddress⟩
  · rintro ⟨r, hr, rfl⟩
    obtain ⟨w, hw⟩ := h.exists_nodeAt? hr s.other
    have hp : partnerAt m.partners s v = some ⟨w, r.kind⟩ :=
      h.partnerAt_iff.mpr ⟨r, hr, hv, hw, rfl⟩
    rw [hp]
    rfl

theorem refusal?_pair (he : ∀ {s a}, earlier.any (·.pairs s a) = false)
    (hl : ∀ s, (drafts.get s).Lists (c.sides.get s)) (h : Paired drafts done m) :
    refusal? (m.pair r) = c.fault? (earlier ++ done.map .pairing) (.pairing r) := by
  have hlocated : ∀ s, (drafts.get s).Located := fun s => (hl s).located
  simp only [pair, Comparison.fault?, Record.any_append_map he, Record.pairs_pairing,
    (hl _).located.names_iff (hl _).nodes_eq, h.drafts_eq]
  by_cases hk : r.kind = .unmatched
  · simp [hk]
  · rw [if_neg hk, if_neg hk]
    cases hv : drafts.primary.nodeAt? r.ends.primary with
    | none => simp [PerSide.get, hv]
    | some v =>
      cases hw : drafts.secondary.nodeAt? r.ends.secondary with
      | none => simp [PerSide.get, hv, hw]
      | some w =>
        have hprimary : (m.partner? .primary v).isSome ↔
            ∃ q ∈ done, q.ends.primary = r.ends.primary :=
          h.isSome_partner? (s := .primary) hlocated hv
        have hsecondary : (m.partner? .secondary w).isSome ↔
            ∃ q ∈ done, q.ends.secondary = r.ends.secondary :=
          h.isSome_partner? (s := .secondary) hlocated hw
        simp [PerSide.get, hv, hw, ← hprimary, ← hsecondary, apply_ite refusal?]

end Matching

theorem Comparison.refusal?_matching (c : Comparison) :
    refusal? c.matching = c.firstFault? [] c.records := by
  have hprimary := Draft.refusal?_ofListing (c := c) (s := .primary) Record.lacks_nil
  have hsecondary := Draft.refusal?_ofListing (c := c) (s := .secondary)
    (Listing.lacks_records (l := c.sides.primary) (t := .primary) (by decide))
  rw [firstFault?_records, Option.or_assoc]
  refine (refusal?_bind ?_).trans (congrArg (Option.or · _) hprimary)
  intro p hp
  refine (refusal?_bind ?_).trans (congrArg (Option.or · _) hsecondary)
  intro s hs
  -- The pairings look up their nodes in the drafts, which list what the sides do.
  have hlists : ∀ side, ((PerSide.mk p s).get side).Lists (c.sides.get side) :=
    Side.forall_iff.mpr ⟨Draft.lists_ofListing hp, Draft.lists_ofListing hs⟩
  apply refusal?_foldlM (P := fun done m => Matching.Paired ⟨p, s⟩ done m)
    (Matching.paired_step fun side => (hlists side).located)
  · exact Matching.refusal?_pair any_pairs_sides hlists
  · exact Matching.paired_empty ⟨p, s⟩

namespace Overlay

/-- A comparison is accepted exactly when it is valid. Otherwise it is refused with the fault of its
first record that has one, and the message reports this record and its fault. -/
theorem ofComparison_accepts (c : Comparison) :
    ((∃ o, ofComparison c = .ok o) ↔ c.Valid) ∧
      (∀ f, ofComparison c = .error f ↔ ∃ d, c.FirstDefect d ∧ f = .invalidComparison d) ∧
      ∀ r d, c.FirstFault r d → Reports (Failure.invalidComparison d).message r d := by
  refine ⟨?_, ?_, ?_⟩
  · rw [Comparison.valid_iff, ← Comparison.refusal?_matching, refusal?_eq_none, ofComparison]
    cases c.matching <;> simp
  · intro f
    simp only [Comparison.firstDefect_iff, ← Comparison.refusal?_matching, refusal?_eq_some]
    rw [ofComparison]
    cases c.matching <;> simp [eq_comm]
  · rintro r d ⟨earlier, rest, -, -, hfault⟩
    exact reports_of_fault? hfault

end Overlay

end GraphCompare
