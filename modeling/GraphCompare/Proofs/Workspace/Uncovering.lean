import GraphCompare.Proofs.Workspace.Selecting

/-! Expanding at one identity. It comes to be visible with all its neighbours, nothing that was
visible is hidden, and a marker that stood there has gone, because something it counted has come to
be visible. -/
namespace GraphCompare
variable {c : Comparison} {o : Overlay} {ls : Layers} {keep : Array Bool} {w w' : Workspace}
  {v : View} {i j id u a b : NodeId} {e : EdgeId}

namespace Overlay

/-- Joined by an edge of a view, in either direction. -/
def AdjacentIn (o : Overlay) (v : View) (a b : NodeId) : Prop :=
  match v.side? with
  | some s => (o.side s).graph.Adjacent a b
  | none => o.merged.Adjacent a b

theorem identityIn?_of_lt (hv : v.side? = none) (hi : i < o.merged.nodeCount) :
    o.identityIn? v i = some i := by
  simp [identityIn?, hv, hi]

/-- Nodes that an edge joins in a view have identities that an edge joins. -/
theorem Coherent.adjacentIn (hc : o.Coherent) (h : o.AdjacentIn v a b) :
    ∃ i j, o.identityIn? v a = some i ∧ o.identityIn? v b = some j ∧ o.merged.Adjacent i j := by
  unfold AdjacentIn at h
  cases hv : v.side? with
  | some s =>
    rw [hv] at h
    obtain ⟨i, j, hi, hj, hij⟩ := hc.adjacent h
    refine ⟨i, j, ?_, ?_, hij⟩
    · simp [identityIn?, hv, hi]
    · simp [identityIn?, hv, hj]
  | none =>
    rw [hv] at h
    have ha := h.symm.lt_right hc.merged_simple
    have hb := h.lt_right hc.merged_simple
    exact ⟨a, b, identityIn?_of_lt hv ha, identityIn?_of_lt hv hb, h⟩

theorem Coherent.adjacentIn_of_endpoints? (hc : o.Coherent) (h : o.endpoints? v e = some (a, b)) :
    ∃ i j, o.identityIn? v a = some i ∧ o.identityIn? v b = some j := by
  have hadjacent : o.AdjacentIn v a b := by
    unfold AdjacentIn
    unfold endpoints? at h
    split
    · rename_i s hv
      rw [hv] at h
      exact ⟨e, .inl h⟩
    · rename_i hv
      rw [hv] at h
      exact ⟨e, .inl h⟩
  obtain ⟨i, j, hi, hj, _⟩ := hc.adjacentIn hadjacent
  exact ⟨i, j, hi, hj⟩

end Overlay

namespace Layers

/-- In every view a node is shown just when its identity is kept. -/
theorem get_of_shown (hc : o.Coherent) (h : Shown o keep o.identities ls)
    (hi : o.identityIn? v u = some i) :
    (ls.get v).get (.node u) = keeps o keep (.node i) := by
  unfold Overlay.identityIn? at hi
  cases hv : v.side? with
  | some s =>
    obtain rfl := View.eq_of_side?_some hv
    rw [hv] at hi
    exact get_side_of_shown hc h hi
  | none =>
    rw [hv] at hi
    obtain ⟨hlt, rfl⟩ : u < o.merged.nodeCount ∧ u = i := by simpa using hi
    obtain ⟨x, hx⟩ := Graph.exists_node? hlt
    exact get_merged_of_shown (e := .node u) hc h hv hx

theorem get_eq_combined_of_shown (hc : o.Coherent) (h : Shown o keep o.identities ls)
    (hi : o.identityIn? v u = some i) : (ls.get v).get (.node u) = ls.combined.get (.node i) := by
  have hself := Overlay.identityIn?_of_lt (v := .combined) rfl (hc.lt_of_identityIn? hi)
  rw [get_of_shown hc h hi]
  exact (get_of_shown hc h hself).symm

/-- What a view shows has an identity that the combined view shows. -/
theorem combined_of_visible (hc : o.Coherent) (h : Derived o ls)
    (hu : (ls.get v).get (.node u) = true) :
    ∃ i, o.identityIn? v u = some i ∧ ls.combined.get (.node i) = true := by
  have hlt : u < o.nodeCount v := by
    by_contra hn
    rw [get_of_count_le (e := .node u) h.sized (Nat.le_of_not_lt hn)] at hu
    cases hu
  cases hv : v.side? with
  | some s =>
    obtain rfl := View.eq_of_side?_some hv
    obtain ⟨i, hi⟩ := Overlay.exists_identity? (s := s) (e := .node u) hlt
    obtain ⟨x, hx, hheld⟩ := hc.identified hi
    refine ⟨i, by simp [Overlay.identityIn?, hi], ?_⟩
    refine (h.flag_eq (v := .combined) rfl hx).trans ?_
    exact derived_iff.mpr ⟨s, u, hheld, hu⟩
  | none =>
    have hcount : u < o.merged.nodeCount := by simpa [Overlay.nodeCount, hv] using hlt
    obtain ⟨x, hx⟩ := Graph.exists_node? hcount
    refine ⟨u, Overlay.identityIn?_of_lt hv hcount, ?_⟩
    have hcombined := h.flag_eq (v := .combined) (e := .node u) rfl hx
    exact hcombined.trans ((h.flag_eq (e := .node u) hv hx).symm.trans hu)

/-- A marker stands at just those visible nodes of a view that have a hidden one next to them. -/
theorem mem_attached_iff (hc : o.Coherent) (ls : Layers) (v : View) :
    u ∈ ((ls.markers o).get v).map (·.attached) ↔
      (ls.get v).get (.node u) = true ∧
        ∃ b, o.AdjacentIn v u b ∧ (ls.get v).get (.node b) = false := by
  have hmarked := markedBy_markers hc ls v
  unfold MarkedBy at hmarked
  unfold Overlay.AdjacentIn
  cases hv : v.side? with
  | some s =>
    rw [hv] at hmarked
    exact hmarked.mem_attached_iff (hc.side_simple s)
  | none =>
    rw [hv] at hmarked
    exact hmarked.mem_attached_iff hc.merged_simple

end Layers

namespace Workspace

/-- What expanding at an identity leaves, beside the workspace before. -/
structure Uncovers (w : Workspace) (id : NodeId) (w' : Workspace) : Prop where
  overlay_eq : w'.overlay = w.overlay
  /-- The combined and the super view show what they have shown, with the identity and all that is
  adjacent to it. -/
  shown_iff : ∀ v i, v.side? = none →
    ((w'.layers.get v).get (.node i) = true ↔
      (w.layers.get v).get (.node i) = true ∨ i = id ∨ w.overlay.merged.Adjacent id i)
  kept : ∀ v u, (w.layers.get v).get (.node u) = true → (w'.layers.get v).get (.node u) = true
  near : ∀ v u i, w.overlay.identityIn? v u = some i → i = id ∨ w.overlay.merged.Adjacent id i →
    (w'.layers.get v).get (.node u) = true
  edge_iff : ∀ v e a b, w.overlay.endpoints? v e = some (a, b) →
    ∃ i j, w.overlay.identityIn? v a = some i ∧ w.overlay.identityIn? v b = some j ∧
      ((w'.layers.get v).get (.edge e) = true ↔
        w'.layers.combined.get (.node i) = true ∧ w'.layers.combined.get (.node j) = true)
  /-- Where a view had a marker at the identity, it hides fewer nodes and has no marker there. -/
  marked : ∀ v u, w.overlay.identityIn? v u = some id → u ∈ (w.markers.get v).map (·.attached) →
    (w'.layers.get v).hiddenCount .node < (w.layers.get v).hiddenCount .node ∧
      u ∉ (w'.markers.get v).map (·.attached)

theorem mem_markers_of_fresh (hf : Fresh w) (hu : u ∈ (w.markers.get v).map (·.attached)) :
    u ∈ ((w.layers.markers w.overlay).get v).map (·.attached) := by
  rcases hf with hnone | hmarkers
  · simp [hnone] at hu
  · rwa [← hmarkers]

section shown

variable (hc : w.overlay.Coherent) (h : Coupled w.overlay w)
  (hshown : Layers.Shown w.overlay (w.expanded id) w.overlay.identities ls)
include hc h hshown

/-- A view shows a node after the expansion if its identity was visible, or is near enough. -/
theorem get_expanded_iff (hi : w.overlay.identityIn? v u = some i) :
    (ls.get v).get (.node u) = true ↔
      i ∈ w.shownIds ∨ i = id ∨ w.overlay.merged.Adjacent id i := by
  rw [Layers.get_of_shown hc hshown hi]
  exact expanded_spec hc h (hc.lt_of_identityIn? hi)

theorem get_expanded_of_visible (hu : (w.layers.get v).get (.node u) = true) :
    (ls.get v).get (.node u) = true := by
  obtain ⟨i, hi, hcombined⟩ := Layers.combined_of_visible hc h.derived hu
  exact (get_expanded_iff hc h hshown hi).mpr (.inl hcombined)

/-- In the views that show identities themselves, nothing has to be looked up. -/
theorem get_merged_expanded_iff (hid : id < w.overlay.merged.nodeCount) (hv : v.side? = none) :
    (ls.get v).get (.node i) = true ↔
      (w.layers.get v).get (.node i) = true ∨ i = id ∨ w.overlay.merged.Adjacent id i := by
  by_cases hi : i < w.overlay.merged.nodeCount
  · obtain ⟨x, hx⟩ := Graph.exists_node? hi
    have hflag : (w.layers.get v).get (.node i) = w.layers.combined.get (.node i) :=
      (h.derived.flag_eq (e := .node i) hv hx).trans
        (h.derived.flag_eq (v := .combined) (e := .node i) rfl hx).symm
    rw [hflag]
    exact get_expanded_iff hc h hshown (Overlay.identityIn?_of_lt hv hi)
  · have hcount : w.overlay.nodeCount v ≤ i := by
      simpa [Overlay.nodeCount, hv] using Nat.le_of_not_lt hi
    rw [Layers.get_of_count_le (e := .node i) hshown.derived.sized hcount,
      Layers.get_of_count_le (e := .node i) h.derived.sized hcount]
    constructor
    · intro hfalse
      cases hfalse
    · rintro (hfalse | rfl | hadjacent)
      · exact hfalse
      · exact absurd hid hi
      · exact absurd (hadjacent.lt_right hc.merged_simple) hi

/-- A marker at the identity counted something that the expansion shows. -/
theorem hiddenCount_expanded_lt (hu : w.overlay.identityIn? v u = some id)
    (hmarker : u ∈ ((w.layers.markers w.overlay).get v).map (·.attached)) :
    (ls.get v).hiddenCount .node < (w.layers.get v).hiddenCount .node := by
  obtain ⟨_, b, hub, hhidden⟩ := (Layers.mem_attached_iff hc w.layers v).mp hmarker
  obtain ⟨i, j, hi, hj, hij⟩ := hc.adjacentIn hub
  obtain rfl : i = id := Option.some.inj (hi.symm.trans hu)
  have hsize : (w.layers.get v).nodes.size = (ls.get v).nodes.size :=
    (h.derived.sized v .node).trans (hshown.derived.sized v .node).symm
  refine Layer.hiddenCount_lt hsize ?_ hhidden ?_
  · intro k hk
    exact get_expanded_of_visible hc h hshown hk
  · exact (get_expanded_iff hc h hshown hj).mpr (.inr (.inr hij))

/-- Around the identity nothing is hidden any more. -/
theorem not_mem_attached_expanded (hu : w.overlay.identityIn? v u = some id) :
    u ∉ ((ls.markers w.overlay).get v).map (·.attached) := by
  intro hmarker
  obtain ⟨_, b, hub, hhidden⟩ := (Layers.mem_attached_iff hc ls v).mp hmarker
  obtain ⟨i, j, hi, hj, hij⟩ := hc.adjacentIn hub
  obtain rfl : i = id := Option.some.inj (hi.symm.trans hu)
  have hvisible := (get_expanded_iff hc h hshown hj).mpr (.inr (.inr hij))
  rw [hhidden] at hvisible
  cases hvisible

end shown

theorem uncovers_of_shown (hc : w.overlay.Coherent) (h : Coupled w.overlay w) (hf : Fresh w)
    (hid : id < w.overlay.merged.nodeCount)
    (hshown : Layers.Shown w.overlay (w.expanded id) w.overlay.identities w'.layers)
    (hstate : w' = { w with
      layers := w'.layers
      markers := w'.layers.markers w.overlay }) : Uncovers w id w' where
  overlay_eq := by rw [hstate]
  shown_iff _ _ hv := get_merged_expanded_iff hc h hshown hid hv
  kept _ _ hu := get_expanded_of_visible hc h hshown hu
  near _ _ _ hi hnear := (get_expanded_iff hc h hshown hi).mpr (.inr hnear)
  edge_iff := by
    intro v e a b hends
    obtain ⟨i, j, hi, hj⟩ := hc.adjacentIn_of_endpoints? hends
    refine ⟨i, j, hi, hj, ?_⟩
    rw [Layers.edge_of_shown hc hshown hends, Bool.and_eq_true,
      Layers.get_eq_combined_of_shown hc hshown hi, Layers.get_eq_combined_of_shown hc hshown hj]
  marked := by
    intro v u hu hmarker
    refine ⟨hiddenCount_expanded_lt hc h hshown hu (mem_markers_of_fresh hf hmarker), ?_⟩
    have hmarkers : w'.markers = w'.layers.markers w.overlay := by rw [hstate]
    rw [hmarkers]
    exact not_mem_attached_expanded hc h hshown hu

theorem reveal_of_unknown (hid : ¬ id < w.overlay.merged.nodeCount) :
    w.reveal id = .error (.unknownElement .combined .node id) := by
  unfold reveal
  exact if_neg hid

/-- Expanding at an identity succeeds if it exists, shows it with its neighbours and hides nothing;
otherwise it fails without a trace. -/
theorem uncovers_reachable (hw : Reachable c w) :
    (∀ id < w.overlay.merged.nodeCount, ∃ out, w.reveal id = .ok out ∧ Uncovers w id out.state) ∧
    ∀ id, ¬ id < w.overlay.merged.nodeCount →
      w.perform (.reveal id) = .still w (.error (.unknownElement .combined .node id)) := by
  obtain ⟨o, _, hc, h⟩ := exists_coupled hw
  obtain rfl := h.overlay_eq
  constructor
  · intro id hid
    obtain ⟨out, hok, hshown, hstate, _⟩ := reveal_ok hc h hid
    exact ⟨out, hok, uncovers_of_shown hc h (fresh_reachable hw) hid hshown hstate⟩
  · intro id hid
    rw [perform, reveal_of_unknown hid]
    rfl

/-- A node that was hidden by hand on one side alone is next to one that is expanded. -/
theorem uncovers_sample : ∃ w out, Reachable .sample w ∧ w.markers.primary = [⟨1, 1⟩] ∧
    w.overlay.identityIn? .primary 1 = some 1 ∧ w.reveal 1 = .ok out ∧ Uncovers w 1 out.state ∧
    w.perform (.reveal 4) = .still w (.error (.unknownElement .combined .node 4)) := by
  obtain ⟨w, hw, hrun⟩ := exists_sample_run {}
    [.setVisible .primary (.node 2) false, .reveal 0]
    (p := fun w => w.markers.primary = [⟨1, 1⟩] ∧ w.overlay.identityIn? .primary 1 = some 1 ∧
      w.overlay.merged.nodeCount = 4) (by decide +kernel)
  obtain ⟨hmarkers, hidentity, hcount⟩ := of_decide_eq_true hrun
  obtain ⟨hknown, hunknown⟩ := uncovers_reachable hw
  obtain ⟨out, hok, huncovers⟩ := hknown 1 (by rw [hcount]; decide)
  exact ⟨w, out, hw, hmarkers, hidentity, hok, huncovers, hunknown 4 (by rw [hcount]; decide)⟩

end Workspace

end GraphCompare
