import GraphCompare.Proofs.Graph.Walk
import GraphCompare.Proofs.Workspace.Run

/-! Collapsing leaves exactly the neighbourhood of the focus, whatever was shown before. -/
namespace GraphCompare
variable {c : Comparison} {o : Overlay} {w w' : Workspace} {focus focus' : List NodeId} {i : NodeId}
  {depths : Browsing} {l : Layer}

/-- Within the child depth along edges from the focus, or within the parent depth against them. -/
def Overlay.Near (o : Overlay) (depths : Browsing) (focus : List NodeId) (i : NodeId) : Prop :=
  (∃ f ∈ focus, ∃ k ≤ depths.childDepth.toNat, o.merged.Walk k f i) ∨
    ∃ f ∈ focus, ∃ k ≤ depths.parentDepth.toNat, o.merged.Walk k i f

namespace Layer

theorem nodes_eq_map_get (l : Layer) :
    l.nodes.toList = (List.range l.nodes.size).map fun i => l.get (.node i) := by
  apply List.ext_getElem?
  intro i
  rw [List.getElem?_map, Array.getElem?_toList]
  by_cases hi : i < l.nodes.size
  · simp [get, flags, Element.kind, Element.index, hi]
  · simp [Nat.le_of_not_lt hi]

theorem hiddenCount_eq (l : Layer) :
    l.hiddenCount .node = (List.range l.nodes.size).countP fun i => !l.get (.node i) := by
  change l.nodes.count false = _
  rw [← Array.count_toList, nodes_eq_map_get, List.count, List.countP_map]
  apply List.countP_congr
  intro i _
  simp

theorem visible_add_hidden (l : Layer) :
    (List.range l.nodes.size).countP (fun i => l.get (.node i)) + l.hiddenCount .node =
      l.nodes.size := by
  rw [hiddenCount_eq]
  have h := List.length_eq_countP_add_countP (l := List.range l.nodes.size) fun i => l.get (.node i)
  simp only [List.length_range, Bool.not_eq_true, Bool.decide_eq_false] at h
  exact h.symm

end Layer

namespace Workspace

theorem size_nearby (hg : w.overlay.merged.IsSimple) (focus : List NodeId) :
    (w.nearby focus).size = w.overlay.merged.nodeCount := by
  simp [nearby, Graph.size_depths hg]

/-- What is kept is the neighbourhood, counted in edges. -/
theorem nearby_spec (hg : w.overlay.merged.IsSimple) (hi : i < w.overlay.merged.nodeCount) :
    ((w.nearby focus)[i]?).getD false = true ↔
      w.overlay.Near w.settings.browsing focus i := by
  have hsome : ∀ dir limit, ∃ d, (w.overlay.merged.depths focus dir limit)[i]? = some d ∧
      (d.isSome ↔ ∃ f ∈ focus, ∃ k ≤ limit, w.overlay.merged.WalkAlong k f i dir) := by
    intro dir limit
    have hlt : i < (w.overlay.merged.depths focus dir limit).size := by
      rw [Graph.size_depths hg]
      exact hi
    obtain ⟨d, hd⟩ : ∃ d, (w.overlay.merged.depths focus dir limit)[i]? = some d :=
      ⟨_, Array.getElem?_eq_getElem hlt⟩
    refine ⟨d, hd, ?_⟩
    rw [← Graph.depths_isSome_of_lt hg hi, hd]
    rfl
  obtain ⟨d, hd, hdown⟩ := hsome .outgoing w.settings.browsing.childDepth.toNat
  obtain ⟨u, hu, hup⟩ := hsome .incoming w.settings.browsing.parentDepth.toNat
  simp only [nearby, Array.getElem?_zipWith, hd, hu, Option.getD_some, Bool.or_eq_true]
  exact or_congr hdown hup

theorem near_congr (hmem : ∀ id, id ∈ focus' ↔ id ∈ focus) :
    o.Near depths focus' i ↔ o.Near depths focus i := by
  simp only [Overlay.Near, hmem]

/-- What is kept depends on the overlay, the depths and the members of the focus alone. -/
theorem nearby_congr (hg : w.overlay.merged.IsSimple) (hoverlay : w'.overlay = w.overlay)
    (hchild : w'.settings.browsing.childDepth = w.settings.browsing.childDepth)
    (hparent : w'.settings.browsing.parentDepth = w.settings.browsing.parentDepth)
    (hmem : ∀ id, id ∈ focus' ↔ id ∈ focus) : w'.nearby focus' = w.nearby focus := by
  have hg' : w'.overlay.merged.IsSimple := hoverlay ▸ hg
  have hsize : (w'.nearby focus').size = (w.nearby focus).size := by
    rw [size_nearby hg, size_nearby hg', hoverlay]
  apply Array.ext hsize
  intro i hi hi'
  have hlt : i < w.overlay.merged.nodeCount := size_nearby hg focus ▸ hi'
  have h : ((w.nearby focus)[i]?).getD false = true ↔ _ := nearby_spec hg hlt
  have h' : ((w'.nearby focus')[i]?).getD false = true ↔ _ :=
    nearby_spec hg' (hoverlay.symm ▸ hlt)
  have hnear : w'.overlay.Near w'.settings.browsing focus' i ↔
      w.overlay.Near w.settings.browsing focus i := by
    rw [near_congr hmem, hoverlay]
    simp only [Overlay.Near, hchild, hparent]
  rw [Array.getElem?_eq_getElem hi', Option.getD_some] at h
  rw [Array.getElem?_eq_getElem hi, Option.getD_some] at h'
  rw [Bool.eq_iff_iff, h, h', hnear]

/-- Around a focus of identities that exist, collapsing cannot fail. -/
theorem collapse_ok (hc : o.Coherent) (h : Coupled o w) (hne : focus ≠ [])
    (hin : ∀ id ∈ focus, id < w.overlay.merged.nodeCount) :
    ∃ out, w.collapse focus = .ok out ∧
      Layers.Shown o (w.nearby focus) o.identities out.state.layers ∧
      out.state = { w with
        layers := out.state.layers
        markers := out.state.layers.markers w.overlay } ∧
      out.result = out.state.counts := by
  obtain ⟨out, hok, hspec⟩ := exists_showOnly hc h (w.nearby focus)
  rw [← h.overlay_eq] at hspec ⊢
  have hfind : focus.find? (fun id => !decide (id < w.overlay.merged.nodeCount)) = none := by
    rw [List.find?_eq_none]
    intro id hid
    simp [hin id hid]
  have hcollapse : w.collapse focus = w.showOnly (w.nearby focus) := by
    unfold collapse
    rw [if_neg (by simpa using hne), hfind]
  exact ⟨out, hcollapse.trans hok, hspec⟩

/-- What collapsing around a focus leaves, and what it answers. -/
structure Collapsed (w : Workspace) (focus : List NodeId) (out : Outcome Workspace Counts) :
    Prop where
  overlay_eq : out.state.overlay = w.overlay
  node_iff : ∀ v i, v.side? = none → i < w.overlay.merged.nodeCount →
    ((out.state.layers.get v).get (.node i) = true ↔ w.overlay.Near w.settings.browsing focus i)
  held_iff : ∀ i x s u, w.overlay.merged.node? i = some x → x.holders.get s = some u →
    ((out.state.layers.get s.view).get (.node u) = true ↔
      w.overlay.Near w.settings.browsing focus i)
  edge_iff : ∀ v e a b, w.overlay.endpoints? v e = some (a, b) →
    ((out.state.layers.get v).get (.edge e) = true ↔
      (out.state.layers.get v).get (.node a) = true ∧ (out.state.layers.get v).get (.node b) = true)
  visible_eq : out.result.visible =
    (List.range w.overlay.merged.nodeCount).countP fun i => out.state.layers.combined.get (.node i)
  hidden_eq : out.result.hidden =
    (List.range w.overlay.merged.nodeCount).countP fun i => !out.state.layers.combined.get (.node i)
  /-- The markers are those that belong to the flags. -/
  markers_of : out.state.markers = out.state.layers.markers w.overlay
  markers_eq : out.result.markers = out.state.markers.combined.length

theorem collapsed_of_shown {out : Outcome Workspace Counts} (hc : w.overlay.Coherent)
    (hshown : Layers.Shown w.overlay (w.nearby focus) w.overlay.identities out.state.layers)
    (hstate : out.state = { w with
      layers := out.state.layers
      markers := out.state.layers.markers w.overlay })
    (hresult : out.result = out.state.counts) : Collapsed w focus out where
  overlay_eq := by rw [hstate]
  node_iff := by
    intro v i hv hi
    obtain ⟨x, hx⟩ := Graph.exists_node? hi
    rw [Layers.get_merged_of_shown (e := .node i) hc hshown hv hx]
    exact nearby_spec hc.merged_simple hi
  held_iff := by
    intro i x s u hx hu
    have hid := hc.holds (e := .node i) hx hu
    have hi := Graph.lt_of_node? hx
    have hflag := Layers.get_side_of_shown hc hshown hid
    change (out.state.layers.get s.view).get (.node u) = _ at hflag
    rw [hflag]
    exact nearby_spec hc.merged_simple hi
  edge_iff := by
    intro v e a b he
    rw [Layers.edge_of_shown hc hshown he, Bool.and_eq_true]
  visible_eq := by
    have hsize : out.state.layers.combined.nodes.size = w.overlay.merged.nodeCount :=
      hshown.derived.sized .combined .node
    have htotal := out.state.layers.combined.visible_add_hidden
    rw [hsize] at htotal
    have hoverlay : out.state.overlay = w.overlay := by rw [hstate]
    rw [hresult, counts, hoverlay]
    change w.overlay.merged.nodeCount - _ = _
    omega
  hidden_eq := by
    have hsize : out.state.layers.combined.nodes.size = w.overlay.merged.nodeCount :=
      hshown.derived.sized .combined .node
    rw [hresult, counts, ← hsize]
    exact Layer.hiddenCount_eq _
  markers_of := by rw [hstate]
  markers_eq := by
    rw [hresult]
    rfl

/-- Two workspaces over one overlay come to show the same when they are collapsed around the same
identities. -/
theorem collapse_congr {out : Outcome Workspace Counts} (hc : o.Coherent) (h : Coupled o w)
    (h' : Coupled o w') (hok : w.collapse focus = .ok out) (hne : focus ≠ [])
    (hin : ∀ id ∈ focus, id < w.overlay.merged.nodeCount)
    (hchild : w'.settings.browsing.childDepth = w.settings.browsing.childDepth)
    (hparent : w'.settings.browsing.parentDepth = w.settings.browsing.parentDepth)
    (hmem : ∀ id, id ∈ focus' ↔ id ∈ focus) :
    ∃ out', w'.collapse focus' = .ok out' ∧ out'.state.layers = out.state.layers ∧
      out'.state.markers = out.state.markers ∧ out'.result = out.result := by
  have hsame : w'.overlay = w.overlay := h'.overlay_eq.trans h.overlay_eq.symm
  have hne' : focus' ≠ [] := by
    rintro rfl
    obtain ⟨id, hid⟩ := List.exists_mem_of_ne_nil focus hne
    exact List.not_mem_nil ((hmem id).mpr hid)
  have hin' : ∀ id ∈ focus', id < w'.overlay.merged.nodeCount := by
    intro id hid
    rw [hsame]
    exact hin id ((hmem id).mp hid)
  obtain ⟨out₁, hok₁, hshown, hstate, hresult⟩ := collapse_ok hc h hne hin
  obtain ⟨out', hok', hshown', hstate', hresult'⟩ := collapse_ok hc h' hne' hin'
  cases Except.ok.inj (hok₁.symm.trans hok)
  have hkeep : w'.nearby focus' = w.nearby focus :=
    nearby_congr (h.overlay_eq.symm ▸ hc.merged_simple) hsame hchild hparent hmem
  rw [hkeep] at hshown'
  have hlayers := Layers.shown_unique hc hshown' hshown
  have hmarkers : out'.state.markers = out.state.markers := by
    rw [hstate, hstate', hlayers, hsame]
  have hoverlay : out.state.overlay = w.overlay := by rw [hstate]
  refine ⟨out', hok', hlayers, hmarkers, ?_⟩
  rw [hresult, hresult', counts, counts, hlayers, hmarkers, hoverlay, hstate', hsame]

/-- Collapsing a reachable workspace around identities that exist succeeds and shows exactly their
neighbourhood. Neither what was visible before nor the order of the focus matters. -/
theorem collapse_neighborhood (hw : Reachable c w) (hne : focus ≠ [])
    (hin : ∀ id ∈ focus, id < w.overlay.merged.nodeCount) :
    ∃ out, w.collapse focus = .ok out ∧ Collapsed w focus out ∧
      ∀ w' focus', Reachable c w' →
        w'.settings.browsing.childDepth = w.settings.browsing.childDepth →
        w'.settings.browsing.parentDepth = w.settings.browsing.parentDepth →
        (∀ id, id ∈ focus' ↔ id ∈ focus) →
        ∃ out', w'.collapse focus' = .ok out' ∧ out'.state.layers = out.state.layers ∧
          out'.state.markers = out.state.markers ∧ out'.result = out.result := by
  obtain ⟨o, ho, hc, h⟩ := exists_coupled hw
  obtain ⟨out, hok, hshown, hstate, hresult⟩ := collapse_ok hc h hne hin
  refine ⟨out, hok, ?_, ?_⟩
  · rw [← h.overlay_eq] at hc hshown
    exact collapsed_of_shown hc hshown hstate hresult
  · intro w' focus' hw' hchild hparent hmem
    obtain ⟨o', ho', _, h'⟩ := exists_coupled hw'
    cases Except.ok.inj (ho'.symm.trans ho)
    exact collapse_congr hc h h' hok hne hin hchild hparent hmem

theorem collapse_neighborhood_sample : ∃ w out, Reachable .sample w ∧
    w.collapse [3, 2, 3] = .ok out ∧ Collapsed w [3, 2, 3] out := by
  obtain ⟨o, ho, hcount⟩ := Overlay.exists_sample
  have hw : Reachable .sample ((new o {}).run [.setVisible .primary (.edge 2) false]) :=
    ⟨o, {}, _, ho, rfl⟩
  obtain ⟨o', ho', _, h⟩ := exists_coupled hw
  cases Except.ok.inj (ho'.symm.trans ho)
  have hin : ∀ id ∈ [3, 2, 3], id <
      ((new o {}).run [.setVisible .primary (.edge 2) false]).overlay.merged.nodeCount := by
    rw [h.overlay_eq, hcount]
    decide
  obtain ⟨out, hok, hcollapsed, _⟩ := collapse_neighborhood hw (by decide) hin
  exact ⟨_, out, hw, hok, hcollapsed⟩

end Workspace

end GraphCompare
