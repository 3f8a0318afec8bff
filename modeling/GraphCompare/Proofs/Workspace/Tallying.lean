import GraphCompare.Proofs.Workspace.Uncovering

/-! Markers across the views. Once the sides show what the combined view shows, all that is hidden
around an identity is hidden around a node that some side holds of it, so that the counts of the
markers go together. -/
namespace GraphCompare
variable {N E : Type} {g : Graph N E} {c : Comparison} {o : Overlay} {l : Layer} {ls : Layers}
  {ms : List Marker} {x : Merged} {w w' : Workspace} {focus : List NodeId} {s : Side}
  {i j id u v : NodeId}

namespace Layer

/-- The nodes that a marker counts. -/
def hiddenNear (l : Layer) (g : Graph N E) (v : NodeId) : Finset NodeId :=
  (l.hiddenNeighbors g v).toFinset

theorem mem_hiddenNear (hg : g.IsSimple) :
    u ∈ l.hiddenNear g v ↔ u ≠ v ∧ g.Adjacent v u ∧ l.get (.node u) = false := by
  simp [hiddenNear, hiddenNeighbors, Graph.mem_neighbors_iff hg, and_assoc]

theorem card_hiddenNear (hg : g.IsSimple) (l : Layer) (v : NodeId) :
    (l.hiddenNear g v).card = l.hiddenAround g v := by
  have hnodup : (l.hiddenNeighbors g v).Nodup := (g.nodup_neighbors v).filter _
  rw [hiddenNear, List.toFinset_card_of_nodup hnodup, length_hiddenNeighbors hg]

end Layer

namespace Marker

/-- What the marker at a node counts; where there is none, nothing. -/
def countAt (ms : List Marker) (v : NodeId) : Nat :=
  ((ms.find? (·.attached = v)).map (·.hiddenNeighbors)).getD 0

theorem countAt_of_markedBy (h : l.MarkedBy g ms) (v : NodeId) :
    countAt ms v = if l.get (.node v) = true then l.hiddenAround g v else 0 := by
  unfold countAt
  cases hfind : ms.find? (·.attached = v) with
  | some m =>
    obtain rfl : m.attached = v := by simpa using List.find?_some hfind
    obtain ⟨hvisible, _, hcount⟩ := (h.mem_iff m).mp (List.mem_of_find?_eq_some hfind)
    rw [if_pos hvisible]
    exact hcount
  | none =>
    rw [List.find?_eq_none] at hfind
    split
    · rename_i hvisible
      by_contra hne
      have hpos : 0 < l.hiddenAround g v := Nat.pos_of_ne_zero fun hzero => hne hzero.symm
      have hmem := (h.mem_iff ⟨v, l.hiddenAround g v⟩).mpr ⟨hvisible, hpos, rfl⟩
      exact hfind _ hmem (by simp)
    · rfl

theorem mem_attached_iff_countAt (h : l.MarkedBy g ms) :
    v ∈ ms.map (·.attached) ↔ 0 < countAt ms v := by
  rw [countAt_of_markedBy h, List.mem_map]
  constructor
  · rintro ⟨m, hm, rfl⟩
    obtain ⟨hvisible, hpos, hcount⟩ := (h.mem_iff m).mp hm
    rw [if_pos hvisible, ← hcount]
    exact hpos
  · intro hpos
    split at hpos
    · rename_i hvisible
      exact ⟨⟨v, l.hiddenAround g v⟩, (h.mem_iff _).mpr ⟨hvisible, hpos, rfl⟩, rfl⟩
    · cases hpos

/-- What the marker at the node that a side holds counts; where it holds none, nothing. -/
def heldCount (ms : Markers) (x : Merged) (s : Side) : Nat :=
  ((x.holders.get s).map (countAt (ms.get s.view))).getD 0

end Marker

namespace Layers

/-- Every side shows what the combined view shows. -/
def Level (o : Overlay) (ls : Layers) : Prop :=
  ∀ s u i, (o.side s).identity? (.node u) = some i →
    (ls.get s.view).get (.node u) = ls.combined.get (.node i)

/-- The identities of what is hidden around the node that a side holds. -/
def heldNear (o : Overlay) (ls : Layers) (x : Merged) (s : Side) : Finset NodeId :=
  match x.holders.get s with
  | none => ∅
  | some u =>
    ((ls.get s.view).hiddenNear (o.side s).graph u).image fun v =>
      ((o.side s).identity? (.node v)).getD 0

theorem mem_heldNear (hc : o.Coherent) : j ∈ heldNear o ls x s ↔
    ∃ u v, x.holders.get s = some u ∧ (o.side s).identity? (.node v) = some j ∧
      v ∈ (ls.get s.view).hiddenNear (o.side s).graph u := by
  unfold heldNear
  cases hs : x.holders.get s with
  | none => simp
  | some u =>
    simp only [Finset.mem_image, Option.some.injEq, exists_and_left, exists_eq_left']
    refine exists_congr fun v => ?_
    constructor
    · rintro ⟨hv, rfl⟩
      obtain ⟨_, hadjacent, _⟩ := (Layer.mem_hiddenNear (hc.side_simple s)).mp hv
      obtain ⟨_, k, _, hk, _⟩ := hc.adjacent hadjacent
      exact ⟨by rw [hk]; rfl, hv⟩
    · rintro ⟨hj, hv⟩
      exact ⟨hv, by rw [hj]; rfl⟩

/-- No two nodes of a side have one identity, so none is lost in counting identities. -/
theorem card_heldNear (hc : o.Coherent) (hu : x.holders.get s = some u) :
    (heldNear o ls x s).card = (ls.get s.view).hiddenAround (o.side s).graph u := by
  rw [← Layer.card_hiddenNear (hc.side_simple s)]
  unfold heldNear
  rw [hu]
  apply Finset.card_image_of_injOn
  have hidentity : ∀ v ∈ (ls.get s.view).hiddenNear (o.side s).graph u,
      ∃ k, (o.side s).identity? (.node v) = some k := by
    intro v hv
    obtain ⟨_, hadjacent, _⟩ := (Layer.mem_hiddenNear (hc.side_simple s)).mp hv
    obtain ⟨_, k, _, hk, _⟩ := hc.adjacent hadjacent
    exact ⟨k, hk⟩
  intro a ha b hb hab
  obtain ⟨k, hk⟩ := hidentity a ha
  obtain ⟨k', hk'⟩ := hidentity b hb
  simp only [hk, hk', Option.getD_some] at hab
  subst hab
  exact hc.node_unique hk hk'

/-- What is hidden around an identity is what is hidden around the nodes that the sides hold. -/
theorem hiddenNear_combined (hc : o.Coherent) (hlevel : Level o ls)
    (hx : o.merged.node? i = some x) :
    ls.combined.hiddenNear o.merged i = heldNear o ls x .primary ∪ heldNear o ls x .secondary := by
  have hheld : ∀ {s u}, x.holders.get s = some u ↔ (o.side s).identity? (.node u) = some i := by
    intro s u
    constructor
    · exact hc.holds (e := .node i) hx
    · intro hu
      obtain ⟨y, hy, hyu⟩ := hc.identified hu
      cases Option.some.inj (hx.symm.trans hy)
      exact hyu
  have hmem : ∀ j, j ∈ ls.combined.hiddenNear o.merged i ↔ ∃ s, j ∈ heldNear o ls x s := by
    intro j
    simp only [mem_heldNear hc, hheld, Layer.mem_hiddenNear hc.merged_simple,
      Layer.mem_hiddenNear (hc.side_simple _)]
    constructor
    · rintro ⟨hne, hadjacent, hhidden⟩
      obtain ⟨s, u, v, hu, hv, huv⟩ := hc.exists_adjacent hadjacent
      refine ⟨s, u, v, hu, hv, ?_, huv, (hlevel s v j hv).trans hhidden⟩
      rintro rfl
      exact hne (Option.some.inj (hv.symm.trans hu))
    · rintro ⟨s, u, v, hu, hv, hne, huv, hhidden⟩
      obtain ⟨i', j', hi', hj', hadjacent⟩ := hc.adjacent huv
      cases Option.some.inj (hu.symm.trans hi')
      cases Option.some.inj (hv.symm.trans hj')
      refine ⟨?_, hadjacent, (hlevel s v j hv).symm.trans hhidden⟩
      rintro rfl
      exact hne (hc.node_unique hv hu)
  ext j
  rw [hmem, Finset.mem_union]
  constructor
  · rintro ⟨_ | _, hj⟩
    · exact .inl hj
    · exact .inr hj
  · rintro (hj | hj)
    · exact ⟨.primary, hj⟩
    · exact ⟨.secondary, hj⟩

/-- Where an identity is hidden no side counts anything, as its nodes are hidden there as well. -/
theorem heldCount_markers (hc : o.Coherent) (hlevel : Level o ls)
    (hx : o.merged.node? i = some x) (s : Side) :
    Marker.heldCount (ls.markers o) x s =
      if ls.combined.get (.node i) = true then (heldNear o ls x s).card else 0 := by
  unfold Marker.heldCount
  cases hu : x.holders.get s with
  | none => simp [heldNear, hu]
  | some u =>
    have hmarked : (ls.get s.view).MarkedBy (o.side s).graph ((ls.markers o).get s.view) := by
      simpa [MarkedBy] using markedBy_markers hc ls s.view
    have hflag := hlevel s u i (hc.holds (e := .node i) hx hu)
    rw [Option.map_some, Option.getD_some, Marker.countAt_of_markedBy hmarked, hflag,
      card_heldNear hc hu]

theorem countAt_combined (hc : o.Coherent) (hlevel : Level o ls)
    (hx : o.merged.node? i = some x) :
    Marker.countAt (ls.markers o).combined i =
      if ls.combined.get (.node i) = true then
        (heldNear o ls x .primary ∪ heldNear o ls x .secondary).card
      else 0 := by
  have hmarked := Layer.markedBy_markers hc.merged_simple ls.combined
  have hcount := Marker.countAt_of_markedBy hmarked i
  rwa [← Layer.card_hiddenNear hc.merged_simple, hiddenNear_combined hc hlevel hx] at hcount

theorem heldCount_le_countAt (hc : o.Coherent) (hlevel : Level o ls)
    (hx : o.merged.node? i = some x) (s : Side) :
    Marker.heldCount (ls.markers o) x s ≤ Marker.countAt (ls.markers o).combined i := by
  rw [heldCount_markers hc hlevel hx, countAt_combined hc hlevel hx]
  split
  · apply Finset.card_le_card
    cases s with
    | primary => exact Finset.subset_union_left
    | secondary => exact Finset.subset_union_right
  · exact Nat.le_refl 0

theorem countAt_le_heldCount (hc : o.Coherent) (hlevel : Level o ls)
    (hx : o.merged.node? i = some x) :
    Marker.countAt (ls.markers o).combined i ≤
      Marker.heldCount (ls.markers o) x .primary +
        Marker.heldCount (ls.markers o) x .secondary := by
  simp only [heldCount_markers hc hlevel hx, countAt_combined hc hlevel hx]
  split
  · exact Finset.card_union_le _ _
  · exact Nat.zero_le _

end Layers

namespace Workspace

/-- The markers of the four views, on an overlay whose sides show what the combined view shows. -/
structure MarkersTally (o : Overlay) (w : Workspace) : Prop where
  overlay_eq : w.overlay = o
  /-- In each view a node has one marker at most. -/
  marked : ∀ v, Layers.MarkedBy o w.layers v (w.markers.get v)
  super_eq : w.markers.super = w.markers.combined
  mem_attached_iff : ∀ i x, o.merged.node? i = some x →
    (i ∈ w.markers.combined.map (·.attached) ↔
      ∃ s u, x.holders.get s = some u ∧ u ∈ (w.markers.get s.view).map (·.attached))
  held_le : ∀ i x s, o.merged.node? i = some x →
    Marker.heldCount w.markers x s ≤ Marker.countAt w.markers.combined i
  le_held : ∀ i x, o.merged.node? i = some x →
    Marker.countAt w.markers.combined i ≤
      Marker.heldCount w.markers x .primary + Marker.heldCount w.markers x .secondary

/-- A side has a marker at its node just when that node counts for something. -/
theorem exists_attached_iff (hmarked : ∀ v, Layers.MarkedBy o ls v (w.markers.get v)) :
    (∃ u, x.holders.get s = some u ∧ u ∈ (w.markers.get s.view).map (·.attached)) ↔
      0 < Marker.heldCount w.markers x s := by
  have hside := hmarked s.view
  simp only [Layers.MarkedBy, View.side?_view] at hside
  unfold Marker.heldCount
  cases hu : x.holders.get s with
  | none => simp
  | some u => simp [Marker.mem_attached_iff_countAt hside]

theorem markersTally_of_level (hc : o.Coherent) (h : Coupled o w) (hlevel : Layers.Level o w.layers)
    (hmarkers : w.markers = w.layers.markers o) : MarkersTally o w := by
  have hmarked : ∀ v, Layers.MarkedBy o w.layers v (w.markers.get v) := by
    rw [hmarkers]
    exact Layers.markedBy_markers hc w.layers
  have hle : ∀ i x s, o.merged.node? i = some x →
      Marker.heldCount w.markers x s ≤ Marker.countAt w.markers.combined i := by
    rw [hmarkers]
    exact fun i x s hx => Layers.heldCount_le_countAt hc hlevel hx s
  have hsum : ∀ i x, o.merged.node? i = some x → Marker.countAt w.markers.combined i ≤
      Marker.heldCount w.markers x .primary + Marker.heldCount w.markers x .secondary := by
    rw [hmarkers]
    exact fun i x hx => Layers.countAt_le_heldCount hc hlevel hx
  refine ⟨h.overlay_eq, hmarked, ?_, ?_, hle, hsum⟩
  · rw [hmarkers]
    change w.layers.super.markers o.merged = w.layers.combined.markers o.merged
    rw [Layers.combined_eq_super h.derived]
  · intro i x hx
    have hcombined : w.layers.combined.MarkedBy o.merged w.markers.combined := hmarked .combined
    simp only [exists_attached_iff hmarked, Marker.mem_attached_iff_countAt hcombined]
    constructor
    · intro hpos
      by_contra hnone
      rw [not_exists] at hnone
      have hprimary := hnone .primary
      have hsecondary := hnone .secondary
      have htotal := hsum i x hx
      omega
    · rintro ⟨s, hpos⟩
      exact Nat.lt_of_lt_of_le hpos (hle i x s hx)

theorem markersTally_of_shown {keep : Array Bool} (hc : w.overlay.Coherent)
    (hshown : Layers.Shown w.overlay keep w.overlay.identities w'.layers)
    (hstate : w' = { w with
      layers := w'.layers
      markers := w'.layers.markers w.overlay }) : MarkersTally w.overlay w' := by
  have hoverlay : w'.overlay = w.overlay := by rw [hstate]
  have hmarkers : w'.markers = w'.layers.markers w.overlay := by rw [hstate]
  have hlevel : Layers.Level w.overlay w'.layers :=
    fun _ _ _ hi => Layers.get_side_of_combined (e := .node _) hc hshown hi
  exact markersTally_of_level hc ⟨hoverlay, hshown.derived⟩ hlevel hmarkers

/-- After a collapse and after an expansion the markers of the views tally. -/
theorem markersTally_reachable (hw : Reachable c w) :
    (∀ focus ≠ [], (∀ id ∈ focus, id < w.overlay.merged.nodeCount) →
      ∃ out, w.collapse focus = .ok out ∧ MarkersTally w.overlay out.state) ∧
    ∀ id < w.overlay.merged.nodeCount,
      ∃ out, w.reveal id = .ok out ∧ MarkersTally w.overlay out.state := by
  obtain ⟨o, _, hc, h⟩ := exists_coupled hw
  obtain rfl := h.overlay_eq
  constructor
  · intro focus hne hin
    obtain ⟨out, hok, hshown, hstate, _⟩ := collapse_ok hc h hne hin
    exact ⟨out, hok, markersTally_of_shown hc hshown hstate⟩
  · intro id hid
    obtain ⟨out, hok, hshown, hstate, _⟩ := reveal_ok hc h hid
    exact ⟨out, hok, markersTally_of_shown hc hshown hstate⟩

/-- Three identities are hidden around one that both sides hold; they share one of the three. -/
theorem markersTally_sample : ∃ w collapsed revealed, Reachable .sample w ∧
    w.layers.primary.get (.node 2) = false ∧ 3 < w.overlay.merged.nodeCount ∧
    w.collapse [1] = .ok collapsed ∧ MarkersTally w.overlay collapsed.state ∧
    collapsed.state.markers = ⟨[⟨1, 2⟩], [⟨0, 2⟩], [⟨1, 3⟩], [⟨1, 3⟩]⟩ ∧
    w.reveal 3 = .ok revealed ∧ MarkersTally w.overlay revealed.state := by
  obtain ⟨w, hw, hrun⟩ := exists_sample_run { browsing := ⟨true, 0, 0⟩ }
    [.setVisible .primary (.node 2) false]
    (p := fun w => w.layers.primary.get (.node 2) = false ∧ 3 < w.overlay.merged.nodeCount ∧
      (w.collapse [1]).toOption.any fun out =>
        out.state.markers = ⟨[⟨1, 2⟩], [⟨0, 2⟩], [⟨1, 3⟩], [⟨1, 3⟩]⟩)
    (by decide +kernel)
  obtain ⟨hhidden, hcount, hany⟩ := of_decide_eq_true hrun
  obtain ⟨hcollapse, hreveal⟩ := markersTally_reachable hw
  have hin : ∀ id ∈ [1], id < w.overlay.merged.nodeCount := by
    intro id hid
    rw [List.mem_singleton] at hid
    omega
  obtain ⟨collapsed, hok, htally⟩ := hcollapse [1] (by decide) hin
  obtain ⟨revealed, hok', htally'⟩ := hreveal 3 hcount
  obtain ⟨out, hout, hmarkers⟩ := exists_ok_of_any hany
  cases Except.ok.inj (hok.symm.trans hout)
  exact ⟨w, collapsed, revealed, hw, hhidden, hcount, hok, htally, of_decide_eq_true hmarkers,
    hok', htally'⟩

end Workspace

end GraphCompare
