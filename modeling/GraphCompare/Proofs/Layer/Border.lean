import GraphCompare.Marker
import GraphCompare.Proofs.Layer.Derivation

/-! Markers stand at the border of what is hidden: the list of a view has one for each visible node
next to a hidden one, in the order of the nodes. -/
namespace GraphCompare
variable {N E : Type} {g : Graph N E} {l : Layer} {ms : List Marker} {m : Marker} {v w : NodeId}
  {o : Overlay} {ls : Layers}

namespace Layer

/-- How many nodes next to a node are hidden, each counted once and without the node itself. -/
def hiddenAround (l : Layer) (g : Graph N E) (v : NodeId) : Nat :=
  (List.range g.nodeCount).countP fun w =>
    decide (w ≠ v ∧ g.Adjacent v w ∧ l.get (.node w) = false)

/-- The markers that belong to a view: ascending, and one for each visible node that has anything
hidden next to it. -/
structure MarkedBy (l : Layer) (g : Graph N E) (ms : List Marker) : Prop where
  ascending : (ms.map (·.attached)).Pairwise (· < ·)
  mem_iff : ∀ m, m ∈ ms ↔ l.get (.node m.attached) = true ∧ 0 < m.hiddenNeighbors ∧
    m.hiddenNeighbors = l.hiddenAround g m.attached

theorem mem_visibleNodes : v ∈ l.visibleNodes ↔ l.get (.node v) = true := by
  simp only [visibleNodes, List.mem_filter, List.mem_range, and_iff_right_iff_imp]
  intro hv
  by_contra hn
  rw [get_of_size_le (e := .node v) (Nat.le_of_not_lt hn)] at hv
  cases hv

theorem length_hiddenNeighbors (hg : g.IsSimple) (l : Layer) (v : NodeId) :
    (l.hiddenNeighbors g v).length = l.hiddenAround g v := by
  rw [hiddenNeighbors, hiddenAround, List.countP_eq_length_filter]
  apply List.Perm.length_eq
  rw [List.perm_ext_iff_of_nodup ((g.nodup_neighbors v).filter _) (List.nodup_range.filter _)]
  intro w
  simp only [List.mem_filter, List.mem_range, Graph.mem_neighbors_iff hg, Bool.not_eq_true',
    decide_eq_true_eq]
  constructor
  · rintro ⟨⟨hne, ha⟩, hw⟩
    exact ⟨ha.lt_right hg, hne, ha, hw⟩
  · rintro ⟨_, hne, ha, hw⟩
    exact ⟨⟨hne, ha⟩, hw⟩

theorem marker?_eq_some (hg : g.IsSimple) :
    l.marker? g v = some m ↔
      m.attached = v ∧ 0 < m.hiddenNeighbors ∧ m.hiddenNeighbors = l.hiddenAround g v := by
  rw [← length_hiddenNeighbors hg]
  unfold marker?
  cases m with
  | mk attached count =>
    cases (l.hiddenNeighbors g v).length with
    | zero => simp +contextual [Nat.pos_iff_ne_zero]
    | succ n =>
      simp only [Option.some.injEq, Marker.mk.injEq]
      constructor
      · rintro ⟨rfl, rfl⟩
        exact ⟨rfl, Nat.succ_pos n, rfl⟩
      · rintro ⟨rfl, _, rfl⟩
        exact ⟨rfl, rfl⟩

theorem markedBy_markers (hg : g.IsSimple) (l : Layer) : l.MarkedBy g (l.markers g) where
  ascending := by
    rw [List.pairwise_map]
    have hnodes : l.visibleNodes.Pairwise (· < ·) := List.pairwise_lt_range.filter _
    refine hnodes.filterMap _ ?_
    intro v w hvw m hm n hn
    rw [marker?_eq_some hg] at hm hn
    rw [hm.1, hn.1]
    exact hvw
  mem_iff := by
    intro m
    rw [markers, List.mem_filterMap]
    constructor
    · rintro ⟨v, hv, hm⟩
      obtain ⟨rfl, hpos, hcount⟩ := (marker?_eq_some hg).mp hm
      exact ⟨mem_visibleNodes.mp hv, hpos, hcount⟩
    · rintro ⟨hv, hpos, hcount⟩
      exact ⟨m.attached, mem_visibleNodes.mpr hv, (marker?_eq_some hg).mpr ⟨rfl, hpos, hcount⟩⟩

/-- A marker stands at just those visible nodes that have a hidden one next to them. -/
theorem MarkedBy.mem_attached_iff (h : l.MarkedBy g ms) (hg : g.IsSimple) :
    v ∈ ms.map (·.attached) ↔
      l.get (.node v) = true ∧ ∃ w, g.Adjacent v w ∧ l.get (.node w) = false := by
  rw [List.mem_map]
  constructor
  · rintro ⟨m, hm, rfl⟩
    obtain ⟨hv, hpos, hcount⟩ := (h.mem_iff m).mp hm
    rw [hcount, hiddenAround, List.countP_pos_iff] at hpos
    obtain ⟨w, _, hw⟩ := hpos
    obtain ⟨_, ha, hhidden⟩ := of_decide_eq_true hw
    exact ⟨hv, w, ha, hhidden⟩
  · rintro ⟨hv, w, ha, hhidden⟩
    have hne : w ≠ v := by
      rintro rfl
      rw [hv] at hhidden
      cases hhidden
    have hpos : 0 < l.hiddenAround g v := by
      rw [hiddenAround, List.countP_pos_iff]
      exact ⟨w, List.mem_range.mpr (ha.lt_right hg), decide_eq_true ⟨hne, ha, hhidden⟩⟩
    exact ⟨⟨v, l.hiddenAround g v⟩, (h.mem_iff _).mpr ⟨hv, hpos, rfl⟩, rfl⟩

/-- Where every node is visible there is nothing to mark. -/
theorem MarkedBy.eq_nil (h : l.MarkedBy g ms)
    (hall : ∀ v < g.nodeCount, l.get (.node v) = true) : ms = [] := by
  rw [List.eq_nil_iff_forall_not_mem]
  intro m hm
  obtain ⟨_, hpos, hcount⟩ := (h.mem_iff m).mp hm
  rw [hcount, hiddenAround, List.countP_pos_iff] at hpos
  obtain ⟨w, hw, hhidden⟩ := hpos
  have hvisible := hall w (List.mem_range.mp hw)
  simp [hvisible] at hhidden

end Layer

namespace Layers

/-- The markers that belong to one of the views, by the graph that it shows. -/
def MarkedBy (o : Overlay) (ls : Layers) (v : View) (ms : List Marker) : Prop :=
  match v.side? with
  | some s => (ls.get v).MarkedBy (o.side s).graph ms
  | none => (ls.get v).MarkedBy o.merged ms

theorem markedBy_markers (hc : o.Coherent) (ls : Layers) (v : View) :
    MarkedBy o ls v ((ls.markers o).get v) := by
  cases v with
  | primary => exact Layer.markedBy_markers (hc.side_simple .primary) _
  | secondary => exact Layer.markedBy_markers (hc.side_simple .secondary) _
  | combined => exact Layer.markedBy_markers hc.merged_simple _
  | super => exact Layer.markedBy_markers hc.merged_simple _

variable {v : View}

theorem MarkedBy.visible (h : MarkedBy o ls v ms) (hm : m ∈ ms) :
    (ls.get v).get (.node m.attached) = true := by
  unfold MarkedBy at h
  split at h
  · exact ((h.mem_iff m).mp hm).1
  · exact ((h.mem_iff m).mp hm).1

theorem MarkedBy.eq_nil (h : MarkedBy o ls v ms)
    (hall : ∀ u < o.nodeCount v, (ls.get v).get (.node u) = true) : ms = [] := by
  unfold MarkedBy at h
  unfold Overlay.nodeCount at hall
  split at h
  · rename_i s hv
    rw [hv] at hall
    exact Layer.MarkedBy.eq_nil h hall
  · rename_i hv
    rw [hv] at hall
    exact Layer.MarkedBy.eq_nil h hall

end Layers

end GraphCompare
