import GraphCompare.Proofs.Layer.Pushing
import GraphCompare.Proofs.Workspace.Uncovering

/-! What expanding at one identity does to the others. It goes by what the combined view shows, so
it leaves the sides alone away from the identity just where both nodes of every pair agree; a node
that was hidden on one side only comes to be visible, wherever it is. -/
namespace GraphCompare
variable {c : Comparison} {o : Overlay} {ls : Layers} {x : Merged} {w w' : Workspace} {s : Side}
  {i id u : NodeId}

/-- Neither the identity nor adjacent to it. -/
def Overlay.Beyond (o : Overlay) (id i : NodeId) : Prop := i ≠ id ∧ ¬ o.merged.Adjacent id i

namespace Workspace

/-- The flags of the sides are as they were, but for what is near an identity. -/
def SparesBeyond (w : Workspace) (id : NodeId) (w' : Workspace) : Prop :=
  ∀ s u i, (w.overlay.side s).identity? (.node u) = some i → w.overlay.Beyond id i →
    (w'.layers.get s.view).get (.node u) = (w.layers.get s.view).get (.node u)

/-- Every side shows of an identity away from another what the combined view has shown of it. -/
def LevelsBeyond (w : Workspace) (id : NodeId) (w' : Workspace) : Prop :=
  ∀ s u i, (w.overlay.side s).identity? (.node u) = some i → w.overlay.Beyond id i →
    (w'.layers.get s.view).get (.node u) = w.layers.combined.get (.node i)

theorem levelsBeyond_of_shown (hc : w.overlay.Coherent) (h : Coupled w.overlay w)
    (hshown : Layers.Shown w.overlay (w.expanded id) w.overlay.identities w'.layers) :
    LevelsBeyond w id w' := by
  intro s u i hi hbeyond
  obtain ⟨hne, hadjacent⟩ := hbeyond
  have hview : w.overlay.identityIn? s.view u = some i := by
    simpa [Overlay.identityIn?] using hi
  rw [Bool.eq_iff_iff, get_expanded_iff hc h hshown hview, mem_shownIds]
  simp [hne, hadjacent]

/-- What the combined view shows of an identity is what both sides show of it just when they
agree. -/
theorem sparesBeyond_iff_pairs (hc : w.overlay.Coherent) (h : Coupled w.overlay w)
    (hlevels : LevelsBeyond w id w') :
    SparesBeyond w id w' ↔ ∀ i x, w.overlay.merged.node? i = some x → w.overlay.Beyond id i →
      w.layers.PairAgrees x (.node i) := by
  have hcombined : ∀ {i x}, w.overlay.merged.node? i = some x →
      w.layers.combined.get (.node i) = w.layers.derived x (.node i) :=
    fun hx => h.derived.flag_eq (v := .combined) (e := .node _) rfl hx
  constructor
  · intro hspares i x hx hbeyond
    rw [Layers.pairAgrees_iff (e := .node i) hc hx]
    intro s u hu
    have hi := hc.holds (e := .node i) hx hu
    rw [← hcombined hx, ← hlevels s u i hi hbeyond]
    exact (hspares s u i hi hbeyond).symm
  · intro hpairs s u i hi hbeyond
    obtain ⟨x, hx, hu⟩ := hc.identified hi
    have hpair := (Layers.pairAgrees_iff (e := .node i) hc hx).mp (hpairs i x hx hbeyond)
    rw [hlevels s u i hi hbeyond, hcombined hx]
    exact (hpair s u hu).symm

/-- Expanding at an identity spares the sides away from it just when, before, each pair away from
it was shown on both sides or on neither. -/
theorem sparesBeyond_reveal_iff (hw : Reachable c w) (hid : id < w.overlay.merged.nodeCount) :
    ∃ out, w.reveal id = .ok out ∧ LevelsBeyond w id out.state ∧
      (SparesBeyond w id out.state ↔
        ∀ i x, w.overlay.merged.node? i = some x → w.overlay.Beyond id i →
          w.layers.PairAgrees x (.node i)) := by
  obtain ⟨o, _, hc, h⟩ := exists_coupled hw
  obtain rfl := h.overlay_eq
  obtain ⟨out, hok, hshown, _⟩ := reveal_ok hc h hid
  have hlevels := levelsBeyond_of_shown hc h hshown
  exact ⟨out, hok, hlevels, sparesBeyond_iff_pairs hc h hlevels⟩

/-- A pair that is hidden on both sides stays hidden when something else is expanded. -/
theorem sparesBeyond_reveal_sample : ∃ w out, Reachable .sample w ∧
    2 < w.overlay.merged.nodeCount ∧ w.layers.combined.get (.node 0) = false ∧
    w.reveal 2 = .ok out ∧ LevelsBeyond w 2 out.state ∧ SparesBeyond w 2 out.state := by
  obtain ⟨w, hw, hrun⟩ := exists_sample_run {}
    [.setVisible .primary (.node 0) false, .setVisible .secondary (.node 2) false]
    (p := fun w => 2 < w.overlay.merged.nodeCount ∧ w.layers.combined.get (.node 0) = false ∧
      ∀ i < w.overlay.merged.nodeCount, ∀ x ∈ w.overlay.merged.node? i,
        w.layers.PairAgrees x (.node i)) (by decide +kernel)
  obtain ⟨hid, hhidden, hpairs⟩ := of_decide_eq_true hrun
  obtain ⟨out, hok, hlevels, hspares⟩ := sparesBeyond_reveal_iff hw hid
  refine ⟨w, out, hw, hid, hhidden, hok, hlevels, hspares.mpr ?_⟩
  intro i x hx _
  exact hpairs i (Graph.lt_of_node? hx) x hx

/-- A node that was hidden by hand on one side is shown again by an expansion somewhere else. -/
theorem node_reappears : ∃ w out, Reachable .sample w ∧ 2 < w.overlay.merged.nodeCount ∧
    w.reveal 2 = .ok out ∧ ¬ SparesBeyond w 2 out.state := by
  obtain ⟨w, hw, hrun⟩ := exists_sample_run {} [.setVisible .primary (.node 0) false]
    (p := fun w => 2 < w.overlay.merged.nodeCount ∧
      (w.overlay.side .primary).identity? (.node 0) = some 0 ∧
      ¬ w.overlay.merged.Adjacent 2 0 ∧ w.layers.primary.get (.node 0) = false ∧
      (w.reveal 2).toOption.any fun out => out.state.layers.primary.get (.node 0))
    (by decide +kernel)
  obtain ⟨hid, hidentity, hapart, hhidden, hreveal⟩ := of_decide_eq_true hrun
  obtain ⟨out, hok, hshown⟩ := exists_ok_of_any hreveal
  refine ⟨w, out, hw, hid, hok, ?_⟩
  intro hspares
  have hflag := hspares .primary 0 0 hidentity ⟨by decide, hapart⟩
  change out.state.layers.primary.get (.node 0) = w.layers.primary.get (.node 0) at hflag
  rw [hshown, hhidden] at hflag
  cases hflag

end Workspace

end GraphCompare
