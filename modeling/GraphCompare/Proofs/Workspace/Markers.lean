import GraphCompare.Proofs.Layer.Border
import GraphCompare.Proofs.Workspace.Run

/-! Markers are never stale: after any calls there are none, or exactly those that belong to what
is hidden. -/
namespace GraphCompare
variable {c : Comparison} {o : Overlay} {w w' : Workspace} {ms : Markers} {v : View}

namespace Markers

@[simp] theorem get_none (v : View) : none.get v = [] := by
  cases v <;> rfl

theorem isNone_iff : ms.isNone = true ↔ ms = none := by
  constructor
  · intro h
    apply PerView.ext_get
    intro v
    simp only [isNone, PerView.toList, List.all_cons, List.all_nil, Bool.and_eq_true,
      List.isEmpty_iff] at h
    obtain ⟨hp, hs, hcombined, hsuper, _⟩ := h
    cases v with
    | primary => exact hp
    | secondary => exact hs
    | combined => exact hcombined
    | super => exact hsuper
  · rintro rfl
    rfl

end Markers

namespace Workspace

/-- There are no markers, or those that the flags give. -/
def Fresh (w : Workspace) : Prop := w.markers = .none ∨ w.markers = w.layers.markers w.overlay

theorem fresh_change (hc : o.Coherent) (h : Coupled o w) (hf : Fresh w) (hw : Change w w') :
    Fresh w' := by
  obtain ⟨rfl, hd⟩ := h
  cases hw with
  | kept selection settings => exact hf
  | @flag s e visible changed ls hok =>
    cases changed with
    | false =>
      -- No flag has moved, so the markers are as right as they were.
      obtain rfl := Layers.eq_of_setVisible_unchanged hc hd hok
      exact hf
    | true =>
      cases hm : w.markers.isNone with
      | true => exact Or.inl (Markers.isNone_iff.mp hm)
      | false => exact Or.inr rfl
  | shown hok => exact Or.inr rfl
  | revealed => exact Or.inl rfl

theorem fresh_run (hc : o.Coherent) (h : Coupled o w) (hf : Fresh w) (calls : List Call) :
    Fresh (w.run calls) := by
  induction calls generalizing w with
  | nil => exact hf
  | cons call calls ih =>
    have hchange := change_after w call
    exact ih (coupled_change hc h hchange) (fresh_change hc h hf hchange)

theorem fresh_reachable (hw : Reachable c w) : Fresh w := by
  obtain ⟨o, settings, calls, ho, rfl⟩ := hw
  have hc := Overlay.coherent_ofComparison ho
  exact fresh_run hc (coupled_new hc settings) (Or.inl rfl) calls

/-- What is true of the markers of a workspace at any time. -/
structure MarkersExact (w : Workspace) : Prop where
  absent_or_exact : (∀ v, w.markers.get v = []) ∨
    ∀ v, Layers.MarkedBy w.overlay w.layers v (w.markers.get v)
  attached_visible : ∀ v, ∀ m ∈ w.markers.get v, (w.layers.get v).get (.node m.attached) = true
  combined_eq_super : w.markers.combined = w.markers.super
  /-- Where the sides hide no node there is no marker in any view. -/
  absent_of_visible : (∀ s : Side, ∀ u < w.overlay.nodeCount s.view,
    (w.layers.get s.view).get (.node u) = true) → ∀ v, w.markers.get v = []

theorem markersExact_of_none (h : w.markers = .none) : MarkersExact w where
  absent_or_exact := Or.inl (by simp [h])
  attached_visible := by simp [h]
  combined_eq_super := by
    rw [h]
    rfl
  absent_of_visible := by simp [h]

theorem markersExact_of_markers (hc : w.overlay.Coherent)
    (hd : Layers.Derived w.overlay w.layers) (h : w.markers = w.layers.markers w.overlay) :
    MarkersExact w := by
  have hmarked : ∀ v, Layers.MarkedBy w.overlay w.layers v (w.markers.get v) := by
    intro v
    rw [h]
    exact Layers.markedBy_markers hc w.layers v
  refine ⟨Or.inr hmarked, ?_, ?_, ?_⟩
  · intro v m hm
    exact (hmarked v).visible hm
  · rw [h]
    change w.layers.combined.markers w.overlay.merged = w.layers.super.markers w.overlay.merged
    rw [Layers.combined_eq_super hd]
  · intro hside v
    apply (hmarked v).eq_nil
    intro u hu
    refine Layers.visible_of_sides (k := .node) hc hd ?_ rfl hu
    intro s e he hlt
    cases e with
    | node i => exact hside s i hlt
    | edge i => cases he

theorem markersExact_of_fresh (hc : o.Coherent) (h : Coupled o w) (hf : Fresh w) :
    MarkersExact w := by
  obtain ⟨rfl, hd⟩ := h
  rcases hf with hnone | hmarkers
  · exact markersExact_of_none hnone
  · exact markersExact_of_markers hc hd hmarkers

/-- After any calls the markers are absent or exactly right, in all four views. -/
theorem markersExact_reachable (hw : Reachable c w) : MarkersExact w := by
  obtain ⟨o, _, hc, h⟩ := exists_coupled hw
  exact markersExact_of_fresh hc h (fresh_reachable hw)

theorem markersExact_sample : ∃ w, Reachable .sample w ∧
    w.markers.primary = [⟨1, 1⟩] ∧ w.markers.super = [⟨1, 1⟩] ∧ MarkersExact w := by
  obtain ⟨w, hw, hmarkers⟩ := exists_sample_run {}
    [.setVisible .primary (.node 2) false, .reveal 0]
    (p := fun w => w.markers.primary = [⟨1, 1⟩] ∧ w.markers.super = [⟨1, 1⟩]) (by decide +kernel)
  obtain ⟨hprimary, hsuper⟩ := of_decide_eq_true hmarkers
  exact ⟨w, hw, hprimary, hsuper, markersExact_reachable hw⟩

end Workspace

end GraphCompare
