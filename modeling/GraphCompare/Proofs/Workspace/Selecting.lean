import GraphCompare.Proofs.Workspace.Expansion
import GraphCompare.Proofs.Workspace.Unhiding

/-! Workspaces in which nothing is selected but what exists. Collapsing around the selection and
expanding cannot fail there. -/
namespace GraphCompare
variable {c : Comparison} {o : Overlay} {w w' : Workspace} {v : View} {i : NodeId} {id : NodeId}
  {additive : Bool}

/-- Every identity that a view is asked for exists, even if its index is made up. -/
theorem Overlay.Coherent.lt_of_identityIn? (hc : o.Coherent) (h : o.identityIn? v i = some id) :
    id < o.merged.nodeCount := by
  unfold Overlay.identityIn? at h
  split at h
  · obtain ⟨x, hx, _⟩ := hc.identified h
    exact Graph.lt_of_node? hx
  · split at h
    · cases h
      assumption
    · cases h

namespace Selection

theorem mem_select {s : Selection} {a : NodeId} (h : a ∈ (s.select id additive).2.ids) :
    a ∈ s.ids ∨ a = id := by
  unfold select at h
  split at h
  · split at h
    · exact .inl h
    · simpa using h
  · split at h
    · exact .inl h
    · exact .inr (List.mem_singleton.mp h)

end Selection

namespace Workspace

/-- A reachable workspace with nothing selected that does not exist. -/
structure Sound (c : Comparison) (w : Workspace) : Prop where
  reachable : Reachable c w
  selected : ∀ id ∈ w.selection.ids, id < w.overlay.merged.nodeCount

theorem Sound.coupled (h : Sound c w) : w.overlay.Coherent ∧ Coupled w.overlay w := by
  obtain ⟨o, _, hc, hcoupled⟩ := exists_coupled h.reachable
  obtain rfl := hcoupled.overlay_eq
  exact ⟨hc, hcoupled⟩

theorem sound_ofComparison {settings : Settings} (h : ofComparison c settings = .ok w) :
    Sound c w := by
  refine ⟨reachable_ofComparison h, ?_⟩
  unfold ofComparison at h
  obtain ⟨_, _, h⟩ := exists_of_bind_ok h
  obtain ⟨_, _, h⟩ := exists_of_bind_ok h
  cases h
  exact fun _ hid => absurd hid List.not_mem_nil

/-- What a call leads to is sound if what is selected then existed before. -/
theorem sound_of_after {call : Call} (h : Sound c w)
    (hafter : w.after call = w')
    (hselected : ∀ id ∈ w'.selection.ids, id < w.overlay.merged.nodeCount) : Sound c w' := by
  obtain ⟨hc, hcoupled⟩ := h.coupled
  have hoverlay := (coupled_after hc hcoupled call).overlay_eq
  rw [hafter] at hoverlay
  refine ⟨hafter ▸ reachable_run h.reachable [call], ?_⟩
  rw [hoverlay]
  exact hselected

theorem sound_select (h : Sound c w) (hid : id < w.overlay.merged.nodeCount) :
    Sound c (w.select id additive).state := by
  have hafter : w.after (.select id additive) = (w.select id additive).state := rfl
  apply sound_of_after h hafter
  intro a ha
  rcases Selection.mem_select ha with ha | rfl
  · exact h.selected a ha
  · exact hid

theorem sound_clearSelection (h : Sound c w) : Sound c w.clearSelection.state := by
  have hafter : w.after .clearSelection = w.clearSelection.state := rfl
  apply sound_of_after h hafter
  intro a ha
  exact absurd ha List.not_mem_nil

theorem sound_setBrowsing (h : Sound c w) (enabled : Bool) :
    Sound c (w.setBrowsing enabled).state := by
  have hafter : w.after (.setBrowsing enabled) = (w.setBrowsing enabled).state := rfl
  apply sound_of_after h hafter
  rw [state_setBrowsing]
  exact h.selected

theorem sound_updateSettings {overrides : Json} {out : Outcome Workspace (List SettingKey)}
    (h : Sound c w) (hok : w.updateSettings overrides = .ok out) : Sound c out.state := by
  have hafter : w.after (.updateSettings overrides) = out.state := state_settled hok
  obtain ⟨_, _, hstate, _⟩ := updateSettings_ok hok
  apply sound_of_after h hafter
  rw [hstate]
  exact h.selected

theorem sound_unhide (h : Sound c w) (host : Host) : Sound c (w.unhide host).state := by
  have hafter : w.after (.unhide host) = (w.unhide host).state := rfl
  apply sound_of_after h hafter
  rw [(keeps_unhide w host).selection_eq]
  exact h.selected

/-- Nothing selected, nothing collapsed. -/
theorem collapseToSelection_of_isEmpty (h : w.selection.isEmpty = true) :
    w.collapseToSelection = .ok (.still w w.counts) := by
  unfold collapseToSelection collapse
  exact if_pos h

/-- Collapsing around the selection cannot fail. -/
theorem exists_collapseToSelection (h : Sound c w) :
    ∃ out, w.collapseToSelection = .ok out ∧ Sound c out.state := by
  cases hempty : w.selection.isEmpty with
  | true => exact ⟨_, collapseToSelection_of_isEmpty hempty, h⟩
  | false =>
    have hne : w.selection.ids ≠ [] := by simpa [Selection.isEmpty] using hempty
    obtain ⟨hc, hcoupled⟩ := h.coupled
    obtain ⟨out, hok, _, hstate, _⟩ := collapse_ok hc hcoupled hne h.selected
    have hafter : w.after .collapseToSelection = out.state := state_settled hok
    refine ⟨out, hok, sound_of_after h hafter ?_⟩
    rw [hstate]
    exact h.selected

/-- Expanding at an identity that exists cannot fail. -/
theorem exists_reveal (h : Sound c w) (hid : id < w.overlay.merged.nodeCount) :
    ∃ out, w.reveal id = .ok out ∧ Sound c out.state := by
  obtain ⟨hc, hcoupled⟩ := h.coupled
  obtain ⟨out, hok, _, hstate, _⟩ := reveal_ok hc hcoupled hid
  have hafter : w.after (.reveal id) = out.state := state_settled hok
  refine ⟨out, hok, sound_of_after h hafter ?_⟩
  rw [hstate]
  exact h.selected

/-- The combined view shows what the depths reach from the selection, and nothing else. -/
def ShowsReach (w : Workspace) (depths : Browsing) : Prop :=
  ∀ i < w.overlay.merged.nodeCount, i ∈ w.shownIds ↔ w.overlay.Near depths w.selection.ids i

/-- Collapsing around the selection shows what the depths reach. -/
theorem showsReach_collapseToSelection (hc : w.overlay.Coherent) (h : Coupled w.overlay w)
    (hne : w.selection.ids ≠ [])
    (hin : ∀ id ∈ w.selection.ids, id < w.overlay.merged.nodeCount) :
    (w.after .collapseToSelection).ShowsReach w.settings.browsing := by
  obtain ⟨out, hok, hshown, hstate, hresult⟩ := collapse_ok hc h hne hin
  have hcollapsed := collapsed_of_shown hc hshown hstate hresult
  have hafter : w.after .collapseToSelection = out.state := state_settled hok
  have hselection : out.state.selection = w.selection := by rw [hstate]
  rw [hafter]
  intro i hi
  rw [hcollapsed.overlay_eq] at hi ⊢
  rw [hselection]
  exact hcollapsed.node_iff .combined i rfl hi

theorem keeps_collapseToSelection (w : Workspace) : Keeps w (w.after .collapseToSelection) := by
  change Keeps w (w.settled w.collapseToSelection).state
  cases hr : w.collapseToSelection with
  | error f => exact .refl w
  | ok out =>
    rcases collapse_cases hr with rfl | hshow
    · exact .refl w
    · obtain ⟨_, _, hstate, _⟩ := showOnly_ok hshow
      change Keeps w out.state
      rw [hstate]
      exact ⟨rfl, rfl, .inl rfl⟩

theorem after_collapseToSelection_of_isEmpty (h : w.selection.isEmpty = true) :
    w.after .collapseToSelection = w := state_settled (collapseToSelection_of_isEmpty h)

end Workspace

end GraphCompare
