import GraphCompare.Proofs.Window.Adopting
import GraphCompare.Proofs.Window.Run

/-! What changed settings lead to. Cameras that are coupled anew go to the super view unless the
work before that fails, and a new depth takes effect unless the same change would end live browsing
and that is declined. -/
namespace GraphCompare
variable {ws : Workspace} {w : Window} {host : Host} {overrides : Json} {t : Settings}
  {changed : List SettingKey}

namespace Surfaces
variable {α : Type} {fs : Surfaces α}

/-- Both sides have the zoom and the world of the super view. -/
def Synchronized (fs : Surfaces α) : Prop :=
  ∀ s : Side, (fs.get s.view).viewport.zoom = fs.super.viewport.zoom ∧
    (fs.get s.view).viewport.world = fs.super.viewport.world

theorem synchronized_adoptSuper [Scalar α] {k : Coupling α} (hk : k.synchronized = true) :
    (fs.adoptSuper k).2.Synchronized := by
  intro s
  rw [fs.adoptSuper_of_coupled hk, get_afterAdopting]
  exact ⟨Viewport.zoom_adopted _ _, Viewport.world_adopted _ _⟩

end Surfaces

namespace Workspace

theorem Keeps.synchronizedViews_eq {ws' : Workspace} (h : Keeps ws ws') :
    ws'.settings.synchronizedViews = ws.settings.synchronizedViews := by
  rcases h.settings_or with heq | heq
  · rw [heq]
  · rw [heq]

/-- The workspace after the reaction of browsing to changed settings. -/
def reacted (w : Workspace) (changed : List SettingKey) (host : Host) : Workspace :=
  if w.settings.browsing.enabled then
    if .proximityBrowsing ∈ changed ∨ .proximityDepth ∈ changed then w.after .collapseToSelection
    else w
  else if .proximityBrowsing ∈ changed then (w.unhide host).state
  else w

theorem keeps_reacted (ws : Workspace) (changed : List SettingKey) (host : Host) :
    Keeps ws (ws.reacted changed host) := by
  unfold reacted
  split
  · split
    · exact keeps_collapseToSelection ws
    · exact .refl ws
  · split
    · exact keeps_unhide ws host
    · exact .refl ws

/-- Only a refusal to show everything turns live browsing on. -/
theorem declined_of_enabled (hoff : ws.settings.browsing.enabled = false)
    (hon : (ws.unhide host).state.settings.browsing.enabled = true) :
    Declined ws (ws.unhide host) := by
  have hending := ending_unhide ws host
  generalize ws.unhide host = out at hending hon ⊢
  cases hending with
  | needless hh => cases hoff.symm.trans hon
  | unasked hh hfew =>
    rw [state_revealAll] at hon
    cases hoff.symm.trans hon
  | agreed hh hmany hyes =>
    dsimp only at hon
    rw [state_revealAll] at hon
    cases hoff.symm.trans hon
  | refused hh hmany hno => exact declined_setBrowsing ws

/-- Where browsing was off when it came to react and is on afterwards, its end was declined. -/
theorem declined_of_reacted (hoff : ws.settings.browsing.enabled = false)
    (hon : (ws.reacted changed host).settings.browsing.enabled = true) :
    .proximityBrowsing ∈ changed ∧ Declined ws (ws.unhide host) ∧
      ws.reacted changed host = { ws with settings.browsing.enabled := true } := by
  have hreacted : ws.reacted changed host =
      if .proximityBrowsing ∈ changed then (ws.unhide host).state else ws := by
    simp [reacted, hoff]
  rw [hreacted] at hon ⊢
  split at hon
  · rename_i hbrowsing
    have hdeclined := declined_of_enabled hoff hon
    exact ⟨hbrowsing, hdeclined, (if_pos hbrowsing).trans hdeclined.state_eq⟩
  · cases hoff.symm.trans hon

/-- With live browsing on in the end, a new depth is what is shown, unless browsing was off when it
came to react. Then it has been turned on by a refusal to show everything. -/
theorem showsReach_reacted_iff (w : Workspace) (hc : w.overlay.Coherent) (h : Coupled w.overlay w)
    (hne : w.selection.ids ≠ []) (hin : ∀ id ∈ w.selection.ids, id < w.overlay.merged.nodeCount)
    (hdepth : .proximityDepth ∈ changed)
    (henabled : (w.reacted changed host).settings.browsing.enabled = true) :
    (w.reacted changed host).ShowsReach w.settings.browsing ↔
      w.settings.browsing.enabled = true ∨ w.ShowsReach w.settings.browsing := by
  cases hon : w.settings.browsing.enabled with
  | true =>
    have hreacted : w.reacted changed host = w.after .collapseToSelection := by
      simp only [reacted, hon, hdepth, or_true, if_true]
    rw [hreacted]
    exact iff_of_true (showsReach_collapseToSelection hc h hne hin) (.inl rfl)
  | false =>
    rw [(declined_of_reacted hon henabled).2.2]
    simp only [Bool.false_eq_true, false_or]
    exact Iff.rfl

end Workspace

namespace Window
open Workspace (Coupled)

/-- The window with other settings, and no reaction to them. -/
def withSettings (w : Window) (t : Settings) : Window := { w with workspace.settings := t }

theorem state_redrawn (out : Outcome Window (Except Failure Unit)) (views : List View)
    (kind : Redraw) : (redrawn out views kind).state = out.state := by
  unfold redrawn
  cases hr : out.result with
  | error f => rw [Outcome.andThen_of_error hr]
  | ok a => rw [Outcome.andThen_of_ok hr]

theorem state_refocus (w : Window) :
    w.refocus.state = { w with workspace := w.workspace.after .collapseToSelection } := by
  have hattempt : (w.attempt w.workspace.collapseToSelection).state = { w with
      workspace := (w.workspace.settled w.workspace.collapseToSelection).state } := by
    cases w.workspace.collapseToSelection <;> rfl
  unfold refocus
  rw [state_redrawn]
  exact hattempt

theorem state_browsingSwitched (w : Window) (host : Host) :
    (w.browsingSwitched host).state = { w with
      workspace := if w.workspace.settings.browsing.enabled then
          w.workspace.after .collapseToSelection
        else (w.workspace.unhide host).state } := by
  unfold browsingSwitched
  split
  · split
    · rename_i hempty
      rw [Workspace.after_collapseToSelection_of_isEmpty hempty]
      rfl
    · exact state_refocus w
  · rfl

theorem state_browsingChanged (w : Window) (changed : List SettingKey) (host : Host) :
    (w.browsingChanged changed host).state =
      { w with workspace := w.workspace.reacted changed host } := by
  unfold browsingChanged
  by_cases hbrowsing : .proximityBrowsing ∈ changed
  · rw [if_pos (List.contains_iff_mem.mpr hbrowsing)]
    refine (state_browsingSwitched w host).trans ?_
    simp only [Workspace.reacted, hbrowsing, true_or, if_true]
  · rw [if_neg (List.contains_iff_mem.not.mpr hbrowsing)]
    split
    · rename_i hdepth
      simp only [Bool.and_eq_true, List.contains_iff_mem] at hdepth
      obtain ⟨⟨hdepth, henabled⟩, _⟩ := hdepth
      refine (state_refocus w).trans ?_
      simp only [Workspace.reacted, hdepth, henabled, or_true, if_true]
    · rename_i hnot
      have hstay : w.workspace.reacted changed host = w.workspace := by
        simp only [Workspace.reacted, hbrowsing, false_or, if_false]
        split
        · rename_i henabled
          split
          · rename_i hdepth
            apply Workspace.after_collapseToSelection_of_isEmpty
            simpa [hdepth, henabled] using hnot
          · rfl
        · rfl
      rw [hstay]
      rfl

/-- Cameras that have been coupled go to the super view; nothing else of this touches a surface. -/
theorem state_couplingChanged (w : Window) (changed : List SettingKey) :
    (w.couplingChanged changed).state = { w with
      surfaces := if .synchronizedViews ∈ changed ∧ w.workspace.settings.synchronizedViews = true
        then (w.surfaces.adoptSuper w.coupling).2 else w.surfaces } := by
  unfold couplingChanged
  by_cases hcoupled : .synchronizedViews ∈ changed ∧ w.workspace.settings.synchronizedViews = true
  · rw [if_pos hcoupled, if_pos (by simpa using hcoupled)]
    rfl
  · rw [if_neg hcoupled, if_neg (by simpa using hcoupled)]
    rfl

theorem result_couplingChanged (w : Window) (changed : List SettingKey) :
    (w.couplingChanged changed).result = .ok () := by
  unfold couplingChanged
  split <;> rfl

/-- Settings that are not rejected are taken over, then browsing reacts, and then the cameras. -/
theorem updateSettings_of_ok (host : Host)
    (h : w.workspace.settings.override overrides = .ok (changed, t)) :
    w.updateSettings overrides host =
      let rest := ((w.withSettings t).browsingChanged changed host).andThen fun w _ =>
        (w.couplingChanged changed).map fun r => r.map fun _ => changed
      ⟨rest.state, Notice.events (changed.map .settingsChanged) ++ rest.notices, rest.result⟩ := by
  unfold updateSettings
  rw [Workspace.updateSettings_of_ok h]
  rfl

theorem updateSettings_of_error {f : Failure} (host : Host)
    (h : w.workspace.settings.override overrides = .error f) :
    w.updateSettings overrides host = .still w (.error f) := by
  unfold updateSettings
  rw [Workspace.updateSettings_of_error h]

/-- If browsing cannot react as it should, the cameras do not react any more. -/
theorem updateSettings_cases (host : Host)
    (h : w.workspace.settings.override overrides = .ok (changed, t)) :
    let step := (w.withSettings t).browsingChanged changed host
    (∃ f, (w.updateSettings overrides host).result = .error f ∧
      (w.updateSettings overrides host).state = step.state) ∨
    ((w.updateSettings overrides host).result = .ok changed ∧
      (w.updateSettings overrides host).state = (step.state.couplingChanged changed).state) := by
  rw [updateSettings_of_ok host h]
  cases hr : ((w.withSettings t).browsingChanged changed host).result with
  | error f =>
    rw [Outcome.andThen_of_error hr]
    exact .inl ⟨f, rfl, rfl⟩
  | ok a =>
    rw [Outcome.andThen_of_ok hr]
    refine .inr ⟨?_, rfl⟩
    change (couplingChanged _ changed).result.map _ = _
    rw [result_couplingChanged]
    rfl

/-- Cameras that are coupled anew go to the super view, unless the work before that failed. Then
they have stayed where they were. -/
theorem synchronized_updateSettings_iff
    (h : w.workspace.settings.override overrides = .ok (changed, t))
    (hoff : w.workspace.settings.synchronizedViews = false) (hon : t.synchronizedViews = true) :
    (w.updateSettings overrides host).state.surfaces.Synchronized ↔
      (∃ keys, (w.updateSettings overrides host).result = .ok keys) ∨ w.surfaces.Synchronized := by
  have hmem : .synchronizedViews ∈ changed := by
    obtain ⟨hvalid, hchanged⟩ := Settings.override_ok h
    change changed = _ at hchanged
    rw [hchanged, Settings.mem_changedKeys hvalid]
    simp [Settings.Differs, hoff, hon]
  rcases updateSettings_cases host h with ⟨f, herror, hstate⟩ | ⟨hok, hstate⟩
  · have hsurfaces : (w.updateSettings overrides host).state.surfaces = w.surfaces := by
      rw [hstate, state_browsingChanged]
      rfl
    rw [herror, hsurfaces]
    simp
  · refine iff_of_true ?_ (.inl ⟨changed, hok⟩)
    rw [hstate, state_couplingChanged, state_browsingChanged]
    have hcoupled : ((w.withSettings t).workspace.reacted changed host).settings.synchronizedViews =
        true := (Workspace.keeps_reacted _ changed host).synchronizedViews_eq.trans hon
    rw [if_pos ⟨hmem, hcoupled⟩]
    exact Surfaces.synchronized_adoptSuper hcoupled

/-- An override of browsing that ends it. -/
def endBrowsing : List (String × Json) := [("enabled", .bool false)]

/-- Overrides that couple the cameras, with an override of browsing besides. -/
def coupleCameras (browsing : List (String × Json)) : Json :=
  .object [("synchronizedViews", .bool true), ("proximity", .object browsing)]

/-- Says yes to everything, and cannot lay out. -/
def crampedHost : Host := ⟨fun _ => .yes, fun _ => some "no room"⟩

theorem synchronized_updateSettings_sample : ∃ w changed t, Reachable w ∧
    w.workspace.settings.override (coupleCameras []) = .ok (changed, t) ∧
    w.workspace.settings.synchronizedViews = false ∧ t.synchronizedViews = true ∧
    ¬ w.surfaces.Synchronized ∧
    (w.updateSettings (coupleCameras []) crampedHost).state.surfaces.Synchronized := by
  obtain ⟨w, hw, hrun⟩ := exists_sample_run { synchronizedViews := false } (sampleClick (.raw 0))
    (p := fun w => w.workspace.settings.synchronizedViews = false ∧
      w.surfaces.primary.viewport.zoom ≠ w.surfaces.super.viewport.zoom ∧
      ((w.workspace.settings.override (coupleCameras [])).toOption.any
        fun change => change.2.synchronizedViews) ∧
      ((w.updateSettings (coupleCameras []) crampedHost).result.toOption.any fun _ => true))
    (by decide +kernel)
  obtain ⟨hoff, hzoom, hoverride, hresult⟩ := of_decide_eq_true hrun
  obtain ⟨⟨changed, t⟩, ht, hon⟩ := exists_ok_of_any hoverride
  obtain ⟨keys, hok, _⟩ := exists_ok_of_any hresult
  refine ⟨w, changed, t, hw, ht, hoff, hon, fun h => hzoom (h .primary).1, ?_⟩
  exact (synchronized_updateSettings_iff ht hoff hon).mpr (.inl ⟨keys, hok⟩)

/-- The change that couples the cameras ends browsing too, and the layout after that fails. -/
theorem cameras_stay_apart : ∃ w changed t, Reachable w ∧
    w.workspace.settings.override (coupleCameras endBrowsing) = .ok (changed, t) ∧
    w.workspace.settings.synchronizedViews = false ∧ t.synchronizedViews = true ∧
    ¬ (w.updateSettings (coupleCameras endBrowsing) crampedHost).state.surfaces.Synchronized := by
  obtain ⟨w, hw, hrun⟩ := exists_sample_run
    { synchronizedViews := false, browsing := ⟨true, 0, 0⟩ } (sampleClick (.raw 0))
    (p := fun w => w.workspace.settings.synchronizedViews = false ∧
      ((w.workspace.settings.override (coupleCameras endBrowsing)).toOption.any
        fun change => change.2.synchronizedViews) ∧
      let after := (w.updateSettings (coupleCameras endBrowsing) crampedHost).state
      after.surfaces.primary.viewport.zoom ≠ after.surfaces.super.viewport.zoom)
    (by decide +kernel)
  obtain ⟨hoff, hoverride, hzoom⟩ := of_decide_eq_true hrun
  obtain ⟨⟨changed, t⟩, ht, hon⟩ := exists_ok_of_any hoverride
  exact ⟨w, changed, t, hw, ht, hoff, hon, fun h => hzoom (h .primary).1⟩

theorem workspace_updateSettings (host : Host)
    (h : w.workspace.settings.override overrides = .ok (changed, t)) :
    (w.updateSettings overrides host).state.workspace =
      (w.withSettings t).workspace.reacted changed host := by
  rcases updateSettings_cases host h with ⟨f, _, hstate⟩ | ⟨_, hstate⟩
  · rw [hstate, state_browsingChanged]
  · rw [hstate, state_couplingChanged, state_browsingChanged]

theorem exists_override_of_ok (hok : (w.updateSettings overrides host).result = .ok changed) :
    ∃ t, w.workspace.settings.override overrides = .ok (changed, t) := by
  cases ho : w.workspace.settings.override overrides with
  | error f =>
    rw [updateSettings_of_error host ho] at hok
    cases hok
  | ok change =>
    obtain ⟨keys, t⟩ := change
    rcases updateSettings_cases host ho with ⟨f, herror, _⟩ | ⟨hkeys, _⟩
    · rw [herror] at hok
      cases hok
    · cases hkeys.symm.trans hok
      exact ⟨t, rfl⟩

/-- Where live browsing is on after a change of its depth, and something is selected, the new depth
is what is shown, unless the change would have ended browsing and that was declined. Then what was
shown before is shown. -/
theorem showsReach_updateSettings_iff (hw : Reachable w)
    (hok : (w.updateSettings overrides host).result = .ok changed)
    (hdepth : .proximityDepth ∈ changed)
    (henabled : (w.updateSettings overrides host).state.workspace.settings.browsing.enabled = true)
    (hne : (w.updateSettings overrides host).state.workspace.selection.ids ≠ []) :
    ∃ t, w.workspace.settings.override overrides = .ok (changed, t) ∧
      ((w.updateSettings overrides host).state.workspace.ShowsReach t.browsing ↔
        t.browsing.enabled = true ∨ w.workspace.ShowsReach t.browsing) := by
  obtain ⟨c, hsound⟩ := sound_reachable hw
  obtain ⟨hc, hcoupled⟩ := hsound.coupled
  obtain ⟨t, ht⟩ := exists_override_of_ok hok
  have hcoupled' : Coupled w.workspace.overlay (w.withSettings t).workspace :=
    ⟨rfl, hcoupled.derived⟩
  refine ⟨t, ht, ?_⟩
  rw [workspace_updateSettings host ht] at henabled hne ⊢
  rw [(Workspace.keeps_reacted _ changed host).selection_eq] at hne
  exact Workspace.showsReach_reacted_iff (w.withSettings t).workspace hc hcoupled' hne
    hsound.selected hdepth henabled

/-- Where live browsing is on after a change of its depth, and something is selected, the new depth
is what is shown, except where the change itself has ended browsing and that was declined. Then all
is shown that was shown before, and nothing else. -/
theorem showsReach_updateSettings (hw : Reachable w)
    (hok : (w.updateSettings overrides host).result = .ok changed)
    (hdepth : .proximityDepth ∈ changed)
    (henabled : (w.updateSettings overrides host).state.workspace.settings.browsing.enabled = true)
    (hne : (w.updateSettings overrides host).state.workspace.selection.ids ≠ []) :
    ∃ t, w.workspace.settings.override overrides = .ok (changed, t) ∧
      (t.browsing.enabled = true →
        (w.updateSettings overrides host).state.workspace.ShowsReach t.browsing) ∧
      (t.browsing.enabled = false →
        w.workspace.settings.browsing.enabled = true ∧ .proximityBrowsing ∈ changed ∧
        ((w.withSettings t).workspace.unhide host).result = .ok .declined ∧
        (w.updateSettings overrides host).state.workspace.layers = w.workspace.layers) := by
  obtain ⟨t, ht, hreach⟩ := showsReach_updateSettings_iff hw hok hdepth henabled hne
  refine ⟨t, ht, fun hon => hreach.mpr (.inl hon), fun hoff => ?_⟩
  rw [workspace_updateSettings host ht] at henabled ⊢
  obtain ⟨hbrowsing, hdeclined, hstate⟩ := Workspace.declined_of_reacted hoff henabled
  refine ⟨?_, hbrowsing, hdeclined.result_eq, ?_⟩
  · obtain ⟨hvalid, hchanged⟩ := Settings.override_ok ht
    change changed = _ at hchanged
    rw [hchanged, Settings.mem_changedKeys hvalid] at hbrowsing
    simpa [Settings.Differs, hoff] using hbrowsing
  · rw [hstate]
    rfl

/-- Overrides that change the child depth to one, with others of browsing besides. -/
def deepen (browsing : List (String × Json)) : Json :=
  .object [("proximity", .object (("childDepth", .ofCount 1) :: browsing))]

/-- Says no to everything. -/
def refusingHost : Host := ⟨fun _ => .no, fun _ => none⟩

theorem showsReach_updateSettings_sample : ∃ w changed t, Reachable w ∧
    (w.updateSettings (deepen []) refusingHost).result = .ok changed ∧
    .proximityDepth ∈ changed ∧
    (w.updateSettings (deepen []) refusingHost).state.workspace.settings.browsing.enabled = true ∧
    (w.updateSettings (deepen []) refusingHost).state.workspace.selection.ids ≠ [] ∧
    w.workspace.settings.override (deepen []) = .ok (changed, t) ∧
    (w.updateSettings (deepen []) refusingHost).state.workspace.ShowsReach t.browsing := by
  obtain ⟨w, hw, hrun⟩ := exists_sample_run { browsing := ⟨true, 0, 0⟩ } (sampleClick (.raw 0))
    (p := fun w =>
      ((w.updateSettings (deepen []) refusingHost).result.toOption.any
        fun changed => .proximityDepth ∈ changed) ∧
      (w.updateSettings (deepen []) refusingHost).state.workspace.settings.browsing.enabled ∧
      (w.updateSettings (deepen []) refusingHost).state.workspace.selection.ids ≠ [] ∧
      ((w.workspace.settings.override (deepen [])).toOption.any
        fun change => change.2.browsing.enabled)) (by decide +kernel)
  obtain ⟨hresult, henabled, hne, hoverride⟩ := of_decide_eq_true hrun
  obtain ⟨changed, hok, hdepth⟩ := exists_ok_of_any hresult
  have hdepth := of_decide_eq_true hdepth
  obtain ⟨t, ht, hshown, _⟩ := showsReach_updateSettings hw hok hdepth henabled hne
  rw [ht] at hoverride
  exact ⟨w, changed, t, hw, hok, hdepth, henabled, hne, ht, hshown hoverride⟩

/-- The change of the depth would have ended browsing too, which is declined. The child of what is
selected stays hidden. -/
theorem depth_without_effect : ∃ w changed t, Reachable w ∧
    (w.updateSettings (deepen endBrowsing) refusingHost).result = .ok changed ∧
    .proximityDepth ∈ changed ∧
    (w.updateSettings (deepen endBrowsing) refusingHost).state.workspace.settings.browsing.enabled =
      true ∧
    (w.updateSettings (deepen endBrowsing) refusingHost).state.workspace.selection.ids ≠ [] ∧
    w.workspace.settings.override (deepen endBrowsing) = .ok (changed, t) ∧
    ¬ (w.updateSettings (deepen endBrowsing) refusingHost).state.workspace.ShowsReach
      t.browsing := by
  obtain ⟨w, hw, hrun⟩ := exists_sample_run { warningThreshold := 0, browsing := ⟨true, 0, 0⟩ }
    (sampleClick (.raw 0)) (p := fun w =>
      ((w.updateSettings (deepen endBrowsing) refusingHost).result.toOption.any
        fun changed => .proximityDepth ∈ changed) ∧
      ((w.workspace.settings.override (deepen endBrowsing)).toOption.any
        fun change => 1 ≤ change.2.browsing.childDepth.toNat) ∧
      let after := (w.updateSettings (deepen endBrowsing) refusingHost).state.workspace
      (after.settings.browsing.enabled = true ∧ after.selection.ids = [0]) ∧
      after.overlay.merged.endpoints? 0 = some (0, 1) ∧ 1 < after.overlay.merged.nodeCount ∧
      after.layers.combined.get (.node 1) = false) (by decide +kernel)
  obtain ⟨hresult, hoverride, hafter⟩ := of_decide_eq_true hrun
  obtain ⟨changed, hok, hdepth⟩ := exists_ok_of_any hresult
  obtain ⟨t, ht⟩ := exists_override_of_ok hok
  rw [ht] at hoverride
  have hchild : 1 ≤ t.browsing.childDepth.toNat := of_decide_eq_true hoverride
  generalize hstate : (w.updateSettings (deepen endBrowsing) refusingHost).state.workspace = after
    at hafter
  obtain ⟨⟨henabled, hselected⟩, hedge, hlt, hhidden⟩ := hafter
  refine ⟨w, changed, t, hw, hok, of_decide_eq_true hdepth, ?_⟩
  rw [hstate]
  refine ⟨henabled, by simp [hselected], ht, fun hreach => ?_⟩
  -- An edge leads from the selected identity to this one.
  have hnear : after.overlay.Near t.browsing after.selection.ids 1 :=
    .inl ⟨0, by simp [hselected], 1, hchild, .snoc (.refl 0) hedge⟩
  have hshown := Workspace.mem_shownIds.mp ((hreach 1 hlt).mpr hnear)
  rw [hhidden] at hshown
  cases hshown

end Window

end GraphCompare
