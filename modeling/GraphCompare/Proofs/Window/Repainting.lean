import GraphCompare.Proofs.Window.Reaction
import GraphCompare.Proofs.Workspace.Announcing

/-! Nothing is left painted stale. Whatever a call changes of what a surface shows, the surface is
asked to draw itself again before the call ends, also where the layout engine then fails. -/
namespace GraphCompare
variable {c : Comparison} {w w' w'' : Window} {ns ms : List Notice} {α β : Type}
open Notice

namespace Surfaces
variable {fs gs hs : Surfaces α} {s : Side} {step : Bool × Surfaces α}

/-- Every view that takes input is drawn again if its camera has moved. -/
def Repainted (fs gs : Surfaces α) (ns : List Notice) : Prop :=
  ∀ v ∈ View.interactive, (gs.get v).viewport ≠ (fs.get v).viewport → Draws ns v

def Repaints (fs : Surfaces α) (out : Outcome (Surfaces α) β) : Prop :=
  fs.Repainted out.state out.notices

theorem Repainted.refl (fs : Surfaces α) (ns : List Notice) : fs.Repainted fs ns :=
  fun _ _ hne => absurd rfl hne

theorem Repainted.trans (h : fs.Repainted gs ns) (h' : gs.Repainted hs ms) :
    fs.Repainted hs (ns ++ ms) := by
  intro v hv hne
  by_cases hstay : (gs.get v).viewport = (fs.get v).viewport
  · exact (h' v hv (hstay ▸ hne)).append_right ns
  · exact (h v hv hstay).append_left ms

section following

/-- What can follow a side: the other side and the super view, or nothing. -/
structure Follows (s : Side) (fs : Surfaces α) (step : Bool × Surfaces α) : Prop where
  still : step.1 = false → step.2 = fs
  others : ∀ v, v ≠ s.other.view → v ≠ .super → step.2.get v = fs.get v

theorem follows_still (s : Side) (fs : Surfaces α) : Follows s fs (false, fs) :=
  ⟨fun _ => rfl, fun _ _ _ => rfl⟩

theorem follows_modify (s : Side) (fs : Surfaces α) (f g : Surface α → Surface α) :
    Follows s fs (true, (fs.modify s.other.view f).modify .super g) where
  still := nofun
  others v hother hsuper := by
    rw [PerView.get_modify, if_neg hsuper, PerView.get_modify, if_neg hother]

theorem repaints_followed (h : Follows s fs step) : fs.Repaints (followed s step) := by
  intro v hv hne
  have hsuper : v ≠ .super := by
    rintro rfl
    exact absurd hv (by decide)
  unfold followed at hne ⊢
  cases hfollowed : step.1 with
  | false => exact absurd (by rw [h.still hfollowed]) hne
  | true =>
    by_cases hother : v = s.other.view
    · exact hother ▸ draws_redraw v .light
    · exact absurd (by rw [h.others v hother hsuper]) hne

variable [Scalar α]

theorem follows_adoptZoom (k : Coupling α) (fs : Surfaces α) (s : Side) :
    Follows s fs (fs.adoptZoom k s) := by
  unfold adoptZoom
  split
  · exact follows_still s fs
  · exact follows_modify s fs _ _

theorem follows_adoptViewPoint (k : Coupling α) (fs : Surfaces α) (s : Side) (previous : Point α) :
    Follows s fs (fs.adoptViewPoint k s previous) := by
  unfold adoptViewPoint
  split
  · exact follows_still s fs
  · dsimp only
    split
    · exact follows_still s fs
    · exact follows_modify s fs _ _

end following

/-- A view that is moved is drawn again itself. -/
theorem repainted_modify (fs : Surfaces α) (v : View) (f : Surface α → Surface α) :
    fs.Repainted (fs.modify v f) [.redraw v .light] := by
  intro u _ hne
  by_cases hu : u = v
  · exact hu ▸ draws_redraw u .light
  · exact absurd (by rw [PerView.get_modify, if_neg hu]) hne

section calls
variable [Scalar α] (k : Coupling α) (fs : Surfaces α)

theorem repaints_pan (v : View) (d : Vec α) : fs.Repaints (fs.pan k v d) := by
  unfold pan
  apply (fs.repainted_modify v _).trans
  cases v.side? with
  | none => exact .refl _ _
  | some s => exact repaints_followed (follows_adoptViewPoint k _ s _)

theorem repaints_setZoom (v : View) (zoom : α) : fs.Repaints (fs.setZoom k v zoom) := by
  unfold setZoom
  split
  · exact .refl _ _
  · apply (fs.repainted_modify v _).trans
    cases v.side? with
    | none => exact .refl _ _
    | some s => exact repaints_followed (follows_adoptZoom k _ s)

theorem combined_adoptSuper : (fs.adoptSuper k).2.combined = fs.combined := by
  cases hk : k.synchronized with
  | false => rw [fs.adoptSuper_of_uncoupled hk]
  | true =>
    rw [fs.adoptSuper_of_coupled hk]
    rfl

theorem repaints_showSuper : fs.Repaints (fs.showSuper k) := by
  intro v hv hne
  unfold showSuper at hne ⊢
  cases hk : k.synchronized with
  | false =>
    rw [fs.adoptSuper_of_uncoupled hk] at hne
    exact absurd rfl hne
  | true =>
    have hleader : (fs.adoptSuper k).1.isSome = true := by
      rw [fs.adoptSuper_of_coupled hk]
      rfl
    dsimp only
    rw [if_pos hleader]
    -- The combined view is the only one that takes input and is not drawn again.
    cases v with
    | primary => exact draws_redraws (by decide) .light
    | secondary => exact draws_redraws (by decide) .light
    | combined => exact absurd (congrArg Surface.viewport (fs.combined_adoptSuper k)) hne
    | super => exact absurd hv (by decide)

/-- A leader that cannot be fitted shows its own content again and keeps its camera. -/
theorem fitLeader_of_none {fit : Fitter α} (h : (fs.fitLeader k fit).result = none) :
    (fs.fitLeader k fit).state = fs := by
  unfold fitLeader at h ⊢
  split at h
  · rw [if_pos ‹_›]
  · rw [if_neg ‹_›]
    dsimp only at h ⊢
    split at h
    · rfl
    · split at h
      · rename_i s _ _ _
        cases s <;> rfl
      · cases h

section fits
variable {k} {fs} {fit : Fitter α} {s : Side} {f : Fit α}

/-- What a side is to be fitted to: the bounds of the content of the super view, as the side itself
reports them. -/
def superBounds (fs : Surfaces α) (s : Side) : Rect α := (fs.get s.view).bounds .super

/-- A side leads coupled cameras, and there is a fit for it. -/
structure Fits (k : Coupling α) (fs : Surfaces α) (fit : Fitter α) (s : Side) (f : Fit α) :
    Prop where
  synchronized : k.synchronized = true
  leads : Leader.forFit fs.primary.nodeCount fs.primary.renderedWidth fs.secondary.nodeCount
    fs.secondary.renderedWidth = some s
  fit_eq : fit (fs.superBounds s) (fs.get s.view).viewport.size = some f

theorem exists_fits (h : (fs.fitLeader k fit).result = some s) : ∃ f, Fits k fs fit s f := by
  unfold fitLeader at h
  split at h
  · cases h
  · rename_i hk
    dsimp only at h
    split at h
    · cases h
    · rename_i hleads
      split at h
      · cases h
      · rename_i f hfit
        cases h
        exact ⟨f, by simpa using hk, hleads, hfit⟩

theorem Fits.fitLeader_eq (h : Fits k fs fit s f) : fs.fitLeader k fit =
    ⟨fs.modify s.view fun g => g.withCamera g.viewport.world (f.zoom * k.zoomOut) f.origin,
      [.content s.view .super, .content s.view (fs.get s.view).content], some s⟩ := by
  have hfit : fit ((fs.get s.view).withContent .super).contentBounds
      ((fs.get s.view).withContent .super).viewport.size = some f := h.fit_eq
  simp only [fitLeader, h.synchronized, h.leads, hfit]
  rfl

end fits

theorem repaints_fitToContent (fit : Fitter α) : fs.Repaints (fs.fitToContent k fit) := by
  unfold fitToContent
  dsimp only
  split
  · rename_i hnone
    unfold Repaints
    rw [fs.fitLeader_of_none k hnone]
    exact .refl _ _
  · intro v _ _
    exact (draws_redraws (View.mem_all v) .light).append_right _

end calls

end Surfaces

namespace Window
open Workspace (Sound)

/-- What has to be drawn again when one window becomes another. -/
structure Repainted (w w' : Window) (ns : List Notice) : Prop where
  /-- Flags of one view bear on all. -/
  flags : w'.workspace.layers ≠ w.workspace.layers → DrawsAll ns
  selection : w'.workspace.selection ≠ w.workspace.selection → ∀ v ∈ View.interactive, Draws ns v
  cameras : w.surfaces.Repainted w'.surfaces ns

/-- The notices of an outcome have drawn again what it has changed. -/
def Repaints (w : Window) (out : Outcome Window α) : Prop := Repainted w out.state out.notices

section combinators

theorem repainted_of_eq (hlayers : w'.workspace.layers = w.workspace.layers)
    (hselection : w'.workspace.selection = w.workspace.selection)
    (hsurfaces : w'.surfaces = w.surfaces) : Repainted w w' ns where
  flags hne := absurd hlayers hne
  selection hne := absurd hselection hne
  cameras := hsurfaces ▸ .refl _ ns

theorem repainted_of_draws (hlayers : w'.workspace.layers = w.workspace.layers)
    (hdraws : ∀ v ∈ View.interactive, Draws ns v) : Repainted w w' ns where
  flags hne := absurd hlayers hne
  selection _ := hdraws
  cameras v hv _ := hdraws v hv

/-- Where everything is drawn again, anything may have changed. -/
theorem repainted_of_drawsAll (h : DrawsAll ns) : Repainted w w' ns where
  flags _ := h
  selection _ v _ := h.draws v
  cameras v _ _ := h.draws v

theorem Repainted.trans (h : Repainted w w' ns) (h' : Repainted w' w'' ms) :
    Repainted w w'' (ns ++ ms) where
  flags hne := by
    by_cases hstay : w'.workspace.layers = w.workspace.layers
    · exact (h'.flags (hstay ▸ hne)).append_right ns
    · exact (h.flags hstay).append_left ms
  selection hne v hv := by
    by_cases hstay : w'.workspace.selection = w.workspace.selection
    · exact (h'.selection (hstay ▸ hne) v hv).append_right ns
    · exact (h.selection hstay v hv).append_left ms
  cameras := h.cameras.trans h'.cameras

theorem repaints_still (w : Window) (a : α) : Repaints w (.still w a) :=
  repainted_of_eq rfl rfl rfl

theorem repaints_withSurfaces {out : Outcome (Surfaces Float) α} (h : w.surfaces.Repaints out) :
    Repaints w (w.withSurfaces out) where
  flags hne := absurd rfl hne
  selection hne := absurd rfl hne
  cameras := h

theorem Repaints.map {out : Outcome Window α} (h : Repaints w out) (f : α → β) :
    Repaints w (out.map f) := h

theorem Repaints.andThen {out : Outcome Window (Except Failure α)}
    {next : Window → α → Outcome Window (Except Failure β)} (h : Repaints w out)
    (hnext : ∀ a, out.result = .ok a → Repaints out.state (next out.state a)) :
    Repaints w (out.andThen next) := by
  cases hr : out.result with
  | error f =>
    rw [Outcome.andThen_of_error hr]
    exact h
  | ok a =>
    rw [Outcome.andThen_of_ok hr]
    exact h.trans (hnext a hr)

end combinators

section workspace

/-- A step of the workspace that fails leaves nothing to draw. -/
theorem repaints_redrawn_attempt (w : Window) (r : Except Failure (Outcome Workspace α)) :
    Repaints w (redrawn (w.attempt r) View.all .full) := by
  cases r with
  | error f => exact repaints_still w _
  | ok out => exact repainted_of_drawsAll (drawsAll_redraws.append_right _)

/-- Collapsing around the selection cannot fail, so it is certain that all is drawn again. -/
theorem drawsAll_refocus (h : Sound c w.workspace) : DrawsAll w.refocus.notices := by
  obtain ⟨out, hok, _⟩ := Workspace.exists_collapseToSelection h
  unfold refocus
  rw [hok]
  exact drawsAll_redraws.append_right _

theorem repaints_selectNode (h : Sound c w.workspace) (v : View) (i : NodeId) (additive : Bool) :
    Repaints w (w.selectNode v i additive) := by
  unfold selectNode
  split
  · exact repaints_still w _
  · rename_i id hid
    have hlt := h.coupled.1.lt_of_identityIn? hid
    have hsound : Sound c (w.workspace.select id additive).state := Workspace.sound_select h hlt
    dsimp only
    cases hchanged : (w.withWorkspace (w.workspace.select id additive)).result with
    | false => exact repainted_of_eq rfl (Selection.select_false hchanged) rfl
    | true =>
      rw [if_neg (by simp), Outcome.andThen_of_ok rfl]
      split
      · exact repainted_of_drawsAll ((drawsAll_refocus hsound).append_right _)
      · exact repainted_of_draws rfl fun v hv => (draws_redraws hv .light).append_right _

theorem repaints_clearSelection (w : Window) : Repaints w w.clearSelection := by
  unfold clearSelection
  dsimp only
  cases hchanged : (w.withWorkspace w.workspace.clearSelection).result with
  | false => exact repainted_of_eq rfl (Selection.clear_false hchanged) rfl
  | true =>
    exact repainted_of_draws rfl fun v hv => (draws_redraws hv .light).append_right _

theorem drawsAll_revealAll (w : Workspace) (host : Host) (nodes edges : Nat) :
    DrawsAll (w.revealAll host nodes edges).notices := by
  unfold Workspace.revealAll
  dsimp only
  split
  · exact drawsAll_redraws.append_left _
  · -- The layout comes after the first redraws, so they stand even if it fails.
    split
    · exact (drawsAll_redraws.append_left _).append_left _
    · exact drawsAll_redraws.append_right _

theorem repaints_unhideAll (w : Window) (host : Host) : Repaints w (w.unhideAll host) := by
  have hending := Workspace.ending_unhide w.workspace host
  unfold unhideAll
  generalize w.workspace.unhide host = out at hending ⊢
  cases hending with
  | needless hh => exact repaints_still w _
  | unasked hh hfew => exact repainted_of_drawsAll (drawsAll_revealAll _ host _ _)
  | agreed hh hmany hyes =>
    exact repainted_of_drawsAll
      ((drawsAll_revealAll _ host _ _).append_right [.question w.workspace.question])
  | refused hh hmany hno =>
    unfold Repaints withWorkspace
    rw [Workspace.state_setBrowsing]
    exact repainted_of_eq rfl rfl rfl

theorem repaints_browsingSwitched (w : Window) (host : Host) :
    Repaints w (w.browsingSwitched host) := by
  unfold browsingSwitched
  split
  · split
    · exact repaints_still w _
    · exact repaints_redrawn_attempt w _
  · exact repaints_unhideAll w host

theorem repaints_setBrowsing (w : Window) (enabled : Bool) (host : Host) :
    Repaints w (w.setBrowsing enabled host) := by
  unfold setBrowsing
  dsimp only
  have hstep : Repaints w (w.withWorkspace (w.workspace.setBrowsing enabled)) := by
    unfold Repaints withWorkspace
    rw [Workspace.state_setBrowsing]
    exact repainted_of_eq rfl rfl rfl
  split
  · exact hstep
  · exact Repaints.andThen hstep fun _ _ => repaints_browsingSwitched _ host

theorem repaints_browsingChanged (w : Window) (changed : List SettingKey) (host : Host) :
    Repaints w (w.browsingChanged changed host) := by
  unfold browsingChanged
  split
  · exact repaints_browsingSwitched w host
  · split
    · exact repaints_redrawn_attempt w _
    · exact repaints_still w _

end workspace

theorem repaints_couplingChanged (w : Window) (changed : List SettingKey) :
    Repaints w (w.couplingChanged changed) := by
  unfold couplingChanged
  split
  · exact repaints_withSurfaces (w.surfaces.repaints_showSuper w.coupling)
  · exact repaints_still w _

theorem repaints_updateSettings (w : Window) (overrides : Json) (host : Host) :
    Repaints w (w.updateSettings overrides host) := by
  cases ho : w.workspace.settings.override overrides with
  | error f =>
    rw [updateSettings_of_error host ho]
    exact repaints_still w _
  | ok change =>
    obtain ⟨changed, t⟩ := change
    have hsettings : Repainted w (w.withSettings t)
        (Notice.events (changed.map .settingsChanged)) := repainted_of_eq rfl rfl rfl
    rw [updateSettings_of_ok host ho]
    apply hsettings.trans
    apply (repaints_browsingChanged _ changed host).andThen
    intro _ _
    exact repaints_couplingChanged _ changed

theorem repaints_execute (h : Sound c w.workspace) (v : View) (command : Command Float) :
    Repaints w (w.execute v command) := by
  cases command with
  | select n additive =>
    cases n with
    | raw i => exact repaints_selectNode h v i additive
    | marker i =>
      change Repaints w (w.expandMarker v i)
      unfold expandMarker
      split
      · exact repaints_still w _
      · exact repaints_redrawn_attempt w _
  | clear => exact repaints_clearSelection w
  | pan d => exact repaints_withSurfaces (w.surfaces.repaints_pan w.coupling v d)
  | menu hit => exact repaints_still w _

theorem repaints_handlePointer (h : Sound c w.workspace) (v : View) (g : Gesture Float) :
    Repaints w (w.handlePointer v g) := by
  unfold handlePointer
  split
  · exact repaints_still w _
  · rename_i m hm
    obtain ⟨t, m'⟩ := m.handle g (w.hitOf v g)
    dsimp only
    -- The machine changes nothing that is drawn; all the rest is up to the command.
    have hstep : Repaints w (⟨{ w with pointers := w.pointers.set v m' },
        t.redraw.toList.map (.redraw v ·), .ok ()⟩ : Outcome Window (Except Failure Unit)) :=
      repainted_of_eq rfl rfl rfl
    have hsound : Sound c { w with pointers := w.pointers.set v m' }.workspace := h
    apply Repaints.map
    split
    · exact hstep
    · apply hstep.andThen
      intro _ _
      exact repaints_execute hsound v _

theorem repaints_perform (h : Sound c w.workspace) {call : Call}
    (hcall : ∀ fs, call ≠ .resurface fs) : Repaints w (w.perform call) := by
  cases call with
  | resurface fs => exact absurd rfl (hcall fs)
  | handlePointer v g => exact (repaints_handlePointer h v g).map _
  | pan v d => exact (repaints_withSurfaces (w.surfaces.repaints_pan w.coupling v d)).map _
  | setZoom v zoom =>
    exact (repaints_withSurfaces (w.surfaces.repaints_setZoom w.coupling v zoom)).map _
  | adoptSuper => exact (repaints_withSurfaces (w.surfaces.repaints_showSuper w.coupling)).map _
  | fitToContent =>
    exact (repaints_withSurfaces (w.surfaces.repaints_fitToContent w.coupling w.fitter)).map _
  | unhideAll host => exact (repaints_unhideAll w host).map _
  | setBrowsing enabled host => exact (repaints_setBrowsing w enabled host).map _
  | updateSettings overrides host => exact (repaints_updateSettings w overrides host).map _

/-- The end of a left click in the primary view. -/
def sampleRelease : Call := .handlePointer .primary ⟨.released, .left, .zero, false, false⟩

def sampleCoupling : Call := .updateSettings (coupleCameras []) refusingHost

/-- Nothing is left painted stale, whether a call fails or not. The surfaces are the caller's, who
has to draw those that are brought in. -/
theorem repainted_reachable (hw : Reachable w) (call : Call) (hcall : ∀ fs, call ≠ .resurface fs) :
    Repainted w (w.after call) (w.perform call).notices := by
  obtain ⟨c, hsound⟩ := sound_reachable hw
  exact repaints_perform hsound hcall

/-- A release of the button over a node hides the others, and an override couples the cameras. -/
theorem repainted_sample : ∃ w, Reachable w ∧
    (w.after sampleRelease).workspace.layers ≠ w.workspace.layers ∧
    (w.after sampleRelease).workspace.selection ≠ w.workspace.selection ∧
    DrawsAll (w.perform sampleRelease).notices ∧
    (w.after sampleCoupling).surfaces.primary.viewport ≠ w.surfaces.primary.viewport ∧
    Draws (w.perform sampleCoupling).notices .primary := by
  obtain ⟨w, hw, hrun⟩ := exists_sample_run
    { synchronizedViews := false, browsing := ⟨true, 0, 0⟩ }
    [.resurface (sampleSurfaces 2 (some (.node (.raw 0)))),
      .handlePointer .primary ⟨.pressed, .left, .zero, false, false⟩]
    (p := fun w => (w.after sampleRelease).workspace.layers ≠ w.workspace.layers ∧
      (w.after sampleRelease).workspace.selection ≠ w.workspace.selection ∧
      (w.after sampleCoupling).surfaces.primary.viewport.zoom ≠ w.surfaces.primary.viewport.zoom)
    (by decide +kernel)
  obtain ⟨hlayers, hselection, hzoom⟩ := of_decide_eq_true hrun
  have hcamera : (w.after sampleCoupling).surfaces.primary.viewport ≠
      w.surfaces.primary.viewport := fun heq => hzoom (by rw [heq])
  have hclick := repainted_reachable hw sampleRelease (by simp [sampleRelease])
  have hcoupling := repainted_reachable hw sampleCoupling (by simp [sampleCoupling])
  exact ⟨w, hw, hlayers, hselection, hclick.flags hlayers, hcamera,
    hcoupling.cameras .primary (by decide) hcamera⟩

end Window

end GraphCompare
