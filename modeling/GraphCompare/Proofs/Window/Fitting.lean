import GraphCompare.Proofs.Screen.Moving
import GraphCompare.Proofs.Window.Framing

/-! Fitting moves the leading side and lets the others take over first its zoom, each about its own
middle, and then the way of its origin. That way is measured from the origin before the zoom, so
coupled cameras that were on one origin are on one again only if the fit has not zoomed. -/
namespace GraphCompare

namespace Surfaces

/-- The views that can follow each other are on one zoom and one origin. -/
def Locked {α : Type} (fs : Surfaces α) : Prop :=
  ∀ v, v ≠ .combined → (fs.get v).viewport.zoom = fs.super.viewport.zoom ∧
    (fs.get v).viewport.origin = fs.super.viewport.origin

variable (fs : Surfaces ℚ) {k : Coupling ℚ} {s : Side}

theorem get_followers (s : Side) (change : Surface ℚ → Surface ℚ) {v : View}
    (hv : v ≠ .combined) :
    (PerView.modify (PerView.modify fs s.other.view change) .super change).get v =
      if v = s.view then fs.get v else change (fs.get v) := by
  cases v with
  | combined => exact absurd rfl hv
  | primary | secondary | super => cases s <;> rfl

theorem get_adoptZoom (h : k.follows s = true) {v : View} (hv : v ≠ .combined) :
    (fs.adoptZoom k s).2.get v =
      if v = s.view then fs.get v else (fs.get v).zoomedTo (fs.get s.view).viewport.zoom := by
  rw [fs.adoptZoom_of_follows h]
  exact fs.get_followers s _ hv

theorem get_adoptViewPoint (h : k.follows s = true) (previous : Point ℚ) {v : View}
    (hv : v ≠ .combined) :
    (fs.adoptViewPoint k s previous).2.get v =
      if v = s.view then fs.get v
      else (fs.get v).shifted ((fs.get s.view).viewport.origin.minus previous) := by
  rw [fs.adoptViewPoint_of_follows h]
  exact fs.get_followers s _ hv

/-- What a fit makes of coupled surfaces: a new camera for the side that leads, its zoom and then
the way of its origin for the others. -/
theorem fitToContent_of_some (hk : ∀ s, k.follows s = true) {fit : Fitter ℚ}
    (h : (fs.fitToContent k fit).result = some s) :
    ∃ zoom origin, ∀ v, v ≠ .combined → (fs.fitToContent k fit).state.get v =
      if v = s.view then (fs.get v).withCamera (fs.get v).viewport.world zoom origin
      else ((fs.get v).zoomedTo zoom).shifted (origin.minus (fs.get s.view).viewport.origin) := by
  cases hlead : (fs.fitLeader k fit).result with
  | none =>
    rw [fitToContent, hlead] at h
    exact absurd (hlead.symm.trans h) (by simp)
  | some t =>
    obtain rfl : t = s := by
      rw [fitToContent, hlead] at h
      exact Option.some.inj h
    obtain ⟨_, zoom, origin, hstate⟩ := fs.fitLeader_of_some k hlead
    refine ⟨zoom, origin, fun v hv => ?_⟩
    have ht : t.view ≠ .combined := by cases t <;> decide
    have hout : (fs.fitToContent k fit).state =
        (adoptViewPoint k (adoptZoom k (fs.fitLeader k fit).state t).2 t
          (fs.get t.view).viewport.origin).2 := by
      rw [fitToContent, hlead]
    have hleader : (fs.fitLeader k fit).state.get t.view =
        (fs.get t.view).withCamera (fs.get t.view).viewport.world zoom origin := by
      rw [hstate, PerView.get_modify, if_pos rfl]
    have hzoomed : (adoptZoom k (fs.fitLeader k fit).state t).2.get t.view =
        (fs.fitLeader k fit).state.get t.view := by
      rw [get_adoptZoom _ (hk t) ht, if_pos rfl]
    rw [hout, get_adoptViewPoint _ (hk t) _ hv, get_adoptZoom _ (hk t) hv, hzoomed, hleader, hstate,
      PerView.get_modify]
    split <;> rfl

/-- A view that was on the camera of the side that leads ends off its origin by what half of the
visible extent has changed. -/
theorem origin_follower {f : Surface ℚ} {camera : Viewport ℚ} (h : f.viewport = camera) (zoom : ℚ)
    (origin : Point ℚ) :
    ((f.zoomedTo zoom).shifted (origin.minus camera.origin)).viewport.origin =
      origin.add (camera.visibleSize.half.minus { camera with zoom := zoom }.visibleSize.half) := by
  change (f.zoomedTo zoom).viewport.origin.add _ = _
  rw [f.origin_zoomedTo, h]
  exact Point.add_sub_add_minus _ _ _ _

/-- Surfaces that were on one camera come to the zoom of the side that leads, and off its origin by
what half of its visible extent has changed. -/
theorem viewport_fitted (hk : ∀ s, k.follows s = true)
    (hsame : ∀ v, v ≠ .combined → (fs.get v).viewport = fs.super.viewport) {fit : Fitter ℚ}
    (h : (fs.fitToContent k fit).result = some s) {v : View} (hv : v ≠ .combined) :
    let gs := (fs.fitToContent k fit).state
    (gs.get v).viewport.zoom = (gs.get s.view).viewport.zoom ∧
      (v ≠ s.view → (gs.get v).viewport.origin = (gs.get s.view).viewport.origin.add
        ((fs.get s.view).viewport.visibleSize.half.minus
          (gs.get s.view).viewport.visibleSize.half)) := by
  intro gs
  obtain ⟨zoom, origin, hget⟩ := fs.fitToContent_of_some hk h
  have hs : s.view ≠ .combined := by cases s <;> decide
  have hleader : (gs.get s.view).viewport = { (fs.get s.view).viewport with zoom, origin } := by
    rw [hget s.view hs, if_pos rfl]
    rfl
  rw [hleader, hget v hv]
  by_cases hne : v = s.view
  · exact ⟨by rw [if_pos hne]; rfl, fun h => absurd hne h⟩
  · rw [if_neg hne]
    refine ⟨Surface.zoom_zoomedTo _ zoom, fun _ => ?_⟩
    exact origin_follower ((hsame v hv).trans (hsame s.view hs).symm) zoom origin

end Surfaces

open Surfaces in
/-- A fit puts coupled cameras that were on one camera on one zoom, and leaves them on one origin
exactly if the side that leads sees as much of the world as before. -/
theorem Workspace.locked_fitToContent_iff (w : Workspace) (measure : Float → ℚ)
    (hon : w.settings.synchronizedViews = true) (hlacks : ∀ s, w.overlay.lacksFunction s = false)
    (fs : Surfaces ℚ) (hsame : ∀ v, v ≠ .combined → (fs.get v).viewport = fs.super.viewport)
    (fit : Fitter ℚ) {s : Side}
    (hfit : (fs.fitToContent (w.coupling measure) fit).result = some s) :
    let gs := (fs.fitToContent (w.coupling measure) fit).state
    (∀ v, v ≠ .combined → (gs.get v).viewport.zoom = gs.super.viewport.zoom) ∧
      (gs.Locked ↔
        (gs.get s.view).viewport.visibleSize = (fs.get s.view).viewport.visibleSize) := by
  intro gs
  have hk : ∀ s, (w.coupling measure).follows s = true := by
    intro s
    simp [Coupling.follows, coupling, hon, hlacks s]
  have hs : s.view ≠ .combined := by cases s <;> decide
  obtain ⟨hzoom, horigin⟩ := fs.viewport_fitted hk hsame hfit (v := .super) (by decide)
  have hsuper := horigin (by cases s <;> decide)
  have hzooms : ∀ v, v ≠ .combined → (gs.get v).viewport.zoom = gs.super.viewport.zoom :=
    fun v hv => (fs.viewport_fitted hk hsame hfit hv).1.trans hzoom.symm
  refine ⟨hzooms, fun hlocked => ?_, fun hsee v hv => ⟨hzooms v hv, ?_⟩⟩
  · have hstill := Point.add_eq_self_iff.mp (hsuper.symm.trans (hlocked s.view hs).2.symm)
    exact (Size.half_inj.mp (Vec.minus_eq_zero_iff.mp hstill)).symm
  · have hstill := Vec.minus_eq_zero_iff.mpr (congrArg Size.half hsee.symm)
    rw [hstill, Point.add_zero] at hsuper
    refine Eq.trans ?_ hsuper.symm
    by_cases hne : v = s.view
    · rw [hne]
    · rw [(fs.viewport_fitted hk hsame hfit hv).2 hne, hstill, Point.add_zero]

/-- All surfaces on one camera, with a content to be fitted. -/
def Surfaces.onOneCamera {α : Type} (camera : Viewport α) (content : Rect α) : Surfaces α :=
  .ofFn fun v =>
    { viewport := camera
      content := v
      bounds := fun _ => content
      nodes := fun _ => 1
      hit := fun _ _ => none }

namespace Workspace

def closeCamera : Viewport ℚ := ⟨.zero, 4, .zero, ⟨200, 100⟩⟩

def wideContent : Rect ℚ := ⟨.zero, ⟨90, 40⟩⟩

/-- Where the fit zooms out, cameras come apart that were on one. -/
theorem locked_fitToContent_sample : ∃ w, ofComparison .calls {} = .ok w ∧
    w.settings.synchronizedViews = true ∧ (∀ s, w.overlay.lacksFunction s = false) ∧
    let fs := Surfaces.onOneCamera closeCamera wideContent
    (∀ v, v ≠ .combined → (fs.get v).viewport = fs.super.viewport) ∧
      (fs.fitToContent (w.coupling fun _ => 1) (Fit.withMargin 10)).result = some .secondary ∧
      ¬ (fs.fitToContent (w.coupling fun _ => 1) (Fit.withMargin 10)).state.Locked := by
  obtain ⟨w, hw, hon, hlacks⟩ := exists_calls
  have hcoupling : w.coupling (fun _ => (1 : ℚ)) = ⟨true, 1, fun _ => false⟩ := by
    rw [coupling, hon, funext hlacks]
  have hsame : ∀ v, v ≠ .combined →
      ((Surfaces.onOneCamera closeCamera wideContent).get v).viewport = closeCamera :=
    fun v _ => by cases v <;> rfl
  have hfit : ((Surfaces.onOneCamera closeCamera wideContent).fitToContent
      (w.coupling fun _ => 1) (Fit.withMargin 10)).result = some .secondary := by
    rw [hcoupling]
    decide +kernel
  have hzoomed : ((Surfaces.onOneCamera closeCamera wideContent).fitToContent
      (w.coupling fun _ => 1) (Fit.withMargin 10)).state.secondary.viewport.visibleSize ≠
        closeCamera.visibleSize := by
    rw [hcoupling]
    decide +kernel
  refine ⟨w, hw, hon, hlacks, hsame, hfit, fun hlocked => hzoomed ?_⟩
  exact (w.locked_fitToContent_iff (fun _ => 1) hon hlacks _ hsame _ hfit).2.mp hlocked

end Workspace

namespace Window

def twinText : String := "[\"callGraph\",[null,null,null,[[1]]],[null,null,null,[[1]]],[]]"

def lockedCamera : Viewport Float := ⟨.zero, 2, .zero, ⟨200, 100⟩⟩

def lockedContent : Rect Float := ⟨.zero, ⟨90, 40⟩⟩

def halfZoom : Settings := { zoomOutFactor := 0.5 }

/-- Three cameras on one zoom and origin are on one zoom after the fit and no longer on one
origin. -/
theorem fit_unlocks_cameras : ∃ w, Reachable w ∧ w.workspace.settings.synchronizedViews = true ∧
    (∀ s, w.workspace.overlay.lacksFunction s = false) ∧
    (∀ v, (w.surfaces.get v).viewport = lockedCamera) ∧
    w.fitToContent.result = some .secondary ∧ ¬ (w.after .fitToContent).surfaces.Locked := by
  obtain ⟨w, hw, hrun⟩ := exists_opened twinText halfZoom
    (.onOneCamera lockedCamera lockedContent) (p := fun w =>
      w.workspace.settings.synchronizedViews = true ∧
      (w.workspace.overlay.lacksFunction .primary = false ∧
        w.workspace.overlay.lacksFunction .secondary = false) ∧
      (w.surfaces.primary.viewport = lockedCamera ∧ w.surfaces.secondary.viewport = lockedCamera ∧
        w.surfaces.combined.viewport = lockedCamera ∧ w.surfaces.super.viewport = lockedCamera) ∧
      w.fitToContent.result = some .secondary ∧
      (w.after .fitToContent).surfaces.secondary.viewport.origin.x ≠
        (w.after .fitToContent).surfaces.super.viewport.origin.x) (by decide +kernel)
  obtain ⟨hon, ⟨hprimary, hsecondary⟩, ⟨hp, hs, hc, hsuper⟩, hfit, hapart⟩ := of_decide_eq_true hrun
  refine ⟨w, hw, hon, fun s => ?_, fun v => ?_, hfit, fun hlocked => hapart ?_⟩
  · cases s
    · exact hprimary
    · exact hsecondary
  · cases v
    · exact hp
    · exact hs
    · exact hc
    · exact hsuper
  · exact congrArg Point.x (hlocked .secondary (by decide)).2

end Window

end GraphCompare
