import GraphCompare.Proofs.Overlay.Coherence
import GraphCompare.Proofs.Screen.Exact
import GraphCompare.Window.Basic

/-! Coupled cameras move in step. Whichever side is panned or zoomed, the three views that follow
each other are all shifted by one way or all zoomed to one zoom, so that their middles keep their
distances through any run of such motions. -/
namespace GraphCompare

/-- A pan or a zoom of a side. -/
inductive Motion
  | pan (s : Side) (d : Vec ℚ)
  | zoom (s : Side) (z : ℚ)

namespace Motion

/-- The zoom that a motion leads to; one that is not positive leads nowhere. -/
def zoom? : Motion → Option ℚ
  | pan _ _ => none
  | zoom _ z => if 0 < z then some z else none

/-- The zoom that a run of motions ends with, if it has changed it. -/
def lastZoom? (ms : List Motion) : Option ℚ := (ms.filterMap zoom?).getLast?

theorem lastZoom?_concat (ms : List Motion) (m : Motion) :
    lastZoom? (ms ++ [m]) = m.zoom?.or (lastZoom? ms) := by
  unfold lastZoom?
  rw [List.filterMap_append, List.getLast?_append]
  cases hm : m.zoom? <;> simp [hm]

theorem pos_of_zoom?_eq_some {m : Motion} {z : ℚ} (h : m.zoom? = some z) : 0 < z := by
  cases m with
  | pan s d => cases h
  | zoom s z' =>
    rw [zoom?, Option.ite_none_right_eq_some, Option.some.injEq] at h
    obtain ⟨hpos, rfl⟩ := h
    exact hpos

theorem pos_of_lastZoom?_eq_some {ms : List Motion} {z : ℚ} (h : lastZoom? ms = some z) :
    0 < z := by
  obtain ⟨m, _, hm⟩ := List.mem_filterMap.mp (List.mem_of_getLast? h)
  exact pos_of_zoom?_eq_some hm

end Motion

namespace Surfaces
variable (k : Coupling ℚ) (fs : Surfaces ℚ)

/-- Changes the three surfaces that follow each other in one way. -/
def together (change : Surface ℚ → Surface ℚ) : Surfaces ℚ :=
  { fs with
    primary := change fs.primary
    secondary := change fs.secondary
    super := change fs.super }

theorem get_together (change : Surface ℚ → Surface ℚ) {v : View} (hv : v ≠ .combined) :
    (fs.together change).get v = change (fs.get v) := by
  cases v with
  | combined => exact absurd rfl hv
  | primary | secondary | super => rfl

/-- What is done to a side and then to both that follow it is done to all three. -/
theorem modify_followers (s : Side) {first change : Surface ℚ → Surface ℚ}
    (h : first (fs.get s.view) = change (fs.get s.view)) :
    ((fs.modify s.view first).modify s.other.view change).modify .super change =
      fs.together change := by
  apply PerView.ext_get
  intro v
  cases s <;> cases v <;> first | rfl | exact h

section steps
variable {k : Coupling ℚ} {s : Side}

theorem modify_self (v : View) {change : Surface ℚ → Surface ℚ} (h : ∀ f, change f = f) :
    PerView.modify fs v change = fs := by
  apply PerView.ext_get
  intro u
  rw [PerView.get_modify, h, ite_self]

/-- The short cut for cameras that have not moved saves work and changes nothing. -/
theorem adoptViewPoint_of_follows (h : k.follows s = true) (previous : Point ℚ) :
    (fs.adoptViewPoint k s previous).2 =
      let way := (fs.get s.view).viewport.origin.minus previous
      (fs.modify s.other.view (·.shifted way)).modify .super (·.shifted way) := by
  rw [adoptViewPoint, if_neg (by simp [h])]
  dsimp only
  split
  · rename_i hzero
    rw [Vec.isZero_iff.mp hzero, modify_self fs _ Surface.shifted_zero,
      modify_self fs _ Surface.shifted_zero]
  · rfl

theorem adoptZoom_of_follows (h : k.follows s = true) :
    (fs.adoptZoom k s).2 =
      let zoom := (fs.get s.view).viewport.zoom
      (fs.modify s.other.view (·.zoomedTo zoom)).modify .super (·.zoomedTo zoom) := by
  rw [adoptZoom, if_neg (by simp [h])]

/-- A pan of a side shifts all three views by one way. -/
theorem state_pan (h : k.follows s = true) (d : Vec ℚ) :
    ∃ way, (fs.pan k s.view d).state = fs.together (·.shifted way) := by
  let camera := (fs.get s.view).viewport
  let origin := camera.origin.sub (camera.worldDelta d)
  let pan (f : Surface ℚ) := f.withCamera camera.world camera.zoom origin
  have hpan : pan (fs.get s.view) = (fs.get s.view).shifted (origin.minus camera.origin) := by
    rw [Surface.shifted, Point.add_minus]
  have hstate : (fs.pan k s.view d).state =
      (adoptViewPoint k (fs.modify s.view pan) s camera.origin).2 := by
    cases s <;> rfl
  have hget : (PerView.modify fs s.view pan).get s.view = pan (fs.get s.view) := by
    rw [PerView.get_modify, if_pos rfl]
  rw [hstate, adoptViewPoint_of_follows _ h, hget]
  exact ⟨_, fs.modify_followers s hpan⟩

/-- A zoom of a side zooms all three views, each about its own middle. -/
theorem state_setZoom (h : k.follows s = true) {zoom : ℚ} (hpos : 0 < zoom) :
    (fs.setZoom k s.view zoom).state = fs.together (·.zoomedTo zoom) := by
  let camera := (fs.get s.view).viewport
  let zoomed (f : Surface ℚ) :=
    (f.withCamera camera.world zoom camera.origin).withCenter camera.center
  have hzoomed : zoomed (fs.get s.view) = (fs.get s.view).zoomedTo zoom :=
    (fs.get s.view).zoomedTo_eq zoom
  have hstate : (fs.setZoom k s.view zoom).state =
      (adoptZoom k (fs.modify s.view zoomed) s).2 := by
    rw [setZoom, if_neg]
    · cases s <;> rfl
    · simp [Scalar.less_iff.mpr hpos, Scalar.finite]
  have hget : (PerView.modify fs s.view zoomed).get s.view = zoomed (fs.get s.view) := by
    rw [PerView.get_modify, if_pos rfl]
  rw [hstate, adoptZoom_of_follows _ h, hget]
  exact fs.modify_followers s hzoomed

/-- A zoom that is not positive does nothing and draws nothing. -/
theorem setZoom_of_not_pos (v : View) {zoom : ℚ} (h : ¬ 0 < zoom) :
    fs.setZoom k v zoom = ⟨fs, [], ()⟩ := by
  rw [setZoom, if_pos]
  rw [Bool.eq_false_iff.mpr (mt Scalar.less_iff.mp h), Bool.and_false]
  rfl

end steps

/-- What motions have made of coupled cameras: all middles have gone one way, and all zooms are the
one that was set, if one was. -/
structure Travelled (fs gs : Surfaces ℚ) (zoom? : Option ℚ) (way : Vec ℚ) : Prop where
  combined_eq : gs.combined = fs.combined
  center_eq : ∀ v, v ≠ .combined →
    (gs.get v).viewport.center = (fs.get v).viewport.center.add way
  zoom_eq : ∀ v, v ≠ .combined → (gs.get v).viewport.zoom = zoom?.getD (fs.get v).viewport.zoom
  world_eq : ∀ v, (gs.get v).viewport.world = (fs.get v).viewport.world
  size_eq : ∀ v, (gs.get v).viewport.size = (fs.get v).viewport.size

section travel
variable {fs} {gs hs : Surfaces ℚ} {z z' : Option ℚ} {way way' : Vec ℚ}

theorem Travelled.refl (fs : Surfaces ℚ) : Travelled fs fs none ⟨0, 0⟩ where
  combined_eq := rfl
  center_eq _ _ := (Point.add_zero _).symm
  zoom_eq _ _ := rfl
  world_eq _ := rfl
  size_eq _ := rfl

theorem Travelled.trans (h : Travelled fs gs z way) (h' : Travelled gs hs z' way') :
    Travelled fs hs (z'.or z) (way.plus way') where
  combined_eq := h'.combined_eq.trans h.combined_eq
  center_eq v hv := by rw [h'.center_eq v hv, h.center_eq v hv, Point.add_add]
  zoom_eq v hv := by
    rw [h'.zoom_eq v hv, h.zoom_eq v hv]
    cases z' <;> rfl
  world_eq v := (h'.world_eq v).trans (h.world_eq v)
  size_eq v := (h'.size_eq v).trans (h.size_eq v)

/-- One change of three surfaces takes them as far as it takes any surface. -/
theorem travelled_together (fs : Surfaces ℚ) {change : Surface ℚ → Surface ℚ}
    (hcenter : ∀ f, (change f).viewport.center = f.viewport.center.add way)
    (hzoom : ∀ f, (change f).viewport.zoom = z.getD f.viewport.zoom)
    (hworld : ∀ f, (change f).viewport.world = f.viewport.world)
    (hsize : ∀ f, (change f).viewport.size = f.viewport.size) :
    Travelled fs (fs.together change) z way where
  combined_eq := rfl
  center_eq v hv := by rw [fs.get_together change hv, hcenter]
  zoom_eq v hv := by rw [fs.get_together change hv, hzoom]
  world_eq v := by
    cases v with
    | combined => rfl
    | primary | secondary | super => exact hworld _
  size_eq v := by
    cases v with
    | combined => rfl
    | primary | secondary | super => exact hsize _

theorem travelled_shifted (fs : Surfaces ℚ) (way : Vec ℚ) :
    Travelled fs (fs.together (·.shifted way)) none way :=
  fs.travelled_together (fun f => f.center_shifted way) (fun _ => rfl) (fun _ => rfl) fun _ => rfl

theorem travelled_zoomedTo (fs : Surfaces ℚ) (zoom : ℚ) :
    Travelled fs (fs.together (·.zoomedTo zoom)) (some zoom) ⟨0, 0⟩ :=
  fs.travelled_together (fun f => by rw [f.center_zoomedTo, Point.add_zero])
    (fun f => f.zoom_zoomedTo zoom) (fun f => f.world_zoomedTo zoom) fun f => f.size_zoomedTo zoom

end travel

/-- The surfaces after a motion. -/
def move (m : Motion) : Surfaces ℚ :=
  match m with
  | .pan s d => (fs.pan k s.view d).state
  | .zoom s z => (fs.setZoom k s.view z).state

def moved (ms : List Motion) : Surfaces ℚ := ms.foldl (move k) fs

section runs
variable {k} (hk : ∀ s, k.follows s = true)
include hk

/-- A zoom takes no middle anywhere. -/
theorem travelled_zoom (s : Side) (z : ℚ) :
    Travelled fs (fs.move k (.zoom s z)) (Motion.zoom s z).zoom? ⟨0, 0⟩ := by
  rw [move, Motion.zoom?]
  split
  · rename_i hpos
    rw [fs.state_setZoom (hk s) hpos]
    exact fs.travelled_zoomedTo z
  · rename_i hpos
    rw [fs.setZoom_of_not_pos s.view hpos]
    exact .refl fs

theorem travelled_move (m : Motion) : ∃ way, Travelled fs (fs.move k m) m.zoom? way := by
  cases m with
  | pan s d =>
    obtain ⟨way, hstate⟩ := fs.state_pan (hk s) d
    refine ⟨way, ?_⟩
    rw [move, hstate]
    exact fs.travelled_shifted way
  | zoom s z => exact ⟨_, fs.travelled_zoom hk s z⟩

theorem travelled_moved (ms : List Motion) :
    ∃ way, Travelled fs (fs.moved k ms) (Motion.lastZoom? ms) way := by
  induction ms using List.reverseRecOn with
  | nil => exact ⟨_, .refl fs⟩
  | append_singleton ms m ih =>
    obtain ⟨way, htravelled⟩ := ih
    obtain ⟨way', hmove⟩ := travelled_move (fs.moved k ms) hk m
    refine ⟨way.plus way', ?_⟩
    rw [Motion.lastZoom?_concat, moved, List.foldl_append]
    exact htravelled.trans hmove

end runs

/-- What a run of pans and zooms of the sides keeps between coupled cameras, and where it leaves
their zooms. -/
structure InStep (k : Coupling ℚ) (fs : Surfaces ℚ) (ms : List Motion) : Prop where
  /-- The ways between the middles of coupled views stay as they are. -/
  apart_eq : ∀ v w, v ≠ .combined → w ≠ .combined →
    ((fs.moved k ms).get v).viewport.center.minus ((fs.moved k ms).get w).viewport.center =
      (fs.get v).viewport.center.minus (fs.get w).viewport.center
  combined_eq : (fs.moved k ms).combined = fs.combined
  world_eq : ∀ v, ((fs.moved k ms).get v).viewport.world = (fs.get v).viewport.world
  size_eq : ∀ v, ((fs.moved k ms).get v).viewport.size = (fs.get v).viewport.size
  /-- One zoom for all, once one has been set, and each its own until then. -/
  zoom_eq : ∀ v, v ≠ .combined →
    ((fs.moved k ms).get v).viewport.zoom = (Motion.lastZoom? ms).getD (fs.get v).viewport.zoom
  zoom_pos : ∀ v, v ≠ .combined → 0 < ((fs.moved k ms).get v).viewport.zoom
  center_zoom : ∀ s z v, (((fs.moved k ms).move k (.zoom s z)).get v).viewport.center =
    ((fs.moved k ms).get v).viewport.center
  refused : ∀ s z, ¬ 0 < z → (fs.moved k ms).setZoom k (Side.view s) z = ⟨fs.moved k ms, [], ()⟩

theorem center_move_zoom {k : Coupling ℚ} (hk : ∀ s, k.follows s = true) (s : Side) (z : ℚ)
    (v : View) : ((fs.move k (.zoom s z)).get v).viewport.center = (fs.get v).viewport.center := by
  have htravelled := fs.travelled_zoom hk s z
  by_cases hv : v = .combined
  · subst hv
    exact congrArg (·.viewport.center) htravelled.combined_eq
  · rw [htravelled.center_eq v hv, Point.add_zero]

end Surfaces

/-- Pans and zooms of the sides keep coupled cameras in step, in whatever order they come. -/
theorem Workspace.inStep_moved (w : Workspace) (measure : Float → ℚ)
    (hon : w.settings.synchronizedViews = true) (hlacks : ∀ s, w.overlay.lacksFunction s = false)
    (fs : Surfaces ℚ) (hpos : ∀ v, v ≠ .combined → 0 < (fs.get v).viewport.zoom)
    (ms : List Motion) : fs.InStep (w.coupling measure) ms := by
  have hk : ∀ s, (w.coupling measure).follows s = true := by
    intro s
    simp [Coupling.follows, coupling, hon, hlacks s]
  obtain ⟨way, htravelled⟩ := fs.travelled_moved hk ms
  exact {
    apart_eq := fun v w hv hw => by
      rw [htravelled.center_eq v hv, htravelled.center_eq w hw, Point.add_minus_add]
    combined_eq := htravelled.combined_eq
    world_eq := htravelled.world_eq
    size_eq := htravelled.size_eq
    zoom_eq := htravelled.zoom_eq
    zoom_pos := fun v hv => by
      rw [htravelled.zoom_eq v hv]
      cases hlast : Motion.lastZoom? ms with
      | none => exact hpos v hv
      | some z => exact Motion.pos_of_lastZoom?_eq_some hlast
    center_zoom := Surfaces.center_move_zoom _ hk
    refused := fun s z hz => Surfaces.setZoom_of_not_pos _ s.view hz }

/-- The sample as call graphs, which lack no function. -/
def Comparison.calls : Comparison := { sample with flavor := .callGraph }

theorem Workspace.exists_calls : ∃ w, ofComparison .calls {} = .ok w ∧
    w.settings.synchronizedViews = true ∧ ∀ s, w.overlay.lacksFunction s = false := by
  obtain ⟨w, hw, hrun⟩ := exists_ok_of_any (x := ofComparison .calls {})
    (p := fun w => w.settings.synchronizedViews = true ∧ w.overlay.flavor = .callGraph)
    (by decide +kernel)
  obtain ⟨hon, hflavor⟩ := of_decide_eq_true hrun
  refine ⟨w, hw, hon, fun s => ?_⟩
  rw [Overlay.lacksFunction, hflavor]
  rfl

/-- Canvases of two sizes and views on two zooms. -/
def Surfaces.uneven : Surfaces ℚ :=
  .ofFn fun v =>
    { viewport :=
        ⟨.zero, if v = .super then 2 else 1, .zero, ⟨if v = .primary then 300 else 200, 100⟩⟩
      content := v
      bounds := fun _ => .zero
      nodes := fun _ => 1
      hit := fun _ _ => none }

/-- Both sides are panned and zoomed in turn, and one zoom is refused. -/
def Motion.mixed : List Motion :=
  [.pan .primary ⟨10, 0⟩, .zoom .secondary 4, .zoom .primary 0, .pan .secondary ⟨0, -6⟩]

theorem Workspace.inStep_mixed : ∃ w, ofComparison .calls {} = .ok w ∧
    w.settings.synchronizedViews = true ∧ (∀ s, w.overlay.lacksFunction s = false) ∧
    (∀ v, v ≠ .combined → 0 < (Surfaces.uneven.get v).viewport.zoom) ∧
    ∀ measure v, v ≠ .combined →
      ((Surfaces.uneven.moved (w.coupling measure) Motion.mixed).get v).viewport.zoom = 4 := by
  obtain ⟨w, hw, hon, hlacks⟩ := exists_calls
  have hpos : ∀ v, v ≠ .combined → 0 < (Surfaces.uneven.get v).viewport.zoom := by
    intro v _
    rw [Surfaces.uneven, PerView.get_ofFn]
    dsimp only
    split <;> norm_num
  have hlast : Motion.lastZoom? Motion.mixed = some 4 := by
    norm_num [Motion.lastZoom?, Motion.mixed, List.filterMap_cons, Motion.zoom?]
  refine ⟨w, hw, hon, hlacks, hpos, fun measure v hv => ?_⟩
  rw [(w.inStep_moved measure hon hlacks Surfaces.uneven hpos Motion.mixed).zoom_eq v hv, hlast]
  rfl

end GraphCompare
