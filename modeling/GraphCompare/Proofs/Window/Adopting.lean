import GraphCompare.Proofs.Screen.Floating
import GraphCompare.Proofs.Window.Run

/-! The cameras of the sides once they have adopted that of the super view. Where the sides are
drawn as wide as their canvases, these cameras are a function of its camera and of the canvases, so
nothing is left in them of where the sides had been. -/
namespace GraphCompare

namespace Leader
variable {x y : Float}

theorem byWidth_of_lt (h : y < x) : byWidth x y = .side .primary :=
  if_pos (Scalar.less_iff_lt.mpr h)

theorem byWidth_of_gt (h : x < y) : byWidth x y = .side .secondary := by
  have hnot : ¬ Scalar.less y x = true := mt Scalar.less_iff_lt.mp (Scalar.not_lt_of_lt h)
  rw [byWidth, if_neg hnot, if_pos (Scalar.less_iff_lt.mpr h)]

theorem byWidth_of_not_lt (h : ¬ x < y) (h' : ¬ y < x) : byWidth x y = .level := by
  rw [byWidth, if_neg (mt Scalar.less_iff_lt.mp h'), if_neg (mt Scalar.less_iff_lt.mp h)]

end Leader

/-- The camera that a side takes over for a canvas of its own. It has the middle of the other camera
if the other side leads, and else the origin. -/
def Viewport.adopted {α : Type} [Scalar α] (camera : Viewport α) (leader : Leader) (s : Side)
    (size : Size α) : Viewport α :=
  let taken : Viewport α := { camera with size := size }
  if leader = .side s.other then { taken with origin := taken.originForCenter camera.center }
  else taken

namespace Viewport
variable {α : Type} [Scalar α] (camera : Viewport α) {leader : Leader} {s : Side} (size : Size α)

@[simp] theorem world_adopted : (camera.adopted leader s size).world = camera.world := by
  unfold adopted
  dsimp only
  split <;> rfl

@[simp] theorem zoom_adopted : (camera.adopted leader s size).zoom = camera.zoom := by
  unfold adopted
  dsimp only
  split <;> rfl

@[simp] theorem size_adopted : (camera.adopted leader s size).size = size := by
  unfold adopted
  dsimp only
  split <;> rfl

theorem origin_adopted_of_led (h : leader = .side s.other) :
    (camera.adopted leader s size).origin =
      ({ camera with size := size } : Viewport α).originForCenter camera.center := by
  rw [adopted, if_pos h]

theorem origin_adopted (h : leader ≠ .side s.other) :
    (camera.adopted leader s size).origin = camera.origin := by
  rw [adopted, if_neg h]

end Viewport

namespace Surfaces

section general
variable {α : Type} [Scalar α] {k : Coupling α} (fs : Surfaces α)

/-- The side that is drawn wider once both have the world and the zoom of the super view. -/
def wider : Leader :=
  let taken := Side.both.foldl takeSuper fs
  Leader.byWidth taken.primary.renderedWidth taken.secondary.renderedWidth

/-- The sides are drawn over the whole width of their canvases, whatever cameras they have. -/
def FillCanvas : Prop :=
  ∀ (s : Side) (v : Viewport α), (fs.get s.view).width v = v.size.width

/-- A side with the camera that it takes over. -/
def adopting (s : Side) : Surface α :=
  let f := fs.get s.view
  { f with viewport := fs.super.viewport.adopted fs.wider s f.viewport.size }

def afterAdopting : Surfaces α :=
  { fs with primary := fs.adopting .primary, secondary := fs.adopting .secondary }

theorem adoptSuper_of_coupled (hk : k.synchronized = true) :
    fs.adoptSuper k = (some fs.wider, fs.afterAdopting) := by
  have hwider : Leader.byWidth (Side.both.foldl takeSuper fs).primary.renderedWidth
      (Side.both.foldl takeSuper fs).secondary.renderedWidth = fs.wider := rfl
  simp only [adoptSuper, hk, Bool.not_true, Bool.false_eq_true, if_false, hwider, afterAdopting,
    adopting]
  generalize fs.wider = leader
  cases leader with
  | side s => cases s <;> rfl
  | level => rfl

theorem adoptSuper_of_uncoupled (hk : k.synchronized = false) : fs.adoptSuper k = (none, fs) := by
  rw [adoptSuper, hk]
  rfl

theorem get_afterAdopting (s : Side) : fs.afterAdopting.get s.view = fs.adopting s := by
  cases s <;> rfl

theorem size_afterAdopting (v : View) :
    (fs.afterAdopting.get v).viewport.size = (fs.get v).viewport.size := by
  cases v with
  | primary | secondary => exact Viewport.size_adopted _ _
  | combined | super => rfl

end general

section filled
variable {α : Type} [Scalar α] {fs gs : Surfaces α}

theorem FillCanvas.wider_eq (h : fs.FillCanvas) :
    fs.wider =
      Leader.byWidth fs.primary.viewport.size.width fs.secondary.viewport.size.width :=
  congrArg₂ Leader.byWidth (h .primary _) (h .secondary _)

theorem FillCanvas.afterAdopting (h : fs.FillCanvas) : fs.afterAdopting.FillCanvas := by
  intro s v
  rw [get_afterAdopting]
  exact h s v

/-- Which of two filled canvases is wider does not depend on cameras. -/
theorem wider_congr (hf : fs.FillCanvas) (hg : gs.FillCanvas)
    (h : ∀ s : Side, (gs.get s.view).viewport.size = (fs.get s.view).viewport.size) :
    gs.wider = fs.wider := by
  rw [hf.wider_eq, hg.wider_eq]
  exact congrArg₂ (fun p q : Size α => Leader.byWidth p.width q.width) (h .primary) (h .secondary)

/-- The camera that is taken over is the same whatever camera a side has had. -/
theorem viewport_adopting_congr (hf : fs.FillCanvas) (hg : gs.FillCanvas)
    (hsuper : gs.super.viewport = fs.super.viewport)
    (hsize : ∀ s : Side, (gs.get s.view).viewport.size = (fs.get s.view).viewport.size)
    (s : Side) : (gs.adopting s).viewport = (fs.adopting s).viewport := by
  simp only [adopting, hsuper, hsize, wider_congr hf hg hsize]

theorem afterAdopting_afterAdopting (h : fs.FillCanvas) :
    fs.afterAdopting.afterAdopting = fs.afterAdopting := by
  have hsame : ∀ s, fs.afterAdopting.adopting s = fs.adopting s := by
    intro s
    have hsuper : fs.afterAdopting.super.viewport = fs.super.viewport := rfl
    have hviewport : (fs.afterAdopting.adopting s).viewport = (fs.adopting s).viewport :=
      viewport_adopting_congr h h.afterAdopting hsuper (fun t => fs.size_afterAdopting t.view) s
    have hrest : fs.afterAdopting.adopting s =
        { fs.adopting s with viewport := (fs.afterAdopting.adopting s).viewport } := by
      cases s <;> rfl
    rw [hrest, hviewport]
  rw [Surfaces.afterAdopting, hsame, hsame]
  rfl

end filled

/-- Neither of the two canvases is strictly wider. -/
def Level (fs : Surfaces Float) : Prop :=
  ∀ s : Side, ¬ (fs.get s.view).viewport.size.width < (fs.get s.other.view).viewport.size.width

section widths
variable {fs : Surfaces Float} {s : Side}

theorem wider_of_lt (hfs : fs.FillCanvas)
    (h : (fs.get s.other.view).viewport.size.width < (fs.get s.view).viewport.size.width) :
    fs.wider = .side s := by
  rw [hfs.wider_eq]
  cases s with
  | primary => exact Leader.byWidth_of_lt h
  | secondary => exact Leader.byWidth_of_gt h

theorem wider_of_level (hfs : fs.FillCanvas) (h : fs.Level) : fs.wider = .level :=
  hfs.wider_eq.trans (Leader.byWidth_of_not_lt (h .primary) (h .secondary))

/-- A width that is no number leaves neither canvas wider. -/
theorem level_of_isNaN (h : (fs.get s.view).viewport.size.width.isNaN = true) : fs.Level := by
  intro t
  by_cases ht : t = s
  · subst ht
    exact (Scalar.not_lt_of_isNaN h _).1
  · have hother : t.other = s := by cases s <;> cases t <;> first | rfl | exact absurd rfl ht
    rw [hother]
    exact (Scalar.not_lt_of_isNaN h _).2

end widths

/-- What surfaces are once the sides have adopted the camera of the super view. -/
structure Adopted (fs gs : Surfaces Float) : Prop where
  world_eq : ∀ s : Side, (gs.get s.view).viewport.world = fs.super.viewport.world
  zoom_eq : ∀ s : Side, (gs.get s.view).viewport.zoom = fs.super.viewport.zoom
  /-- A strictly wider side has the origin of the super view, and the other one has its middle. -/
  origin_of_lt : ∀ s : Side,
    (fs.get s.other.view).viewport.size.width < (fs.get s.view).viewport.size.width →
    (gs.get s.view).viewport.origin = fs.super.viewport.origin ∧
      (gs.get s.other.view).viewport.origin =
        ({ fs.super.viewport with size := (fs.get s.other.view).viewport.size } :
          Viewport Float).originForCenter fs.super.viewport.center
  origin_of_level : fs.Level → ∀ s : Side,
    (gs.get s.view).viewport.origin = fs.super.viewport.origin
  origin_of_isNaN : ∀ t : Side, (fs.get t.view).viewport.size.width.isNaN = true → ∀ s : Side,
    (gs.get s.view).viewport.origin = fs.super.viewport.origin
  super_eq : gs.super = fs.super
  combined_eq : gs.combined = fs.combined
  size_eq : ∀ v, (gs.get v).viewport.size = (fs.get v).viewport.size

theorem origin_of_level {fs : Surfaces Float} (hfs : fs.FillCanvas) (h : fs.Level) (s : Side) :
    (fs.afterAdopting.get s.view).viewport.origin = fs.super.viewport.origin := by
  rw [get_afterAdopting]
  apply Viewport.origin_adopted
  rw [wider_of_level hfs h]
  exact Leader.noConfusion

theorem adopted_afterAdopting {fs : Surfaces Float} (hfs : fs.FillCanvas) :
    fs.Adopted fs.afterAdopting where
  world_eq s := by
    rw [get_afterAdopting]
    exact Viewport.world_adopted _ _
  zoom_eq s := by
    rw [get_afterAdopting]
    exact Viewport.zoom_adopted _ _
  origin_of_lt s h := by
    have hwider : fs.wider = .side s := wider_of_lt hfs h
    rw [get_afterAdopting, get_afterAdopting]
    constructor
    · apply Viewport.origin_adopted
      rw [hwider]
      exact fun heq => s.other_ne (Leader.side.inj heq).symm
    · apply Viewport.origin_adopted_of_led
      rw [hwider, Side.other_other]
  origin_of_level := origin_of_level hfs
  origin_of_isNaN _ h := origin_of_level hfs (level_of_isNaN h)
  super_eq := rfl
  combined_eq := rfl
  size_eq := fs.size_afterAdopting

end Surfaces

namespace Window

/-- What it does to a window when its sides adopt the camera of the super view. -/
structure AdoptsSuper (w : Window) : Prop where
  adopted : w.workspace.settings.synchronizedViews = true →
    w.surfaces.Adopted w.adoptSuper.state.surfaces
  /-- The cameras of the sides come from the super view and the canvases alone. -/
  forgets : ∀ w' : Window, w'.surfaces.FillCanvas → w.workspace.settings.synchronizedViews = true →
    w'.workspace.settings.synchronizedViews = true →
    w'.surfaces.super.viewport = w.surfaces.super.viewport →
    (∀ s : Side, (w'.surfaces.get s.view).viewport.size = (w.surfaces.get s.view).viewport.size) →
    ∀ s : Side, (w'.adoptSuper.state.surfaces.get s.view).viewport =
      (w.adoptSuper.state.surfaces.get s.view).viewport
  again : w.adoptSuper.state.adoptSuper.state = w.adoptSuper.state
  uncoupled : w.workspace.settings.synchronizedViews = false → w.adoptSuper.state = w

variable {w : Window}

theorem state_adoptSuper_of_coupled (h : w.workspace.settings.synchronizedViews = true) :
    w.adoptSuper.state = { w with surfaces := w.surfaces.afterAdopting } := by
  have hadopt : w.surfaces.adoptSuper w.coupling =
      (some w.surfaces.wider, w.surfaces.afterAdopting) := w.surfaces.adoptSuper_of_coupled h
  rw [adoptSuper, Surfaces.showSuper, hadopt]
  rfl

theorem state_adoptSuper_of_uncoupled (h : w.workspace.settings.synchronizedViews = false) :
    w.adoptSuper.state = w := by
  have hadopt : w.surfaces.adoptSuper w.coupling = (none, w.surfaces) :=
    w.surfaces.adoptSuper_of_uncoupled h
  rw [adoptSuper, Surfaces.showSuper, hadopt]
  rfl

/-- Coupled sides that fill their canvases forget their cameras when they adopt that of the super
view. -/
theorem adoptsSuper (h : w.surfaces.FillCanvas) : w.AdoptsSuper where
  adopted hon := by
    rw [state_adoptSuper_of_coupled hon]
    exact Surfaces.adopted_afterAdopting h
  forgets w' h' hon hon' hsuper hsize s := by
    rw [state_adoptSuper_of_coupled hon, state_adoptSuper_of_coupled hon',
      Surfaces.get_afterAdopting, Surfaces.get_afterAdopting]
    exact Surfaces.viewport_adopting_congr h h' hsuper hsize s
  again := by
    cases hon : w.workspace.settings.synchronizedViews with
    | true =>
      let adopted : Window := { w with surfaces := w.surfaces.afterAdopting }
      have hon' : adopted.workspace.settings.synchronizedViews = true := hon
      rw [state_adoptSuper_of_coupled hon, state_adoptSuper_of_coupled hon',
        Surfaces.afterAdopting_afterAdopting h]
    | false => rw [state_adoptSuper_of_uncoupled hon, state_adoptSuper_of_uncoupled hon]
  uncoupled := state_adoptSuper_of_uncoupled

/-- The sample surfaces with a canvas for the secondary that is half as wide as the others. -/
def narrowSurfaces : Surfaces Float :=
  (sampleSurfaces 2 none).modify .secondary fun f =>
    { f with viewport := { f.viewport with size := ⟨100, 100⟩ } }

/-- A narrower secondary comes to have its middle, and not its origin, where the super view has. -/
theorem adoptsSuper_sample : ∃ w, Reachable w ∧
    w.workspace.settings.synchronizedViews = true ∧ w.surfaces.FillCanvas ∧
    w.surfaces.secondary.viewport.size.width < w.surfaces.primary.viewport.size.width ∧
    w.adoptSuper.state.surfaces.secondary.viewport.origin.x = 25 ∧ w.AdoptsSuper := by
  obtain ⟨w, hopen, hrun⟩ := exists_ok_of_any (x := ofText sampleText {} (sampleSurfaces 2 none))
    (p := fun w =>
      let w := w.after (.resurface narrowSurfaces)
      w.workspace.settings.synchronizedViews = true ∧
        w.surfaces.secondary.viewport.size.width < w.surfaces.primary.viewport.size.width ∧
        w.adoptSuper.state.surfaces.secondary.viewport.origin.x = 25) (by decide +kernel)
  obtain ⟨hon, hlt, horigin⟩ := of_decide_eq_true hrun
  have hfill : (w.after (.resurface narrowSurfaces)).surfaces.FillCanvas :=
    fun s _ => by cases s <;> rfl
  exact ⟨_, ⟨_, _, _, w, [.resurface narrowSurfaces], hopen, rfl⟩, hon, hfill, hlt, horigin,
    adoptsSuper hfill⟩

end Window

end GraphCompare
