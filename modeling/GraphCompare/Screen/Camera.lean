import GraphCompare.Event.Basic
import GraphCompare.Screen.Fit
import GraphCompare.Screen.Surface

/-!
Moving cameras. The super view and the two sides follow each other while they are coupled; the
combined view is on its own.
-/
namespace GraphCompare

/-- What decides whether cameras follow: the setting, and whether a side lacks its function.
`zoomOut` is the factor on the zoom after fitting. -/
structure Coupling (α : Type) where
  synchronized : Bool
  zoomOut : α
  lacksFunction : Side → Bool

/-- Whether the others follow the camera of a side. -/
def Coupling.follows {α : Type} (k : Coupling α) (s : Side) : Bool :=
  k.synchronized && !k.lacksFunction s

namespace Surfaces
variable {α : Type} [Scalar α] (k : Coupling α) (fs : Surfaces α)

/-- Gives the world and the zoom of the super view to a side, which keeps its origin. -/
def takeSuper (fs : Surfaces α) (s : Side) : Surfaces α :=
  let v := fs.super.viewport
  fs.modify s.view fun f => f.withCamera v.world v.zoom f.viewport.origin

/-- Puts a side on the origin of the super view. -/
def takeOrigin (fs : Surfaces α) (s : Side) : Surfaces α :=
  let v := fs.super.viewport
  fs.modify s.view (·.withCamera v.world v.zoom v.origin)

/-- Puts both sides on the camera of the super view: the wider one on its origin, the other one on
its middle, and both on its origin when they are level. -/
def adoptSuper : Option Leader × Surfaces α :=
  if !k.synchronized then (none, fs)
  else
    let fs := Side.both.foldl takeSuper fs
    let leader := Leader.byWidth fs.primary.renderedWidth fs.secondary.renderedWidth
    let fs :=
      match leader with
      | .side s => (fs.takeOrigin s).modify s.other.view (·.withCenter fs.super.viewport.center)
      | .level => Side.both.foldl takeOrigin fs
    (some leader, fs)

/-- Fits the leading side to the content of the super view and zooms out from there. The side shows
that content while it is measured; no other surface is touched. -/
def fitLeader (fit : Fitter α) : Outcome (Surfaces α) (Option Side) :=
  if !k.synchronized then ⟨fs, [], none⟩
  else
    let primary := fs.primary
    let secondary := fs.secondary
    match Leader.forFit primary.nodeCount primary.renderedWidth secondary.nodeCount
      secondary.renderedWidth with
    | none => ⟨fs, [], none⟩
    | some s =>
      let leader := fs.get s.view
      let shown := leader.withContent .super
      let v := shown.viewport
      let restored := shown.withContent leader.content
      let notices := [.content s.view .super, .content s.view leader.content]
      match fit shown.contentBounds v.size with
      | none => ⟨fs.set s.view restored, notices, none⟩
      | some f =>
        ⟨fs.set s.view (restored.withCamera v.world (f.zoom * k.zoomOut) f.origin), notices, some s⟩

/-- The other side and the super view take over the zoom of a side. -/
def adoptZoom (s : Side) : Bool × Surfaces α :=
  if !k.follows s then (false, fs)
  else
    let zoom := (fs.get s.view).viewport.zoom
    (true, (fs.modify s.other.view (·.zoomedTo zoom)).modify .super (·.zoomedTo zoom))

/-- The other side and the super view move as far as a side has moved from `previous`. -/
def adoptViewPoint (s : Side) (previous : Point α) : Bool × Surfaces α :=
  if !k.follows s then (false, fs)
  else
    let way := (fs.get s.view).viewport.origin.minus previous
    if way.isZero then (false, fs)
    else (true, (fs.modify s.other.view (·.shifted way)).modify .super (·.shifted way))

/-- A light redraw of the other side, if it followed. -/
def followed (s : Side) (step : Bool × Surfaces α) : Outcome (Surfaces α) Unit :=
  ⟨step.2, if step.1 then [.redraw s.other.view .light] else [], ()⟩

/-- Moves a view against a distance on its canvas; the others follow a side. -/
def pan (v : View) (d : Vec α) : Outcome (Surfaces α) Unit :=
  let camera := (fs.get v).viewport
  let moved : Surfaces α :=
    fs.modify v (·.withCamera camera.world camera.zoom (camera.origin.sub (camera.worldDelta d)))
  let rest :=
    match v.side? with
    | some s => followed s (moved.adoptViewPoint k s camera.origin)
    | none => ⟨moved, [], ()⟩
  { rest with notices := .redraw v .light :: rest.notices }

/-- Zooms a view about its middle; the others follow a side. A zoom that is not positive and finite
does nothing. -/
def setZoom (v : View) (zoom : α) : Outcome (Surfaces α) Unit :=
  if !(Scalar.finite zoom && Scalar.less 0 zoom) then ⟨fs, [], ()⟩
  else
    let camera := (fs.get v).viewport
    let zoomed : Surfaces α :=
      fs.modify v fun f =>
        (f.withCamera camera.world zoom camera.origin).withCenter camera.center
    let rest :=
      match v.side? with
      | some s => followed s (zoomed.adoptZoom k s)
      | none => ⟨zoomed, [], ()⟩
    { rest with notices := .redraw v .light :: rest.notices }

/-- Puts both sides on the camera of the super view and draws them again. -/
def showSuper : Outcome (Surfaces α) (Option Leader) :=
  let (leader, fs) := fs.adoptSuper k
  ⟨fs, if leader.isSome then Notice.redraws (Side.both.map Side.view) .light else [], leader⟩

/-- Fits the leading side to the whole content and lets the others follow its zoom and origin. -/
def fitToContent (fit : Fitter α) : Outcome (Surfaces α) (Option Side) :=
  let out := fs.fitLeader k fit
  match out.result with
  | none => out
  | some s =>
    let previous := (fs.get s.view).viewport.origin
    let zoomed := (out.state.adoptZoom k s).2
    let moved := (zoomed.adoptViewPoint k s previous).2
    ⟨moved, out.notices ++ Notice.redraws View.all .light, some s⟩

end Surfaces

end GraphCompare
