import GraphCompare.Comparison.Json
import GraphCompare.Pointer.Machine
import GraphCompare.Screen.Camera
import GraphCompare.Workspace.Unhide

/-! A window: a workspace on its four surfaces, with a pointer machine for each view that has
one. -/
namespace GraphCompare

/-- The super view is never shown and takes no pointer. -/
structure Pointers (α : Type) where
  primary : Machine α
  secondary : Machine α
  combined : Machine α

namespace Pointers
variable {α : Type}

def initial : Pointers α := ⟨.initial, .initial, .initial⟩

def get? (p : Pointers α) : View → Option (Machine α)
  | .primary => some p.primary
  | .secondary => some p.secondary
  | .combined => some p.combined
  | .super => none

def set (p : Pointers α) (v : View) (m : Machine α) : Pointers α :=
  match v with
  | .primary => { p with primary := m }
  | .secondary => { p with secondary := m }
  | .combined => { p with combined := m }
  | .super => p

end Pointers

/-- How settings and overlay couple the cameras. `measure` reads the zoom factor as a number of the
kind that the screens are measured with. -/
def Workspace.coupling {α : Type} (w : Workspace) (measure : Float → α) : Coupling α where
  synchronized := w.settings.synchronizedViews
  zoomOut := measure w.settings.zoomOutFactor
  lacksFunction := w.overlay.lacksFunction

structure Window where
  workspace : Workspace
  pointers : Pointers Float
  fitter : Fitter Float
  surfaces : Surfaces Float

namespace Window

def new (w : Workspace) (fitter : Fitter Float) (surfaces : Surfaces Float) : Window :=
  ⟨w, .initial, fitter, surfaces⟩

/-- A window on the comparison that a text spells, with the default margin for fitting. -/
def ofText (text : String) (settings : Settings) (surfaces : Surfaces Float) :
    Except Failure Window := do
  match Comparison.ofText? text with
  | none => .error .malformedJson
  | some c =>
    let w ← Workspace.ofComparison c settings
    return new w (Fit.withMargin Fit.defaultMargin) surfaces

variable (w : Window)

def coupling : Coupling Float := w.workspace.coupling id

/-- An outcome of the workspace as one of the window. -/
def withWorkspace {α : Type} (o : Outcome Workspace α) : Outcome Window α :=
  ⟨{ w with workspace := o.state }, o.notices, o.result⟩

/-- An outcome of the surfaces as one of the window. -/
def withSurfaces {α : Type} (o : Outcome (Surfaces Float) α) : Outcome Window α :=
  ⟨{ w with surfaces := o.state }, o.notices, o.result⟩

def pan (v : View) (d : Vec Float) : Outcome Window Unit :=
  w.withSurfaces (w.surfaces.pan w.coupling v d)

def setZoom (v : View) (zoom : Float) : Outcome Window Unit :=
  w.withSurfaces (w.surfaces.setZoom w.coupling v zoom)

def adoptSuper : Outcome Window (Option Leader) :=
  w.withSurfaces (w.surfaces.showSuper w.coupling)

def fitToContent : Outcome Window (Option Side) :=
  w.withSurfaces (w.surfaces.fitToContent w.coupling w.fitter)

def unhideAll (host : Host) : Outcome Window (Except Failure Unhiding) :=
  w.withWorkspace (w.workspace.unhide host)

end Window

end GraphCompare
