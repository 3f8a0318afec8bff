import GraphCompare.Screen.Viewport
import GraphCompare.View

/-! Cameras that show some content in full, and which side's camera leads. -/
namespace GraphCompare
variable {α : Type}

structure Fit (α : Type) where
  zoom : α
  origin : Point α

/-- Finds the camera for some bounds on a canvas, if there is one. -/
abbrev Fitter (α : Type) := Rect α → Size α → Option (Fit α)

/-- Which side leads the other, or that the two are level. -/
inductive Leader
  | side (s : Side)
  | level
deriving DecidableEq, Repr

variable [Scalar α]

namespace Fit

/-- What a margin on either end leaves of a length, at least one. -/
def available (margin length : α) : α := Scalar.larger (length - Scalar.two * margin) 1

/-- The bounds in the middle of the canvas, as large as the margin on all sides allows. -/
def withMargin (margin : α) : Fitter α := fun bounds canvas =>
  if bounds.size.isEmpty || canvas.isEmpty then none
  else
    let zoom :=
      Scalar.smaller (available margin canvas.width / bounds.size.width)
        (available margin canvas.height / bounds.size.height)
    if Scalar.finite zoom && Scalar.less 0 zoom then
      some ⟨zoom, bounds.center.sub (canvas.div zoom).half⟩
    else none

/-- The margin of a fitter that is not told otherwise. -/
def defaultMargin : Float := 10

end Fit

namespace Leader

/-- The strictly wider side leads. -/
def byWidth (primary secondary : α) : Leader :=
  if Scalar.less secondary primary then .side .primary
  else if Scalar.less primary secondary then .side .secondary
  else .level

/-- For fitting, only a side with a node can lead; between level sides it is the secondary. -/
def forFit (primaryNodes : Nat) (primaryWidth : α) (secondaryNodes : Nat) (secondaryWidth : α) :
    Option Side :=
  match decide (0 < primaryNodes), decide (0 < secondaryNodes) with
  | false, false => none
  | true, false => some .primary
  | false, true => some .secondary
  | true, true =>
    match byWidth primaryWidth secondaryWidth with
    | .side s => some s
    | .level => some .secondary

end Leader

end GraphCompare
