import GraphCompare.Event.Basic
import GraphCompare.Pointer.Mode
import GraphCompare.Screen.Shape

/-!
The pointer machine of a view: gestures go in, and the mode, the redraw and the command that they
complete come out.
-/
namespace GraphCompare

inductive Action
  | pressed
  | released
  | dragged
  | moved
deriving DecidableEq, Repr

/-- A pointer event at a place on the canvas. -/
structure Gesture (α : Type) where
  action : Action
  button : Button
  position : Point α
  shift : Bool := false
  ctrl : Bool := false

/-- What the view's owner is to do; the machine does not touch the model. -/
inductive Command (α : Type)
  | select (n : NodeRef) (additive : Bool)
  | clear
  | pan (d : Vec α)
  | menu (hit : Hit)

structure Transition (α : Type) where
  before : Mode
  after : Mode
  redraw : Option Redraw
  command : Option (Command α)

/-- `anchor` is the last place of a drag of the background by the left button, `panned` whether
that drag has moved. -/
structure Machine (α : Type) where
  mode : Mode
  anchor : Option (Point α)
  panned : Bool

variable {α : Type}

namespace Gesture

/-- Either key extends the selection instead of replacing it. -/
def additive (g : Gesture α) : Bool := g.shift || g.ctrl

end Gesture

namespace Transition

def changed (t : Transition α) : Bool := t.before ≠ t.after

end Transition

namespace Machine

def initial : Machine α := ⟨.idle, none, false⟩

variable (m : Machine α)

/-- A gesture that means nothing in the present mode. -/
def ignore : Transition α × Machine α := (⟨m.mode, m.mode, none, none⟩, m)

/-- Goes over to another state, with a light redraw. -/
def become (next : Machine α) (command : Option (Command α)) : Transition α × Machine α :=
  (⟨m.mode, next.mode, some .light, command⟩, next)

/-- A press closes what a right click has opened, and is ignored while a button is held. -/
def press (g : Gesture α) (hit : Hit) : Transition α × Machine α :=
  if m.mode.isClicked && m.mode.button? = some .right then m.become initial none
  else if m.mode.isPressed then m.ignore
  else
    let mode := Mode.press g.button hit
    let anchor := if mode = .pressed .left .background then some g.position else none
    m.become ⟨mode, anchor, false⟩ none

/-- The command of a click: the right button asks for a menu, the left one selects a node, or
clears the selection on a background that was not dragged. -/
def clickCommand (g : Gesture α) (mode : Mode) : Option (Command α) :=
  match g.button, mode with
  | .right, mode => some (.menu mode.target)
  | .left, .clicked _ (.node n) => some (.select n g.additive)
  | .left, .clicked _ .background => if m.panned then none else some .clear
  | .left, _ => none

/-- Only the button that is held can be released. -/
def release (g : Gesture α) : Transition α × Machine α :=
  if !m.mode.isPressed || m.mode.button? ≠ some g.button then m.ignore
  else
    let mode := m.mode.release
    m.become ⟨mode, none, m.panned⟩ (m.clickCommand g mode)

/-- A move takes no button, and needs a redraw only where it changes the mode. -/
def move (hit : Hit) : Transition α × Machine α :=
  let mode := m.mode.move hit
  (⟨m.mode, mode, if mode = m.mode then none else some .light, none⟩, { m with mode := mode })

variable [Scalar α]

/-- A drag of the background pans by the way since the last one. -/
def drag (g : Gesture α) : Transition α × Machine α :=
  if !m.mode.isPressed then m.ignore
  else
    match m.anchor with
    | none => m.become m none
    | some anchor =>
      let way := g.position.minus anchor
      let next := { m with anchor := some g.position }
      if way.isZero then m.become next none
      else m.become { next with panned := true } (some (.pan way))

/-- `hit` is what lies at the gesture's position; drags and releases do not look at it. -/
def handle (g : Gesture α) (hit : Hit) : Transition α × Machine α :=
  match g.action with
  | .pressed => m.press g hit
  | .released => m.release g
  | .dragged => m.drag g
  | .moved => m.move hit

end Machine

end GraphCompare
