import GraphCompare.View

/-! Where the pointer is, and what a view is doing with it. -/
namespace GraphCompare

inductive Button
  | left
  | right
deriving DecidableEq, Repr

/-- A node under the pointer: a real one, or the marker attached to one. -/
inductive NodeRef
  | raw (i : NodeId)
  | marker (attached : NodeId)
deriving DecidableEq, Repr

/-- Something on a canvas. -/
inductive Spot
  | background
  | node (n : NodeRef)
  | edge (e : EdgeId)
  | bend (e : EdgeId) (index : Nat)
deriving DecidableEq, Repr

/-- What is under the pointer; nothing if it is off the canvas. -/
abbrev Hit := Option Spot

inductive Mode
  | idle
  | pressed (b : Button) (on : Spot)
  | clicked (b : Button) (on : Spot)
  | overNode (n : NodeRef)
  | overEdge (e : EdgeId)
deriving DecidableEq, Repr

namespace Mode

def button? : Mode → Option Button
  | .pressed b _ => some b
  | .clicked b _ => some b
  | _ => none

def isPressed : Mode → Bool
  | .pressed _ _ => true
  | _ => false

def isClicked : Mode → Bool
  | .clicked _ _ => true
  | _ => false

def isHovered : Mode → Bool
  | .overNode _ => true
  | .overEdge _ => true
  | _ => false

/-- What the mode is about. -/
def target : Mode → Hit
  | .idle => none
  | .pressed _ on => some on
  | .clicked _ on => some on
  | .overNode n => some (.node n)
  | .overEdge e => some (.edge e)

/-- A press off the canvas is no press. -/
def press (b : Button) : Hit → Mode
  | none => .idle
  | some on => .pressed b on

/-- Releasing the button turns a press into a click. -/
def release : Mode → Mode
  | .pressed b on => .clicked b on
  | m => m

/-- The mode when the pointer comes to a place, with the one to take over the background. -/
def enter (background : Mode) : Hit → Mode
  | some (.node n) => .overNode n
  | some (.edge e) => .overEdge e
  | some .background => background
  | some (.bend _ _) => .idle
  | none => .idle

/-- Stays while the pointer is on what the mode is about. -/
def stay (m background : Mode) (hit : Hit) : Mode :=
  if m.target = hit then m else enter background hit

/-- The mode after a move without a button held. A click on a node or an edge lasts while the
pointer stays on it, and one on the background or a bend is left at once. -/
def move (m : Mode) (hit : Hit) : Mode :=
  match m with
  | .pressed _ _ => m
  | .clicked b (.node _) => m.stay (.clicked b .background) hit
  | .clicked b (.edge _) => m.stay (.clicked b .background) hit
  | .clicked b .background => enter (.clicked b .background) hit
  | .clicked b (.bend _ _) => enter (.clicked b .background) hit
  | .overNode _ => m.stay .idle hit
  | .overEdge _ => m.stay .idle hit
  | .idle => enter .idle hit

end Mode

end GraphCompare
