import GraphCompare.Overlay.Basic

/-!
Visibility. Each view has a layer of flags; those of the sides are set, those of the combined and
the super view are derived from them.
-/
namespace GraphCompare

/-- Visibility flags of one view. -/
structure Layer where
  nodes : Array Bool
  edges : Array Bool
deriving DecidableEq, Repr

namespace Layer

def allVisible (nodes edges : Nat) : Layer :=
  ⟨Array.replicate nodes true, Array.replicate edges true⟩

def flags (l : Layer) : ElementKind → Array Bool
  | .node => l.nodes
  | .edge => l.edges

/-- What is not in the view is not visible. -/
def get (l : Layer) (e : Element) : Bool := ((l.flags e.kind)[e.index]?).getD false

/-- Sets a flag; an index outside of the view has none. -/
def set (l : Layer) (e : Element) (visible : Bool) : Layer :=
  match e with
  | .node i => { l with nodes := l.nodes.setIfInBounds i visible }
  | .edge i => { l with edges := l.edges.setIfInBounds i visible }

/-- Whether setting a flag would change it. -/
def changes (l : Layer) (e : Element) (visible : Bool) : Bool :=
  (l.flags e.kind)[e.index]? = some (!visible)

def hiddenCount (l : Layer) (k : ElementKind) : Nat := (l.flags k).count false

def visibleNodes (l : Layer) : List NodeId :=
  (List.range l.nodes.size).filter fun i => l.get (.node i)

theorem get_set (l : Layer) (e f : Element) (visible : Bool) :
    (l.set e visible).get f =
      if f = e ∧ e.index < (l.flags e.kind).size then visible else l.get f := by
  cases e with
  | node i =>
    cases f with
    | edge j => simp [get, set, flags, Element.kind, Element.index]
    | node j =>
      simp only [get, set, flags, Element.kind, Element.index, Array.getElem?_setIfInBounds]
      by_cases h : i = j
      · subst h
        by_cases hi : i < l.nodes.size <;> simp [hi]
      · simp [h, Ne.symm h]
  | edge i =>
    cases f with
    | node j => simp [get, set, flags, Element.kind, Element.index]
    | edge j =>
      simp only [get, set, flags, Element.kind, Element.index, Array.getElem?_setIfInBounds]
      by_cases h : i = j
      · subst h
        by_cases hi : i < l.edges.size <;> simp [hi]
      · simp [h, Ne.symm h]

@[simp] theorem size_flags_set (l : Layer) (e : Element) (visible : Bool) (k : ElementKind) :
    ((l.set e visible).flags k).size = (l.flags k).size := by
  cases e <;> cases k <;> simp [set, flags]

theorem get_of_size_le {l : Layer} {e : Element} (h : (l.flags e.kind).size ≤ e.index) :
    l.get e = false := by
  simp [get, h]

theorem get_allVisible (n m : Nat) (e : Element) :
    (allVisible n m).get e = true ↔ e.index < (match e.kind with | .node => n | .edge => m) := by
  cases e with
  | node i => by_cases h : i < n <;> simp [get, allVisible, flags, Element.kind, Element.index, h]
  | edge i => by_cases h : i < m <;> simp [get, allVisible, flags, Element.kind, Element.index, h]

end Layer

abbrev Layers := PerView Layer

/-- A combined or super flag that is not what the sides derive to. -/
structure Violation where
  view : View
  element : Element
  expected : Bool
  actual : Bool
deriving DecidableEq, Repr

namespace Layers

def allVisible (o : Overlay) : Layers := .ofFn fun v => .allVisible (o.nodeCount v) (o.edgeCount v)

/-- The flag on a side of the element that a merged one stands for, false if the side lacks it. -/
def heldFlag (ls : Layers) (m : Merged) (e : Element) (s : Side) : Bool :=
  ((m.holders.get s).map fun i => (ls.get s.view).get (e.withIndex i)).getD false

/-- The flag of an identity as its sides derive it. -/
def derived (ls : Layers) (m : Merged) (e : Element) : Bool :=
  m.presence.derive (ls.heldFlag m e .primary) (ls.heldFlag m e .secondary)

/-- Brings the combined and the super flag of one identity up to date. -/
def rederive (o : Overlay) (ls : Layers) (e : Element) : Layers :=
  match o.merged? e with
  | none => ls
  | some m =>
    let flag := ls.derived m e
    (ls.modify .combined (·.set e flag)).modify .super (·.set e flag)

/-- Sets the flag of an element of a side; says also whether it changed. -/
def setVisible (o : Overlay) (ls : Layers) (s : Side) (e : Element) (visible : Bool) :
    Except Failure (Bool × Layers) :=
  match (o.side s).identity? e with
  | none => .error (.unknownElement s.view e.kind e.index)
  | some i =>
    .ok ((ls.get s.view).changes e visible,
      rederive o (ls.modify s.view (·.set e visible)) (e.withIndex i))

def setNodeVisibleAt (o : Overlay) (ls : Layers) (s : Side) (a : Address) (visible : Bool) :
    Except Failure (Bool × Layers) := do
  let v ← (o.side s).nodeId a
  ls.setVisible o s (.node v) visible

def setEdgeVisibleAt (o : Overlay) (ls : Layers) (s : Side) (source target : Address)
    (visible : Bool) : Except Failure (Bool × Layers) := do
  let e ← (o.side s).edgeId source target
  ls.setVisible o s (.edge e) visible

/-- Sets a flag of the super view alone, before it is pushed down. -/
def stage (visible : Bool) (ls : Layers) (e : Element) : Layers :=
  ls.modify .super (·.set e visible)

/-- Sets the flag of a side's element if the side holds it. -/
def setHeld (m : Merged) (e : Element) (visible : Bool) (ls : Layers) (s : Side) : Layers :=
  match m.holders.get s with
  | none => ls
  | some i => ls.modify s.view (·.set (e.withIndex i) visible)

/-- Gives the super flag of one identity to the combined view and to the sides that hold it. -/
def pushDown (o : Overlay) (ls : Layers) (e : Element) : Layers :=
  match o.merged? e with
  | none => ls
  | some m =>
    let flag := ls.super.get e
    Side.both.foldl (setHeld m e flag) (ls.modify .combined (·.set e flag))

/-- Makes all views agree with the super view. -/
def adoptSuper (o : Overlay) (ls : Layers) : Layers := o.identities.foldl (pushDown o) ls

/-- The disagreements at one identity, combined before super. -/
def violationsAt (o : Overlay) (ls : Layers) (e : Element) : List Violation :=
  match o.merged? e with
  | none => []
  | some m =>
    let expected := ls.derived m e
    [View.combined, View.super].filterMap fun v =>
      let actual := (ls.get v).get e
      if actual = expected then none else some ⟨v, e, expected, actual⟩

def violations (o : Overlay) (ls : Layers) : List Violation :=
  o.identities.flatMap (violationsAt o ls)

def derivationHolds (o : Overlay) (ls : Layers) : Bool := (ls.violations o).isEmpty

end Layers

end GraphCompare
