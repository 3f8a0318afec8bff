import GraphCompare.Graph.Basic

/-! The two sides of a comparison, the four views on it, and how elements of the sides match. -/
namespace GraphCompare

inductive Side
  | primary
  | secondary
deriving DecidableEq, Repr

/-- Each side has a view of its own; the combined view overlays both, and the super view has the
same elements and leads the cameras. -/
inductive View
  | primary
  | secondary
  | combined
  | super
deriving DecidableEq, Repr

namespace Side

def both : List Side := [.primary, .secondary]

def other : Side → Side
  | .primary => .secondary
  | .secondary => .primary

def view : Side → View
  | .primary => .primary
  | .secondary => .secondary

def name : Side → String
  | .primary => "primary"
  | .secondary => "secondary"

instance : ToString Side := ⟨name⟩

@[simp] theorem other_other (s : Side) : s.other.other = s := by cases s <;> rfl

theorem other_ne (s : Side) : s.other ≠ s := by cases s <;> decide

@[simp] theorem mem_both (s : Side) : s ∈ both := by cases s <;> decide

end Side

namespace View

def all : List View := [.primary, .secondary, .combined, .super]

/-- The views that take pointer input. -/
def interactive : List View := [.primary, .secondary, .combined]

def side? : View → Option Side
  | .primary => some .primary
  | .secondary => some .secondary
  | .combined => none
  | .super => none

def name : View → String
  | .primary => "primary"
  | .secondary => "secondary"
  | .combined => "combined"
  | .super => "super"

instance : ToString View := ⟨name⟩

@[simp] theorem mem_all (v : View) : v ∈ all := by cases v <;> decide

@[simp] theorem side?_view (s : Side) : s.view.side? = some s := by cases s <;> rfl

end View

/-- One value for each side. -/
structure PerSide (α : Type) where
  primary : α
  secondary : α
deriving DecidableEq, Repr

namespace PerSide
variable {α β : Type}

def get (p : PerSide α) : Side → α
  | .primary => p.primary
  | .secondary => p.secondary

def set (p : PerSide α) (s : Side) (a : α) : PerSide α :=
  match s with
  | .primary => { p with primary := a }
  | .secondary => { p with secondary := a }

def map (f : α → β) (p : PerSide α) : PerSide β := ⟨f p.primary, f p.secondary⟩

/-- The value for each side, computed from the side. -/
def ofFn (f : Side → α) : PerSide α := ⟨f .primary, f .secondary⟩

@[simp] theorem get_ofFn (f : Side → α) (s : Side) : (ofFn f).get s = f s := by cases s <;> rfl

@[simp] theorem get_map (f : α → β) (p : PerSide α) (s : Side) : (p.map f).get s = f (p.get s) := by
  cases s <;> rfl

theorem get_set (p : PerSide α) (s t : Side) (a : α) :
    (p.set s a).get t = if t = s then a else p.get t := by
  cases s <;> cases t <;> rfl

end PerSide

/-- One value for each view. -/
structure PerView (α : Type) where
  primary : α
  secondary : α
  combined : α
  super : α
deriving DecidableEq, Repr

namespace PerView
variable {α β : Type}

def get (p : PerView α) : View → α
  | .primary => p.primary
  | .secondary => p.secondary
  | .combined => p.combined
  | .super => p.super

def set (p : PerView α) (v : View) (a : α) : PerView α :=
  match v with
  | .primary => { p with primary := a }
  | .secondary => { p with secondary := a }
  | .combined => { p with combined := a }
  | .super => { p with super := a }

def modify (p : PerView α) (v : View) (f : α → α) : PerView α := p.set v (f (p.get v))

/-- The value for each view, computed from the view. -/
def ofFn (f : View → α) : PerView α := ⟨f .primary, f .secondary, f .combined, f .super⟩

def toList (p : PerView α) : List α := [p.primary, p.secondary, p.combined, p.super]

@[simp] theorem get_ofFn (f : View → α) (v : View) : (ofFn f).get v = f v := by cases v <;> rfl

theorem get_set (p : PerView α) (v w : View) (a : α) :
    (p.set v a).get w = if w = v then a else p.get w := by
  cases v <;> cases w <;> rfl

theorem get_modify (p : PerView α) (v w : View) (f : α → α) :
    (p.modify v f).get w = if w = v then f (p.get w) else p.get w := by
  cases v <;> cases w <;> rfl

theorem ext_get {p q : PerView α} (h : ∀ v, p.get v = q.get v) : p = q := by
  cases p
  cases q
  have h₁ := h .primary
  have h₂ := h .secondary
  have h₃ := h .combined
  have h₄ := h .super
  simp_all [get]

end PerView

/-- How the two elements of a matched pair differ, or that there is no pair. -/
inductive MatchKind
  | identical
  | instructionsOnlyChanged
  | structurallyChanged
  | unmatched
deriving DecidableEq, Repr

namespace MatchKind

def name : MatchKind → String
  | .identical => "identical"
  | .instructionsOnlyChanged => "instructionsOnlyChanged"
  | .structurallyChanged => "structurallyChanged"
  | .unmatched => "unmatched"

/-- The kind of a matched edge: structural change at an end wins, and only two identical ends
leave the edge identical. -/
def ofEnds : MatchKind → MatchKind → MatchKind
  | .identical, .identical => .identical
  | .structurallyChanged, _ => .structurallyChanged
  | _, .structurallyChanged => .structurallyChanged
  | _, _ => .instructionsOnlyChanged

theorem ofEnds_eq_identical {k l : MatchKind} :
    ofEnds k l = .identical ↔ k = .identical ∧ l = .identical := by
  cases k <;> cases l <;> decide

theorem ofEnds_eq_structurallyChanged {k l : MatchKind} :
    ofEnds k l = .structurallyChanged ↔ k = .structurallyChanged ∨ l = .structurallyChanged := by
  cases k <;> cases l <;> decide

/-- What is left: no structural change, and not both ends identical. -/
theorem ofEnds_eq_instructionsOnlyChanged {k l : MatchKind} :
    ofEnds k l = .instructionsOnlyChanged ↔ ¬ (k = .identical ∧ l = .identical) ∧
      ¬ (k = .structurallyChanged ∨ l = .structurallyChanged) := by
  cases k <;> cases l <;> decide

theorem ofEnds_ne_unmatched (k l : MatchKind) : ofEnds k l ≠ .unmatched := by
  cases k <;> cases l <;> decide

end MatchKind

/-- The sides on which an element of the overlay exists. -/
inductive Presence
  | matched
  | primaryUnmatched
  | secondaryUnmatched
deriving DecidableEq, Repr

namespace Presence

def name : Presence → String
  | .matched => "matched"
  | .primaryUnmatched => "primaryUnmatched"
  | .secondaryUnmatched => "secondaryUnmatched"

def hasSide : Presence → Side → Bool
  | .matched, _ => true
  | .primaryUnmatched, s => s = .primary
  | .secondaryUnmatched, s => s = .secondary

/-- Visibility in the combined view, from the visibility on the sides: one visible side is enough,
and a side without the element has no say. -/
def derive (p : Presence) (primary secondary : Bool) : Bool :=
  match p with
  | .matched => primary || secondary
  | .primaryUnmatched => primary
  | .secondaryUnmatched => secondary

end Presence

inductive ElementKind
  | node
  | edge
deriving DecidableEq, Repr

def ElementKind.name : ElementKind → String
  | .node => "node"
  | .edge => "edge"

/-- A node or an edge of a view, by its index. -/
inductive Element
  | node (i : NodeId)
  | edge (i : EdgeId)
deriving DecidableEq, Repr

namespace Element

def kind : Element → ElementKind
  | .node _ => .node
  | .edge _ => .edge

def index : Element → Nat
  | .node i => i
  | .edge i => i

/-- The element of the same kind at another index. -/
def withIndex : Element → Nat → Element
  | .node _, i => .node i
  | .edge _, i => .edge i

end Element

end GraphCompare
