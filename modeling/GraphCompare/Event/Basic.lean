import GraphCompare.Settings.Basic

/-! What the outside hears of a change: events for subscribers, and requests to the surroundings. -/
namespace GraphCompare

inductive Event
  | visibilityChanged (view : View)
  /-- Visibility has settled after many steps, before any new layout. -/
  | visibilitySettled
  | selectionChanged
  | markersChanged
  | settingsChanged (key : SettingKey)
deriving DecidableEq, Repr

namespace Event

/-- The events for a change that may concern every view. -/
def visibility : List Event := View.all.map .visibilityChanged

end Event

/-- How much of a view is drawn again: the same content, or everything derived from it. -/
inductive Redraw
  | light
  | full
deriving DecidableEq, Repr

/-- Something that leaves the model, in the order in which it happens. -/
inductive Notice
  | event (e : Event)
  | question (text : String)
  /-- The layout engine is called, with or without hidden nodes. -/
  | layout (hidden : Bool)
  | redraw (view : View) (kind : Redraw)
  /-- The surface of a view is made to show the content of another one. -/
  | content (view shown : View)
deriving DecidableEq, Repr

namespace Notice

def events (es : List Event) : List Notice := es.map .event

def redraws (views : List View) (kind : Redraw) : List Notice := views.map (.redraw · kind)

end Notice

/-- What an operation leaves behind, what it let the outside know, and what it answers. -/
structure Outcome (σ α : Type) where
  state : σ
  notices : List Notice
  result : α

namespace Outcome
variable {σ α β : Type}

/-- The outcome of doing nothing but answering. -/
def still (s : σ) (a : α) : Outcome σ α := ⟨s, [], a⟩

def map (f : α → β) (o : Outcome σ α) : Outcome σ β := ⟨o.state, o.notices, f o.result⟩

/-- Goes on from an operation that did not fail; what it changed stays if it did. -/
def andThen (o : Outcome σ (Except Failure α)) (next : σ → α → Outcome σ (Except Failure β)) :
    Outcome σ (Except Failure β) :=
  match o.result with
  | .error e => ⟨o.state, o.notices, .error e⟩
  | .ok a =>
    let rest := next o.state a
    ⟨rest.state, o.notices ++ rest.notices, rest.result⟩

end Outcome

end GraphCompare
