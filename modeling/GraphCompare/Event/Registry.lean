import GraphCompare.Event.Basic

/-! Subscribers, and the delivery of events to those that still hold their subscription. -/
namespace GraphCompare

/-- A subscriber's place in the registry. `drops` are the subscriptions it gives up, its own
perhaps among them, while it is told of an event. -/
structure Slot where
  subscriber : Nat
  held : Bool
  drops : Event → List Nat

/-- Slots in the order of subscription; `next` is the number of the next subscriber. -/
structure Registry where
  slots : List Slot
  next : Nat

namespace Registry

def empty : Registry := ⟨[], 0⟩

/-- The new subscriber's number and the registry with it. -/
def subscribe (r : Registry) (drops : Event → List Nat) : Nat × Registry :=
  (r.next, ⟨r.slots ++ [⟨r.next, true, drops⟩], r.next + 1⟩)

def dropAll (dropped : List Nat) (s : Slot) : Slot :=
  { s with held := s.held && !dropped.contains s.subscriber }

@[simp] theorem subscriber_dropAll (dropped : List Nat) (s : Slot) :
    (dropAll dropped s).subscriber = s.subscriber := rfl

/-- Gives up a subscription. Its slot stays until the next event. -/
def cancel (r : Registry) (subscriber : Nat) : Registry :=
  { r with slots := r.slots.map (dropAll [subscriber]) }

def subscriberCount (r : Registry) : Nat := r.slots.countP (·.held)

def slotCount (r : Registry) : Nat := r.slots.length

/-- Goes through the slots in order: one that is still held is told, and drops what it drops. Gives
the subscribers told and all that was dropped. -/
def turns (e : Event) : List Nat → List Slot → List Nat × List Nat
  | dropped, [] => ([], dropped)
  | dropped, s :: rest =>
    if dropped.contains s.subscriber then turns e dropped rest
    else
      let (told, dropped) := turns e (dropped ++ s.drops e) rest
      (s.subscriber :: told, dropped)

/-- Clears away the slots given up before, then tells the others. -/
def emit (r : Registry) (e : Event) : List Nat × Registry :=
  let live := r.slots.filter (·.held)
  let (told, dropped) := turns e [] live
  (told, { r with slots := live.map (dropAll dropped) })

@[simp] theorem subscriberCount_subscribe (r : Registry) (drops : Event → List Nat) :
    (r.subscribe drops).2.subscriberCount = r.subscriberCount + 1 := by
  simp [subscriberCount, subscribe]

@[simp] theorem slotCount_cancel (r : Registry) (subscriber : Nat) :
    (r.cancel subscriber).slotCount = r.slotCount := by
  simp [slotCount, cancel]

/-- After an event only those are left in their slots who held their subscription before it. -/
theorem slotCount_emit (r : Registry) (e : Event) :
    (r.emit e).2.slotCount = r.subscriberCount := by
  simp [slotCount, emit, subscriberCount, List.countP_eq_length_filter]

end Registry

/-- A notice as it arrives: an event at each subscriber told of it, anything else as it is. -/
inductive Arrival
  | heard (subscriber : Nat) (e : Event)
  | direct (n : Notice)

namespace Registry

def deliver (r : Registry) : Notice → List Arrival × Registry
  | .event e =>
    let (told, r) := r.emit e
    (told.map (.heard · e), r)
  | n => ([.direct n], r)

/-- Delivers notices one after the other. -/
def relay (r : Registry) : List Notice → List Arrival × Registry
  | [] => ([], r)
  | n :: rest =>
    let (first, r) := r.deliver n
    let (others, r) := r.relay rest
    (first ++ others, r)

end Registry

end GraphCompare
