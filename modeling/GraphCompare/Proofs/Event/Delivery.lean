import GraphCompare.Event.Registry
import GraphCompare.Proofs.Event.Notices

/-! Who hears an event: a subscriber that keeps its subscription to the end has heard everything,
and nobody hears what was not sent. -/
namespace GraphCompare.Registry
variable {r : Registry} {n : Notice} {ns : List Notice} {e : Event} {slots : List Slot}
  {dropped : List Nat} {s : Slot} {k : Nat}

/-- The subscriber is in its place and has not given up its subscription. -/
def Holds (r : Registry) (k : Nat) : Prop := ∃ s ∈ r.slots, s.subscriber = k ∧ s.held = true

instance : Decidable (r.Holds k) :=
  inferInstanceAs (Decidable (∃ s ∈ r.slots, s.subscriber = k ∧ s.held = true))

/-- Once dropped, a subscription is not taken up again. -/
theorem subset_turns (e : Event) (dropped : List Nat) (slots : List Slot) :
    dropped ⊆ (turns e dropped slots).2 := by
  induction slots generalizing dropped with
  | nil => exact List.Subset.refl _
  | cons s rest ih =>
    unfold turns
    split
    · exact ih dropped
    · exact List.Subset.trans (List.subset_append_left _ _) (ih _)

/-- Nobody passes over a slot that is still held after the last turn. -/
theorem mem_told (hs : s ∈ slots) (hheld : s.subscriber ∉ (turns e dropped slots).2) :
    s.subscriber ∈ (turns e dropped slots).1 := by
  induction slots generalizing dropped with
  | nil => cases hs
  | cons t rest ih =>
    unfold turns at hheld ⊢
    split at hheld
    · rename_i hdropped
      rw [if_pos hdropped]
      rcases List.mem_cons.mp hs with rfl | hrest
      · exact absurd (subset_turns e dropped rest (List.contains_iff_mem.mp hdropped)) hheld
      · exact ih hrest hheld
    · rename_i hkept
      rw [if_neg hkept]
      rcases List.mem_cons.mp hs with rfl | hrest
      · exact List.mem_cons_self
      · exact List.mem_cons_of_mem _ (ih hrest hheld)

/-- Who holds a subscription after an event held it before and was told. -/
theorem told_of_holds (h : (r.emit e).2.Holds k) : r.Holds k ∧ k ∈ (r.emit e).1 := by
  obtain ⟨_, hmem, rfl, hheld⟩ := h
  obtain ⟨s, hs, rfl⟩ := List.mem_map.mp hmem
  obtain ⟨hslot, hbefore⟩ := List.mem_filter.mp hs
  refine ⟨⟨s, hslot, rfl, hbefore⟩, ?_⟩
  rw [subscriber_dropAll]
  refine mem_told hs ?_
  simpa [dropAll, hbefore] using hheld

theorem holds_of_deliver (h : (r.deliver n).2.Holds k) : r.Holds k := by
  cases n with
  | event e => exact (told_of_holds h).1
  | question | layout | redraw | content => exact h

theorem holds_of_relay (h : (r.relay ns).2.Holds k) : r.Holds k := by
  induction ns generalizing r with
  | nil => exact h
  | cons n ns ih => exact holds_of_deliver (ih h)

theorem heard_deliver (h : (r.deliver n).2.Holds k) :
    .heard k e ∈ (r.deliver n).1 ↔ n.event? = some e := by
  cases n with
  | event e' =>
    have htold : k ∈ (r.emit e').1 := (told_of_holds h).2
    simp only [deliver, Notice.event?, List.mem_map, Arrival.heard.injEq, Option.some.injEq]
    constructor
    · rintro ⟨_, _, _, he⟩
      exact he
    · intro he
      exact ⟨k, htold, rfl, he⟩
  | question | layout | redraw | content => simp [deliver, Notice.event?]

/-- A subscriber registered throughout hears exactly the events that are sent. -/
theorem heard_relay (h : (r.relay ns).2.Holds k) :
    .heard k e ∈ (r.relay ns).1 ↔ e ∈ Notice.delivered ns := by
  induction ns generalizing r with
  | nil => simp [relay, Notice.delivered]
  | cons n ns ih =>
    have hrest : ((r.deliver n).2.relay ns).2.Holds k := h
    have hfirst : (r.deliver n).2.Holds k := holds_of_relay hrest
    change .heard k e ∈ (r.deliver n).1 ++ ((r.deliver n).2.relay ns).1 ↔ _
    rw [List.mem_append, heard_deliver hfirst, ih hrest]
    simp [Notice.delivered]

end GraphCompare.Registry
