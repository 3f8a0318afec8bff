import GraphCompare.Proofs.Event.Delivery
import Mathlib.Data.Set.Card

/-! A registry against the history of its subscriptions. Events reach exactly those who hold their
subscription when it is their turn, whatever is given up on the way. -/
namespace GraphCompare

/-- Something that happens to one subscription. -/
inductive Moment
  | taken (k : Nat)
  | givenUp (k : Nat)
  | told (k : Nat) (e : Event)
deriving DecidableEq, Repr

def Moment.taken? : Moment → Option Nat
  | .taken k => some k
  | _ => none

namespace Registry
variable {r : Registry} {h l : List Moment} {m : Moment} {e : Event} {slots : List Slot}
  {dropped ks : List Nat} {g : Nat → List Nat} {j k : Nat}

/-- At the end of a history the subscription has been taken, and not been given up since. -/
def HeldAfter (h : List Moment) (k : Nat) : Prop :=
  ∃ before since, h = before ++ .taken k :: since ∧ .givenUp k ∉ since

/-- In a history nobody is told who does not hold its subscription. -/
def TellsHolders (h : List Moment) : Prop :=
  ∀ before k e since, h = before ++ .told k e :: since → HeldAfter before k

/-- What can happen to a registry from outside. -/
inductive Call
  | subscribe (drops : Event → List Nat)
  | cancel (k : Nat)
  | emit (e : Event)
  /-- Subscribers may drop other subscriptions when they are next told than when they were last. -/
  | relearn (drops : Nat → Event → List Nat)

def after (r : Registry) : Call → Registry
  | .subscribe drops => (r.subscribe drops).2
  | .cancel k => r.cancel k
  | .emit e => (r.emit e).2
  | .relearn drops =>
    { r with slots := r.slots.map fun s => { s with drops := drops s.subscriber } }

def run (r : Registry) (calls : List Call) : Registry := calls.foldl after r

/-- What a subscriber drops while it is told of an event. -/
def gives (r : Registry) (e : Event) (k : Nat) : List Nat :=
  (r.slots.filter (·.subscriber = k)).flatMap (·.drops e)

/-- The turn of a subscriber: it is told, and then it has given up what it drops. -/
def turn (r : Registry) (e : Event) (k : Nat) : List Moment :=
  .told k e :: (r.gives e k).map .givenUp

/-- What a call makes happen to subscriptions. -/
def moments (r : Registry) : Call → List Moment
  | .subscribe drops => [.taken (r.subscribe drops).1]
  | .cancel k => [.givenUp k]
  | .emit e => (r.emit e).1.flatMap (r.turn e)
  | .relearn _ => []

/-- All that calls make happen, one after another. -/
def history (r : Registry) : List Call → List Moment
  | [] => []
  | call :: calls => r.moments call ++ (r.after call).history calls

/-- A registry with a history behind it that tells of every subscription in it. -/
structure Delivers (h : List Moment) (r : Registry) : Prop where
  /-- Subscribers are numbered in the order in which they have come. -/
  numbered : h.filterMap Moment.taken? = List.range r.next
  tellsHolders : TellsHolders h
  count_eq : r.subscriberCount = {k | HeldAfter h k}.ncard
  /-- An event reaches those whose subscription is held after the turns of all before them. -/
  told_iff : ∀ e k, k ∈ (r.emit e).1 ↔
    HeldAfter (h ++ ((r.emit e).1.filter (· < k)).flatMap (r.turn e)) k
  /-- In the order of subscription, and each once. -/
  told_ascending : ∀ e, (r.emit e).1.Pairwise (· < ·)
  /-- Only those keep their places who held their subscription when the event came. -/
  kept_iff : ∀ e k, k ∈ (r.emit e).2.slots.map (·.subscriber) ↔ HeldAfter h k
  kept_ascending : ∀ e, ((r.emit e).2.slots.map (·.subscriber)).Pairwise (· < ·)

section histories

theorem concat_eq_append_cons {α : Type} {l before since : List α} {a b : α}
    (h : l ++ [a] = before ++ b :: since) :
    (l = before ∧ a = b ∧ since = []) ∨
      ∃ since', since = since' ++ [a] ∧ l = before ++ b :: since' := by
  rcases List.eq_nil_or_concat since with rfl | ⟨since, c, rfl⟩
  · obtain ⟨hl, hab⟩ := List.append_inj' h rfl
    exact .inl ⟨hl, List.singleton_inj.mp hab, rfl⟩
  · have hassoc : l ++ [a] = (before ++ b :: since) ++ [c] := by simpa using h
    obtain ⟨hl, hac⟩ := List.append_inj' hassoc rfl
    obtain rfl := List.singleton_inj.mp hac
    exact .inr ⟨since, by simp, hl⟩

theorem not_heldAfter_nil : ¬ HeldAfter [] k := by
  rintro ⟨before, since, heq, _⟩
  simp at heq

theorem heldAfter_concat :
    HeldAfter (h ++ [m]) k ↔ m = .taken k ∨ HeldAfter h k ∧ m ≠ .givenUp k := by
  constructor
  · rintro ⟨before, since, heq, hkept⟩
    rcases concat_eq_append_cons heq with ⟨rfl, rfl, rfl⟩ | ⟨since', rfl, rfl⟩
    · exact .inl rfl
    · rw [List.mem_append, not_or] at hkept
      exact .inr ⟨⟨before, since', rfl, hkept.1⟩, fun hm => hkept.2 (by simp [hm])⟩
  · rintro (rfl | ⟨⟨before, since, rfl, hkept⟩, hm⟩)
    · exact ⟨h, [], rfl, List.not_mem_nil⟩
    · refine ⟨before, since ++ [m], by simp, ?_⟩
      simp [hkept, Ne.symm hm]

theorem heldAfter_append (hl : .taken k ∉ l) :
    HeldAfter (h ++ l) k ↔ HeldAfter h k ∧ .givenUp k ∉ l := by
  induction l using List.reverseRecOn with
  | nil => simp
  | append_singleton l m ih =>
    rw [List.mem_append, not_or, List.mem_singleton] at hl
    rw [← List.append_assoc, heldAfter_concat, ih hl.1]
    simp [Ne.symm hl.2, and_assoc, eq_comm]

theorem tellsHolders_nil : TellsHolders [] := by
  intro before k e since heq
  simp at heq

theorem tellsHolders_concat (hh : TellsHolders h) (hm : ∀ k e, m = .told k e → HeldAfter h k) :
    TellsHolders (h ++ [m]) := by
  intro before k e since heq
  rcases concat_eq_append_cons heq with ⟨rfl, rfl, _⟩ | ⟨since', _, rfl⟩
  · exact hm k e rfl
  · exact hh before k e since' rfl

theorem tellsHolders_append (hh : TellsHolders h) (hl : ∀ k e, .told k e ∉ l) :
    TellsHolders (h ++ l) := by
  induction l using List.reverseRecOn with
  | nil => simpa using hh
  | append_singleton l m ih =>
    rw [← List.append_assoc]
    apply tellsHolders_concat (ih fun k e hmem => hl k e (List.mem_append_left _ hmem))
    rintro k e rfl
    exact absurd (List.mem_append_right l List.mem_cons_self) (hl k e)

end histories

section turns

theorem sublist_turns (e : Event) (dropped : List Nat) (slots : List Slot) :
    (turns e dropped slots).1.Sublist (slots.map (·.subscriber)) := by
  induction slots generalizing dropped with
  | nil => exact List.Sublist.refl _
  | cons s rest ih =>
    unfold turns
    split
    · exact (ih dropped).cons _
    · exact (ih _).cons_cons _

theorem dropped_turns (hg : ∀ s ∈ slots, g s.subscriber = s.drops e) :
    (turns e dropped slots).2 = dropped ++ (turns e dropped slots).1.flatMap g := by
  induction slots generalizing dropped with
  | nil => simp [turns]
  | cons s rest ih =>
    have hrest : ∀ s ∈ rest, g s.subscriber = s.drops e := fun s hs =>
      hg s (List.mem_cons_of_mem _ hs)
    unfold turns
    split
    · exact ih hrest
    · simp only [ih hrest, List.flatMap_cons, hg s List.mem_cons_self, List.append_assoc]

theorem filter_lt_of_forall_lt (h : ∀ j ∈ ks, k < j) : ks.filter (· < k) = [] := by
  rw [List.filter_eq_nil_iff]
  intro j hj
  have hlt := h j hj
  simp only [decide_eq_true_eq]
  omega

/-- In slots of ascending numbers one is told that neither was dropped at the start nor is dropped
by one told before it. -/
theorem mem_turns_iff (hsorted : (slots.map (·.subscriber)).Pairwise (· < ·))
    (hg : ∀ s ∈ slots, g s.subscriber = s.drops e) :
    k ∈ (turns e dropped slots).1 ↔ k ∈ slots.map (·.subscriber) ∧
      k ∉ dropped ++ ((turns e dropped slots).1.filter (· < k)).flatMap g := by
  induction slots generalizing dropped with
  | nil => simp [turns]
  | cons s rest ih =>
    rw [List.map_cons, List.pairwise_cons] at hsorted
    obtain ⟨hlt, hsorted⟩ := hsorted
    have hrest : ∀ s ∈ rest, g s.subscriber = s.drops e := fun s hs =>
      hg s (List.mem_cons_of_mem _ hs)
    unfold turns
    split
    · rename_i hdropped
      rw [List.contains_iff_mem] at hdropped
      rw [ih hsorted hrest, List.map_cons, List.mem_cons]
      constructor
      · rintro ⟨hk, hkept⟩
        exact ⟨.inr hk, hkept⟩
      · rintro ⟨rfl | hk, hkept⟩
        · exact absurd (List.mem_append_left _ hdropped) hkept
        · exact ⟨hk, hkept⟩
    · rename_i hkept
      rw [List.contains_iff_mem] at hkept
      have htold := (sublist_turns e (dropped ++ s.drops e) rest).subset
      rw [List.mem_cons, ih hsorted hrest, List.map_cons, List.mem_cons]
      constructor
      · rintro (rfl | ⟨hk, hnot⟩)
        · -- Nobody is before the first one.
          have hnone : (turns e (dropped ++ s.drops e) rest).1.filter (· < s.subscriber) = [] :=
            filter_lt_of_forall_lt fun j hj => hlt j (htold hj)
          refine ⟨.inl rfl, ?_⟩
          simp [hnone, hkept]
        · refine ⟨.inr hk, ?_⟩
          simpa [hlt k hk, hg s List.mem_cons_self] using hnot
      · rintro ⟨rfl | hk, hnot⟩
        · exact .inl rfl
        · refine .inr ⟨hk, ?_⟩
          simpa [hlt k hk, hg s List.mem_cons_self] using hnot

theorem filter_subscriber {s : Slot} (hsorted : (slots.map (·.subscriber)).Pairwise (· < ·))
    (hs : s ∈ slots) : slots.filter (·.subscriber = s.subscriber) = [s] := by
  induction slots with
  | nil => cases hs
  | cons t rest ih =>
    rw [List.map_cons, List.pairwise_cons] at hsorted
    obtain ⟨hlt, hsorted⟩ := hsorted
    rcases List.mem_cons.mp hs with rfl | hs
    · have hnone : rest.filter (·.subscriber = s.subscriber) = [] := by
        rw [List.filter_eq_nil_iff]
        intro t ht
        have := hlt t.subscriber (List.mem_map.mpr ⟨t, ht, rfl⟩)
        simp only [decide_eq_true_eq]
        omega
      simp [hnone]
    · have hne : t.subscriber ≠ s.subscriber :=
        Nat.ne_of_lt (hlt s.subscriber (List.mem_map.mpr ⟨s, hs, rfl⟩))
      simp [hne, ih hsorted hs]

end turns

section slots

/-- The slots that an event finds held. -/
def live (r : Registry) : List Slot := r.slots.filter (·.held)

theorem holds_live (r : Registry) (k : Nat) : { r with slots := r.live }.Holds k ↔ r.Holds k := by
  constructor
  · rintro ⟨s, hs, hk, hheld⟩
    exact ⟨s, (List.mem_filter.mp hs).1, hk, hheld⟩
  · rintro ⟨s, hs, hk, hheld⟩
    exact ⟨s, List.mem_filter.mpr ⟨hs, hheld⟩, hk, hheld⟩

/-- Of the subscriptions that were held, those are left that were not dropped. -/
theorem holds_dropAll (r : Registry) (dropped : List Nat) (k : Nat) :
    { r with slots := r.slots.map (dropAll dropped) }.Holds k ↔ r.Holds k ∧ k ∉ dropped := by
  constructor
  · rintro ⟨_, hmem, rfl, hheld⟩
    obtain ⟨s, hs, rfl⟩ := List.mem_map.mp hmem
    simp only [dropAll, Bool.and_eq_true, Bool.not_eq_true', List.contains_eq_mem,
      decide_eq_false_iff_not] at hheld
    exact ⟨⟨s, hs, rfl, hheld.1⟩, hheld.2⟩
  · rintro ⟨⟨s, hs, rfl, hheld⟩, hkept⟩
    exact ⟨dropAll dropped s, List.mem_map.mpr ⟨s, hs, rfl⟩, rfl, by simp [dropAll, hheld, hkept]⟩

theorem subscribers_emit (r : Registry) (e : Event) :
    (r.emit e).2.slots.map (·.subscriber) = r.live.map (·.subscriber) := by
  simp [emit, live, Function.comp_def]

theorem mem_live_iff (r : Registry) (k : Nat) : k ∈ r.live.map (·.subscriber) ↔ r.Holds k := by
  rw [← holds_live, List.mem_map]
  constructor
  · rintro ⟨s, hs, rfl⟩
    exact ⟨s, hs, rfl, (List.mem_filter.mp hs).2⟩
  · rintro ⟨s, hs, hk, _⟩
    exact ⟨s, hs, hk⟩

end slots

/-- What a registry and its history have in common. -/
structure Records (h : List Moment) (r : Registry) : Prop where
  ascending : (r.slots.map (·.subscriber)).Pairwise (· < ·)
  lt_next : ∀ k ∈ r.slots.map (·.subscriber), k < r.next
  numbered : h.filterMap Moment.taken? = List.range r.next
  heldAfter_iff : ∀ k, HeldAfter h k ↔ r.Holds k
  tellsHolders : TellsHolders h

theorem records_empty : Records [] empty where
  ascending := List.Pairwise.nil
  lt_next _ hk := absurd hk List.not_mem_nil
  numbered := rfl
  heldAfter_iff k := by simp [not_heldAfter_nil, Holds, empty]
  tellsHolders := tellsHolders_nil

theorem records_subscribe (hr : Records h r) (drops : Event → List Nat) :
    Records (h ++ [.taken r.next]) (r.subscribe drops).2 where
  ascending := by
    rw [subscribe, List.map_append, List.pairwise_append]
    refine ⟨hr.ascending, List.pairwise_singleton _ _, ?_⟩
    intro j hj k hk
    rw [List.mem_singleton.mp hk]
    exact hr.lt_next j hj
  lt_next k hk := by
    rw [subscribe, List.map_append, List.mem_append] at hk
    rcases hk with hk | hk
    · exact Nat.lt_succ_of_lt (hr.lt_next k hk)
    · rw [List.mem_singleton.mp hk]
      exact Nat.lt_succ_self _
  numbered := by
    rw [List.filterMap_append, hr.numbered]
    exact List.range_succ.symm
  heldAfter_iff k := by
    rw [heldAfter_concat, hr.heldAfter_iff]
    simp [Holds, subscribe, or_and_right, exists_or, or_comm]
  tellsHolders := tellsHolders_concat hr.tellsHolders nofun

theorem records_cancel (hr : Records h r) (j : Nat) :
    Records (h ++ [.givenUp j]) (r.cancel j) where
  ascending := by
    simpa [cancel, Function.comp_def] using hr.ascending
  lt_next := by
    simpa [cancel, Function.comp_def] using hr.lt_next
  numbered := by
    rw [List.filterMap_append, hr.numbered]
    exact List.append_nil _
  heldAfter_iff k := by
    rw [heldAfter_concat, hr.heldAfter_iff, cancel, holds_dropAll]
    simp [eq_comm]
  tellsHolders := tellsHolders_concat hr.tellsHolders nofun

theorem records_relearn (hr : Records h r) (drops : Nat → Event → List Nat) :
    Records h (r.after (.relearn drops)) where
  ascending := by
    simpa [after, Function.comp_def] using hr.ascending
  lt_next := by
    simpa [after, Function.comp_def] using hr.lt_next
  numbered := hr.numbered
  heldAfter_iff k := by
    rw [hr.heldAfter_iff]
    simp [Holds, after]
  tellsHolders := hr.tellsHolders

section emission

theorem gives_of_mem (hr : Records h r) {s : Slot} (hs : s ∈ r.slots) :
    r.gives e s.subscriber = s.drops e := by
  simp [gives, filter_subscriber hr.ascending hs]

theorem gives_of_live (hr : Records h r) : ∀ s ∈ r.live, r.gives e s.subscriber = s.drops e :=
  fun _ hs => gives_of_mem hr (List.mem_filter.mp hs).1

theorem live_ascending (hr : Records h r) : (r.live.map (·.subscriber)).Pairwise (· < ·) :=
  hr.ascending.sublist (List.filter_sublist.map _)

theorem taken_not_mem_turns (r : Registry) (e : Event) (ks : List Nat) (k : Nat) :
    .taken k ∉ ks.flatMap (r.turn e) := by
  simp [turn]

theorem givenUp_mem_turns :
    .givenUp k ∈ ks.flatMap (r.turn e) ↔ k ∈ ks.flatMap (r.gives e) := by
  simp [turn]

theorem heldAfter_turns :
    HeldAfter (h ++ ks.flatMap (r.turn e)) k ↔ HeldAfter h k ∧ k ∉ ks.flatMap (r.gives e) := by
  rw [heldAfter_append (taken_not_mem_turns r e ks k), givenUp_mem_turns]

/-- An event reaches those whose subscription is held after the turns of all before them. -/
theorem mem_emit_iff (hr : Records h r) : k ∈ (r.emit e).1 ↔
    HeldAfter (h ++ ((r.emit e).1.filter (· < k)).flatMap (r.turn e)) k := by
  have hturns : k ∈ (turns e [] r.live).1 ↔ k ∈ r.live.map (·.subscriber) ∧
      k ∉ [] ++ ((turns e [] r.live).1.filter (· < k)).flatMap (r.gives e) :=
    mem_turns_iff (live_ascending hr) (gives_of_live hr)
  rw [heldAfter_turns, hr.heldAfter_iff, ← mem_live_iff]
  exact hturns

theorem emit_ascending (hr : Records h r) (e : Event) : (r.emit e).1.Pairwise (· < ·) :=
  (live_ascending hr).sublist (sublist_turns e [] r.live)

/-- The turns of an event tell holders only, since each of them comes after the turns before it. -/
theorem tellsHolders_turns (hh : TellsHolders h)
    (hheld : ∀ before k since, ks = before ++ k :: since →
      HeldAfter (h ++ before.flatMap (r.turn e)) k) :
    TellsHolders (h ++ ks.flatMap (r.turn e)) := by
  induction ks using List.reverseRecOn with
  | nil => simpa using hh
  | append_singleton ks k ih =>
    have hbefore : TellsHolders (h ++ ks.flatMap (r.turn e)) := by
      apply ih
      rintro before j since rfl
      exact hheld before j (since ++ [k]) (by simp)
    have htold : TellsHolders (h ++ ks.flatMap (r.turn e) ++ [.told k e]) := by
      apply tellsHolders_concat hbefore
      rintro j _ hm
      cases hm
      exact hheld ks k [] rfl
    have hdropped := tellsHolders_append htold (l := (r.gives e k).map .givenUp) (by simp)
    simpa [turn] using hdropped

theorem records_emit (hr : Records h r) (e : Event) :
    Records (h ++ (r.emit e).1.flatMap (r.turn e)) (r.emit e).2 where
  ascending := by
    rw [subscribers_emit]
    exact live_ascending hr
  lt_next k hk := by
    rw [subscribers_emit] at hk
    exact hr.lt_next k ((List.filter_sublist.map _).subset hk)
  numbered := by
    have hnone : ((r.emit e).1.flatMap (r.turn e)).filterMap Moment.taken? = [] := by
      rw [List.filterMap_eq_nil_iff]
      intro m hm
      cases m with
      | taken k => exact absurd hm (taken_not_mem_turns r e _ k)
      | givenUp k => rfl
      | told k e => rfl
    rw [List.filterMap_append, hnone, List.append_nil]
    exact hr.numbered
  heldAfter_iff k := by
    have hdropped : (turns e [] r.live).2 = [] ++ (r.emit e).1.flatMap (r.gives e) :=
      dropped_turns (gives_of_live hr)
    rw [List.nil_append] at hdropped
    rw [heldAfter_turns, hr.heldAfter_iff, ← hdropped, ← holds_live]
    exact (holds_dropAll { r with slots := r.live } _ k).symm
  tellsHolders := by
    apply tellsHolders_turns hr.tellsHolders
    intro before k since hsplit
    have hmem : k ∈ (r.emit e).1 := by simp [hsplit]
    have hascending := emit_ascending hr e
    rw [hsplit, List.pairwise_append, List.pairwise_cons] at hascending
    obtain ⟨_, ⟨hsince, _⟩, hbefore⟩ := hascending
    have hfilter : (r.emit e).1.filter (· < k) = before := by
      rw [hsplit, List.filter_append, List.filter_cons_of_neg (by simp),
        filter_lt_of_forall_lt hsince, List.append_nil, List.filter_eq_self]
      intro j hj
      simpa using hbefore j hj k List.mem_cons_self
    rw [← hfilter]
    exact (mem_emit_iff hr).mp hmem

end emission

section runs

theorem records_after (hr : Records h r) (call : Call) :
    Records (h ++ r.moments call) (r.after call) := by
  cases call with
  | subscribe drops => exact records_subscribe hr drops
  | cancel k => exact records_cancel hr k
  | emit e => exact records_emit hr e
  | relearn drops => simpa [moments] using records_relearn hr drops

theorem records_run (hr : Records h r) (calls : List Call) :
    Records (h ++ r.history calls) (r.run calls) := by
  induction calls generalizing h r with
  | nil => simpa [history, run] using hr
  | cons call calls ih =>
    rw [history, ← List.append_assoc]
    exact ih (records_after hr call)

/-- As many subscriptions are counted as the history leaves held. -/
theorem subscriberCount_eq_ncard (hr : Records h r) :
    r.subscriberCount = {k | HeldAfter h k}.ncard := by
  have hset : {k | HeldAfter h k} = ((r.live.map (·.subscriber)).toFinset : Set Nat) := by
    ext k
    rw [List.coe_toFinset]
    exact (hr.heldAfter_iff k).trans (mem_live_iff r k).symm
  have hnodup : (r.live.map (·.subscriber)).Nodup := (live_ascending hr).imp Nat.ne_of_lt
  rw [hset, Set.ncard_coe_finset, List.toFinset_card_of_nodup hnodup, List.length_map,
    subscriberCount, List.countP_eq_length_filter]
  rfl

theorem delivers_of_records (hr : Records h r) : Delivers h r where
  numbered := hr.numbered
  tellsHolders := hr.tellsHolders
  count_eq := subscriberCount_eq_ncard hr
  told_iff _ _ := mem_emit_iff hr
  told_ascending := emit_ascending hr
  kept_iff e k := by rw [subscribers_emit, mem_live_iff, hr.heldAfter_iff]
  kept_ascending e := by
    rw [subscribers_emit]
    exact live_ascending hr

end runs

/-- Through any subscriptions, cancellations and events, each event is delivered to exactly the live
subscribers. -/
theorem delivers_run (calls : List Call) : Delivers (empty.history calls) (empty.run calls) :=
  delivers_of_records (records_run records_empty calls)

end Registry

end GraphCompare
