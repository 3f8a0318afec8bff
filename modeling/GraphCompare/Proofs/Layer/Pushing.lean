import GraphCompare.Proofs.Layer.Derivation

/-! Pushing the super view down, from any flags at all. Every view follows the super view then;
where the views agreed before, this hides nothing, and only pairs shown on one side alone are
changed. -/
namespace GraphCompare
variable {c : Comparison} {o : Overlay} {ls ls' : Layers} {x : Merged} {e : Element} {s : Side}
  {v w : View} {i : Nat}

namespace Layers

/-- Where no disagreement is reported, there is none. -/
theorem derivationHolds_iff (h : Sized o ls) : ls.derivationHolds o = true ↔ Derived o ls := by
  unfold derivationHolds
  rw [List.isEmpty_iff]
  refine ⟨fun hnone => ⟨h, ?_⟩, violations_eq_nil⟩
  intro v e x hv hx
  rw [violations, List.flatMap_eq_nil_iff] at hnone
  have hat := hnone e (Overlay.mem_identities.mpr ⟨x, hx⟩)
  rw [violationsAt, hx, List.filterMap_eq_nil_iff] at hat
  have hmem : v ∈ [View.combined, View.super] := by
    cases v with
    | primary | secondary => cases hv
    | combined | super => decide
  by_contra hne
  simpa [hne] using hat v hmem

/-- The two elements of a pair are both shown or both hidden. -/
def PairAgrees (ls : Layers) (x : Merged) (e : Element) : Prop :=
  ∀ i ∈ x.holders.get .primary, ∀ j ∈ x.holders.get .secondary,
    ls.primary.get (e.withIndex i) = ls.secondary.get (e.withIndex j)

instance instDecidablePairAgrees (ls : Layers) (x : Merged) (e : Element) :
    Decidable (ls.PairAgrees x e) :=
  inferInstanceAs (Decidable (∀ i ∈ x.holders.get .primary, ∀ j ∈ x.holders.get .secondary, _))

/-- One visible side is enough, so a hidden one differs from what is derived only in a pair. -/
theorem pairAgrees_iff (hc : o.Coherent) (hx : o.merged? e = some x) :
    ls.PairAgrees x e ↔ ∀ s i, x.holders.get s = some i →
      (ls.get s.view).get (e.withIndex i) = ls.derived x e := by
  constructor
  · intro hpair s i hi
    refine (derived_const hc hx ?_).symm
    intro t j hj
    cases s <;> cases t
    · rw [Option.some.inj (hi.symm.trans hj)]
    · exact (hpair i hi j hj).symm
    · exact hpair j hj i hi
    · rw [Option.some.inj (hi.symm.trans hj)]
  · intro hall i hi j hj
    exact (hall .primary i hi).trans (hall .secondary j hj).symm

section pushing

variable (hc : o.Coherent)
include hc

theorem super_adoptSuper (h : Sized o ls) : (adoptSuper o ls).super = ls.super :=
  layer_ext (v := .super) (w := .super) (derived_adoptSuper hc h).sized h rfl rfl
    fun _ _ hx => get_adoptSuper hc h rfl hx

theorem combined_adoptSuper (h : Sized o ls) : (adoptSuper o ls).combined = ls.super :=
  layer_ext (v := .combined) (w := .super) (derived_adoptSuper hc h).sized h rfl rfl
    fun _ _ hx => get_adoptSuper hc h rfl hx

/-- Where the views agree, pushing down changes nothing if the sides show what the super view
shows. -/
theorem adoptSuper_eq_self_iff (h : Derived o ls) :
    adoptSuper o ls = ls ↔ ∀ s e i, (o.side s).identity? e = some i →
      (ls.get s.view).get e = ls.super.get (e.withIndex i) := by
  constructor
  · intro hself s e i hi
    rw [← get_adoptSuper_side hc h.sized hi, hself]
  · intro hside
    apply derived_ext (derived_adoptSuper hc h.sized) h
    intro s e
    by_cases he : e.index < o.count s.view e.kind
    · obtain ⟨i, hi⟩ := Overlay.exists_identity? he
      rw [get_adoptSuper_side hc h.sized hi, hside s e i hi]
    · have hle := Nat.le_of_not_lt he
      rw [get_of_count_le (derived_adoptSuper hc h.sized).sized hle, get_of_count_le h.sized hle]

theorem adoptSuper_adoptSuper (h : Sized o ls) :
    adoptSuper o (adoptSuper o ls) = adoptSuper o ls := by
  rw [adoptSuper_eq_self_iff hc (derived_adoptSuper hc h)]
  intro s e i hi
  rw [get_adoptSuper_side hc h hi, super_adoptSuper hc h]

/-- The sides show what the super view shows just when every pair agrees. -/
theorem adoptSuper_eq_self_iff_pairs (h : Derived o ls) :
    adoptSuper o ls = ls ↔ ∀ e x, o.merged? e = some x → ls.PairAgrees x e := by
  rw [adoptSuper_eq_self_iff hc h]
  constructor
  · intro hside e x hx
    rw [pairAgrees_iff hc hx]
    intro s i hi
    rw [hside s _ _ (hc.holds hx hi), Element.withIndex_withIndex, Element.withIndex_index]
    exact h.flag_eq (v := .super) rfl hx
  · intro hpairs s e i hi
    obtain ⟨x, hx, hheld⟩ := hc.identified hi
    have hflag := (pairAgrees_iff hc hx).mp (hpairs _ x hx) s _ hheld
    rw [Element.withIndex_withIndex, Element.withIndex_index] at hflag
    exact hflag.trans (h.flag_eq (v := .super) rfl hx).symm

/-- What some view shows, the super view shows, and so nothing is hidden. -/
theorem get_adoptSuper_of_visible (h : Derived o ls) (he : (ls.get v).get e = true) :
    ((adoptSuper o ls).get v).get e = true := by
  have hlt : e.index < o.count v e.kind := by
    by_contra hn
    rw [get_of_count_le h.sized (Nat.le_of_not_lt hn)] at he
    cases he
  cases hv : v.side? with
  | none =>
    obtain ⟨x, hx⟩ := Overlay.exists_merged? hv hlt
    rw [get_adoptSuper hc h.sized hv hx]
    exact (h.flag_eq (v := .super) rfl hx).trans ((h.flag_eq hv hx).symm.trans he)
  | some s =>
    obtain rfl := View.eq_of_side?_some hv
    obtain ⟨i, hi⟩ := Overlay.exists_identity? hlt
    obtain ⟨x, hx, hheld⟩ := hc.identified hi
    rw [get_adoptSuper_side hc h.sized hi]
    refine (h.flag_eq (v := .super) rfl hx).trans (derived_iff.mpr ⟨s, _, hheld, ?_⟩)
    simpa using he

end pushing

/-- What pushing down the super view of some layers leaves. -/
structure PushedDown (o : Overlay) (ls next : Layers) : Prop where
  super_eq : next.super = ls.super
  combined_eq : next.combined = ls.super
  sized : ∀ s : Side, ∀ k, ((next.get s.view).flags k).size = o.count s.view k
  /-- Every node and every edge of a side has an identity, of which it takes the flag. -/
  side_eq : ∀ s e, e.index < o.count s.view e.kind →
    ∃ i, (o.side s).identity? e = some i ∧
      (next.get s.view).get e = ls.super.get (e.withIndex i)
  holds : next.derivationHolds o = true
  again : next.adoptSuper o = next

/-- What pushing down leaves of layers that agreed. -/
structure PushesOnly (o : Overlay) (ls next : Layers) : Prop where
  kept : ∀ v e, (ls.get v).get e = true → (next.get v).get e = true
  eq_iff : next = ls ↔ ∀ e x, o.merged? e = some x → ls.PairAgrees x e

theorem pushedDown_adoptSuper (hc : o.Coherent) (h : Sized o ls) :
    PushedDown o ls (ls.adoptSuper o) where
  super_eq := super_adoptSuper hc h
  combined_eq := combined_adoptSuper hc h
  sized s k := (derived_adoptSuper hc h).sized s.view k
  side_eq := by
    intro s e he
    obtain ⟨i, hi⟩ := Overlay.exists_identity? he
    exact ⟨i, hi, get_adoptSuper_side hc h hi⟩
  holds := (derivationHolds_iff (derived_adoptSuper hc h).sized).mpr (derived_adoptSuper hc h)
  again := adoptSuper_adoptSuper hc h

end Layers

/-- Pushing down gives every view the flags of the super view, whatever there was before. -/
theorem Overlay.adoptSuper_pushes (ho : Overlay.ofComparison c = .ok o) (h : Layers.Sized o ls) :
    Layers.PushedDown o ls (ls.adoptSuper o) ∧
      (ls.derivationHolds o = true → Layers.PushesOnly o ls (ls.adoptSuper o)) := by
  have hc := coherent_ofComparison ho
  refine ⟨Layers.pushedDown_adoptSuper hc h, ?_⟩
  intro hholds
  have hd := (Layers.derivationHolds_iff h).mp hholds
  exact ⟨fun _ _ he => Layers.get_adoptSuper_of_visible hc hd he,
    Layers.adoptSuper_eq_self_iff_pairs hc hd⟩

/-- A super flag is staged against the sides; and where all views agree, but one node of a pair is
hidden, that node is shown. -/
theorem Overlay.adoptSuper_pushes_sample : ∃ (o : Overlay) (ls ls' : Layers),
    Overlay.ofComparison .sample = .ok o ∧
    ls = (Layers.allVisible o).stage false (.node 3) ∧ Layers.Sized o ls ∧
    ls.derivationHolds o = false ∧ Layers.PushedDown o ls (ls.adoptSuper o) ∧
    ls' = (Layers.allVisible o).modify .primary (·.set (.node 0) false) ∧ Layers.Sized o ls' ∧
    ls'.derivationHolds o = true ∧ Layers.PushesOnly o ls' (ls'.adoptSuper o) ∧
    ls'.adoptSuper o ≠ ls' := by
  obtain ⟨o, ho, hflags⟩ := exists_ok_of_any (x := Overlay.ofComparison .sample)
    (p := fun o =>
      let ls := (Layers.allVisible o).stage false (.node 3)
      let ls' : Layers := (Layers.allVisible o).modify .primary (·.set (.node 0) false)
      Layers.derivationHolds o ls = false ∧ Layers.derivationHolds o ls' = true ∧
        Layers.adoptSuper o ls' ≠ ls') (by decide +kernel)
  obtain ⟨hstaged, hholds, hne⟩ := of_decide_eq_true hflags
  have hsized : ∀ v e, Layers.Sized o ((Layers.allVisible o).modify v (·.set e false)) :=
    fun v e => Layers.sized_modify (Layers.sized_allVisible o) v e false
  exact ⟨o, _, _, ho, rfl, hsized .super _, hstaged, (adoptSuper_pushes ho (hsized .super _)).1,
    rfl, hsized .primary _, hholds, (adoptSuper_pushes ho (hsized .primary _)).2 hholds, hne⟩

end GraphCompare
