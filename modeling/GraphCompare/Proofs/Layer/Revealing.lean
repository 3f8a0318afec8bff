import GraphCompare.Workspace.Unhide
import GraphCompare.Proofs.Layer.Derivation

/-! Staging every flag of the super view and pushing them down makes all of every view visible. -/
namespace GraphCompare
variable {o : Overlay} {ls : Layers} {l : Layer} {e f : Element} {k : ElementKind} {visible : Bool}

namespace Layer

/-- Nothing of a kind counts as hidden just when all of it is visible. -/
theorem hiddenCount_eq_zero :
    l.hiddenCount k = 0 ↔ ∀ e, e.kind = k → e.index < (l.flags k).size → l.get e = true := by
  have hflag : ∀ e : Element, e.kind = k → ∀ he : e.index < (l.flags k).size,
      l.get e = (l.flags k)[e.index] := by
    rintro e rfl he
    simp [get, he]
  rw [hiddenCount, Array.count_eq_zero]
  constructor
  · intro hnot e hk he
    rw [hflag e hk he]
    by_contra hfalse
    rw [Bool.not_eq_true] at hfalse
    exact hnot (Array.mem_of_getElem hfalse)
  · intro hall hmem
    obtain ⟨i, hi, hfalse⟩ := Array.mem_iff_getElem.mp hmem
    have hget : ∀ e : Element, e.kind = k → e.index = i → False := by
      rintro e hk rfl
      have htrue := hall e hk hi
      rw [hflag e hk hi, hfalse] at htrue
      cases htrue
    cases k with
    | node => exact hget (.node i) rfl rfl
    | edge => exact hget (.edge i) rfl rfl

end Layer

namespace Layers

/-- Every node and every edge is visible in every view that has it. -/
def FullyVisible (o : Overlay) (ls : Layers) : Prop :=
  ∀ v e, e.index < o.count v e.kind → (ls.get v).get e = true

/-- All is visible when the sides hide nothing. -/
theorem fullyVisible_iff (hc : o.Coherent) (h : Derived o ls) :
    FullyVisible o ls ↔
      (∀ s : Side, ∀ u < o.nodeCount s.view, (ls.get s.view).get (.node u) = true) ∧
        ∀ s : Side, ∀ u < o.edgeCount s.view, (ls.get s.view).get (.edge u) = true := by
  constructor
  · intro hall
    exact ⟨fun s u hu => hall s.view (.node u) hu, fun s u hu => hall s.view (.edge u) hu⟩
  · rintro ⟨hnodes, hedges⟩ v e he
    refine visible_of_sides hc h ?_ rfl he
    intro s f hf hlt
    cases f with
    | node u =>
      rw [← hf] at hlt
      exact hnodes s u hlt
    | edge u =>
      rw [← hf] at hlt
      exact hedges s u hlt

theorem super_stage (h : Sized o ls) (hx : e ∈ o.identities) :
    (stage visible ls e).super.get f = if f = e then visible else ls.super.get f := by
  obtain ⟨x, hx⟩ := Overlay.mem_identities.mp hx
  have hget := get_modify_set (b := visible) (w := .super) (f := f) h
    (Overlay.lt_count_of_merged? (v := .super) rfl hx)
  simpa [stage, PerView.get] using hget

theorem super_foldl_stage (l : List Element) (h : Sized o ls) (hl : l ⊆ o.identities) :
    (l.foldl (stage visible) ls).super.get f = if f ∈ l then visible else ls.super.get f := by
  induction l generalizing ls with
  | nil => simp
  | cons e l ih =>
    rw [List.cons_subset] at hl
    have hstage : Sized o (stage visible ls e) := sized_modify h _ _ _
    rw [List.foldl_cons, ih hstage hl.2, super_stage h hl.1]
    by_cases hf : f ∈ l
    · simp [hf]
    · simp [hf]

theorem fullyVisible_reveal (hc : o.Coherent) (h : Sized o ls) : FullyVisible o (ls.reveal o) := by
  have hstaged : ∀ {f x}, o.merged? f = some x →
      (o.identities.foldl (stage true) ls).super.get f = true := by
    intro f x hx
    rw [super_foldl_stage _ h (List.Subset.refl _), if_pos (Overlay.mem_identities.mpr ⟨x, hx⟩)]
  have hsized : Sized o (o.identities.foldl (stage true) ls) := sized_foldl_stage _ h
  intro v e he
  unfold reveal
  cases hv : v.side? with
  | none =>
    obtain ⟨x, hx⟩ := Overlay.exists_merged? hv he
    rw [get_adoptSuper hc hsized hv hx]
    exact hstaged hx
  | some s =>
    obtain rfl := View.eq_of_side?_some hv
    obtain ⟨i, hi⟩ := Overlay.exists_identity? he
    obtain ⟨x, hx, _⟩ := hc.identified hi
    rw [get_adoptSuper_side hc hsized hi]
    exact hstaged hx

end Layers

end GraphCompare
