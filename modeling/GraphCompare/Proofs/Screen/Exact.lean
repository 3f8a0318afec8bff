import Mathlib.Algebra.Order.Field.Rat
import Mathlib.Tactic.Ring
import GraphCompare.Screen.Surface

/-! Screens measured with exact numbers: what moving and zooming does to the middle of a canvas. -/
namespace GraphCompare

instance : Scalar ℚ where
  less x y := decide (x < y)
  same x y := decide (x = y)
  finite _ := true

attribute [ext] Point Vec

namespace Scalar
variable {x y : ℚ}

theorem less_iff : less x y = true ↔ x < y := decide_eq_true_iff

theorem same_iff : same x y = true ↔ x = y := decide_eq_true_iff

end Scalar

/-- One way after another. -/
def Vec.plus (v w : Vec ℚ) : Vec ℚ := ⟨v.x + w.x, v.y + w.y⟩

/-- The difference of two ways. -/
def Vec.minus (v w : Vec ℚ) : Vec ℚ := ⟨v.x - w.x, v.y - w.y⟩

theorem Vec.minus_eq_zero_iff {v w : Vec ℚ} : v.minus w = ⟨0, 0⟩ ↔ v = w := by
  rw [minus, Vec.ext_iff, Vec.ext_iff]
  exact and_congr sub_eq_zero sub_eq_zero

theorem Vec.isZero_iff {v : Vec ℚ} : v.isZero = true ↔ v = ⟨0, 0⟩ := by
  rw [isZero, Bool.and_eq_true, Scalar.same_iff, Scalar.same_iff, Vec.ext_iff]

namespace Point
variable (p q : Point ℚ) (v w : Vec ℚ)

@[simp] theorem add_zero : p.add ⟨0, 0⟩ = p := by
  ext
  · exact Rat.add_zero p.x
  · exact Rat.add_zero p.y

theorem add_add : (p.add v).add w = p.add (v.plus w) := by
  ext
  · exact Rat.add_assoc p.x v.x w.x
  · exact Rat.add_assoc p.y v.y w.y

@[simp] theorem sub_add : (p.sub v).add v = p := by
  ext
  · exact sub_add_cancel p.x v.x
  · exact sub_add_cancel p.y v.y

@[simp] theorem add_sub : (p.add v).sub v = p := by
  ext
  · exact add_sub_cancel_right p.x v.x
  · exact add_sub_cancel_right p.y v.y

@[simp] theorem add_minus : p.add (q.minus p) = q := by
  ext
  · exact add_sub_cancel p.x q.x
  · exact add_sub_cancel p.y q.y

theorem add_minus_add : (p.add v).minus (q.add v) = p.minus q := by
  ext
  · exact add_sub_add_right_eq_sub p.x q.x v.x
  · exact add_sub_add_right_eq_sub p.y q.y v.y

theorem add_right_comm : (p.add v).add w = (p.add w).add v := by
  simp only [add_add, Vec.plus, add_comm]

theorem add_eq_self_iff {p : Point ℚ} {v : Vec ℚ} : p.add v = p ↔ v = ⟨0, 0⟩ := by
  rw [add, Point.ext_iff, Vec.ext_iff]
  exact and_congr add_eq_left add_eq_left

theorem add_sub_add_minus :
    ((p.add v).sub w).add (q.minus p) = q.add (v.minus w) := by
  have hcancel : ∀ a b c d : ℚ, a + b - c + (d - a) = d + (b - c) := by
    intro a b c d
    ring
  ext
  · exact hcancel p.x v.x w.x q.x
  · exact hcancel p.y v.y w.y q.y

end Point

theorem Size.half_inj {s t : Size ℚ} : s.half = t.half ↔ s = t := by
  have htwo : (Scalar.two : ℚ) ≠ 0 := by decide +kernel
  cases s
  cases t
  rw [half, half, Vec.mk.injEq, Size.mk.injEq, div_left_inj' htwo, div_left_inj' htwo]

namespace Surface
variable (f : Surface ℚ)

/-- A way of no length leads nowhere. -/
@[simp] theorem shifted_zero : f.shifted ⟨0, 0⟩ = f := by
  unfold shifted
  rw [Point.add_zero]
  rfl

theorem center_shifted (d : Vec ℚ) :
    (f.shifted d).viewport.center = f.viewport.center.add d :=
  Point.add_right_comm _ _ _

/-- Any zoom brings the wanted point into the middle. -/
theorem center_withCenter (c : Point ℚ) : (f.withCenter c).viewport.center = c :=
  Point.sub_add _ _

/-- What is in the middle stays there if it is put there again. -/
theorem withCenter_center : f.withCenter f.viewport.center = f := by
  unfold withCenter Viewport.originForCenter Viewport.center
  rw [Point.add_sub]
  rfl

theorem center_zoomedTo (zoom : ℚ) :
    (f.zoomedTo zoom).viewport.center = f.viewport.center := by
  unfold zoomedTo
  split
  · rfl
  · exact center_withCenter (f.withCamera f.viewport.world zoom f.viewport.origin) _

theorem zoom_zoomedTo (zoom : ℚ) : (f.zoomedTo zoom).viewport.zoom = zoom := by
  unfold zoomedTo
  split
  · rename_i hsame
    exact Scalar.same_iff.mp hsame
  · rfl

theorem origin_zoomedTo (zoom : ℚ) :
    (f.zoomedTo zoom).viewport.origin =
      { f.viewport with zoom := zoom }.originForCenter f.viewport.center := by
  unfold zoomedTo
  split
  · rename_i hsame
    rw [← Scalar.same_iff.mp hsame]
    exact (Point.add_sub _ _).symm
  · rfl

/-- Zooming about the middle is the same for a surface that has the zoom already. -/
theorem zoomedTo_eq (zoom : ℚ) :
    (f.withCamera f.viewport.world zoom f.viewport.origin).withCenter f.viewport.center =
      f.zoomedTo zoom := by
  unfold zoomedTo
  split
  · rename_i hsame
    rw [← Scalar.same_iff.mp hsame]
    exact f.withCenter_center
  · rfl

end Surface

end GraphCompare
