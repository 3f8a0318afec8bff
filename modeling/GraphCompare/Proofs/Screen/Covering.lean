import GraphCompare.Proofs.Screen.Exact
import GraphCompare.Screen.Fit
import Mathlib.Tactic.Linarith

/-! Fits show what they are made for. A fit puts the middle of some bounds into the middle of the
canvas, at a zoom that leaves a margin. Whoever keeps its origin and zooms out from there no longer
has them in the middle, and still sees all of them. -/
namespace GraphCompare

namespace Scalar

theorem larger_eq_max (x y : ℚ) : larger x y = max x y := by
  have hnumber : same x x = true := same_iff.mpr rfl
  simp only [larger, less_iff, hnumber, Bool.not_true, Bool.or_false]
  split
  · rename_i hlt
    exact (max_eq_right hlt.le).symm
  · rename_i hlt
    exact (max_eq_left (not_lt.mp hlt)).symm

theorem smaller_eq_min (x y : ℚ) : smaller x y = min x y := by
  have hnumber : same x x = true := same_iff.mpr rfl
  simp only [smaller, less_iff, hnumber, Bool.not_true, Bool.or_false]
  split
  · rename_i hlt
    exact (min_eq_right hlt.le).symm
  · rename_i hlt
    exact (min_eq_left (not_lt.mp hlt)).symm

theorem two_eq : (two : ℚ) = 2 := by decide +kernel

end Scalar

/-- No side of a rectangle lies outside of another one. -/
structure Rect.Contains (outer inner : Rect ℚ) : Prop where
  left : outer.origin.x ≤ inner.origin.x
  top : outer.origin.y ≤ inner.origin.y
  right : inner.origin.x + inner.size.width ≤ outer.origin.x + outer.size.width
  bottom : inner.origin.y + inner.size.height ≤ outer.origin.y + outer.size.height

theorem Size.isEmpty_eq_false_iff {s : Size ℚ} :
    s.isEmpty = false ↔ 0 < s.width ∧ 0 < s.height := by
  simp [isEmpty, Scalar.less_iff]

/-- What is in the middle of a part of a line that is seen, and no longer, is seen in full; seeing
further to the end changes nothing about it. -/
theorem span_of_centered (start : ℚ) {length seen extent : ℚ} (hlength : length ≤ seen)
    (hseen : seen ≤ extent) :
    start + length / 2 - seen / 2 ≤ start ∧
      start + length ≤ start + length / 2 - seen / 2 + extent := by
  constructor <;> linarith

namespace Fit

/-- The bounds are in the middle of the canvas and not larger than what it shows. -/
structure Shows (f : Fit ℚ) (bounds : Rect ℚ) (canvas : Size ℚ) : Prop where
  zoom_pos : 0 < f.zoom
  origin_eq : f.origin = bounds.center.sub (canvas.div f.zoom).half
  width_le : bounds.size.width ≤ canvas.width / f.zoom
  height_le : bounds.size.height ≤ canvas.height / f.zoom

/-- A zoom out from the origin of a fit still shows the bounds. -/
theorem Shows.contains {f : Fit ℚ} {bounds : Rect ℚ} {camera : Viewport ℚ}
    (h : f.Shows bounds camera.size) (hsize : camera.size.isEmpty = false)
    (hpos : 0 < camera.zoom) (hle : camera.zoom ≤ f.zoom) (horigin : camera.origin = f.origin) :
    camera.visibleRect.Contains bounds := by
  obtain ⟨hwidth, hheight⟩ := Size.isEmpty_eq_false_iff.mp hsize
  have hwider : camera.size.width / f.zoom ≤ camera.size.width / camera.zoom :=
    div_le_div_of_nonneg_left hwidth.le hpos hle
  have hhigher : camera.size.height / f.zoom ≤ camera.size.height / camera.zoom :=
    div_le_div_of_nonneg_left hheight.le hpos hle
  obtain ⟨hleft, hright⟩ := span_of_centered bounds.origin.x h.width_le hwider
  obtain ⟨htop, hbottom⟩ := span_of_centered bounds.origin.y h.height_le hhigher
  have hx : camera.origin.x = bounds.origin.x + bounds.size.width / 2 -
      camera.size.width / f.zoom / 2 := by
    rw [horigin, h.origin_eq, ← Scalar.two_eq]
    rfl
  have hy : camera.origin.y = bounds.origin.y + bounds.size.height / 2 -
      camera.size.height / f.zoom / 2 := by
    rw [horigin, h.origin_eq, ← Scalar.two_eq]
    rfl
  exact ⟨hx ▸ hleft, hy ▸ htop, hx ▸ hright, hy ▸ hbottom⟩

section margin
variable {margin length extent : ℚ} {bounds : Rect ℚ} {canvas : Size ℚ} {f : Fit ℚ}

theorem available_pos : 0 < available margin length := by
  rw [available, Scalar.larger_eq_max]
  exact lt_max_of_lt_right one_pos

/-- A margin takes nothing from a canvas of one pixel, and it adds to no canvas. -/
theorem available_le (hmargin : 0 ≤ margin) (hlength : 1 ≤ length) :
    available margin length ≤ length := by
  rw [available, Scalar.larger_eq_max, Scalar.two_eq]
  exact max_le (by linarith) hlength

/-- At a zoom that makes an extent no longer than what is available, it fits the canvas. -/
theorem extent_le (hmargin : 0 ≤ margin) (hlength : 1 ≤ length) (hextent : 0 < extent) {zoom : ℚ}
    (hpos : 0 < zoom) (hzoom : zoom ≤ available margin length / extent) :
    extent ≤ length / zoom := by
  rw [le_div_iff₀ hpos, mul_comm]
  exact ((le_div_iff₀ hextent).mp hzoom).trans (available_le hmargin hlength)

theorem isEmpty_of_withMargin (h : withMargin margin bounds canvas = some f) :
    bounds.size.isEmpty = false := by
  cases hbounds : bounds.size.isEmpty with
  | false => rfl
  | true =>
    rw [withMargin, hbounds] at h
    cases h

/-- Bounds that are not empty have a fit on any canvas of a pixel or more. -/
theorem exists_withMargin (hmargin : 0 ≤ margin) (hwidth : 1 ≤ canvas.width)
    (hheight : 1 ≤ canvas.height) (hbounds : bounds.size.isEmpty = false) :
    ∃ f, withMargin margin bounds canvas = some f ∧ f.Shows bounds canvas := by
  obtain ⟨hw, hh⟩ := Size.isEmpty_eq_false_iff.mp hbounds
  have hcanvas : canvas.isEmpty = false :=
    Size.isEmpty_eq_false_iff.mpr ⟨one_pos.trans_le hwidth, one_pos.trans_le hheight⟩
  let zoom := min (available margin canvas.width / bounds.size.width)
    (available margin canvas.height / bounds.size.height)
  have hzoom : 0 < zoom := lt_min (div_pos available_pos hw) (div_pos available_pos hh)
  refine ⟨⟨zoom, bounds.center.sub (canvas.div zoom).half⟩, ?_, hzoom, rfl, ?_, ?_⟩
  · have hfinite : (Scalar.finite zoom && Scalar.less 0 zoom) = true := Scalar.less_iff.mpr hzoom
    simp only [withMargin, hbounds, hcanvas, Scalar.smaller_eq_min]
    exact if_pos hfinite
  · exact extent_le hmargin hwidth hw hzoom (min_le_left _ _)
  · exact extent_le hmargin hheight hh hzoom (min_le_right _ _)

theorem shows_of_withMargin (hmargin : 0 ≤ margin) (hwidth : 1 ≤ canvas.width)
    (hheight : 1 ≤ canvas.height) (h : withMargin margin bounds canvas = some f) :
    f.Shows bounds canvas := by
  obtain ⟨f', hfit, hshows⟩ := exists_withMargin hmargin hwidth hheight (isEmpty_of_withMargin h)
  obtain rfl : f = f' := Option.some.inj (h.symm.trans hfit)
  exact hshows

end margin

end Fit

end GraphCompare
