import GraphCompare.Proofs.Screen.Covering
import GraphCompare.Proofs.Screen.Floating
import GraphCompare.Proofs.Window.Fitting
import GraphCompare.Proofs.Workspace.Configuring

/-! The side that a fit moves. It is one with a node and with the wider canvas, and it ends on a
camera that shows all of the content it was fitted to: the fit does so, and the settings only let it
zoom out from there. -/
namespace GraphCompare

namespace Leader
variable {p q : Nat} {x y : ℚ}

theorem byWidth_eq_primary_iff : byWidth x y = .side .primary ↔ y < x := by
  unfold byWidth
  split
  · rename_i hlt
    exact iff_of_true rfl (Scalar.less_iff.mp hlt)
  · rename_i hlt
    refine iff_of_false ?_ (mt Scalar.less_iff.mpr hlt)
    split <;> simp

/-- A side with a node leads if it is alone with that. Of two the primary has to be wider, and the
secondary only not to be narrower. -/
theorem forFit_eq_some_iff {s : Side} :
    forFit p x q y = some s ↔
      match s with
      | .primary => 0 < p ∧ (0 < q → y < x)
      | .secondary => 0 < q ∧ (0 < p → x ≤ y) := by
  have hlt : y < x ↔ byWidth x y = .side .primary := byWidth_eq_primary_iff.symm
  have hle : x ≤ y ↔ byWidth x y ≠ .side .primary := not_lt.symm.trans (not_congr hlt)
  unfold forFit
  by_cases hp : 0 < p <;> by_cases hq : 0 < q
  · rw [hlt, hle]
    generalize byWidth x y = leader
    cases leader with
    | side t => cases t <;> cases s <;> simp [hp, hq]
    | level => cases s <;> simp [hp, hq]
  all_goals cases s <;> simp [hp, hq]

end Leader

namespace Surfaces

/-- A side that is fitted: it has a node, and if the other one has a node as well it is wider, or it
is the secondary and level with it. -/
structure Leads (fs : Surfaces ℚ) (s : Side) : Prop where
  nodes_pos : 0 < (fs.get s.view).nodeCount
  lt_or_level : 0 < (fs.get s.other.view).nodeCount →
    (fs.get s.other.view).renderedWidth < (fs.get s.view).renderedWidth ∨
      s = .secondary ∧ (fs.get s.other.view).renderedWidth = (fs.get s.view).renderedWidth

theorem Leads.width_le {fs : Surfaces ℚ} {s : Side} (h : fs.Leads s)
    (hother : 0 < (fs.get s.other.view).nodeCount) :
    (fs.get s.other.view).renderedWidth ≤ (fs.get s.view).renderedWidth := by
  rcases h.lt_or_level hother with hlt | ⟨_, heq⟩
  · exact hlt.le
  · exact heq.le

/-- Which side leads is what the numbers of nodes and the widths of the sides say. -/
theorem forFit_eq_some_iff (fs : Surfaces ℚ) {s : Side} :
    Leader.forFit fs.primary.nodeCount fs.primary.renderedWidth fs.secondary.nodeCount
      fs.secondary.renderedWidth = some s ↔ fs.Leads s := by
  rw [Leader.forFit_eq_some_iff]
  cases s with
  | primary =>
    constructor
    · rintro ⟨hnodes, hlt⟩
      exact ⟨hnodes, fun hother => .inl (hlt hother)⟩
    · intro h
      refine ⟨h.nodes_pos, fun hother => ?_⟩
      rcases h.lt_or_level hother with hlt | ⟨hs, _⟩
      · exact hlt
      · cases hs
  | secondary =>
    constructor
    · rintro ⟨hnodes, hle⟩
      refine ⟨hnodes, fun hother => ?_⟩
      rcases lt_or_eq_of_le (hle hother) with hlt | heq
      · exact .inl hlt
      · exact .inr ⟨rfl, heq⟩
    · intro h
      exact ⟨h.nodes_pos, h.width_le⟩

section fit
variable {k : Coupling ℚ} {fs : Surfaces ℚ} {fit : Fitter ℚ} {s : Side} {f : Fit ℚ}

/-- A side is fitted if it leads coupled cameras and there is a fit for it. -/
theorem fitLeader_eq_some_iff : (fs.fitLeader k fit).result = some s ↔
    k.synchronized = true ∧ fs.Leads s ∧
      ∃ f, fit (fs.superBounds s) (fs.get s.view).viewport.size = some f := by
  constructor
  · intro h
    obtain ⟨f, hfits⟩ := exists_fits h
    exact ⟨hfits.synchronized, fs.forFit_eq_some_iff.mp hfits.leads, f, hfits.fit_eq⟩
  · rintro ⟨hk, hleads, f, hfit⟩
    have hfits : Fits k fs fit s f := ⟨hk, fs.forFit_eq_some_iff.mpr hleads, hfit⟩
    rw [hfits.fitLeader_eq]

/-- What surfaces are once a side shows all of the content that it was fitted to. -/
structure ShowsContent (fs gs : Surfaces ℚ) (s : Side) : Prop where
  nodes_pos : 0 < (fs.get s.view).nodeCount
  /-- It is the wider one of two that have nodes, or as wide as the other. -/
  width_le : 0 < (fs.get s.other.view).nodeCount →
    (fs.get s.other.view).renderedWidth ≤ (fs.get s.view).renderedWidth
  zoom_pos : 0 < (gs.get s.view).viewport.zoom
  contains : (gs.get s.view).viewport.visibleRect.Contains (fs.superBounds s)
  world_eq : (gs.get s.view).viewport.world = (fs.get s.view).viewport.world
  content_eq : (gs.get s.view).content = (fs.get s.view).content
  others_eq : ∀ v, v ≠ s.view → gs.get v = fs.get v

/-- A zoom out from a fit still shows what was fitted. -/
theorem showsContent_of_fits (hfits : Fits k fs fit s f) (hpos : 0 < k.zoomOut)
    (hlt : k.zoomOut < 1) (hcanvas : (fs.get s.view).viewport.size.isEmpty = false)
    (hshows : f.Shows (fs.superBounds s) (fs.get s.view).viewport.size) :
    fs.ShowsContent (fs.fitLeader k fit).state s := by
  have hleads : fs.Leads s := fs.forFit_eq_some_iff.mp hfits.leads
  have hzoom : 0 < f.zoom * k.zoomOut := mul_pos hshows.zoom_pos hpos
  have hle : f.zoom * k.zoomOut ≤ f.zoom := mul_le_of_le_one_right hshows.zoom_pos.le hlt.le
  have hleader : (fs.fitLeader k fit).state.get s.view = (fs.get s.view).withCamera
      (fs.get s.view).viewport.world (f.zoom * k.zoomOut) f.origin := by
    rw [hfits.fitLeader_eq, PerView.get_modify, if_pos rfl]
  refine ⟨hleads.nodes_pos, hleads.width_le, ?_, ?_, ?_, ?_, ?_⟩
  · rw [hleader]
    exact hzoom
  · rw [hleader]
    exact Fit.Shows.contains hshows hcanvas hzoom hle rfl
  · rw [hleader]
    rfl
  · rw [hleader]
    rfl
  · intro v hv
    rw [hfits.fitLeader_eq, PerView.get_modify, if_neg hv]

end fit

end Surfaces

namespace Workspace

/-- A side that is fitted with a margin shows the whole content of the super view. It is fitted if
it leads and that content takes up any room. -/
theorem showsContent_fitLeader (w : Workspace) (hvalid : w.settings.isValid = true) {margin : ℚ}
    (hmargin : 0 ≤ margin) (fs : Surfaces ℚ)
    (hwidth : ∀ s : Side, 1 ≤ (fs.get s.view).viewport.size.width)
    (hheight : ∀ s : Side, 1 ≤ (fs.get s.view).viewport.size.height) (s : Side) :
    let out := fs.fitLeader (w.coupling Scalar.exactValue) (Fit.withMargin margin)
    (out.result = some s ↔ w.settings.synchronizedViews = true ∧ fs.Leads s ∧
      (fs.superBounds s).size.isEmpty = false) ∧
    (out.result = some s → fs.ShowsContent out.state s) := by
  intro out
  have hone : (0 : ℚ) < 1 := one_pos
  have hcanvas : (fs.get s.view).viewport.size.isEmpty = false :=
    Size.isEmpty_eq_false_iff.mpr ⟨hone.trans_le (hwidth s), hone.trans_le (hheight s)⟩
  constructor
  · rw [Surfaces.fitLeader_eq_some_iff]
    refine and_congr_right fun _ => and_congr_right fun _ => ⟨?_, fun hbounds => ?_⟩
    · rintro ⟨f, hfit⟩
      exact Fit.isEmpty_of_withMargin hfit
    · obtain ⟨f, hfit, _⟩ := Fit.exists_withMargin hmargin (hwidth s) (hheight s) hbounds
      exact ⟨f, hfit⟩
  · intro hfitted
    obtain ⟨f, hfits⟩ := Surfaces.exists_fits hfitted
    obtain ⟨hpos, hlt⟩ := Settings.isValid_iff.mp hvalid
    obtain ⟨hzoom, hout⟩ := Scalar.exactValue_between hpos hlt
    have hshows : f.Shows (fs.superBounds s) (fs.get s.view).viewport.size :=
      Fit.shows_of_withMargin hmargin (hwidth s) (hheight s) hfits.fit_eq
    exact Surfaces.showsContent_of_fits hfits hzoom hout hcanvas hshows

/-- The margin of a fit is larger than half of the canvas, which leaves one pixel of its height. -/
theorem showsContent_fitLeader_sample : ∃ w, ofComparison .calls {} = .ok w ∧
    w.settings.isValid = true ∧
    let fs := Surfaces.onOneCamera closeCamera wideContent
    (∀ s : Side, 1 ≤ (fs.get s.view).viewport.size.width) ∧
    (∀ s : Side, 1 ≤ (fs.get s.view).viewport.size.height) ∧
    let out := fs.fitLeader (w.coupling Scalar.exactValue) (Fit.withMargin 60)
    out.result = some .secondary ∧ fs.ShowsContent out.state .secondary := by
  obtain ⟨w, hw, hon, _⟩ := exists_calls
  have hvalid : w.settings.isValid = true := isValid_ofComparison hw
  have hwidth : ∀ s : Side, 1 ≤ ((Surfaces.onOneCamera closeCamera wideContent).get
      s.view).viewport.size.width := by
    intro s
    cases s <;> decide +kernel
  have hheight : ∀ s : Side, 1 ≤ ((Surfaces.onOneCamera closeCamera wideContent).get
      s.view).viewport.size.height := by
    intro s
    cases s <;> decide +kernel
  have hleads : (Surfaces.onOneCamera closeCamera wideContent).Leads .secondary :=
    ⟨Nat.one_pos, fun _ => .inr ⟨rfl, rfl⟩⟩
  have hmargin : (0 : ℚ) ≤ 60 := by decide +kernel
  obtain ⟨hiff, hshows⟩ := w.showsContent_fitLeader hvalid hmargin _ hwidth hheight .secondary
  have hfitted := hiff.mpr ⟨hon, hleads, by decide +kernel⟩
  exact ⟨w, hw, hvalid, hwidth, hheight, hfitted, hshows hfitted⟩

end Workspace

end GraphCompare
