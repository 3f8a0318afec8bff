import GraphCompare.Proofs.Workspace.Markers
import GraphCompare.Proofs.Workspace.Neighborhood
import Mathlib

/-! Expanding markers one after another. Every expansion shows more than before, and once no marker
is left, exactly what some path joins to the focus is shown, in whatever order it went. -/
namespace GraphCompare
variable {N E : Type} {g : Graph N E} {k i u v : NodeId} {c : Comparison} {o : Overlay}
  {w w' : Workspace} {focus ids : List NodeId} {id : NodeId} {l l' : Layer}

namespace Graph

/-- Joined by a path whose edges are followed either way. -/
def Joined (g : Graph N E) : NodeId → NodeId → Prop := Relation.ReflTransGen g.Adjacent

theorem Adjacent.symm (h : g.Adjacent u v) : g.Adjacent v u := by
  obtain ⟨e, he⟩ := h
  exact ⟨e, he.symm⟩

theorem Joined.symm (h : g.Joined u v) : g.Joined v u := by
  induction h with
  | refl => exact .refl
  | tail _ ha ih => exact .head ha.symm ih

theorem Walk.joined (h : g.Walk k u v) : g.Joined u v := by
  induction h with
  | refl v => exact .refl
  | snoc _ he ih => exact .tail ih ⟨_, .inl he⟩

/-- What is closed under adjacency contains all that is joined to a node in it. -/
theorem Joined.mem_of_closed {p : Set NodeId} (h : g.Joined u v) (hu : u ∈ p)
    (hclosed : ∀ {u v}, u ∈ p → g.Adjacent u v → v ∈ p) : v ∈ p := by
  induction h with
  | refl => exact hu
  | tail _ ha ih => exact hclosed ih ha

end Graph

theorem Layer.hiddenCount_lt (hsize : l.nodes.size = l'.nodes.size)
    (hkept : ∀ i, l.get (.node i) = true → l'.get (.node i) = true)
    (hi : l.get (.node i) = false) (hi' : l'.get (.node i) = true) :
    l'.hiddenCount .node < l.hiddenCount .node := by
  have hlt : i < l'.nodes.size := by
    by_contra hn
    rw [get_of_size_le (e := .node i) (Nat.le_of_not_lt hn)] at hi'
    cases hi'
  obtain ⟨before, after, hrange⟩ := List.append_of_mem (List.mem_range.mpr hlt)
  have hle : ∀ is : List NodeId,
      is.countP (fun i => !l'.get (.node i)) ≤ is.countP (fun i => !l.get (.node i)) := by
    intro is
    apply List.countP_mono_left
    intro j _ hj
    cases hj' : l.get (.node j) with
    | true => simp [hkept j hj'] at hj
    | false => rfl
  rw [hiddenCount_eq, hiddenCount_eq, hsize, hrange]
  have hbefore := hle before
  have hafter := hle after
  simp only [List.countP_append, List.countP_cons, hi, hi']
  simp only [Bool.not_true, Bool.not_false, Bool.false_eq_true, if_false, if_true]
  omega

namespace Workspace

/-- The identities that the combined view shows. -/
def shownIds (w : Workspace) : Set NodeId := {i | w.layers.combined.get (.node i) = true}

theorem mem_shownIds : i ∈ w.shownIds ↔ w.layers.combined.get (.node i) = true := Iff.rfl

theorem lt_of_mem_shownIds (h : Coupled o w) (hi : i ∈ w.shownIds) : i < o.merged.nodeCount := by
  by_contra hn
  have hfalse : w.layers.combined.get (.node i) = false :=
    Layers.get_of_count_le (v := .combined) (e := .node i) h.derived.sized (Nat.le_of_not_lt hn)
  rw [mem_shownIds, hfalse] at hi
  cases hi

/-- Expanding keeps what is shown, and adds an identity with all that is adjacent to it. -/
theorem expanded_spec (hc : o.Coherent) (h : Coupled o w) (hi : i < o.merged.nodeCount) :
    ((w.expanded id)[i]?).getD false = true ↔
      i ∈ w.shownIds ∨ i = id ∨ o.merged.Adjacent id i := by
  have hsize : w.layers.combined.nodes.size = o.merged.nodeCount := h.derived.sized .combined .node
  have hlt : i < w.layers.combined.nodes.size := hsize ▸ hi
  have hshown : i ∈ w.shownIds ↔ w.layers.combined.nodes[i] = true := by
    simp [mem_shownIds, Layer.get, Layer.flags, Element.kind, Element.index, hlt]
  have hnear : i ∈ o.merged.neighbors id ↔ i ≠ id ∧ o.merged.Adjacent id i :=
    Graph.mem_neighbors_iff hc.merged_simple
  obtain rfl := h.overlay_eq
  simp only [expanded, Array.getElem?_mapIdx, Array.getElem?_eq_getElem hlt, Option.map_some,
    Option.getD_some, Bool.or_eq_true, decide_eq_true_eq, List.contains_iff_mem, hshown, hnear]
  by_cases hid : i = id
  · simp [hid]
  · simp [hid]

/-- Expanding at an identity that exists cannot fail. -/
theorem reveal_ok (hc : o.Coherent) (h : Coupled o w) (hid : id < o.merged.nodeCount) :
    ∃ out, w.reveal id = .ok out ∧
      Layers.Shown o (w.expanded id) o.identities out.state.layers ∧
      out.state = { w with
        layers := out.state.layers
        markers := out.state.layers.markers o } ∧
      out.result = out.state.counts := by
  obtain ⟨out, hok, hspec⟩ := exists_showOnly hc h (w.expanded id)
  refine ⟨out, ?_, hspec⟩
  unfold reveal
  rw [h.overlay_eq, if_pos hid]
  exact hok

/-- Whether each of the identities carries a marker of the combined view when it is its turn to be
expanded. -/
def Expands : Workspace → List NodeId → Prop
  | _, [] => True
  | w, id :: ids => id ∈ w.markers.combined.map (·.attached) ∧ (w.after (.reveal id)).Expands ids

instance instDecidableExpands (w : Workspace) (ids : List NodeId) : Decidable (w.Expands ids) :=
  match ids with
  | [] => .isTrue trivial
  | id :: ids =>
    have := instDecidableExpands (w.after (.reveal id)) ids
    inferInstanceAs (Decidable (_ ∧ _))

/-- The workspace after expanding at one identity after another. -/
def expand (w : Workspace) (ids : List NodeId) : Workspace := w.run (ids.map .reveal)

theorem expands_append {ids' : List NodeId} :
    w.Expands (ids ++ ids') ↔ w.Expands ids ∧ (w.expand ids).Expands ids' := by
  induction ids generalizing w with
  | nil => simp [Expands, expand, run]
  | cons id ids ih =>
    simp only [List.cons_append, Expands, and_assoc]
    exact and_congr_right fun _ => ih

/-- What collapsing around a focus leaves, and every expansion after that keeps. -/
structure Focused (o : Overlay) (focus : List NodeId) (w : Workspace) : Prop where
  overlay_eq : w.overlay = o
  /-- The sides show what the combined view shows. -/
  shown : ∃ keep, Layers.Shown o keep o.identities w.layers
  markers_eq : w.markers = w.layers.markers o
  focus_shown : ∀ f ∈ focus, f ∈ w.shownIds
  joined : ∀ i ∈ w.shownIds, ∃ f ∈ focus, o.merged.Joined f i

theorem Focused.coupled (h : Focused o focus w) : Coupled o w := by
  obtain ⟨keep, hshown⟩ := h.shown
  exact ⟨h.overlay_eq, hshown.derived⟩

theorem focused_collapse {out : Outcome Workspace Counts} (hc : o.Coherent) (h : Coupled o w)
    (hne : focus ≠ []) (hin : ∀ id ∈ focus, id < o.merged.nodeCount)
    (hok : w.collapse focus = .ok out) : Focused o focus out.state := by
  obtain rfl := h.overlay_eq
  obtain ⟨out', hok', hshown, hstate, hresult⟩ := collapse_ok hc h hne hin
  cases Except.ok.inj (hok'.symm.trans hok)
  have hcollapsed := collapsed_of_shown hc hshown hstate hresult
  have hcoupled : Coupled w.overlay out.state := ⟨hcollapsed.overlay_eq, hshown.derived⟩
  refine ⟨hcollapsed.overlay_eq, ⟨_, hshown⟩, hcollapsed.markers_of, ?_, ?_⟩
  · intro f hf
    refine (hcollapsed.node_iff .combined f rfl (hin f hf)).mpr (.inl ⟨f, hf, 0, ?_, .refl f⟩)
    exact Nat.zero_le _
  · intro i hi
    have hnear := (hcollapsed.node_iff .combined i rfl (lt_of_mem_shownIds hcoupled hi)).mp hi
    rcases hnear with ⟨f, hf, _, _, hwalk⟩ | ⟨f, hf, _, _, hwalk⟩
    · exact ⟨f, hf, hwalk.joined⟩
    · exact ⟨f, hf, hwalk.joined.symm⟩

/-- A marker of the combined view stands where something adjacent is not shown. -/
theorem Focused.mem_attached_iff (hc : o.Coherent) (h : Focused o focus w) :
    i ∈ w.markers.combined.map (·.attached) ↔
      i ∈ w.shownIds ∧ ∃ j, o.merged.Adjacent i j ∧ j ∉ w.shownIds := by
  have hmarked := Layer.markedBy_markers hc.merged_simple w.layers.combined
  rw [h.markers_eq]
  simp only [mem_shownIds, Bool.not_eq_true]
  exact hmarked.mem_attached_iff hc.merged_simple

/-- One expansion: nothing fails, and what is shown grows. -/
theorem focused_reveal (hc : o.Coherent) (h : Focused o focus w)
    (hid : id ∈ w.markers.combined.map (·.attached)) :
    ∃ out, w.reveal id = .ok out ∧ Focused o focus out.state ∧
      w.shownIds ⊂ out.state.shownIds := by
  obtain ⟨hvisible, j, hadjacent, hhidden⟩ := (h.mem_attached_iff hc).mp hid
  have hlt := lt_of_mem_shownIds h.coupled hvisible
  obtain ⟨out, hok, hshown, hstate, _⟩ := reveal_ok hc h.coupled hlt
  have hoverlay : out.state.overlay = o := by
    rw [hstate]
    exact h.overlay_eq
  have hcoupled : Coupled o out.state := ⟨hoverlay, hshown.derived⟩
  have hmem : ∀ i < o.merged.nodeCount,
      (i ∈ out.state.shownIds ↔ i ∈ w.shownIds ∨ i = id ∨ o.merged.Adjacent id i) := by
    intro i hi
    obtain ⟨x, hx⟩ := Graph.exists_node? hi
    have hflag := Layers.get_merged_of_shown (v := .combined) (e := .node i) hc hshown rfl hx
    rw [← expanded_spec hc h.coupled hi, mem_shownIds]
    exact Eq.congr_left hflag
  have hgrown : w.shownIds ⊆ out.state.shownIds := by
    intro i hi
    exact (hmem i (lt_of_mem_shownIds h.coupled hi)).mpr (.inl hi)
  refine ⟨out, hok, ⟨hoverlay, ⟨_, hshown⟩, ?_, ?_, ?_⟩, hgrown, ?_⟩
  · rw [hstate]
  · intro f hf
    exact hgrown (h.focus_shown f hf)
  · intro i hi
    rcases (hmem i (lt_of_mem_shownIds hcoupled hi)).mp hi with hi | rfl | hi
    · exact h.joined i hi
    · exact h.joined i hvisible
    · obtain ⟨f, hf, hjoined⟩ := h.joined id hvisible
      exact ⟨f, hf, hjoined.tail hi⟩
  · intro hsub
    have hj := hadjacent.lt_right hc.merged_simple
    exact hhidden (hsub ((hmem j hj).mpr (.inr (.inr hadjacent))))

theorem focused_expand (hc : o.Coherent) (h : Focused o focus w) (hids : w.Expands ids) :
    Focused o focus (w.expand ids) := by
  induction ids generalizing w with
  | nil => exact h
  | cons id ids ih =>
    obtain ⟨hid, hrest⟩ := hids
    obtain ⟨out, hok, hfocused, _⟩ := focused_reveal hc h hid
    have hafter : w.after (.reveal id) = out.state := state_settled hok
    exact ih (hafter ▸ hfocused) hrest

theorem Focused.hiddenCount_lt (h : Focused o focus w) (h' : Focused o focus w')
    (hgrown : w.shownIds ⊂ w'.shownIds) :
    w'.layers.combined.hiddenCount .node < w.layers.combined.hiddenCount .node := by
  obtain ⟨i, hi', hi⟩ := Set.exists_of_ssubset hgrown
  have hsize : w.layers.combined.nodes.size = w'.layers.combined.nodes.size :=
    (h.coupled.derived.sized .combined .node).trans
      (h'.coupled.derived.sized .combined .node).symm
  exact Layer.hiddenCount_lt hsize (fun j hj => hgrown.1 hj) (Bool.not_eq_true _ ▸ hi) hi'

/-- Every expansion uses up something hidden. -/
theorem length_add_hidden_le (hc : o.Coherent) (h : Focused o focus w) (hids : w.Expands ids) :
    ids.length + (w.expand ids).layers.combined.hiddenCount .node ≤
      w.layers.combined.hiddenCount .node := by
  induction ids generalizing w with
  | nil => simp [expand, run]
  | cons id ids ih =>
    obtain ⟨hid, hrest⟩ := hids
    obtain ⟨out, hok, hfocused, hgrown⟩ := focused_reveal hc h hid
    have hlt := h.hiddenCount_lt hfocused hgrown
    have hafter : w.after (.reveal id) = out.state := state_settled hok
    have hle := ih (hafter ▸ hfocused) hrest
    change ids.length + 1 +
      ((w.after (.reveal id)).expand ids).layers.combined.hiddenCount .node ≤ _
    rw [hafter] at hle ⊢
    omega

/-- Without a marker in the combined view there is none in any: two nodes that an edge joins on a
side have identities that an edge joins, and a side shows what the combined view shows. -/
theorem Focused.unmarked (hc : o.Coherent) (h : Focused o focus w)
    (hnone : w.markers.combined = []) (v : View) : w.markers.get v = [] := by
  obtain ⟨keep, hshown⟩ := h.shown
  have hclosed : ∀ i, i ∉ w.markers.combined.map (·.attached) := by
    intro i
    rw [hnone]
    exact List.not_mem_nil
  have hside : ∀ s : Side, (w.layers.get s.view).markers (o.side s).graph = [] := by
    intro s
    rw [← List.map_eq_nil_iff (f := (·.attached)), List.eq_nil_iff_forall_not_mem]
    intro u hu
    have hmarked := Layer.markedBy_markers (hc.side_simple s) (w.layers.get s.view)
    obtain ⟨hvisible, u', hadjacent, hhidden⟩ :=
      (hmarked.mem_attached_iff (hc.side_simple s)).mp hu
    obtain ⟨i, j, hi, hj, hmerged⟩ := hc.adjacent hadjacent
    rw [Layers.get_side_of_combined hc hshown hi] at hvisible
    rw [Layers.get_side_of_combined hc hshown hj] at hhidden
    refine hclosed i ((h.mem_attached_iff hc).mpr ⟨hvisible, j, hmerged, ?_⟩)
    exact Bool.not_eq_true _ ▸ hhidden
  rw [h.markers_eq] at hnone ⊢
  cases v with
  | primary => exact hside .primary
  | secondary => exact hside .secondary
  | combined => exact hnone
  | super =>
    change w.layers.super.markers o.merged = []
    rw [← Layers.combined_eq_super hshown.derived]
    exact hnone

/-- Without a marker nothing adjacent to what is shown is hidden. -/
theorem Focused.mem_shownIds_iff (hc : o.Coherent) (h : Focused o focus w)
    (hnone : w.markers.combined = []) : i ∈ w.shownIds ↔ ∃ f ∈ focus, o.merged.Joined f i := by
  constructor
  · exact h.joined i
  · rintro ⟨f, hf, hjoined⟩
    apply hjoined.mem_of_closed (h.focus_shown f hf)
    intro u v hu hadjacent
    by_contra hv
    have hmarker := (h.mem_attached_iff hc).mpr ⟨hu, v, hadjacent, hv⟩
    rw [hnone] at hmarker
    cases hmarker

/-- What expanding markers one after another comes to. -/
structure Unfolds (w : Workspace) (focus ids : List NodeId) : Prop where
  /-- There are at most as many expansions as there were hidden identities. -/
  length_le : ids.length ≤ w.layers.combined.hiddenCount .node
  /-- None of them fails, and each shows more than was shown before it. -/
  grows : ∀ before id after, ids = before ++ id :: after →
    ∃ out, (w.expand before).reveal id = .ok out ∧
      (w.expand before).shownIds ⊂ out.state.shownIds
  unmarked : (w.expand ids).markers.combined = [] → ∀ v, (w.expand ids).markers.get v = []
  mem_shownIds_iff : (w.expand ids).markers.combined = [] →
    ∀ i, i ∈ (w.expand ids).shownIds ↔ ∃ f ∈ focus, w.overlay.merged.Joined f i

theorem unfolds_of_focused (hc : o.Coherent) (h : Focused o focus w) (hids : w.Expands ids) :
    Unfolds w focus ids where
  length_le := Nat.le_of_add_right_le (length_add_hidden_le hc h hids)
  grows := by
    rintro before id after rfl
    obtain ⟨hbefore, hid, _⟩ := expands_append.mp hids
    obtain ⟨out, hok, _, hgrown⟩ := focused_reveal hc (focused_expand hc h hbefore) hid
    exact ⟨out, hok, hgrown⟩
  unmarked := (focused_expand hc h hids).unmarked hc
  mem_shownIds_iff := by
    intro hnone i
    rw [h.overlay_eq]
    exact (focused_expand hc h hids).mem_shownIds_iff hc hnone

/-- After a collapse, expanding markers in any order comes to an end, and what is shown in the end
is what paths join to the focus. -/
theorem unfolds_collapse (hw : Reachable c w) (hne : focus ≠ [])
    (hin : ∀ id ∈ focus, id < w.overlay.merged.nodeCount) :
    ∃ out, w.collapse focus = .ok out ∧
      out.result.hidden = out.state.layers.combined.hiddenCount .node ∧
      ∀ ids, out.state.Expands ids → Unfolds out.state focus ids := by
  obtain ⟨o, _, hc, h⟩ := exists_coupled hw
  obtain rfl := h.overlay_eq
  obtain ⟨out, hok, _, _, hresult⟩ := collapse_ok hc h hne hin
  have hfocused := focused_collapse hc h hne hin hok
  refine ⟨out, hok, ?_, fun ids => unfolds_of_focused hc hfocused⟩
  rw [hresult]
  rfl

theorem unfolds_collapse_sample : ∃ w out, Reachable .sample w ∧ w.collapse [0] = .ok out ∧
    out.state.Expands [0, 1] ∧ (out.state.expand [0, 1]).markers.combined = [] ∧
    Unfolds out.state [0] [0, 1] := by
  obtain ⟨w, hw, hrun⟩ := exists_sample_run { browsing := ⟨false, 0, 0⟩ }
    [.setVisible .primary (.edge 2) false]
    (p := fun w => 0 < w.overlay.merged.nodeCount ∧
      (w.collapse [0]).toOption.any fun out => out.state.Expands [0, 1] ∧
        (out.state.expand [0, 1]).markers.combined = []) (by decide +kernel)
  obtain ⟨hlt, hexpands⟩ := of_decide_eq_true hrun
  have hin : ∀ id ∈ [0], id < w.overlay.merged.nodeCount := by simpa using hlt
  obtain ⟨out, hok, _, hunfolds⟩ := unfolds_collapse hw (by decide) hin
  rw [hok] at hexpands
  obtain ⟨hids, hnone⟩ := of_decide_eq_true hexpands
  exact ⟨w, out, hw, hok, hids, hnone, hunfolds _ hids⟩

end Workspace

end GraphCompare
