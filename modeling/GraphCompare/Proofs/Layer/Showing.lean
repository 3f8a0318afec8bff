import GraphCompare.Workspace.Collapse
import GraphCompare.Proofs.Layer.Derivation

/-! Showing the identities to keep: the loop over all identities succeeds, and what it leaves does
not depend on the flags before. -/
namespace GraphCompare
variable {o : Overlay} {ls ls' : Layers} {x : Merged} {e f : Element} {s : Side} {v : View}
  {i a b : Nat} {visible : Bool} {keep : Array Bool} {done : List Element}

/-- The ends of an edge as a view has it. -/
def Overlay.endpoints? (o : Overlay) (v : View) (e : EdgeId) : Option (NodeId × NodeId) :=
  match v.side? with
  | some s => (o.side s).graph.endpoints? e
  | none => o.merged.endpoints? e

namespace Layers

/-- Setting a flag on a side that holds an identity cannot fail. -/
theorem showHeld_ok (hc : o.Coherent) (hd : Derived o ls) (hx : o.merged? e = some x)
    (visible : Bool) (s : Side) :
    ∃ ls', showHeld o x e visible ls s = .ok ls' ∧ Derived o ls' ∧
      ∀ t f, (ls'.get t.view).get f =
        if t = s ∧ (x.holders.get s).map e.withIndex = some f then visible
        else (ls.get t.view).get f := by
  unfold showHeld
  cases hs : x.holders.get s with
  | none => exact ⟨ls, rfl, hd, by simp⟩
  | some i =>
    obtain ⟨b, ls', hok⟩ := setVisible_of_identity? ls (hc.holds hx hs) visible
    refine ⟨ls', by simp [hok, Except.map], derived_setVisible hc hd hok, ?_⟩
    intro t f
    rw [get_setVisible hd.sized hok]
    simp [eq_comm]

theorem showIdentity_ok (hc : o.Coherent) (hd : Derived o ls) (hx : o.merged? e = some x)
    (keep : Array Bool) :
    ∃ ls', showIdentity o keep ls e = .ok ls' ∧ Derived o ls' ∧
      ∀ t f, (ls'.get t.view).get f =
        if (x.holders.get t).map e.withIndex = some f then keeps o keep e
        else (ls.get t.view).get f := by
  obtain ⟨ls₁, h₁, hd₁, hget₁⟩ := showHeld_ok hc hd hx (keeps o keep e) .primary
  obtain ⟨ls₂, h₂, hd₂, hget₂⟩ := showHeld_ok hc hd₁ hx (keeps o keep e) .secondary
  refine ⟨ls₂, ?_, hd₂, ?_⟩
  · unfold showIdentity
    rw [hx]
    simp only [Side.both, List.foldlM_cons, List.foldlM_nil, h₁]
    change (showHeld o x e (keeps o keep e) ls₁ .secondary >>= pure) = _
    rw [h₂]
    rfl
  · intro t f
    rw [hget₂, hget₁]
    cases t <;> simp

/-- What holds once some identities are shown or hidden. -/
structure Shown (o : Overlay) (keep : Array Bool) (done : List Element) (ls : Layers) : Prop where
  derived : Derived o ls
  held_eq : ∀ e ∈ done, ∀ x, o.merged? e = some x → ∀ s i, x.holders.get s = some i →
    (ls.get s.view).get (e.withIndex i) = keeps o keep e

theorem shown_step (hc : o.Coherent) (h : Shown o keep done ls) (hx : o.merged? e = some x) :
    ∃ ls', showIdentity o keep ls e = .ok ls' ∧ Shown o keep (done ++ [e]) ls' := by
  obtain ⟨ls', hok, hd, hget⟩ := showIdentity_ok hc h.derived hx keep
  refine ⟨ls', hok, hd, ?_⟩
  intro f hf y hy s i hi
  rw [hget]
  split
  · rename_i hmap
    obtain ⟨j, hj, hji⟩ := Option.map_eq_some_iff.mp hmap
    rw [hc.eq_of_held hx hy hj hi hji]
  · rename_i hmap
    rcases List.mem_append.mp hf with hf | hf
    · exact h.held_eq f hf y hy s i hi
    · cases List.mem_singleton.mp hf
      cases Option.some.inj (hx.symm.trans hy)
      simp [hi] at hmap

private theorem shown_foldlM (hc : o.Coherent) (l : List Element)
    (hl : ∀ e ∈ l, ∃ x, o.merged? e = some x) (h : Shown o keep done ls) :
    ∃ ls', l.foldlM (showIdentity o keep) ls = .ok ls' ∧ Shown o keep (done ++ l) ls' := by
  induction l generalizing done ls with
  | nil => exact ⟨ls, rfl, by simpa using h⟩
  | cons e l ih =>
    obtain ⟨x, hx⟩ := hl e (by simp)
    obtain ⟨ls₁, hok, h₁⟩ := shown_step hc h hx
    obtain ⟨ls₂, hrest, h₂⟩ := ih (fun f hf => hl f (List.mem_cons_of_mem e hf)) h₁
    refine ⟨ls₂, ?_, by simpa using h₂⟩
    rw [List.foldlM_cons, hok]
    exact hrest

/-- The loop always succeeds. -/
theorem showing_ok (hc : o.Coherent) (hd : Derived o ls) (keep : Array Bool) :
    ∃ ls', showing o keep ls = .ok ls' ∧ Shown o keep o.identities ls' := by
  have hstart : Shown o keep [] ls := ⟨hd, by simp⟩
  exact shown_foldlM hc o.identities (fun _ he => Overlay.mem_identities.mp he) hstart

theorem get_side_of_shown (hc : o.Coherent) (h : Shown o keep o.identities ls)
    (hi : (o.side s).identity? e = some i) :
    (ls.get s.view).get e = keeps o keep (e.withIndex i) := by
  obtain ⟨x, hx, hh⟩ := hc.identified hi
  have hmem := Overlay.mem_identities.mpr ⟨x, hx⟩
  simpa using h.held_eq _ hmem x hx s _ hh

theorem get_merged_of_shown (hc : o.Coherent) (h : Shown o keep o.identities ls)
    (hv : v.side? = none) (hx : o.merged? e = some x) : (ls.get v).get e = keeps o keep e := by
  have hmem := Overlay.mem_identities.mpr ⟨x, hx⟩
  rw [h.derived.flag_eq hv hx]
  exact derived_const hc hx (h.held_eq e hmem x hx)

/-- Every side shows what the combined view shows. -/
theorem get_side_of_combined (hc : o.Coherent) (h : Shown o keep o.identities ls)
    (hi : (o.side s).identity? e = some i) :
    (ls.get s.view).get e = ls.combined.get (e.withIndex i) := by
  obtain ⟨x, hx, _⟩ := hc.identified hi
  rw [get_side_of_shown hc h hi]
  exact (get_merged_of_shown (v := .combined) hc h rfl hx).symm

/-- The flags that the loop leaves are determined by what was to be kept. -/
theorem shown_unique (hc : o.Coherent) (h : Shown o keep o.identities ls)
    (h' : Shown o keep o.identities ls') : ls = ls' := by
  apply derived_ext h.derived h'.derived
  intro s e
  by_cases he : e.index < o.count s.view e.kind
  · obtain ⟨i, hi⟩ := Overlay.exists_identity? he
    rw [get_side_of_shown hc h hi, get_side_of_shown hc h' hi]
  · rw [get_of_count_le h.derived.sized (Nat.le_of_not_lt he),
      get_of_count_le h'.derived.sized (Nat.le_of_not_lt he)]

/-- In every view an edge is shown just when both its ends are. -/
theorem edge_of_shown {e : EdgeId} (hc : o.Coherent) (h : Shown o keep o.identities ls)
    (he : o.endpoints? v e = some (a, b)) :
    (ls.get v).get (.edge e) = ((ls.get v).get (.node a) && (ls.get v).get (.node b)) := by
  have hkeep : ∀ {i a b}, o.merged.endpoints? i = some (a, b) →
      keeps o keep (.edge i) = (keeps o keep (.node a) && keeps o keep (.node b)) := by
    intro i a b hi
    simp [keeps, hi]
  cases hv : v.side? with
  | none =>
    have hends : o.merged.endpoints? e = some (a, b) := by simpa [Overlay.endpoints?, hv] using he
    have hlt := hc.merged_simple.ends_lt hends
    obtain ⟨x, hx⟩ := Graph.exists_edge? (Graph.lt_of_endpoints? hends)
    obtain ⟨y, hy⟩ := Graph.exists_node? hlt.1
    obtain ⟨z, hz⟩ := Graph.exists_node? hlt.2
    have hedge := get_merged_of_shown (e := .edge e) hc h hv hx
    have hsource := get_merged_of_shown (e := .node a) hc h hv hy
    have htarget := get_merged_of_shown (e := .node b) hc h hv hz
    rw [hedge, hsource, htarget]
    exact hkeep hends
  | some s =>
    obtain rfl := View.eq_of_side?_some hv
    have hends : (o.side s).graph.endpoints? e = some (a, b) := by
      simpa [Overlay.endpoints?] using he
    have hlt : e < o.edgeCount s.view := by
      simpa [Overlay.edgeCount] using Graph.lt_of_endpoints? hends
    obtain ⟨i, hi⟩ := Overlay.exists_identity? (s := s) (e := .edge e) hlt
    obtain ⟨a', b', ha, hb, hends'⟩ := hc.ends_eq hi hends
    rw [get_side_of_shown hc h hi, get_side_of_shown hc h ha, get_side_of_shown hc h hb]
    exact hkeep hends'

end Layers

end GraphCompare
