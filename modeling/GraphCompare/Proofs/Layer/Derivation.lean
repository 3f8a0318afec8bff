import GraphCompare.Layer
import GraphCompare.Proofs.Overlay.Coherence

/-! Combined and super flags as the sides derive them: every change of flags keeps or restores
that. -/
namespace GraphCompare
variable {o : Overlay} {ls ls' : Layers} {x : Merged} {e f : Element} {s t : Side} {v w : View}
  {i j : Nat} {b visible : Bool}

theorem View.ne_of_side?_none (hv : v.side? = none) : v ≠ s.view := by
  rintro rfl
  simp at hv

theorem View.eq_of_side?_some (hv : v.side? = some s) : v = s.view := by
  cases v <;> cases hv <;> rfl

namespace Overlay

/-- How many elements of a kind a view has. -/
def count (o : Overlay) (v : View) : ElementKind → Nat
  | .node => o.nodeCount v
  | .edge => o.edgeCount v

theorem identity?_isSome : ((o.side s).identity? e).isSome ↔ e.index < o.count s.view e.kind := by
  cases e with
  | node u =>
    simpa [SideGraph.identity?, count, nodeCount, Element.kind, Element.index] using
      Graph.node?_isSome
  | edge u =>
    simpa [SideGraph.identity?, count, edgeCount, Element.kind, Element.index] using
      Graph.edge?_isSome

theorem lt_count_of_identity? (h : (o.side s).identity? e = some i) :
    e.index < o.count s.view e.kind :=
  identity?_isSome.mp (Option.isSome_iff_exists.mpr ⟨i, h⟩)

theorem exists_identity? (h : e.index < o.count s.view e.kind) :
    ∃ i, (o.side s).identity? e = some i :=
  Option.isSome_iff_exists.mp (identity?_isSome.mpr h)

theorem lt_count_of_merged? (hv : v.side? = none) (h : o.merged? e = some x) :
    e.index < o.count v e.kind := by
  cases e with
  | node u =>
    simpa [count, nodeCount, hv, Element.kind, Element.index] using Graph.lt_of_node? h
  | edge u =>
    simpa [count, edgeCount, hv, Element.kind, Element.index] using Graph.lt_of_edge? h

theorem exists_merged? (hv : v.side? = none) (h : e.index < o.count v e.kind) :
    ∃ x, o.merged? e = some x := by
  cases e with
  | node u =>
    simp only [count, nodeCount, hv, Element.kind] at h
    exact Graph.exists_node? h
  | edge u =>
    simp only [count, edgeCount, hv, Element.kind] at h
    exact Graph.exists_edge? h

theorem mem_identities : e ∈ o.identities ↔ ∃ x, o.merged? e = some x := by
  rw [← Option.isSome_iff_exists]
  cases e with
  | node u => simp [identities, merged?, Graph.nodeIds, Graph.node?_isSome]
  | edge u => simp [identities, merged?, Graph.edgeIds, Graph.edge?_isSome]

/-- No element of a side is held by two identities. -/
theorem Coherent.eq_of_held {y : Merged} (hc : o.Coherent) (hx : o.merged? e = some x)
    (hy : o.merged? f = some y) (hi : x.holders.get s = some i) (hj : y.holders.get s = some j)
    (h : e.withIndex i = f.withIndex j) : e = f := by
  have hid := hc.holds hx hi
  rw [h, hc.holds hy hj] at hid
  have hkind : e.kind = f.kind := by simpa using congrArg Element.kind h
  exact Element.eq_of_kind_index hkind (Option.some.inj hid).symm

theorem Coherent.lt_count (hc : o.Coherent) (hx : o.merged? e = some x)
    (hi : x.holders.get s = some i) : i < o.count s.view e.kind := by
  simpa using lt_count_of_identity? (hc.holds hx hi)

theorem Coherent.node_unique {u v : NodeId} (hc : o.Coherent)
    (hu : (o.side s).identity? (.node u) = some i) (hv : (o.side s).identity? (.node v) = some i) :
    u = v := by
  obtain ⟨x, hx, hxu⟩ := hc.identified hu
  obtain ⟨y, hy, hyv⟩ := hc.identified hv
  cases Option.some.inj (hx.symm.trans hy)
  exact Option.some.inj (hxu.symm.trans hyv)

/-- An edge between identities is held by an edge of some side. -/
theorem Coherent.exists_endpoints? {d : EdgeId} {a b : NodeId} (hc : o.Coherent)
    (h : o.merged.endpoints? d = some (a, b)) :
    ∃ s k u v, (o.side s).identity? (.node u) = some a ∧ (o.side s).identity? (.node v) = some b ∧
      (o.side s).graph.endpoints? k = some (u, v) := by
  obtain ⟨x, hx⟩ := Graph.exists_edge? (Graph.lt_of_endpoints? h)
  obtain ⟨s, k, hk⟩ := hc.inhabited (e := .edge d) hx
  obtain ⟨u, v, hends⟩ : ∃ u v, (o.side s).graph.endpoints? k = some (u, v) := by
    apply Graph.exists_endpoints?
    simpa [count, edgeCount, Element.kind] using hc.lt_count (e := .edge d) hx hk
  obtain ⟨a', b', ha, hb, hmerged⟩ := hc.ends_eq (hc.holds (e := .edge d) hx hk) hends
  cases Option.some.inj (hmerged.symm.trans h)
  exact ⟨s, k, u, v, ha, hb, hends⟩

/-- Nodes that an edge joins on a side have identities that an edge joins. -/
theorem Coherent.adjacent {u v : NodeId} (hc : o.Coherent)
    (h : (o.side s).graph.Adjacent u v) :
    ∃ i j, (o.side s).identity? (.node u) = some i ∧ (o.side s).identity? (.node v) = some j ∧
      o.merged.Adjacent i j := by
  obtain ⟨d, hd⟩ := h
  have hlt : d < (o.side s).graph.edgeCount :=
    hd.elim Graph.lt_of_endpoints? Graph.lt_of_endpoints?
  obtain ⟨r, hr⟩ : ∃ r, (o.side s).identity? (.edge d) = some r :=
    exists_identity? (by simpa [count, edgeCount, Element.kind, Element.index] using hlt)
  rcases hd with hd | hd
  · obtain ⟨i, j, hi, hj, hends⟩ := hc.ends_eq hr hd
    exact ⟨i, j, hi, hj, r, .inl hends⟩
  · obtain ⟨j, i, hj, hi, hends⟩ := hc.ends_eq hr hd
    exact ⟨i, j, hi, hj, r, .inr hends⟩

/-- Identities that an edge joins are those of nodes that an edge joins on some side. -/
theorem Coherent.exists_adjacent {a b : NodeId} (hc : o.Coherent) (h : o.merged.Adjacent a b) :
    ∃ s u v, (o.side s).identity? (.node u) = some a ∧ (o.side s).identity? (.node v) = some b ∧
      (o.side s).graph.Adjacent u v := by
  obtain ⟨d, hd⟩ := h
  rcases hd with hd | hd
  · obtain ⟨s, k, u, v, hu, hv, hk⟩ := hc.exists_endpoints? hd
    exact ⟨s, u, v, hu, hv, k, .inl hk⟩
  · obtain ⟨s, k, v, u, hv, hu, hk⟩ := hc.exists_endpoints? hd
    exact ⟨s, u, v, hu, hv, k, .inr hk⟩

end Overlay

/-- Two layers of one size with the same flags are equal. -/
theorem Layer.ext_get {l l' : Layer} (hsize : ∀ k, (l.flags k).size = (l'.flags k).size)
    (hget : ∀ e, l.get e = l'.get e) : l = l' := by
  have hkind : ∀ k, l.flags k = l'.flags k := by
    intro k
    apply Array.ext (hsize k)
    intro i hi hi'
    cases k with
    | node => simpa [Layer.get, Element.kind, Element.index, hi, hi'] using hget (.node i)
    | edge => simpa [Layer.get, Element.kind, Element.index, hi, hi'] using hget (.edge i)
  have hnodes := hkind .node
  have hedges := hkind .edge
  cases l
  cases l'
  simp_all [Layer.flags]

theorem Layer.get_of_not_changes {l : Layer} (he : e.index < (l.flags e.kind).size)
    (h : l.changes e visible = false) : l.get e = visible := by
  simp only [changes, get, Array.getElem?_eq_getElem he] at h ⊢
  cases hf : (l.flags e.kind)[e.index] <;> cases visible <;> simp_all

namespace Layers

/-- Each view has one flag for each of its elements. -/
def Sized (o : Overlay) (ls : Layers) : Prop := ∀ v k, ((ls.get v).flags k).size = o.count v k

theorem sized_allVisible (o : Overlay) : Sized o (allVisible o) := by
  intro v k
  cases k <;> simp [allVisible, Layer.allVisible, Layer.flags, Overlay.count]

theorem sized_modify (h : Sized o ls) (v : View) (e : Element) (b : Bool) :
    Sized o (ls.modify v (·.set e b)) := by
  intro w k
  rw [PerView.get_modify, ← h w k]
  split
  · exact Layer.size_flags_set _ _ _ _
  · rfl

theorem get_modify_set (h : Sized o ls) (he : e.index < o.count v e.kind) :
    ((ls.modify v (·.set e b)).get w).get f = if w = v ∧ f = e then b else (ls.get w).get f := by
  rw [PerView.get_modify]
  by_cases hw : w = v
  · subst w
    rw [if_pos rfl, Layer.get_set, h v e.kind]
    simp [he]
  · simp [hw]

/-- Layers with all their flags equal are equal. -/
theorem ext_flags (h : Sized o ls) (h' : Sized o ls')
    (hflags : ∀ v e, (ls.get v).get e = (ls'.get v).get e) : ls = ls' := by
  apply PerView.ext_get
  intro v
  apply Layer.ext_get
  · intro k
    exact (h v k).trans (h' v k).symm
  · exact hflags v

/-- A flag is derived as visible where some side shows what the merged element holds there. -/
theorem derived_iff : ls.derived x e = true ↔
    ∃ s i, x.holders.get s = some i ∧ (ls.get s.view).get (e.withIndex i) = true := by
  have hside : ∀ s, ls.heldFlag x e s = true ↔
      ∃ i, x.holders.get s = some i ∧ (ls.get s.view).get (e.withIndex i) = true := by
    intro s
    unfold heldFlag
    cases x.holders.get s <;> simp
  have hor : ls.derived x e = (ls.heldFlag x e .primary || ls.heldFlag x e .secondary) := by
    unfold derived Merged.presence heldFlag
    cases hp : x.holders.primary <;> cases hs : x.holders.secondary <;>
      simp [PerSide.get, Presence.derive, hp, hs]
  rw [hor, Bool.or_eq_true, hside, hside]
  constructor
  · rintro (⟨i, hi⟩ | ⟨i, hi⟩)
    · exact ⟨.primary, i, hi⟩
    · exact ⟨.secondary, i, hi⟩
  · rintro ⟨s, i, hi⟩
    cases s with
    | primary => exact Or.inl ⟨i, hi⟩
    | secondary => exact Or.inr ⟨i, hi⟩

/-- What is derived depends only on the flags of what the merged element holds. -/
theorem derived_congr (h : ∀ s i, x.holders.get s = some i →
    (ls.get s.view).get (e.withIndex i) = (ls'.get s.view).get (e.withIndex i)) :
    ls.derived x e = ls'.derived x e := by
  rw [Bool.eq_iff_iff, derived_iff, derived_iff]
  constructor
  · rintro ⟨s, i, hi, hflag⟩
    exact ⟨s, i, hi, h s i hi ▸ hflag⟩
  · rintro ⟨s, i, hi, hflag⟩
    exact ⟨s, i, hi, (h s i hi).trans hflag⟩

theorem derived_const (hc : o.Coherent) (hx : o.merged? e = some x)
    (h : ∀ s i, x.holders.get s = some i → (ls.get s.view).get (e.withIndex i) = b) :
    ls.derived x e = b := by
  obtain ⟨s, i, hi⟩ := hc.inhabited hx
  rw [Bool.eq_iff_iff, derived_iff]
  constructor
  · rintro ⟨t, j, hj, hflag⟩
    rw [← h t j hj]
    exact hflag
  · intro hb
    exact ⟨s, i, hi, (h s i hi).trans hb⟩

/-- The combined and the super flags are what the sides derive to. -/
structure Derived (o : Overlay) (ls : Layers) : Prop where
  sized : Sized o ls
  flag_eq : ∀ {v e x}, v.side? = none → o.merged? e = some x → (ls.get v).get e = ls.derived x e

theorem get_allVisible (he : e.index < o.count v e.kind) : ((allVisible o).get v).get e = true := by
  rw [allVisible, PerView.get_ofFn, Layer.get_allVisible]
  cases e <;> exact he

theorem derived_allVisible (hc : o.Coherent) : Derived o (allVisible o) where
  sized := sized_allVisible o
  flag_eq := by
    intro v e x hv hx
    rw [get_allVisible (Overlay.lt_count_of_merged? hv hx)]
    refine (derived_const hc hx ?_).symm
    intro s i hi
    apply get_allVisible
    simpa using hc.lt_count hx hi

theorem get_of_count_le (h : Sized o ls) (he : o.count v e.kind ≤ e.index) :
    (ls.get v).get e = false :=
  Layer.get_of_size_le ((h v e.kind).symm ▸ he)

/-- Where the views agree, the flags of the sides determine all others. -/
theorem derived_ext (h : Derived o ls) (h' : Derived o ls')
    (hside : ∀ (s : Side) e, (ls.get s.view).get e = (ls'.get s.view).get e) : ls = ls' := by
  apply ext_flags h.sized h'.sized
  intro v e
  cases hv : v.side? with
  | some s =>
    obtain rfl := View.eq_of_side?_some hv
    exact hside s e
  | none =>
    by_cases he : e.index < o.count v e.kind
    · obtain ⟨x, hx⟩ := Overlay.exists_merged? hv he
      rw [h.flag_eq hv hx, h'.flag_eq hv hx]
      exact derived_congr fun s i _ => hside s _
    · rw [get_of_count_le h.sized (Nat.le_of_not_lt he),
        get_of_count_le h'.sized (Nat.le_of_not_lt he)]

/-- Layers of the merged graph with the same flags are equal, also if they are of two views. -/
theorem layer_ext (h : Sized o ls) (h' : Sized o ls') (hv : v.side? = none) (hw : w.side? = none)
    (hflags : ∀ e x, o.merged? e = some x → (ls.get v).get e = (ls'.get w).get e) :
    ls.get v = ls'.get w := by
  have hcount : ∀ k, o.count v k = o.count w k := by
    intro k
    cases k <;> simp [Overlay.count, Overlay.nodeCount, Overlay.edgeCount, hv, hw]
  apply Layer.ext_get
  · intro k
    rw [h, h', hcount]
  · intro e
    by_cases he : e.index < o.count v e.kind
    · obtain ⟨x, hx⟩ := Overlay.exists_merged? hv he
      exact hflags e x hx
    · have hle := Nat.le_of_not_lt he
      rw [get_of_count_le h hle, get_of_count_le h' (hcount e.kind ▸ hle)]

theorem combined_eq_super (h : Derived o ls) : ls.combined = ls.super := by
  apply layer_ext (v := .combined) (w := .super) h.sized h.sized rfl rfl
  intro e x hx
  exact (h.flag_eq (v := .combined) rfl hx).trans (h.flag_eq (v := .super) rfl hx).symm

/-- Elements of a kind that no side hides are hidden in no view. -/
theorem visible_of_sides (hc : o.Coherent) (h : Derived o ls) {k : ElementKind}
    (hside : ∀ (s : Side) e, e.kind = k → e.index < o.count s.view k →
      (ls.get s.view).get e = true)
    (hk : e.kind = k) (he : e.index < o.count v k) : (ls.get v).get e = true := by
  subst hk
  cases hv : v.side? with
  | some s =>
    obtain rfl := View.eq_of_side?_some hv
    exact hside s e rfl he
  | none =>
    obtain ⟨x, hx⟩ := Overlay.exists_merged? hv he
    rw [h.flag_eq hv hx]
    apply derived_const hc hx
    intro s i hi
    exact hside s _ (Element.kind_withIndex e i) (by simpa using hc.lt_count hx hi)

section setting

theorem get_rederive_side (o : Overlay) (ls : Layers) (e : Element) (s : Side) :
    (rederive o ls e).get s.view = ls.get s.view := by
  unfold rederive
  cases o.merged? e with
  | none => rfl
  | some x => cases s <;> rfl

theorem sized_rederive (h : Sized o ls) (e : Element) : Sized o (rederive o ls e) := by
  unfold rederive
  cases o.merged? e with
  | none => exact h
  | some x => exact sized_modify (sized_modify h _ _ _) _ _ _

theorem derived_rederive (o : Overlay) (ls : Layers) (e : Element) :
    (rederive o ls e).derived x f = ls.derived x f := by
  apply derived_congr
  intro s i _
  rw [get_rederive_side]

theorem get_rederive (h : Sized o ls) (hx : o.merged? e = some x) (hv : v.side? = none) :
    ((rederive o ls e).get v).get f = if f = e then ls.derived x e else (ls.get v).get f := by
  have hsized := sized_modify h .combined e (ls.derived x e)
  have hlt : ∀ {v : View}, v.side? = none → e.index < o.count v e.kind := by
    intro v hv
    exact Overlay.lt_count_of_merged? hv hx
  unfold rederive
  rw [hx]
  dsimp only
  rw [get_modify_set hsized (hlt rfl), get_modify_set h (hlt rfl)]
  cases v <;> simp_all [View.side?]

theorem exists_of_setVisible (h : setVisible o ls s e visible = .ok (b, ls')) :
    ∃ i, (o.side s).identity? e = some i ∧
      ls' = rederive o (ls.modify s.view (·.set e visible)) (e.withIndex i) := by
  unfold setVisible at h
  cases hi : (o.side s).identity? e with
  | none => simp [hi] at h
  | some i =>
    simp only [hi, Except.ok.injEq, Prod.mk.injEq] at h
    exact ⟨i, rfl, h.2.symm⟩

theorem setVisible_of_identity? (ls : Layers) (h : (o.side s).identity? e = some i)
    (visible : Bool) : ∃ b ls', setVisible o ls s e visible = .ok (b, ls') := by
  unfold setVisible
  rw [h]
  exact ⟨_, _, rfl⟩

/-- Setting a flag leaves every other flag of the sides as it was. -/
theorem get_setVisible (hs : Sized o ls) (h : setVisible o ls s e visible = .ok (b, ls'))
    (t : Side) (f : Element) :
    (ls'.get t.view).get f = if t = s ∧ f = e then visible else (ls.get t.view).get f := by
  obtain ⟨i, hi, rfl⟩ := exists_of_setVisible h
  have hview : t.view = s.view ↔ t = s := by cases s <;> cases t <;> decide
  rw [get_rederive_side, get_modify_set hs (Overlay.lt_count_of_identity? hi)]
  simp only [hview]

/-- Only one identity goes with an element, so nothing else has to be derived again. -/
theorem derived_setVisible (hc : o.Coherent) (hd : Derived o ls)
    (h : setVisible o ls s e visible = .ok (b, ls')) : Derived o ls' := by
  have hflags := get_setVisible hd.sized h
  obtain ⟨i, hi, rfl⟩ := exists_of_setVisible h
  have hsized := sized_modify hd.sized s.view e visible
  obtain ⟨y, hy, _⟩ := hc.identified hi
  refine ⟨sized_rederive hsized _, ?_⟩
  intro v f x hv hx
  rw [get_rederive hsized hy hv]
  split
  · rename_i hf
    subst f
    cases Option.some.inj (hx.symm.trans hy)
    rw [derived_rederive]
  · rename_i hf
    rw [get_modify_set hd.sized (Overlay.lt_count_of_identity? hi), if_neg, hd.flag_eq hv hx]
    · apply derived_congr
      intro t j hj
      rw [hflags, if_neg]
      rintro ⟨rfl, rfl⟩
      have hid := hc.holds hx hj
      cases Option.some.inj (hi.symm.trans hid)
      simp at hf
    · exact fun hve => View.ne_of_side?_none hv hve.1

theorem changed_of_setVisible (h : setVisible o ls s e visible = .ok (b, ls')) :
    b = (ls.get s.view).changes e visible := by
  unfold setVisible at h
  cases hi : (o.side s).identity? e with
  | none => simp [hi] at h
  | some i =>
    simp only [hi, Except.ok.injEq, Prod.mk.injEq] at h
    exact h.1.symm

/-- A flag that is set to what it was moves no other flag either. -/
theorem eq_of_setVisible_unchanged (hc : o.Coherent) (hd : Derived o ls)
    (h : setVisible o ls s e visible = .ok (false, ls')) : ls' = ls := by
  have hflag : (ls.get s.view).get e = visible := by
    obtain ⟨i, hi, _⟩ := exists_of_setVisible h
    apply Layer.get_of_not_changes
    · rw [hd.sized]
      exact Overlay.lt_count_of_identity? hi
    · exact (changed_of_setVisible h).symm
  apply derived_ext (derived_setVisible hc hd h) hd
  intro t f
  rw [get_setVisible hd.sized h]
  split
  · rename_i hf
    obtain ⟨rfl, rfl⟩ := hf
    exact hflag.symm
  · rfl

end setting

section pushing

theorem get_setHeld (h : Sized o ls)
    (hi : ∀ i, x.holders.get s = some i → i < o.count s.view e.kind) :
    ((setHeld x e b ls s).get v).get f =
      if v = s.view ∧ (x.holders.get s).map e.withIndex = some f then b else (ls.get v).get f := by
  unfold setHeld
  cases hs : x.holders.get s with
  | none => simp
  | some i =>
    have hlt : (e.withIndex i).index < o.count s.view (e.withIndex i).kind := by simpa using hi i hs
    rw [get_modify_set h hlt]
    simp [eq_comm]

theorem sized_setHeld (h : Sized o ls) (x : Merged) (e : Element) (b : Bool) (s : Side) :
    Sized o (setHeld x e b ls s) := by
  unfold setHeld
  cases x.holders.get s with
  | none => exact h
  | some i => exact sized_modify h _ _ _

theorem sized_pushDown (h : Sized o ls) (e : Element) : Sized o (pushDown o ls e) := by
  unfold pushDown
  cases o.merged? e with
  | none => exact h
  | some x => exact sized_setHeld (sized_setHeld (sized_modify h _ _ _) _ _ _ _) _ _ _ _

/-- The flags after one identity is pushed down: the combined one, and those of what it holds. -/
theorem get_pushDown (hc : o.Coherent) (h : Sized o ls) (hx : o.merged? e = some x) (v : View)
    (f : Element) :
    ((pushDown o ls e).get v).get f =
      match v with
      | .super => ls.super.get f
      | .combined => if f = e then ls.super.get e else ls.combined.get f
      | .primary => if (x.holders.get .primary).map e.withIndex = some f then ls.super.get e
          else ls.primary.get f
      | .secondary => if (x.holders.get .secondary).map e.withIndex = some f then ls.super.get e
          else ls.secondary.get f := by
  have hcombined := sized_modify h .combined e (ls.super.get e)
  have hprimary := sized_setHeld hcombined x e (ls.super.get e) .primary
  have hlt : ∀ s i, x.holders.get s = some i → i < o.count s.view e.kind := by
    intro s i hi
    exact hc.lt_count hx hi
  unfold pushDown
  rw [hx]
  dsimp only [Side.both, List.foldl]
  rw [get_setHeld hprimary (hlt .secondary), get_setHeld hcombined (hlt .primary),
    get_modify_set h (Overlay.lt_count_of_merged? rfl hx)]
  cases v <;> simp [Side.view, PerView.get]

/-- What holds once some identities are pushed down. -/
private structure Pushed (o : Overlay) (start : Layers) (done : List Element) (ls : Layers) :
    Prop where
  sized : Sized o ls
  super_eq : ∀ e, ls.super.get e = start.super.get e
  combined_eq : ∀ e ∈ done, ls.combined.get e = start.super.get e
  held_eq : ∀ e ∈ done, ∀ x, o.merged? e = some x → ∀ s i, x.holders.get s = some i →
    (ls.get s.view).get (e.withIndex i) = start.super.get e

private theorem pushed_step (hc : o.Coherent) {start : Layers} {done : List Element}
    (h : Pushed o start done ls) (hx : o.merged? e = some x) :
    Pushed o start (done ++ [e]) (pushDown o ls e) := by
  have hget := get_pushDown hc h.sized hx
  have hside : ∀ s f, ((pushDown o ls e).get s.view).get f =
      if (x.holders.get s).map e.withIndex = some f then start.super.get e
      else (ls.get s.view).get f := by
    intro s f
    rw [hget]
    cases s <;> simp [Side.view, PerView.get, h.super_eq]
  refine ⟨sized_pushDown h.sized e, ?_, ?_, ?_⟩
  · intro f
    exact (hget .super f).trans (h.super_eq f)
  · intro f hf
    refine (hget .combined f).trans ?_
    dsimp only
    split
    · rename_i hfe
      rw [hfe, h.super_eq]
    · rename_i hfe
      rcases List.mem_append.mp hf with hf | hf
      · exact h.combined_eq f hf
      · exact (hfe (List.mem_singleton.mp hf)).elim
  · intro f hf y hy s i hi
    rw [hside]
    split
    · rename_i hmap
      obtain ⟨j, hj, hji⟩ := Option.map_eq_some_iff.mp hmap
      rw [hc.eq_of_held hx hy hj hi hji]
    · rename_i hmap
      rcases List.mem_append.mp hf with hf | hf
      · exact h.held_eq f hf y hy s i hi
      · cases List.mem_singleton.mp hf
        cases Option.some.inj (hx.symm.trans hy)
        simp [hi] at hmap

private theorem pushed_foldl (hc : o.Coherent) {start : Layers} (l : List Element)
    {done : List Element} (hl : ∀ e ∈ l, ∃ x, o.merged? e = some x) (h : Pushed o start done ls) :
    Pushed o start (done ++ l) (l.foldl (pushDown o) ls) := by
  induction l generalizing done ls with
  | nil => simpa using h
  | cons e l ih =>
    obtain ⟨x, hx⟩ := hl e (by simp)
    have := ih (fun f hf => hl f (List.mem_cons_of_mem e hf)) (pushed_step hc h hx)
    simpa using this

private theorem pushed_adoptSuper (hc : o.Coherent) (h : Sized o ls) :
    Pushed o ls o.identities (adoptSuper o ls) := by
  rw [← List.nil_append o.identities]
  exact pushed_foldl hc o.identities (fun e he => Overlay.mem_identities.mp he)
    ⟨h, fun _ => rfl, by simp, by simp⟩

/-- Pushing down leaves the super view alone, and the combined view becomes equal to it. -/
theorem get_adoptSuper (hc : o.Coherent) (h : Sized o ls) (hv : v.side? = none)
    (hx : o.merged? e = some x) : ((adoptSuper o ls).get v).get e = ls.super.get e := by
  have hpushed := pushed_adoptSuper hc h
  cases v with
  | primary => cases hv
  | secondary => cases hv
  | combined => exact hpushed.combined_eq e (Overlay.mem_identities.mpr ⟨x, hx⟩)
  | super => exact hpushed.super_eq e

/-- What a side holds gets the super flag of its identity. -/
theorem get_adoptSuper_side (hc : o.Coherent) (h : Sized o ls)
    (hi : (o.side s).identity? e = some i) :
    ((adoptSuper o ls).get s.view).get e = ls.super.get (e.withIndex i) := by
  obtain ⟨x, hx, hh⟩ := hc.identified hi
  have hmem := Overlay.mem_identities.mpr ⟨x, hx⟩
  simpa using (pushed_adoptSuper hc h).held_eq _ hmem x hx s _ hh

/-- Whatever the super view shows, all views agree once it is pushed down. -/
theorem derived_adoptSuper (hc : o.Coherent) (h : Sized o ls) : Derived o (adoptSuper o ls) := by
  have hpushed := pushed_adoptSuper hc h
  refine ⟨hpushed.sized, ?_⟩
  intro v e x hv hx
  have he : e ∈ o.identities := Overlay.mem_identities.mpr ⟨x, hx⟩
  rw [derived_const hc hx (hpushed.held_eq e he x hx), get_adoptSuper hc h hv hx]

theorem sized_foldl_stage (l : List Element) (h : Sized o ls) :
    Sized o (l.foldl (stage visible) ls) := by
  induction l generalizing ls with
  | nil => exact h
  | cons e l ih => exact ih (sized_modify h _ _ _)

end pushing

theorem violations_eq_nil (h : Derived o ls) : violations o ls = [] := by
  unfold violations
  rw [List.flatMap_eq_nil_iff]
  intro e he
  obtain ⟨x, hx⟩ := Overlay.mem_identities.mp he
  have hcombined := h.flag_eq (v := .combined) rfl hx
  have hsuper := h.flag_eq (v := .super) rfl hx
  simp [violationsAt, hx, hcombined, hsuper]

end Layers

end GraphCompare
