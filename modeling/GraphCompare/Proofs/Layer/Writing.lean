import GraphCompare.Proofs.Overlay.Queries
import GraphCompare.Proofs.Workspace.Run

/-! Single writes: calls that set one flag of a side, by index or by address. They do not get into
each other's way, so that a run of them leaves what was last written to each element. -/
namespace GraphCompare.Layers
variable {c : Comparison} {o : Overlay} {ls ls' : Layers} {s t : Side} {e f : Element} {i : Nat}
  {b : Bool}

/-- A call that sets one flag of a side. -/
inductive Write
  | element (s : Side) (e : Element) (visible : Bool)
  | nodeAt (s : Side) (a : Address) (visible : Bool)
  | edgeAt (s : Side) (source target : Address) (visible : Bool)

namespace Write

def visible : Write → Bool
  | .element _ _ visible => visible
  | .nodeAt _ _ visible => visible
  | .edgeAt _ _ _ visible => visible

def perform (o : Overlay) (ls : Layers) : Write → Except Failure (Bool × Layers)
  | .element s e visible => ls.setVisible o s e visible
  | .nodeAt s a visible => ls.setNodeVisibleAt o s a visible
  | .edgeAt s source target visible => ls.setEdgeVisibleAt o s source target visible

/-- The element that a write is for, among those that its side has. -/
def target? (o : Overlay) : Write → Option (Side × Element)
  | .element s e _ => if e.index < o.count s.view e.kind then some (s, e) else none
  | .nodeAt s a _ =>
    ((o.side s).graph.nodes.findIdx? (·.address = a)).map fun v => (s, .node v)
  | .edgeAt s source target _ =>
    ((o.side s).graph.edges.findIdx? fun r => r.source = source ∧ r.target = target).map
      fun d => (s, .edge d)

end Write

/-- The layers that some writes leave, from fresh ones on. Those that fail leave what there was. -/
def written (o : Overlay) (writes : List Write) : Layers :=
  writes.foldl (fun ls w => ls.settled (w.perform o ls)) (allVisible o)

/-- What the last of the writes for an element sets it to, if there is any. -/
def lastWritten? (o : Overlay) (writes : List Write) (s : Side) (e : Element) : Option Bool :=
  (writes.filter fun w => w.target? o = some (s, e)).getLast?.map (·.visible)

/-- A write that answers `b` has set one flag of a side, and at most one flag of each merged
view. -/
structure SetsOnly (o : Overlay) (s : Side) (e : Element) (visible : Bool) (ls : Layers) (b : Bool)
    (ls' : Layers) : Prop where
  set : (ls'.get s.view).get e = visible
  changed_iff : b = true ↔ (ls'.get s.view).get e ≠ (ls.get s.view).get e
  side_kept : ∀ t f, (t, f) ≠ (s, e) → (ls'.get t.view).get f = (ls.get t.view).get f
  merged_kept : ∃ i, (o.side s).identity? e = some i ∧
    ∀ v f, v.side? = none → f ≠ e.withIndex i → (ls'.get v).get f = (ls.get v).get f

/-- Writes on the fresh layers of an overlay do not get into each other's way. -/
structure WritesApart (o : Overlay) : Prop where
  succeeds : ∀ writes w s e, w.target? o = some (s, e) →
    ∃ b, w.perform o (written o writes) = .ok (b, written o (writes ++ [w])) ∧
      SetsOnly o s e w.visible (written o writes) b (written o (writes ++ [w]))
  fails : ∀ writes w, w.target? o = none →
    (∃ f, w.perform o (written o writes) = .error f) ∧ written o (writes ++ [w]) = written o writes
  /-- A flag that is never written stays visible. -/
  last : ∀ writes s e, e.index < o.count s.view e.kind →
    ((written o writes).get s.view).get e = (lastWritten? o writes s e).getD true
  determined : ∀ writes writes',
    (∀ s e, lastWritten? o writes s e = lastWritten? o writes' s e) →
      written o writes = written o writes'
  /-- The two may be for one pair, on its two sides. -/
  commute : ∀ writes w w' rest, (∀ x, w.target? o = some x → w'.target? o ≠ some x) →
    written o (writes ++ w :: w' :: rest) = written o (writes ++ w' :: w :: rest)

section target
variable {α : Type} {xs : List α} {p : α → Bool} {r : Except Failure Nat}

/-- An answer that is the index of something that passes a test is that of the first one. -/
private theorem eq_ok_of_findIdx? (h : ∀ k, r = .ok k ↔ ∃ x, xs[k]? = some x ∧ p x = true)
    (hk : xs.findIdx? p = some i) : r = .ok i := by
  obtain ⟨hlt, hp, _⟩ := List.findIdx?_eq_some_iff_getElem.mp hk
  exact (h i).mpr ⟨xs[i], List.getElem?_eq_getElem hlt, hp⟩

private theorem eq_error_of_findIdx? (h : ∀ k, r = .ok k ↔ ∃ x, xs[k]? = some x ∧ p x = true)
    (hk : xs.findIdx? p = none) : ∃ f, r = .error f := by
  cases hr : r with
  | error f => exact ⟨f, rfl⟩
  | ok k =>
    obtain ⟨x, hx, hp⟩ := (h k).mp hr
    simp [List.findIdx?_eq_none_iff.mp hk x (List.mem_of_getElem? hx)] at hp

theorem target_element : (Write.element t f b).target? o = some (s, e) ↔
    t = s ∧ f = e ∧ f.index < o.count t.view f.kind := by
  simp only [Write.target?, Option.ite_none_right_eq_some, Option.some.injEq, Prod.mk.injEq]
  exact ⟨fun ⟨hlt, hs, he⟩ => ⟨hs, he, hlt⟩, fun ⟨hs, he, hlt⟩ => ⟨hlt, hs, he⟩⟩

theorem target_nodeAt {a : Address} : (Write.nodeAt t a b).target? o = some (s, e) ↔
    t = s ∧ ∃ v, e = .node v ∧ (o.side t).graph.nodes.findIdx? (·.address = a) = some v := by
  simp only [Write.target?, Option.map_eq_some_iff, Prod.mk.injEq]
  exact ⟨fun ⟨v, hv, hs, he⟩ => ⟨hs, v, he.symm, hv⟩, fun ⟨hs, v, he, hv⟩ => ⟨v, hv, hs, he.symm⟩⟩

theorem target_edgeAt {a a' : Address} : (Write.edgeAt t a a' b).target? o = some (s, e) ↔
    t = s ∧ ∃ d, e = .edge d ∧
      (o.side t).graph.edges.findIdx? (fun r => r.source = a ∧ r.target = a') = some d := by
  simp only [Write.target?, Option.map_eq_some_iff, Prod.mk.injEq]
  exact ⟨fun ⟨d, hd, hs, he⟩ => ⟨hs, d, he.symm, hd⟩, fun ⟨hs, d, he, hd⟩ => ⟨d, hd, hs, he.symm⟩⟩

variable {w : Write}

theorem lt_of_target (h : w.target? o = some (s, e)) : e.index < o.count s.view e.kind := by
  cases w with
  | element =>
    obtain ⟨rfl, rfl, hlt⟩ := target_element.mp h
    exact hlt
  | nodeAt =>
    obtain ⟨rfl, v, rfl, hv⟩ := target_nodeAt.mp h
    have hlt := (List.findIdx?_eq_some_iff_getElem.mp hv).1
    simpa [Overlay.count, Overlay.nodeCount, Element.kind, Element.index, Graph.length_nodes]
      using hlt
  | edgeAt =>
    obtain ⟨rfl, d, rfl, hd⟩ := target_edgeAt.mp h
    have hlt := (List.findIdx?_eq_some_iff_getElem.mp hd).1
    simpa [Overlay.count, Overlay.edgeCount, Element.kind, Element.index, Graph.length_edges]
      using hlt

variable (hq : o.AnswersQueries c)
include hq

private theorem nodeId_eq_ok (s : Side) (a : Address) (v : NodeId) :
    (o.side s).nodeId a = .ok v ↔
      ∃ n, (o.side s).graph.nodes[v]? = some n ∧ decide (n.address = a) = true := by
  simp [hq.nodeId_iff, Graph.node?_eq_getElem?]

private theorem edgeId_eq_ok (s : Side) (a a' : Address) (d : EdgeId) :
    (o.side s).edgeId a a' = .ok d ↔
      ∃ r, (o.side s).graph.edges[d]? = some r ∧ decide (r.source = a ∧ r.target = a') = true := by
  simp [hq.edgeId_iff, Graph.edge?_eq_getElem?]

/-- A write by address is the write by index to the element that it is for. -/
theorem perform_of_target (h : w.target? o = some (s, e)) (ls : Layers) :
    w.perform o ls = ls.setVisible o s e w.visible := by
  cases w with
  | element =>
    obtain ⟨rfl, rfl, -⟩ := target_element.mp h
    rfl
  | nodeAt t a =>
    obtain ⟨rfl, v, rfl, hv⟩ := target_nodeAt.mp h
    have hid := eq_ok_of_findIdx? (nodeId_eq_ok hq t a) hv
    simp only [Write.perform, setNodeVisibleAt, hid]
    rfl
  | edgeAt t a a' =>
    obtain ⟨rfl, d, rfl, hd⟩ := target_edgeAt.mp h
    have hid := eq_ok_of_findIdx? (edgeId_eq_ok hq t a a') hd
    simp only [Write.perform, setEdgeVisibleAt, hid]
    rfl

/-- A write that is for nothing fails, whatever the flags are. -/
theorem perform_of_no_target (h : w.target? o = none) (ls : Layers) :
    ∃ f, w.perform o ls = .error f := by
  cases w with
  | element s e visible =>
    simp only [Write.target?, ite_eq_right_iff, reduceCtorEq, imp_false] at h
    have hid : (o.side s).identity? e = none := by
      simpa [← Option.not_isSome_iff_eq_none, Overlay.identity?_isSome] using h
    refine ⟨.unknownElement s.view e.kind e.index, ?_⟩
    simp [Write.perform, setVisible, hid]
  | nodeAt s a visible =>
    obtain ⟨f, hf⟩ := eq_error_of_findIdx? (nodeId_eq_ok hq s a) (Option.map_eq_none_iff.mp h)
    refine ⟨f, ?_⟩
    simp only [Write.perform, setNodeVisibleAt, hf]
    rfl
  | edgeAt s a a' visible =>
    obtain ⟨f, hf⟩ := eq_error_of_findIdx? (edgeId_eq_ok hq s a a') (Option.map_eq_none_iff.mp h)
    refine ⟨f, ?_⟩
    simp only [Write.perform, setEdgeVisibleAt, hf]
    rfl

end target

section run
variable {w w' : Write} {writes : List Write}

theorem written_concat (o : Overlay) (writes : List Write) (w : Write) :
    written o (writes ++ [w]) = (written o writes).settled (w.perform o (written o writes)) := by
  simp [written]

theorem lastWritten?_concat (o : Overlay) (writes : List Write) (w : Write) (s : Side)
    (e : Element) :
    lastWritten? o (writes ++ [w]) s e =
      if w.target? o = some (s, e) then some w.visible else lastWritten? o writes s e := by
  unfold lastWritten?
  by_cases h : w.target? o = some (s, e) <;> simp [h]

/-- Which of two writes for different elements comes first does not show in what is written last. -/
theorem lastWritten?_swap (writes rest : List Write)
    (h : ∀ x, w.target? o = some x → w'.target? o ≠ some x) (s : Side) (e : Element) :
    lastWritten? o (writes ++ w :: w' :: rest) s e =
      lastWritten? o (writes ++ w' :: w :: rest) s e := by
  unfold lastWritten?
  by_cases hw : w.target? o = some (s, e)
  · simp [hw, h _ hw]
  · simp [hw]

/-- The flag that says whether anything changes looks at the element alone. -/
theorem changes_iff (h : Sized o ls) (he : e.index < o.count s.view e.kind) (visible : Bool) :
    (ls.get s.view).changes e visible = true ↔ visible ≠ (ls.get s.view).get e := by
  have hlt : e.index < ((ls.get s.view).flags e.kind).size := (h s.view e.kind).symm ▸ he
  simp only [Layer.changes, Layer.get, Array.getElem?_eq_getElem hlt]
  cases ((ls.get s.view).flags e.kind)[e.index] <;> cases visible <;> decide

theorem setsOnly_setVisible (hc : o.Coherent) (hd : Derived o ls) {visible : Bool}
    (h : setVisible o ls s e visible = .ok (b, ls')) : SetsOnly o s e visible ls b ls' := by
  have hget := get_setVisible hd.sized h
  have hset : (ls'.get s.view).get e = visible := by rw [hget, if_pos ⟨rfl, rfl⟩]
  obtain ⟨i, hi, hls⟩ := exists_of_setVisible h
  have hlt := Overlay.lt_count_of_identity? hi
  obtain ⟨x, hx, -⟩ := hc.identified hi
  refine ⟨hset, ?_, ?_, i, hi, ?_⟩
  · rw [changed_of_setVisible h, hset]
    exact changes_iff hd.sized hlt visible
  · intro t f hne
    rw [hget, if_neg]
    rintro ⟨rfl, rfl⟩
    exact hne rfl
  · intro v f hv hf
    rw [hls, get_rederive (sized_modify hd.sized _ _ _) hx hv, if_neg hf,
      get_modify_set hd.sized hlt, if_neg]
    exact fun hve => View.ne_of_side?_none hv hve.1

variable (hc : o.Coherent) (hq : o.AnswersQueries c)

include hq in
theorem settled_of_no_target (h : w.target? o = none) (ls : Layers) :
    ls.settled (w.perform o ls) = ls := by
  obtain ⟨f, hf⟩ := perform_of_no_target hq h ls
  rw [hf]
  rfl

include hc hq

theorem settled_of_target (hd : Derived o ls) (h : w.target? o = some (s, e)) :
    Derived o (ls.settled (w.perform o ls)) ∧
      ∃ b, w.perform o ls = .ok (b, ls.settled (w.perform o ls)) ∧
        SetsOnly o s e w.visible ls b (ls.settled (w.perform o ls)) := by
  obtain ⟨i, hi⟩ := Overlay.exists_identity? (lt_of_target h)
  obtain ⟨b, ls', hset⟩ := setVisible_of_identity? ls hi w.visible
  rw [perform_of_target hq h, hset]
  exact ⟨derived_setVisible hc hd hset, b, rfl, setsOnly_setVisible hc hd hset⟩

theorem derived_written (writes : List Write) : Derived o (written o writes) := by
  induction writes using List.reverseRecOn with
  | nil => exact derived_allVisible hc
  | append_singleton writes w ih =>
    rw [written_concat]
    cases h : w.target? o with
    | none => rwa [settled_of_no_target hq h]
    | some x => exact (settled_of_target hc hq ih h).1

/-- By induction on the writes, the latest one first: it sets the flag, or it leaves the flag to
those before it. -/
theorem get_written (writes : List Write) (he : e.index < o.count s.view e.kind) :
    ((written o writes).get s.view).get e = (lastWritten? o writes s e).getD true := by
  induction writes using List.reverseRecOn with
  | nil => exact get_allVisible he
  | append_singleton writes w ih =>
    rw [written_concat, lastWritten?_concat]
    cases h : w.target? o with
    | none => simpa [settled_of_no_target hq h] using ih
    | some x =>
      obtain ⟨-, b, -, hsets⟩ := settled_of_target hc hq (derived_written hc hq writes) h
      by_cases hx : x = (s, e)
      · subst hx
        simpa using hsets.set
      · rw [if_neg (by simpa using hx), ← ih]
        exact hsets.side_kept s e (Ne.symm hx)

theorem written_eq_of_last {writes' : List Write}
    (h : ∀ s e, lastWritten? o writes s e = lastWritten? o writes' s e) :
    written o writes = written o writes' := by
  have hd := derived_written hc hq writes
  have hd' := derived_written hc hq writes'
  apply derived_ext hd hd'
  intro s e
  by_cases he : e.index < o.count s.view e.kind
  · rw [get_written hc hq writes he, get_written hc hq writes' he, h]
  · have hle := Nat.le_of_not_lt he
    rw [get_of_count_le hd.sized hle, get_of_count_le hd'.sized hle]

theorem writesApart : WritesApart o where
  succeeds writes w s e h := by
    rw [written_concat]
    exact (settled_of_target hc hq (derived_written hc hq writes) h).2
  fails writes w h := by
    rw [written_concat]
    exact ⟨perform_of_no_target hq h _, settled_of_no_target hq h _⟩
  last writes s e he := get_written hc hq writes he
  determined writes writes' h := written_eq_of_last hc hq h
  commute writes w w' rest h := written_eq_of_last hc hq (lastWritten?_swap writes rest h)

end run

/-- On the layers of every accepted comparison, writes to different elements are independent. -/
theorem writesApart_ofComparison (ho : Overlay.ofComparison c = .ok o) : WritesApart o :=
  writesApart (Overlay.coherent_ofComparison ho) (Overlay.answersQueries_ofComparison ho)

/-- The two nodes of a pair are hidden one after the other, and one is shown again; a write to an
address that its side does not list fails. -/
theorem writesApart_sample : ∃ o writes, Overlay.ofComparison .sample = .ok o ∧
    writes = [.nodeAt .primary ⟨1⟩ false, .nodeAt .primary ⟨4⟩ false,
      .element .secondary (.node 2) false, .edgeAt .secondary ⟨1⟩ ⟨2⟩ false,
      .nodeAt .secondary ⟨1⟩ true] ∧
    writes.map (·.target? o) = [some (.primary, .node 0), none, some (.secondary, .node 2),
      some (.secondary, .edge 0), some (.secondary, .node 2)] ∧
    lastWritten? o writes .secondary (.node 2) = some true ∧
    (written o (writes.take 3)).super.get (.node 0) = false ∧
    (written o writes).super.get (.node 0) = true ∧
    WritesApart o := by
  obtain ⟨o, ho, hruns⟩ := exists_ok_of_any (x := Overlay.ofComparison .sample)
    (p := fun o =>
      let writes : List Write := [.nodeAt .primary ⟨1⟩ false, .nodeAt .primary ⟨4⟩ false,
        .element .secondary (.node 2) false, .edgeAt .secondary ⟨1⟩ ⟨2⟩ false,
        .nodeAt .secondary ⟨1⟩ true]
      writes.map (·.target? o) = [some (.primary, .node 0), none, some (.secondary, .node 2),
        some (.secondary, .edge 0), some (.secondary, .node 2)] ∧
      lastWritten? o writes .secondary (.node 2) = some true ∧
      (written o (writes.take 3)).super.get (.node 0) = false ∧
      (written o writes).super.get (.node 0) = true) (by decide +kernel)
  obtain ⟨htargets, hlast, hhidden, hshown⟩ := of_decide_eq_true hruns
  exact ⟨o, _, ho, rfl, htargets, hlast, hhidden, hshown, writesApart_ofComparison ho⟩

end GraphCompare.Layers
