import GraphCompare.Selection
import GraphCompare.Proofs.Layer.Derivation
import GraphCompare.Proofs.Overlay.NodeIdentity

/-! Selections are lists without repetitions, whatever calls they come from. A side shows of them
the nodes that it has, in the same order. -/
namespace GraphCompare
variable {c : Comparison} {o : Overlay} {s : Selection} {side : Side} {id v : NodeId}
  {ids : List NodeId}

namespace Selection

inductive Call
  | select (id : NodeId) (additive : Bool)
  | toggle (id : NodeId)
  | clear

/-- Whether a call says that it changed anything, and what is selected after it. -/
def perform (s : Selection) : Call → Bool × Selection
  | .select id additive => s.select id additive
  | .toggle id => s.toggle id
  | .clear => s.clear

/-- What is selected after some calls, from nothing on. -/
def run (calls : List Call) : Selection := calls.foldl (fun s call => (s.perform call).2) empty

/-- What a call does to a list. -/
def Call.onList : Call → List NodeId → List NodeId
  | .select id false, _ => [id]
  | .select id true, ids => if id ∈ ids then ids else ids ++ [id]
  | .toggle id, ids => if id ∈ ids then ids.filter (· ≠ id) else ids ++ [id]
  | .clear, _ => []

/-- The selection after some calls is the list that they make, and has each identity once. -/
structure MirrorsList (calls : List Call) : Prop where
  ids_eq : (run calls).ids = calls.foldl (fun ids call => call.onList ids) []
  nodup : (run calls).ids.Nodup
  contains_iff : ∀ id, (run calls).contains id = true ↔ id ∈ (run calls).ids
  size_eq : (run calls).size = (run calls).ids.length
  isEmpty_iff : (run calls).isEmpty = true ↔ (run calls).ids = []
  changed_iff : ∀ call, ((run calls).perform call).1 = true ↔
    (run (calls ++ [call])).ids ≠ (run calls).ids

/-- What the sides of an overlay show of a selection. -/
structure ShownOnSides (o : Overlay) (s : Selection) : Prop where
  mem_iff : ∀ side v, v ∈ s.onSide o side ↔
    ∃ id, (o.side side).identity? (.node v) = some id ∧ id ∈ s.ids
  nodup : ∀ side, (s.onSide o side).Nodup
  /-- One after another, the nodes have the selected identities that the side knows. -/
  order : ∀ side, (s.onSide o side).map (fun v => (o.side side).identity? (.node v)) =
    (s.ids.filter fun id => (o.side side).graph.nodes.any (·.identity = id)).map some
  paired : ∀ v w p q, (o.side .primary).graph.node? v = some p →
    (o.side .secondary).graph.node? w = some q → p.counterpart = some w → q.counterpart = some v →
    (v ∈ s.onSide o .primary ↔ w ∈ s.onSide o .secondary)

section list

theorem contains_eq_true : s.contains id = true ↔ id ∈ s.ids := by
  simp [contains]

/-- What is selected alone is all that is selected. -/
theorem size_and_contains : (s.size = 1 && s.contains id) = true ↔ s.ids = [id] := by
  rw [Bool.and_eq_true, decide_eq_true_eq, contains_eq_true, size]
  constructor
  · rintro ⟨hsize, hid⟩
    obtain ⟨a, ha⟩ := List.length_eq_one_iff.mp hsize
    rw [ha, List.mem_singleton] at hid
    rw [ha, hid]
  · intro h
    simp [h]

theorem nodup_concat (h : ids.Nodup) (hid : id ∉ ids) : (ids ++ [id]).Nodup :=
  h.append (List.nodup_singleton id) (by simpa using hid)

theorem nodup_onList (h : ids.Nodup) : ∀ call : Call, (call.onList ids).Nodup
  | .clear => List.nodup_nil
  | .select id false => List.nodup_singleton id
  | .select id true => by
    by_cases hid : id ∈ ids
    · simpa only [Call.onList, hid, if_true] using h
    · simpa only [Call.onList, hid, if_false] using nodup_concat h hid
  | .toggle id => by
    by_cases hid : id ∈ ids
    · simpa only [Call.onList, hid, if_true] using h.filter _
    · simpa only [Call.onList, hid, if_false] using nodup_concat h hid

theorem ids_perform (h : s.ids.Nodup) : ∀ call : Call, (s.perform call).2.ids = call.onList s.ids
  | .clear => rfl
  | .select id true => by
    by_cases hid : id ∈ s.ids <;> simp [perform, select, Call.onList, contains, hid]
  | .select id false => by
    by_cases halone : s.ids = [id]
    · simp [perform, select, Call.onList, size_and_contains.mpr halone, halone]
    · simp only [perform, select, Call.onList]
      rw [if_neg (by simp), if_neg (mt size_and_contains.mp halone)]
  | .toggle id => by
    by_cases hid : id ∈ s.ids
    · have herase : s.ids.erase id = s.ids.filter (· ≠ id) := by
        rw [h.erase_eq_filter]
        exact List.filter_congr fun a _ => by rw [bne, beq_eq_decide, decide_not]
      simp only [perform, toggle, Call.onList, contains, hid, decide_true, if_true, herase]
    · simp [perform, toggle, Call.onList, contains, hid]

/-- A call says that it changed something just when it did. -/
theorem changed_perform (s : Selection) (call : Call) :
    (s.perform call).1 = true ↔ (s.perform call).2.ids ≠ s.ids := by
  cases call with
  | clear => cases h : s.ids <;> simp [perform, clear, isEmpty, empty, h]
  | toggle id =>
    by_cases hid : id ∈ s.ids
    · simp only [perform, toggle, contains, hid, decide_true, if_true, true_iff]
      intro heq
      have hlength := congrArg List.length heq
      rw [List.length_erase_of_mem hid] at hlength
      have hpos := List.length_pos_of_mem hid
      omega
    · simp [perform, toggle, contains, hid]
  | select id additive =>
    cases additive with
    | true => by_cases hid : id ∈ s.ids <;> simp [perform, select, contains, hid]
    | false =>
      by_cases halone : s.ids = [id]
      · simp [perform, select, size_and_contains.mpr halone]
      · simp only [perform, select]
        rw [if_neg (by simp), if_neg (mt size_and_contains.mp halone)]
        simpa using Ne.symm halone

theorem run_concat (calls : List Call) (call : Call) :
    run (calls ++ [call]) = ((run calls).perform call).2 := by
  simp [run]

theorem ids_run (calls : List Call) :
    (run calls).ids.Nodup ∧ (run calls).ids = calls.foldl (fun ids call => call.onList ids) [] := by
  induction calls using List.reverseRecOn with
  | nil => exact ⟨List.nodup_nil, rfl⟩
  | append_singleton calls call ih =>
    obtain ⟨hnodup, hids⟩ := ih
    rw [run_concat, ids_perform hnodup, List.foldl_concat, ← hids]
    exact ⟨nodup_onList hnodup call, rfl⟩

end list

section sides

/-- An identity leads to a node of a side just when the node has it. -/
theorem held_iff (hc : o.Coherent) :
    (o.merged.node? id).bind (·.holders.get side) = some v ↔
      (o.side side).identity? (.node v) = some id := by
  rw [Option.bind_eq_some_iff]
  constructor
  · rintro ⟨x, hx, hv⟩
    exact hc.holds (e := .node id) hx hv
  · intro hid
    exact hc.identified hid

theorem mem_onSide (hc : o.Coherent) :
    v ∈ s.onSide o side ↔ ∃ id, (o.side side).identity? (.node v) = some id ∧ id ∈ s.ids := by
  simp only [onSide, List.mem_filterMap, held_iff hc]
  exact ⟨fun ⟨id, hid, hv⟩ => ⟨id, hv, hid⟩, fun ⟨id, hv, hid⟩ => ⟨id, hid, hv⟩⟩

/-- No node has two identities. -/
theorem nodup_onSide (hc : o.Coherent) (h : s.ids.Nodup) : (s.onSide o side).Nodup := by
  refine h.filterMap ?_
  intro id id' v hv hv'
  have hid := (held_iff hc).mp hv
  exact Option.some.inj (hid.symm.trans ((held_iff hc).mp hv'))

theorem known_iff :
    (o.side side).graph.nodes.any (·.identity = id) = true ↔
      ∃ v, (o.side side).identity? (.node v) = some id := by
  simp only [List.any_eq_true, List.mem_iff_getElem?, ← Graph.node?_eq_getElem?,
    SideGraph.identity?, Option.map_eq_some_iff, decide_eq_true_eq]
  constructor
  · rintro ⟨n, ⟨v, hv⟩, hid⟩
    exact ⟨v, n, hv, hid⟩
  · rintro ⟨v, n, hv, hid⟩
    exact ⟨n, ⟨v, hv⟩, hid⟩

theorem identities_onSide (hc : o.Coherent) (s : Selection) :
    (s.onSide o side).map (fun v => (o.side side).identity? (.node v)) =
      (s.ids.filter fun id => (o.side side).graph.nodes.any (·.identity = id)).map some := by
  obtain ⟨ids⟩ := s
  induction ids with
  | nil => rfl
  | cons id ids ih =>
    simp only [onSide, List.filterMap_cons, List.filter_cons] at ih ⊢
    cases hv : (o.merged.node? id).bind (·.holders.get side) with
    | some v =>
      have hid := (held_iff hc).mp hv
      simp only [known_iff.mpr ⟨v, hid⟩, if_true, List.map_cons, hid, ih]
    | none =>
      have hno : (o.side side).graph.nodes.any (·.identity = id) = false := by
        rw [← Bool.not_eq_true, known_iff]
        rintro ⟨v, hid⟩
        rw [← held_iff hc, hv] at hid
        cases hid
      rw [hno]
      exact ih

/-- Counterparts have one identity, which is selected or not. -/
theorem shownOnSides (hc : o.Coherent) (hp : o.PartitionsNodes c) (h : s.ids.Nodup) :
    ShownOnSides o s where
  mem_iff _ _ := mem_onSide hc
  nodup _ := nodup_onSide hc h
  order _ := identities_onSide hc s
  paired := by
    intro v w p q hv hw hpw hqv
    obtain ⟨x, hx, hh⟩ := (hp.shared_iff v w p q hv hw).mpr ⟨hpw, hqv⟩
    have hidv : (o.side .primary).identity? (.node v) = some p.identity :=
      hc.holds (s := .primary) (e := .node p.identity) hx (by rw [hh]; rfl)
    have hidw : (o.side .secondary).identity? (.node w) = some p.identity :=
      hc.holds (s := .secondary) (e := .node p.identity) hx (by rw [hh]; rfl)
    rw [mem_onSide hc, mem_onSide hc, hidv, hidw]

end sides

/-- What any calls select is a list without repetitions, of which every side shows its part. -/
theorem mirrorsList_run (calls : List Call) :
    MirrorsList calls ∧
      ∀ {c o}, Overlay.ofComparison c = .ok o → ShownOnSides o (run calls) := by
  obtain ⟨hnodup, hids⟩ := ids_run calls
  refine ⟨⟨hids, hnodup, fun id => contains_eq_true, rfl, ?_, ?_⟩, ?_⟩
  · exact List.isEmpty_iff
  · intro call
    rw [run_concat]
    exact changed_perform (run calls) call
  · intro c o ho
    exact shownOnSides (Overlay.coherent_ofComparison ho) (Overlay.partitionsNodes_ofComparison ho)
      hnodup

/-- An identity that does not exist is selected too, and no side shows it. -/
theorem mirrorsList_sample : ∃ o calls, Overlay.ofComparison .sample = .ok o ∧
    calls = [.select 3 false, .select 9 true, .select 0 true, .toggle 3, .toggle 1,
      .select 0 true] ∧
    (run calls).ids = [9, 0, 1] ∧ (run calls).onSide o .primary = [0, 1] ∧
    (run calls).onSide o .secondary = [2, 0] ∧ MirrorsList calls ∧ ShownOnSides o (run calls) := by
  obtain ⟨o, ho, hshown⟩ := exists_ok_of_any (x := Overlay.ofComparison .sample)
    (p := fun o =>
      let calls : List Call := [.select 3 false, .select 9 true, .select 0 true, .toggle 3,
        .toggle 1, .select 0 true]
      (run calls).onSide o .primary = [0, 1] ∧ (run calls).onSide o .secondary = [2, 0])
    (by decide +kernel)
  obtain ⟨hprimary, hsecondary⟩ := of_decide_eq_true hshown
  obtain ⟨hmirrors, hsides⟩ := mirrorsList_run _
  exact ⟨o, _, ho, rfl, by decide, hprimary, hsecondary, hmirrors, hsides ho⟩

end Selection

end GraphCompare
